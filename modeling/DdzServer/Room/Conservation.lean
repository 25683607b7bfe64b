import DdzServer.Room.WellFormed
import Mathlib.Tactic.IntervalCases

/-!
# Conservation of cards

At every moment of a run the hands, the cards played so far and the bottom cards that nobody has
taken up yet are the 54 cards of the deck.
-/

namespace DdzServer

open Room UnorderedMap

variable {rng : Shuffler}

/-- The cards of the accepted plays of a room. -/
def playedCards (roomId : ℤ) (log : List RoomManager.AcceptedAction) : Multiset ℤ :=
  (log.map fun a =>
    if a.roomId = roomId ∧ a.request.actionType = .playCards then
      (a.request.cards : Multiset ℤ)
    else 0).sum

/-- Whether the landlord has taken up the bottom cards: an accepted answer to the robbing opened
the play. -/
def bottomMerged (roomId : ℤ) (log : List RoomManager.AcceptedAction) : Prop :=
  ∃ a ∈ log, a.roomId = roomId ∧ a.request.actionType = .robLandlord ∧
    a.result.snapshot.roomState = RoomState.playing.toInt

instance (roomId : ℤ) (log : List RoomManager.AcceptedAction) :
    Decidable (bottomMerged roomId log) :=
  inferInstanceAs (Decidable (∃ _ ∈ _, _))

namespace Room

variable {room room' : Room} {played : Multiset ℤ} {merged : Prop}

/-- The cards of a room, when `played` cards were played and `merged` says whether the bottom cards
were taken up. -/
def CardsAre (room : Room) (played : Multiset ℤ) (merged : Prop) (cards : Multiset ℤ) : Prop :=
  (merged → handCards room.players room.hands + played = cards) ∧
    (¬ merged → handCards room.players room.hands + played + room.landlordBottomCards = cards)

/-- The invariant of the deal, the merge and the plays. -/
structure Conserved (room : Room) (played : Multiset ℤ) (merged : Prop) : Prop where
  undealt : room.dealt = false → played = 0
  unmerged : room.state = .waitStart ∨ room.state = .callScore ∨ room.state = .robLandlord →
    ¬ merged
  cards : room.dealt = true → room.CardsAre played merged deck

/-- What an accepted action adds to the cards played. -/
def playedBy (request : PlayerActionRequest) : Multiset ℤ :=
  if request.actionType = .playCards then (request.cards : Multiset ℤ) else 0

/-- Whether an accepted action merged the bottom cards. -/
def MergedBy (request : PlayerActionRequest) (room : Room) : Prop :=
  request.actionType = .robLandlord ∧ room.state = .playing

lemma playedBy_of_ne {request : PlayerActionRequest} (h : request.actionType ≠ .playCards) :
    playedBy request = 0 := if_neg h

lemma conserved_newRoom (roomId mode : ℤ) (players : List ℤ) :
    (newRoom roomId mode players).Conserved 0 False where
  undealt _ := rfl
  unmerged _ := id
  cards h := by cases h

/-- The shuffled deck is split into the 51 cards dealt and the bottom cards. -/
lemma coe_deck_eq (cards : List ℤ) (h : cards.Perm deck) :
    (cards.take 51 : Multiset ℤ) + [cards.getD 51 0, cards.getD 52 0, cards.getD 53 0] = deck := by
  have hlen : cards.length = 54 := by rw [h.length_eq, length_deck]
  have hdrop : cards.drop 51 = [cards.getD 51 0, cards.getD 52 0, cards.getD 53 0] := by
    refine List.ext_getElem (by simp [hlen]) fun i hi _ => ?_
    have hi3 : i < 3 := by simpa [hlen] using hi
    rw [List.getElem_drop, ← List.getD_eq_getElem cards 0]
    interval_cases i <;> rfl
  rw [← hdrop, Multiset.coe_add, List.take_append_drop]
  exact Multiset.coe_eq_coe.mpr h

lemma Conserved.startGame (h : room.Conserved played merged) (hwf : room.WellFormed)
    (htrio : room.HasTrio) : (room.startGame rng).Conserved played merged := by
  by_cases hw : room.state = .waitStart
  · have hplayed := h.undealt (hwf.undealt hw)
    have hmerged := h.unmerged (Or.inl hw)
    have hperm := rng.perm room.dealSeed deck
    rw [startGame_of_undealt rng hw htrio.1 (hwf.undealt hw)]
    refine ⟨fun _ => hplayed, fun _ => hmerged, fun _ => ⟨fun hm => absurd hm hmerged, fun _ => ?_⟩⟩
    have hlen : 51 ≤ (rng.shuffle room.dealSeed deck).length := by
      rw [hperm.length_eq, length_deck]
      omega
    dsimp only
    rw [handCards_dealHands htrio.2 htrio.1 hlen, hplayed, add_zero]
    exact coe_deck_eq _ hperm
  · rwa [startGame_of_ne hw]

/-- A new hand that differs from the old one by the cards `moved`. -/
lemma handCards_sub {players : List ℤ} {pid : ℤ} (hnd : players.Nodup) (hp : pid ∈ players)
    {hands : UnorderedMap ℤ (List ℤ)} {hand rest : List ℤ} {moved : Multiset ℤ}
    (hhand : hands.lookup pid = some hand) (h : moved + (rest : Multiset ℤ) = hand) :
    handCards players (Finmap.insert pid rest hands) + moved = handCards players hands := by
  have hins := handCards_insert hnd hp hands rest
  rw [at', hhand, Option.getD_some, ← h, ← add_assoc, add_left_inj] at hins
  exact hins

lemma handCards_add {players : List ℤ} {pid : ℤ} (hnd : players.Nodup) (hp : pid ∈ players)
    {hands : UnorderedMap ℤ (List ℤ)} {hand : List ℤ} (hhand : hands.lookup pid = some hand)
    (cards : List ℤ) :
    handCards players (Finmap.insert pid (sortCards (hand ++ cards)) hands) =
      handCards players hands + (cards : Multiset ℤ) := by
  have hins := handCards_insert hnd hp hands (sortCards (hand ++ cards))
  rw [at', hhand, Option.getD_some, coe_sortCards, ← Multiset.coe_add,
    add_comm (Multiset.ofList hand), ← add_assoc, add_left_inj] at hins
  exact hins

/-- Played cards leave the hands for the cards played. -/
lemma CardsAre.play {playerId : ℤ} {cards hand : List ℤ}
    {all : Multiset ℤ} (h : room.CardsAre played merged all) (htrio : room.HasTrio)
    (hp : playerId ∈ room.players) (hhand : room.hands.lookup playerId = some hand)
    (hsub : cards.Subperm hand) (hplayers : room'.players = room.players)
    (hhands : room'.hands = Finmap.insert playerId (hand.diff cards) room.hands)
    (hbottom : room'.landlordBottomCards = room.landlordBottomCards) :
    room'.CardsAre (played + (cards : Multiset ℤ)) merged all := by
  have hsum := handCards_sub htrio.2 hp hhand (add_coe_diff hsub)
  have hmove : handCards room'.players room'.hands + (played + (cards : Multiset ℤ)) =
      handCards room.players room.hands + played := by
    rw [hplayers, hhands, add_comm played, ← add_assoc, hsum]
  exact ⟨fun hm => by rw [hmove]; exact h.1 hm,
    fun hm => by rw [hmove, hbottom]; exact h.2 hm⟩

/-- An accepted action that moves no cards. -/
lemma Conserved.still {request : PlayerActionRequest} (h : room.Conserved played merged)
    (hplayers : room'.players = room.players) (hhands : room'.hands = room.hands)
    (hbottom : room'.landlordBottomCards = room.landlordBottomCards)
    (hdealt : room'.dealt = room.dealt) (htype : request.actionType ≠ .playCards)
    (hmerged : ¬ MergedBy request room')
    (hstate : room.state = .callScore ∨ room.state = .robLandlord ∨ room'.state = .playing) :
    room'.Conserved (played + playedBy request) (merged ∨ MergedBy request room') := by
  rw [playedBy_of_ne htype, add_zero, or_iff_left hmerged]
  refine ⟨fun hd => h.undealt (hdealt ▸ hd), fun hs => ?_, fun hd => ?_⟩
  · rcases hstate with heq | heq | heq
    · exact h.unmerged (Or.inr (Or.inl heq))
    · exact h.unmerged (Or.inr (Or.inr heq))
    · simp [heq] at hs
  · have hcards := h.cards (hdealt ▸ hd)
    rwa [CardsAre, hplayers, hhands, hbottom]

/-- An accepted play. -/
lemma Conserved.play {playerId : ℤ} {request : PlayerActionRequest} {hand : List ℤ}
    (h : room.Conserved played merged) (htrio : room.HasTrio) (hdealt : room.dealt = true)
    (hp : playerId ∈ room.players) (htype : request.actionType = .playCards)
    (hhand : room.hands.lookup playerId = some hand) (hsub : request.cards.Subperm hand)
    (hplayers : room'.players = room.players)
    (hhands : room'.hands = Finmap.insert playerId (hand.diff request.cards) room.hands)
    (hbottom : room'.landlordBottomCards = room.landlordBottomCards)
    (hdealt' : room'.dealt = room.dealt)
    (hstate : room'.state = .playing ∨ room'.state = .settling) :
    room'.Conserved (played + playedBy request) (merged ∨ MergedBy request room') := by
  have hmerged : ¬ MergedBy request room' := by simp [MergedBy, htype]
  rw [playedBy, if_pos htype, or_iff_left hmerged]
  refine ⟨fun hd => ?_, fun hs => ?_, fun _ => ?_⟩
  · rw [hdealt', hdealt] at hd
    cases hd
  · rcases hstate with heq | heq <;> simp [heq] at hs
  · exact (h.cards hdealt).play htrio hp hhand hsub hplayers hhands hbottom

/-- An accepted action keeps the cards together. -/
lemma Conserved.rule {playerId : ℤ} {request : PlayerActionRequest} {written : Room} {ended : Bool}
    (h : room.Conserved played merged) (hwf : room.WellFormed) (htrio : room.HasTrio)
    (hp : playerId ∈ room.players) (hrule : ActionRule room playerId request written ended) :
    written.Conserved (played + playedBy request) (merged ∨ MergedBy request written) := by
  cases hrule with
  | callNext hstate hcall =>
    exact h.still rfl rfl rfl rfl (by simp [hcall.1]) (by simp [MergedBy, hcall.1]) (Or.inl hstate)
  | callLast hstate hcall =>
    exact h.still rfl rfl rfl rfl (by simp [hcall.1]) (by simp [MergedBy, hcall.1]) (Or.inl hstate)
  | robNext hstate hrob =>
    exact h.still rfl rfl rfl rfl (by simp [hrob.1]) (by simp [MergedBy, recordRob, hstate])
      (Or.inr (Or.inl hstate))
  | robLast hstate hrob hlast hand hhand =>
    -- the bottom cards move into the landlord's hand
    have hunmerged := h.unmerged (Or.inr (Or.inr hstate))
    have hdealt := hwf.dealt (Or.inr (Or.inl hstate))
    have hsum := handCards_add htrio.2 (hwf.finalLandlord_mem htrio hp request.rob) hhand
      room.landlordBottomCards
    have hcards := (h.cards hdealt).2 hunmerged
    rw [playedBy_of_ne (by simp [hrob.1]), add_zero]
    refine ⟨h.undealt, fun hs => by simp [startPlaying] at hs, fun _ => ⟨fun _ => ?_, fun hm => ?_⟩⟩
    · calc handCards room.players _ + played
          = handCards room.players room.hands + (room.landlordBottomCards : Multiset ℤ) + played :=
            congrArg (· + played) hsum
        _ = deck := by rw [add_right_comm, hcards]
    · exact absurd (Or.inr ⟨hrob.1, rfl⟩) hm
  | passNext hstate htype =>
    exact h.still rfl rfl rfl rfl (by simp [htype]) (by simp [MergedBy, htype])
      (Or.inr (Or.inr hstate))
  | passLast hstate htype =>
    exact h.still rfl rfl rfl rfl (by simp [htype]) (by simp [MergedBy, htype])
      (Or.inr (Or.inr hstate))
  | play hstate htype hne hand hhand hvalid hbeats hsub hrest =>
    exact h.play htrio (hwf.dealt (Or.inr (Or.inr hstate))) hp htype hhand hsub rfl rfl rfl rfl
      (Or.inl hstate)
  | playLast hstate htype hne hand hhand hvalid hbeats hsub hrest =>
    exact h.play htrio (hwf.dealt (Or.inr (Or.inr hstate))) hp htype hhand hsub rfl
      (by rw [hrest]; rfl) rfl rfl (Or.inr rfl)

/-- Only the hands, the bottom cards and the phase matter. -/
lemma Conserved.congr (h : room.Conserved played merged) (hplayers : room'.players = room.players)
    (hhands : room'.hands = room.hands)
    (hbottom : room'.landlordBottomCards = room.landlordBottomCards)
    (hdealt : room'.dealt = room.dealt)
    (hstate : room'.state = room.state ∨ room'.state = .settling ∨ room'.state = .finished) :
    room'.Conserved played merged where
  undealt hd := h.undealt (hdealt ▸ hd)
  unmerged hs := by
    rcases hstate with heq | heq | heq
    · exact h.unmerged (heq ▸ hs)
    · simp [heq] at hs
    · simp [heq] at hs
  cards hd := by
    have hcards := h.cards (hdealt ▸ hd)
    rwa [CardsAre, hplayers, hhands, hbottom]

end Room

namespace RoomStep

variable {room room' : Room} {accepted : Option (PlayerActionRequest × PlayerActionResult)}
  {played : Multiset ℤ} {merged : Prop}

/-- What a step adds to the cards played. -/
def playedIn (accepted : Option (PlayerActionRequest × PlayerActionResult)) : Multiset ℤ :=
  (accepted.map fun a => playedBy a.1).getD 0

/-- Whether a step merged the bottom cards. -/
def MergedIn (accepted : Option (PlayerActionRequest × PlayerActionResult)) : Prop :=
  ∃ a, accepted = some a ∧ a.1.actionType = .robLandlord ∧
    a.2.snapshot.roomState = RoomState.playing.toInt

lemma toInt_eq_playing {s : RoomState} : s.toInt = RoomState.playing.toInt ↔ s = .playing := by
  cases s <;> simp [RoomState.toInt]

theorem conserved (h : RoomStep rng room accepted room') (htrio : room.HasTrio)
    (hwf : room.WellFormed) (hc : room.Conserved played merged) :
    room'.Conserved (played + RoomStep.playedIn accepted) (merged ∨ MergedIn accepted) := by
  have hnone : ¬ MergedIn none := by simp [MergedIn]
  have hzero : RoomStep.playedIn none = 0 := rfl
  have htrio' := (hasTrio_startGame rng).mpr htrio
  cases h with
  | unchanged => rwa [hzero, add_zero, or_iff_left hnone]
  | @accepted playerId request _ result hact hrule =>
    obtain ⟨written, ended, hrule, rfl, rfl⟩ := hrule
    have hp := hact.mem
    rw [← startGame_players rng] at hp
    have hmerged : MergedIn (some (request,
        (written.bumpSnapshotVersion true).actionResult playerId ended)) ↔
          MergedBy request written := by
      simp [MergedIn, MergedBy, actionResult, makeSnapshot, bumpSnapshotVersion, toInt_eq_playing]
    rw [hmerged]
    have hruled := (hc.startGame hwf htrio).rule (hwf.startGame htrio) htrio' hp hrule
    exact hruled.congr rfl rfl rfl rfl (Or.inl rfl)
  | rejected hact hrule =>
    have hp := hact.mem
    rw [← startGame_players rng] at hp
    rw [((hwf.startGame htrio).rejectRule htrio' hp hrule).1, hzero, add_zero, or_iff_left hnone]
    exact hc.startGame hwf htrio
  | presence =>
    rw [hzero, add_zero, or_iff_left hnone]
    exact hc.congr rfl rfl rfl rfl (Or.inl rfl)
  | settling =>
    rw [hzero, add_zero, or_iff_left hnone]
    exact hc.congr rfl rfl rfl rfl (Or.inr (Or.inl rfl))
  | finished =>
    rw [hzero, add_zero, or_iff_left hnone]
    exact hc.congr rfl rfl rfl rfl (Or.inr (Or.inr rfl))

end RoomStep

namespace RoomManager

variable {m m' : RoomManager} {roomId : ℤ}

lemma playedCards_recordAccepted (op : RoomOp) (log : List AcceptedAction) :
    playedCards roomId (m.recordAccepted rng op m' log) =
      playedCards roomId log + RoomStep.playedIn (m.acceptedOn rng roomId op) := by
  simp only [playedCards, recordAccepted, acceptedOn, RoomStep.playedIn, List.map_append,
    List.sum_append]
  cases m.acceptedAction rng op with
  | none => simp
  | some a =>
    by_cases hr : a.roomId = roomId
    · simp [hr, playedBy]
    · simp [hr]

lemma bottomMerged_recordAccepted (op : RoomOp) (log : List AcceptedAction) :
    bottomMerged roomId (m.recordAccepted rng op m' log) ↔
      bottomMerged roomId log ∨ RoomStep.MergedIn (m.acceptedOn rng roomId op) := by
  simp only [bottomMerged, recordAccepted, acceptedOn, RoomStep.MergedIn, List.mem_append,
    or_and_right,
    exists_or]
  refine or_congr_right ?_
  cases m.acceptedAction rng op with
  | none => simp
  | some a =>
    by_cases hr : a.roomId = roomId
    · simp [hr]
    · simp [hr]

/-- The cards of a room created for three distinct players: at every moment after the deal each of
the cards 0..53 is in exactly one place, be it a hand, a play accepted so far, or the bottom cards
before the landlord takes them up. -/
theorem cards_conserved {m₀ : RoomManager} {mode : ℤ} {players : List ℤ} {ops : List RoomOp}
    {room : Room} (hlen : players.length = 3) (hnd : players.Nodup)
    (hrun : Run.exec (step rng) (m₀.createRoom mode players).1 ops = some m)
    (hroom : m.rooms.find (m₀.createRoom mode players).2 = some room) (hdealt : room.dealt = true)
    (card : ℤ) :
    let roomId := (m₀.createRoom mode players).2
    let log := Run.history (step rng) (recordAccepted rng) (m₀.createRoom mode players).1 ops []
    (handCards room.players room.hands + playedCards roomId log +
      if bottomMerged roomId log then 0 else (room.landlordBottomCards : Multiset ℤ)).count card =
        if 0 ≤ card ∧ card ≤ 53 then 1 else 0 := by
  intro roomId log
  let I : RoomManager → List AcceptedAction → Prop := fun m log =>
    roomId < m.rooms.nextId ∧ ∀ room, m.rooms.find roomId = some room →
      room.HasTrio ∧ room.WellFormed ∧
        room.Conserved (playedCards roomId log) (bottomMerged roomId log)
  have hinit : I (m₀.createRoom mode players).1 [] := by
    refine ⟨by simp [createRoom, roomId], fun room hfind => ?_⟩
    rw [find_createRoom, if_pos (show roomId = m₀.rooms.nextId from rfl), Option.some.injEq]
      at hfind
    subst hfind
    have hmerged : bottomMerged roomId [] = False := by simp [bottomMerged]
    rw [hmerged]
    exact ⟨⟨hlen, hnd⟩, wellFormed_newRoom _ _ _, conserved_newRoom _ _ _⟩
  have hstep : ∀ m op m' log, I m log → step rng m op = some m' →
      I m' (m.recordAccepted rng op m' log) := by
    rintro m op m' log ⟨hlt, hI⟩ hop
    obtain rfl := Run.total_eq_some.mp hop
    refine ⟨lt_of_lt_of_le hlt (nextId_le_apply rng m op), fun room' hfind' => ?_⟩
    cases hfind : m.rooms.find roomId with
    | none =>
      -- the id is taken for good
      obtain ⟨_, _, _, hr, -⟩ := find_apply_of_none rng hfind hfind'
      exact absurd hr (ne_of_lt hlt)
    | some room =>
      obtain ⟨htrio, hwf, hc⟩ := hI room hfind
      have h := step_of_find op hfind hfind'
      rw [playedCards_recordAccepted, bottomMerged_recordAccepted]
      exact ⟨h.hasTrio.mpr htrio, h.wellFormed htrio hwf, h.conserved htrio hwf hc⟩
  obtain ⟨-, hI⟩ := Run.invariant_history hstep hinit hrun
  obtain ⟨-, -, hc⟩ := hI room hroom
  have hcards := hc.cards hdealt
  have hall : handCards room.players room.hands + playedCards roomId log +
      (if bottomMerged roomId log then 0 else (room.landlordBottomCards : Multiset ℤ)) = deck := by
    split_ifs with hm
    · rw [add_zero]
      exact hcards.1 hm
    · exact hcards.2 hm
  rw [hall, Multiset.coe_count, List.Nodup.count nodup_deck]
  simp only [mem_deck]

theorem cards_conserved_after_call :
    let call : RoomOp := .applyPlayerAction 1 1 { callScore := 1 }
    let log := Run.history (step .sorted) (recordAccepted .sorted)
      (createRoom {} 3 [1, 2, 3]).1 [call] []
    ∃ room, ((createRoom {} 3 [1, 2, 3]).1.apply .sorted call).rooms.find 1 = some room ∧
      room.dealt = true ∧
        (handCards room.players room.hands + playedCards 1 log +
          if bottomMerged 1 log then 0 else (room.landlordBottomCards : Multiset ℤ)).count 7 =
            1 := by
  intro call log
  have hlive : (((createRoom {} 3 [1, 2, 3]).1.apply .sorted
      (.applyPlayerAction 1 1 { callScore := 1 })).rooms.find 1).any Room.dealt = true := by
    decide +kernel
  obtain ⟨room, hroom, hdealt⟩ := (Option.any_eq_true _ _).mp hlive
  have hrun : Run.exec (step .sorted) (createRoom {} 3 [1, 2, 3]).1 [call] =
      some ((createRoom {} 3 [1, 2, 3]).1.apply .sorted call) := rfl
  exact ⟨room, hroom, hdealt, cards_conserved rfl (by decide) hrun hroom hdealt 7⟩

end RoomManager

end DdzServer
