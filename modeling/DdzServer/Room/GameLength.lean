import DdzServer.Room.Conservation
import DdzServer.Room.Trick

/-!
# The length of a game

A call and a rob use up one of three turns each. A play uses up cards, and buys the two passes that
can answer it; so the turns that are left in `Playing` are three for every card, and what is left of
the two passes.
-/

namespace DdzServer

open Room RoomManager UnorderedMap

namespace RoomManager

/-- How many actions of a type a log has. -/
def countOf (type : PlayerActionType) (log : List AcceptedAction) : ℕ :=
  log.countP fun a => a.request.actionType = type

lemma countOf_concat (type : PlayerActionType) (log : List AcceptedAction) (a : AcceptedAction) :
    countOf type (log ++ [a]) =
      countOf type log + if a.request.actionType = type then 1 else 0 := by
  simp [countOf, List.countP_append, List.countP_singleton]

lemma length_eq_countOf (log : List AcceptedAction) :
    log.length = countOf .callScore log + countOf .robLandlord log +
      (countOf .playCards log + countOf .pass log) := by
  induction log with
  | nil => rfl
  | cons a log ih =>
    simp only [countOf, List.countP_cons, List.length_cons] at ih ⊢
    cases a.request.actionType <;> simp <;> omega

end RoomManager

namespace Room

variable {rng : Shuffler} {room room' : Room} {playerId : ℤ} {request : PlayerActionRequest}
  {log : List AcceptedAction} {a : AcceptedAction}

/-- How many cards the players hold together. -/
def cardsLeft (room : Room) : ℕ := (handCards room.players room.hands).card

/-- How many calls, robs, and plays or passes are still to come at most. -/
def callsLeft (room : Room) : ℤ :=
  match room.state with
  | .waitStart => 3
  | .callScore => 3 - room.stateActionCount
  | _          => 0

def robsLeft (room : Room) : ℤ :=
  match room.state with
  | .waitStart | .callScore => 3
  | .robLandlord            => 3 - room.stateActionCount
  | _                       => 0

def turnsLeft (room : Room) : ℤ :=
  match room.state with
  | .waitStart | .callScore | .robLandlord => 162
  | .playing =>
    3 * room.cardsLeft + if room.lastPlayCards = [] then 0 else 2 - room.consecutivePassCount
  | _ => 0

/-- The turns a room has left, and those its log has used up. -/
structure Budget (room : Room) (log : List AcceptedAction) : Prop where
  seq : room.lastActionSeq = log.length
  waiting : room.state = .waitStart → room.stateActionCount = 0
  bidding : room.state = .callScore ∨ room.state = .robLandlord →
    room.stateActionCount < 3 ∧ room.cardsLeft + room.landlordBottomCards.length = 54
  calls : countOf .callScore log + room.callsLeft ≤ 3
  robs : countOf .robLandlord log + room.robsLeft ≤ 3
  turns : (countOf .playCards log + countOf .pass log : ℕ) + room.turnsLeft ≤ 162

lemma budget_newRoom (roomId mode : ℤ) (players : List ℤ) :
    (newRoom roomId mode players).Budget [] where
  seq := rfl
  waiting _ := rfl
  bidding h := by rcases h with h | h <;> cases h
  calls := le_refl 3
  robs := le_refl 3
  turns := le_refl 162

/-- The deal hands out 51 cards. -/
lemma Budget.startGame (rng : Shuffler) (h : room.Budget log) (hwf : room.WellFormed)
    (htrio : room.HasTrio) : (room.startGame rng).Budget log := by
  by_cases hw : room.state = .waitStart
  · have hcount := h.waiting hw
    have hcalls := h.calls
    have hrobs := h.robs
    have hturns := h.turns
    simp only [callsLeft, robsLeft, turnsLeft, hw] at hcalls hrobs hturns
    have hlen : (rng.shuffle room.dealSeed deck).length = 54 := by
      rw [(rng.perm _ _).length_eq, length_deck]
    have hcards : (handCards room.players
        (dealHands room.players (rng.shuffle room.dealSeed deck) room.hands)).card = 51 := by
      rw [handCards_dealHands htrio.2 htrio.1 (by omega), Multiset.coe_card, List.length_take, hlen]
      rfl
    rw [startGame_of_undealt rng hw htrio.1 (hwf.undealt hw)]
    refine ⟨h.seq, fun hs => (by cases hs), fun _ => ?_, ?_, ?_, ?_⟩
    · simp only [cardsLeft, hcards, hcount]
      exact ⟨by decide, rfl⟩
    · simp only [callsLeft, hcount]
      omega
    · exact hrobs
    · exact hturns
  · rwa [startGame_of_ne hw]

/-- The cards that are played leave the hands. -/
lemma cardsLeft_play {hand cards : List ℤ} (htrio : room.HasTrio) (hp : playerId ∈ room.players)
    (hhand : room.hands.lookup playerId = some hand) (hsub : cards.Subperm hand) :
    (handCards room.players (Finmap.insert playerId (hand.diff cards) room.hands)).card +
      cards.length = room.cardsLeft := by
  have hcards := congrArg Multiset.card (handCards_sub htrio.2 hp hhand (add_coe_diff hsub))
  rwa [Multiset.card_add, Multiset.coe_card] at hcards

/-- The bottom cards enter the hands. -/
lemma cardsLeft_merge {hand : List ℤ} {landlord : ℤ} (htrio : room.HasTrio)
    (hp : landlord ∈ room.players) (hhand : room.hands.lookup landlord = some hand) :
    (handCards room.players (Finmap.insert landlord
      (sortCards (hand ++ room.landlordBottomCards)) room.hands)).card =
        room.cardsLeft + room.landlordBottomCards.length := by
  have hcards := congrArg Multiset.card
    (handCards_add htrio.2 hp hhand room.landlordBottomCards)
  rwa [Multiset.card_add, Multiset.coe_card] at hcards

/-- At most two passes answer a play. -/
lemma InTrick.slack_nonneg (h : room.InTrick log) (htrio : room.HasTrio)
    (hs : room.state = .playing) :
    0 ≤ if room.lastPlayCards = [] then 0 else 2 - room.consecutivePassCount := by
  split_ifs with hempty
  · exact le_refl 0
  · obtain ⟨prev, -, hopen, -, -, -, hpass, -, -⟩ := (h.table hs).follow_of_ne htrio hempty
    omega

/-- What an accepted action of some type costs of the turns of this type. -/
def cost (request : PlayerActionRequest) (types : List PlayerActionType) : ℤ :=
  if request.actionType ∈ types then 1 else 0

lemma countOf_cost (log : List AcceptedAction) (type : PlayerActionType)
    (hrequest : a.request = request) :
    (countOf type (log ++ [a]) : ℤ) = countOf type log + cost request [type] := by
  rw [countOf_concat, hrequest, cost]
  push_cast
  simp

lemma callsLeft_rule {written : Room} {ended : Bool} (h : room.Budget log)
    (hrule : ActionRule room playerId request written ended) :
    written.callsLeft + cost request [.callScore] ≤ room.callsLeft := by
  have hbid := h.bidding
  cases hrule with
  | callNext hs hcall =>
    simp only [callsLeft, recordCall, hs, cost, hcall.1]
    simp only [List.mem_cons, List.not_mem_nil, or_false, if_true]
    omega
  | callLast hs hcall =>
    have := (hbid (Or.inl hs)).1
    simp only [callsLeft, endCalls, hs, cost, hcall.1]
    simp only [List.mem_cons, List.not_mem_nil, or_false, if_true]
    omega
  | robNext hs hrob => simp [callsLeft, recordRob, hs, cost, hrob.1]
  | robLast hs hrob => simp [callsLeft, startPlaying, hs, cost, hrob.1]
  | passNext hs htype => simp [callsLeft, hs, cost, htype]
  | passLast hs htype => simp [callsLeft, clearTable, hs, cost, htype]
  | play hs htype => simp [callsLeft, putCards, hs, cost, htype]
  | playLast hs htype => simp [callsLeft, hs, cost, htype]

lemma robsLeft_rule {written : Room} {ended : Bool} (h : room.Budget log)
    (hrule : ActionRule room playerId request written ended) :
    written.robsLeft + cost request [.robLandlord] ≤ room.robsLeft := by
  have hbid := h.bidding
  cases hrule with
  | callNext hs hcall => simp [robsLeft, recordCall, hs, cost, hcall.1]
  | callLast hs hcall => simp [robsLeft, endCalls, hs, cost, hcall.1]
  | robNext hs hrob =>
    simp only [robsLeft, recordRob, hs, cost, hrob.1]
    simp only [List.mem_cons, List.not_mem_nil, or_false, if_true]
    omega
  | robLast hs hrob =>
    have := (hbid (Or.inr hs)).1
    simp only [robsLeft, startPlaying, hs, cost, hrob.1]
    simp only [List.mem_cons, List.not_mem_nil, or_false, if_true]
    omega
  | passNext hs htype => simp [robsLeft, hs, cost, htype]
  | passLast hs htype => simp [robsLeft, clearTable, hs, cost, htype]
  | play hs htype => simp [robsLeft, putCards, hs, cost, htype]
  | playLast hs htype => simp [robsLeft, hs, cost, htype]

/-- A play is worth at least the card it puts down, a pass one of the two after a play. -/
lemma turnsLeft_rule {written : Room} {ended : Bool} (h : room.Budget log) (hwf : room.WellFormed)
    (htrio : room.HasTrio) (htrick : room.InTrick log) (hp : playerId ∈ room.players)
    (hrule : ActionRule room playerId request written ended) :
    written.turnsLeft + cost request [.playCards, .pass] ≤ room.turnsLeft := by
  cases hrule with
  | callNext hs hcall => simp [turnsLeft, recordCall, hs, cost, hcall.1]
  | callLast hs hcall => simp [turnsLeft, endCalls, hs, cost, hcall.1]
  | robNext hs hrob => simp [turnsLeft, recordRob, hs, cost, hrob.1]
  | robLast hs hrob hlast hand hhand =>
    have hmerged := cardsLeft_merge htrio (hwf.finalLandlord_mem htrio hp request.rob) hhand
    have hall := hmerged.trans (h.bidding (Or.inr hs)).2
    have hleft : Room.turnsLeft ({ room.recordRob playerId request.rob with
        landlordPlayerId := (room.recordRob playerId request.rob).finalLandlord
        }.startPlaying hand) = 3 * 54 + 0 := by
      rw [turnsLeft]
      exact congrArg (fun n : ℕ => 3 * (n : ℤ) + 0) hall
    rw [hleft]
    simp [turnsLeft, hs, cost, hrob.1]
  | passNext hs htype htable hlead hnext =>
    obtain ⟨prev, -, hopen, -, -, -, hpass, -, -⟩ := (htrick.table hs).follow_of_ne htrio htable
    simp only [turnsLeft, cardsLeft, hs, cost, htype]
    simp only [htable, if_false, if_true, List.mem_cons, reduceCtorEq, List.not_mem_nil, or_false,
      or_true]
    omega
  | passLast hs htype htable hlead hlast =>
    obtain ⟨prev, -, hopen, -, -, -, hpass, -, -⟩ := (htrick.table hs).follow_of_ne htrio htable
    simp only [turnsLeft, cardsLeft, clearTable, hs, cost, htype]
    simp only [htable, if_false, if_true, List.mem_cons, reduceCtorEq, List.not_mem_nil, or_false,
      or_true]
    omega
  | play hs htype hne hand hhand hvalid hbeats hsub hrest =>
    have hcards := cardsLeft_play htrio hp hhand hsub
    have hlen := List.length_pos_of_ne_nil hne
    have hslack := htrick.slack_nonneg htrio hs
    simp only [turnsLeft, putCards, hs, cost, htype, cardsLeft] at hcards ⊢
    simp only [hne, if_false]
    simp
    omega
  | playLast hs htype hne hand hhand hvalid hbeats hsub hrest =>
    have hcards := cardsLeft_play htrio hp hhand hsub
    have hlen := List.length_pos_of_ne_nil hne
    have hslack := htrick.slack_nonneg htrio hs
    simp only [turnsLeft, hs, cost, htype, cardsLeft] at hcards ⊢
    simp
    omega

/-- Every accepted action is paid for. -/
lemma Budget.rule {written : Room} {ended : Bool} (h : room.Budget log) (hwf : room.WellFormed)
    (htrio : room.HasTrio) (htrick : room.InTrick log) (hp : playerId ∈ room.players)
    (hrequest : a.request = request)
    (hrule : ActionRule room playerId request written ended) :
    (written.bumpSnapshotVersion true).Budget (log ++ [a]) where
  seq := by
    have hseq : written.lastActionSeq = room.lastActionSeq := by cases hrule <;> rfl
    rw [List.length_append, List.length_singleton, bumpSnapshotVersion]
    simp only [if_true, hseq, h.seq]
    rfl
  waiting hw := by
    cases hrule with
    | callNext hs => simp [bumpSnapshotVersion, recordCall, hs] at hw
    | robNext hs => simp [bumpSnapshotVersion, recordRob, hs] at hw
    | passNext hs => simp [bumpSnapshotVersion, hs] at hw
    | passLast hs => simp [bumpSnapshotVersion, clearTable, hs] at hw
    | play hs => simp [bumpSnapshotVersion, putCards, hs] at hw
    | callLast => cases hw
    | robLast => cases hw
    | playLast => cases hw
  bidding hs := by
    have hlen := htrio.1
    cases hrule with
    | callNext hs' hcall hscore hnext =>
      refine ⟨?_, (h.bidding (Or.inl hs')).2⟩
      simp only [bumpSnapshotVersion, recordCall]
      omega
    | callLast hs' => exact ⟨three_pos, (h.bidding (Or.inl hs')).2⟩
    | robNext hs' hrob hnext =>
      refine ⟨?_, (h.bidding (Or.inr hs')).2⟩
      simp only [bumpSnapshotVersion, recordRob]
      omega
    | robLast => rcases hs with hs | hs <;> cases hs
    | passNext hs' => simp [bumpSnapshotVersion, hs'] at hs
    | passLast hs' => simp [bumpSnapshotVersion, clearTable, hs'] at hs
    | play hs' => simp [bumpSnapshotVersion, putCards, hs'] at hs
    | playLast => rcases hs with hs | hs <;> cases hs
  calls := by
    have hleft := callsLeft_rule h hrule
    have hcost := countOf_cost log .callScore hrequest
    have hcalls := h.calls
    change (countOf .callScore (log ++ [a]) : ℤ) + written.callsLeft ≤ 3
    omega
  robs := by
    have hleft := robsLeft_rule h hrule
    have hcost := countOf_cost log .robLandlord hrequest
    have hrobs := h.robs
    change (countOf .robLandlord (log ++ [a]) : ℤ) + written.robsLeft ≤ 3
    omega
  turns := by
    have hleft := turnsLeft_rule h hwf htrio htrick hp hrule
    have hplay := countOf_cost log .playCards hrequest
    have hpass := countOf_cost log .pass hrequest
    have hboth : cost request [.playCards] + cost request [.pass] =
        cost request [.playCards, .pass] := by
      cases htype : request.actionType <;> simp [cost, htype]
    have hturns := h.turns
    change ((countOf .playCards (log ++ [a]) + countOf .pass (log ++ [a]) : ℕ) : ℤ) +
      written.turnsLeft ≤ 162
    push_cast at hturns ⊢
    omega

/-- Only the number of actions, the hands, the table and the phase matter; a mark ends the game. -/
lemma Budget.congr (h : room.Budget log) (hseq : room'.lastActionSeq = room.lastActionSeq)
    (hleft : room'.cardsLeft = room.cardsLeft)
    (hbottom : room'.landlordBottomCards = room.landlordBottomCards)
    (hcount : room'.stateActionCount = room.stateActionCount)
    (hcards : room'.lastPlayCards = room.lastPlayCards)
    (hpass : room'.consecutivePassCount = room.consecutivePassCount)
    (hstate : room'.state = room.state) : room'.Budget log := by
  obtain ⟨h₁, h₂, h₃, h₄, h₅, h₆⟩ := h
  constructor
  · rw [hseq, h₁]
  · rwa [hstate, hcount]
  · rwa [hstate, hcount, hleft, hbottom]
  · simpa only [callsLeft, hstate, hcount] using h₄
  · simpa only [robsLeft, hstate, hcount] using h₅
  · simpa only [turnsLeft, hstate, hleft, hcards, hpass] using h₆

/-- No turn is used up that a room does not have. -/
lemma Budget.left_nonneg (h : room.Budget log) (htrio : room.HasTrio) (htrick : room.InTrick log) :
    0 ≤ room.callsLeft ∧ 0 ≤ room.robsLeft ∧ 0 ≤ room.turnsLeft := by
  have hbid := h.bidding
  have hslack := htrick.slack_nonneg htrio
  simp only [callsLeft, robsLeft, turnsLeft]
  cases hs : room.state with
  | callScore =>
    have := (hbid (Or.inl hs)).1
    refine ⟨?_, ?_, ?_⟩ <;> dsimp only <;> omega
  | robLandlord =>
    have := (hbid (Or.inr hs)).1
    refine ⟨?_, ?_, ?_⟩ <;> dsimp only <;> omega
  | playing =>
    have := hslack hs
    refine ⟨?_, ?_, ?_⟩ <;> dsimp only <;> omega
  | waitStart => simp
  | settling => simp
  | finished => simp

/-- After a mark nothing is left to come. -/
lemma Budget.mark (h : room.Budget log) (htrio : room.HasTrio) (htrick : room.InTrick log)
    (hseq : room'.lastActionSeq = room.lastActionSeq)
    (hstate : room'.state = .settling ∨ room'.state = .finished) : room'.Budget log := by
  obtain ⟨hcalls, hrobs, hturns⟩ := h.left_nonneg htrio htrick
  obtain ⟨h₁, -, -, h₄, h₅, h₆⟩ := h
  constructor
  · rw [hseq, h₁]
  · intro hs
    rcases hstate with hs' | hs' <;> rw [hs] at hs' <;> cases hs'
  · intro hs
    rcases hs with hs | hs <;> rcases hstate with hs' | hs' <;> rw [hs] at hs' <;> cases hs'
  · rcases hstate with hs' | hs' <;> simp only [callsLeft, hs'] <;> omega
  · rcases hstate with hs' | hs' <;> simp only [robsLeft, hs'] <;> omega
  · rcases hstate with hs' | hs' <;> simp only [turnsLeft, hs'] <;> omega

end Room

namespace RoomStep

variable {rng : Shuffler} {room room' : Room} {log : List AcceptedAction}
  {accepted : Option (PlayerActionRequest × PlayerActionResult)}

theorem budget (roomId : ℤ) (h : RoomStep rng room accepted room') (htrio : room.HasTrio)
    (hwf : room.WellFormed) (htrick : room.InTrick log) (hI : room.Budget log) :
    room'.Budget (log ++ logged roomId room accepted) := by
  have htrio' := (hasTrio_startGame rng).mpr htrio
  have hstarted := hI.startGame rng hwf htrio
  cases h with
  | unchanged => simpa using hI
  | @accepted playerId request _ result hact hrule =>
    obtain ⟨written, ended, hrule, rfl, -⟩ := hrule
    have hp := hact.mem
    rw [← startGame_players rng] at hp
    exact hstarted.rule (hwf.startGame htrio) htrio' (htrick.startGame rng) hp
      (a := ⟨roomId, room.currentOperatorPlayerId, request, result⟩) rfl hrule
  | rejected hact hrule =>
    have hp := hact.mem
    rw [← startGame_players rng] at hp
    rwa [((hwf.startGame htrio).rejectRule htrio' hp hrule).1, logged_none, List.append_nil]
  | presence =>
    rw [logged_none, List.append_nil]
    exact hI.congr rfl rfl rfl rfl rfl rfl rfl
  | settling =>
    rw [logged_none, List.append_nil]
    exact hI.mark htrio htrick rfl (Or.inl rfl)
  | finished =>
    rw [logged_none, List.append_nil]
    exact hI.mark htrio htrick rfl (Or.inr rfl)

end RoomStep

/-- What holds of a room of three distinct players and its log at every moment of a game. -/
structure Room.GameInvariant (room : Room) (log : List AcceptedAction) : Prop where
  trio : room.HasTrio
  wellFormed : room.WellFormed
  trick : room.InTrick log
  budget : room.Budget log

lemma RoomStep.gameInvariant {rng : Shuffler} {room room' : Room} {log : List AcceptedAction}
    {accepted : Option (PlayerActionRequest × PlayerActionResult)} (roomId : ℤ)
    (h : RoomStep rng room accepted room') (hI : room.GameInvariant log) :
    room'.GameInvariant (log ++ logged roomId room accepted) where
  trio := h.hasTrio.mpr hI.trio
  wellFormed := h.wellFormed hI.trio hI.wellFormed
  trick := h.inTrick roomId hI.trio hI.trick
  budget := h.budget roomId hI.trio hI.wellFormed hI.trick hI.budget

/-- No game is longer than the turns it has. -/
lemma Room.GameInvariant.length_le {room : Room} {log : List AcceptedAction}
    (h : room.GameInvariant log) :
    countOf .callScore log ≤ 3 ∧ countOf .robLandlord log ≤ 3 ∧
      countOf .playCards log + countOf .pass log ≤ 162 := by
  obtain ⟨hcalls, hrobs, hturns⟩ := h.budget.left_nonneg h.trio h.trick
  have := h.budget.calls
  have := h.budget.robs
  have := h.budget.turns
  omega

namespace RoomManager

variable {rng : Shuffler} {m : RoomManager}

/-- In the game of three distinct players at most 168 actions are accepted: three calls, three robs,
and 162 plays and passes. -/
theorem game_finite {m₀ : RoomManager} {mode : ℤ} {players : List ℤ} {ops : List RoomOp}
    (hlen : players.length = 3) (hnd : players.Nodup)
    (hrun : Run.exec (step rng) (m₀.createRoom mode players).1 ops = some m) :
    let roomId := (m₀.createRoom mode players).2
    let log := actionsOn roomId
      (Run.history (step rng) (recordAccepted rng) (m₀.createRoom mode players).1 ops [])
    log.length ≤ 168 ∧ countOf .callScore log ≤ 3 ∧ countOf .robLandlord log ≤ 3 ∧
      countOf .playCards log + countOf .pass log ≤ 162 ∧
      ∀ room, m.rooms.find roomId = some room →
        room.lastActionSeq = log.length ∧ room.lastActionSeq ≤ 168 := by
  intro roomId log
  obtain ⟨room, hI, hlive⟩ := created_history (I := Room.GameInvariant)
    ⟨⟨hlen, hnd⟩, wellFormed_newRoom _ _ _, inTrick_newRoom _ _ _, budget_newRoom _ _ _⟩
    (fun _ _ _ _ hI h => h.gameInvariant _ hI) hrun
  obtain ⟨hcalls, hrobs, hturns⟩ := hI.length_le
  have hlog : log.length ≤ 168 := by
    have := length_eq_countOf log
    change countOf .callScore log ≤ 3 at hcalls
    change countOf .robLandlord log ≤ 3 at hrobs
    change countOf .playCards log + countOf .pass log ≤ 162 at hturns
    omega
  refine ⟨hlog, hcalls, hrobs, hturns, fun room' hfind => ?_⟩
  obtain rfl := hlive room' hfind
  have hseq := hI.budget.seq
  exact ⟨hseq, by rw [hseq]; exact_mod_cast hlog⟩

theorem game_finite_after_call :
    let m := (createRoom {} 3 [1, 2, 3]).1
    let ops : List RoomOp := [
      .applyPlayerAction 1 1 { callScore := 1 }, .applyPlayerAction 1 1 { callScore := 2 },
      .applyTrusteeAction 1 2]
    ∃ m' room, Run.exec (step .sorted) m ops = some m' ∧ m'.rooms.find 1 = some room ∧
      room.lastActionSeq = 2 ∧ room.lastActionSeq ≤ 168 := by
  intro m ops
  have hlive : ((Run.exec (step .sorted) m ops).bind fun m' => m'.rooms.find 1).any
      (fun room => room.lastActionSeq = 2) = true := by
    decide +kernel
  obtain ⟨room, hroom, hseq⟩ := (Option.any_eq_true _ _).mp hlive
  obtain ⟨m', hrun, hfind⟩ := Option.bind_eq_some_iff.mp hroom
  exact ⟨m', room, hrun, hfind, of_decide_eq_true hseq,
    ((game_finite rfl (by decide) hrun).2.2.2.2 room hfind).2⟩

end RoomManager

end DdzServer
