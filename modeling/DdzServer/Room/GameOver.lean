import DdzServer.Room.WellFormed

/-!
# The end of a game

A game is over when a player has no cards left. It ends once, and a room in `Settling` or `Finished`
takes no more actions, whatever marks arrive later.
-/

namespace DdzServer

open Room RoomManager UnorderedMap

/-! ### Rooms that take no more actions -/

/-- The states after the end of a game. -/
def RoomState.IsOver (state : RoomState) : Prop := state = .settling ∨ state = .finished

lemma RoomStep.isOver {rng : Shuffler} {room room' : Room}
    {accepted : Option (PlayerActionRequest × PlayerActionResult)}
    (h : RoomStep rng room accepted room') (hover : room.state.IsOver) : room'.state.IsOver := by
  have hnot : ∀ {pid}, ¬ room.CanAct pid := fun hact => by
    rcases hover with hsettling | hfinished
    · exact hact.notSettling hsettling
    · exact hact.notFinished hfinished
  cases h with
  | unchanged => exact hover
  | accepted hact hrule => exact absurd hact hnot
  | rejected hact hrule => exact absurd hact hnot
  | presence => exact hover
  | settling => exact Or.inl rfl
  | finished => exact Or.inr rfl

/-- An action that ends the game leaves the room in `Settling`. -/
lemma Room.isOver_of_gameOver {rng : Shuffler} {room : Room} {pid : ℤ}
    {request : PlayerActionRequest} {result : PlayerActionResult}
    (h : (room.applyPlayerAction rng pid request).2 = .ok result)
    (hover : result.gameOver = true) :
    ¬ room.state.IsOver ∧ (room.applyPlayerAction rng pid request).1.state.IsOver := by
  obtain ⟨hact, written, ended, hrule, hroom, hresult⟩ :=
    accepted_of_apply (Prod.ext_iff.mpr ⟨rfl, h⟩ :
      room.applyPlayerAction rng pid request =
        ((room.applyPlayerAction rng pid request).1, .ok result))
  refine ⟨fun hstate => ?_, ?_⟩
  · rcases hstate with hsettling | hfinished
    · exact hact.notSettling hsettling
    · exact hact.notFinished hfinished
  · have htrue : ended = true := by rw [← hover, hresult]; rfl
    subst htrue
    rw [hroom]
    cases hrule with
    | playLast => exact Or.inl rfl

namespace RoomManager

variable {m : RoomManager} {r : ℤ}

/-- The room takes no more actions, if it is there at all. -/
structure Closed (m : RoomManager) (r : ℤ) : Prop where
  bound : r < m.rooms.nextId
  ended : ∀ room, m.rooms.find r = some room → room.state.IsOver

/-- Nothing opens a room again. -/
lemma Closed.apply (h : m.Closed r) (rng : Shuffler) (op : RoomOp) :
    (m.apply rng op).Closed r := by
  refine ⟨h.bound.trans_le (nextId_le_apply rng m op), fun room' hroom' => ?_⟩
  cases hroom : m.rooms.find r with
  | none =>
    obtain ⟨_, _, -, hr, -⟩ := find_apply_of_none rng hroom hroom'
    exact absurd hr h.bound.ne
  | some room => exact (step_of_find op hroom hroom').isOver (h.ended room hroom)

lemma closed_markSettling (hr : r < m.rooms.nextId) (rng : Shuffler) :
    (m.apply rng (.markSettling r)).Closed r := by
  refine ⟨hr.trans_le (nextId_le_apply rng m _), fun room' hroom' => ?_⟩
  rw [apply, find_markSettling, if_pos rfl] at hroom'
  obtain ⟨room, -, rfl⟩ := Option.map_eq_some_iff.mp hroom'
  exact Or.inl rfl

end RoomManager

/-! ### Hands -/

namespace Room

variable {rng : Shuffler} {room room' : Room} {playerId : ℤ} {request : PlayerActionRequest}
  {log : List AcceptedAction} {a : AcceptedAction}

/-- Who has got a card keeps one while the deal goes on. -/
lemma at'_dealCard_ne_nil {players cards : List ℤ} (hands : UnorderedMap ℤ (List ℤ)) {p : ℤ}
    {i k : ℕ} (hik : i < k) (hi : players.getD (i % 3) 0 = p) :
    at' ((List.range k).foldl (dealCard players cards) hands) p [] ≠ [] := by
  induction k with
  | zero => omega
  | succ k ih =>
    rw [List.range_succ, List.foldl_append, List.foldl_cons, List.foldl_nil, dealCard, at'_insert]
    split_ifs with hp
    · simp
    · refine ih (lt_of_le_of_ne (Nat.lt_succ_iff.mp hik) ?_)
      rintro rfl
      exact hp hi.symm

/-- Sorting the hands keeps every card where it is. -/
lemma at'_sortHands (l : List ℤ) (hands : UnorderedMap ℤ (List ℤ)) (p : ℤ) :
    (at' (l.foldl (fun h pid => Finmap.insert pid (sortCards (at' h pid [])) h) hands) p []).Perm
      (at' hands p []) := by
  induction l generalizing hands with
  | nil => rfl
  | cons q l ih =>
    rw [List.foldl_cons]
    refine (ih _).trans ?_
    rw [at'_insert]
    split_ifs with hp
    · subst hp
      exact sortCards_perm _
    · rfl

/-- The deal leaves nobody without cards. -/
lemma at'_dealHands_ne_nil {players : List ℤ} (cards : List ℤ) (hlen : players.length = 3)
    (hands : UnorderedMap ℤ (List ℤ)) {p : ℤ} (hp : p ∈ players) :
    at' (dealHands players cards hands) p [] ≠ [] := by
  obtain ⟨i, hi, rfl⟩ := List.getElem_of_mem hp
  intro hnil
  have hperm := at'_sortHands players ((List.range 51).foldl (dealCard players cards)
    (players.foldl (fun h pid => Finmap.insert pid [] h) hands)) players[i]
  rw [dealHands] at hnil
  rw [hnil] at hperm
  refine at'_dealCard_ne_nil (i := i) (k := 51) _ (by omega) ?_ hperm.symm.eq_nil
  rw [Nat.mod_eq_of_lt (by omega), List.getD_eq_getElem _ _ hi]

lemma hand_of_lookup {hand : List ℤ} (h : room.hands.lookup playerId = some hand) :
    room.hand playerId = hand := by
  rw [Room.hand, at', h]
  rfl

/-- What is said of the hands while a game is on, and of the log before and after its end. -/
structure EndsOnce (room : Room) (log : List AcceptedAction) : Prop where
  hands : room.state = .callScore ∨ room.state = .robLandlord ∨ room.state = .playing →
    ∀ p ∈ room.players, room.hand p ≠ []
  ongoing : ¬ room.state.IsOver → log.countP (·.result.gameOver) = 0
  once : log.countP (·.result.gameOver) ≤ 1

lemma endsOnce_newRoom (roomId mode : ℤ) (players : List ℤ) :
    (newRoom roomId mode players).EndsOnce [] where
  hands h := by rcases h with h | h | h <;> cases h
  ongoing _ := rfl
  once := Nat.zero_le 1

lemma EndsOnce.startGame (rng : Shuffler) (h : room.EndsOnce log) (hwf : room.WellFormed)
    (htrio : room.HasTrio) : (room.startGame rng).EndsOnce log := by
  by_cases hw : room.state = .waitStart
  · rw [startGame_of_undealt rng hw htrio.1 (hwf.undealt hw)]
    refine ⟨fun _ p hp => ?_, fun _ => h.ongoing (by simp [RoomState.IsOver, hw]), h.once⟩
    exact at'_dealHands_ne_nil _ htrio.1 _ hp
  · rwa [startGame_of_ne hw]

/-- A new hand that is not empty leaves nobody without cards. -/
lemma at'_insert_ne_nil {hands : UnorderedMap ℤ (List ℤ)} {p q : ℤ} {hand : List ℤ}
    (h : at' hands q [] ≠ []) (hhand : hand ≠ []) :
    at' (Finmap.insert p hand hands) q [] ≠ [] := by
  rw [at'_insert]
  split_ifs
  · exact hhand
  · exact h

lemma EndsOnce.hands_rule {written : Room} {ended : Bool} (h : room.EndsOnce log)
    (hwf : room.WellFormed) (htrio : room.HasTrio) (hp : playerId ∈ room.players)
    (hrule : ActionRule room playerId request written ended)
    (hstate : written.state = .callScore ∨ written.state = .robLandlord ∨
      written.state = .playing) :
    ∀ q ∈ written.players, written.hand q ≠ [] := by
  intro q hq
  cases hrule with
  | callNext hs => exact h.hands (Or.inl hs) q hq
  | callLast hs => exact h.hands (Or.inl hs) q hq
  | robNext hs => exact h.hands (Or.inr (Or.inl hs)) q hq
  | robLast hs hrob hlast hand hhand =>
    refine at'_insert_ne_nil (h.hands (Or.inr (Or.inl hs)) q hq) fun hnil => ?_
    -- the landlord had cards before the bottom cards came
    have hlandlord := h.hands (Or.inr (Or.inl hs)) _ (hwf.finalLandlord_mem htrio hp request.rob)
    rw [hand_of_lookup hhand] at hlandlord
    have hlen := length_sortCards (hand ++ room.landlordBottomCards)
    have hsorted : sortCards (hand ++ room.landlordBottomCards) = [] := hnil
    rw [hsorted, List.length_append] at hlen
    exact hlandlord (List.length_eq_zero_iff.mp (by simp at hlen; omega))
  | passNext hs => exact h.hands (Or.inr (Or.inr hs)) q hq
  | passLast hs => exact h.hands (Or.inr (Or.inr hs)) q hq
  | play hs htype hne hand hhand hvalid hbeats hcards hrest =>
    exact at'_insert_ne_nil (h.hands (Or.inr (Or.inr hs)) q hq) hrest
  | playLast => rcases hstate with hs | hs | hs <;> cases hs

/-- A rule says that the game is over when it enters `Settling`. -/
lemma ActionRule.isOver_iff {written : Room} {ended : Bool}
    (hrule : ActionRule room playerId request written ended) :
    written.state.IsOver ↔ ended = true := by
  cases hrule <;>
    simp_all [RoomState.IsOver, recordCall, endCalls, recordRob, startPlaying, clearTable, putCards]

/-- The end of the game: the operator has no cards left, and everyone else has. -/
lemma EndsOnce.hands_ended {written : Room} (h : room.EndsOnce log)
    (hrule : ActionRule room playerId request written true) :
    written.state = .settling ∧ written.hand playerId = [] ∧
      ∀ q ∈ written.players, q ≠ playerId → written.hand q ≠ [] := by
  cases hrule with
  | playLast hs =>
    refine ⟨rfl, ?_, fun q hq hne => ?_⟩
    · exact (at'_insert _ _ _ _ _).trans (if_pos rfl)
    · exact ne_of_eq_of_ne ((at'_insert _ _ _ _ _).trans (if_neg hne))
        (h.hands (Or.inr (Or.inr hs)) q hq)

/-- An accepted action: the game was not over, so it can end it for the first time. -/
lemma EndsOnce.rule {written : Room} {ended : Bool} (h : room.EndsOnce log)
    (hwf : room.WellFormed) (htrio : room.HasTrio) (hp : playerId ∈ room.players)
    (hopen : ¬ room.state.IsOver) (hresult : a.result.gameOver = ended)
    (hrule : ActionRule room playerId request written ended) :
    written.EndsOnce (log ++ [a]) := by
  have hcount : (log ++ [a]).countP (·.result.gameOver) = if ended then 1 else 0 := by
    rw [List.countP_append, h.ongoing hopen, List.countP_singleton, hresult, zero_add]
  refine ⟨h.hands_rule hwf htrio hp hrule, fun hs => ?_, ?_⟩
  · rw [hcount, if_neg (mt hrule.isOver_iff.mpr hs)]
  · rw [hcount]
    split_ifs <;> omega

/-- Only the hands and the phase matter. -/
lemma EndsOnce.congr (h : room.EndsOnce log) (hplayers : room'.players = room.players)
    (hhands : room'.hands = room.hands)
    (hstate : room'.state = room.state ∨ room'.state.IsOver) : room'.EndsOnce log where
  hands hs := by
    rcases hstate with heq | hover
    · have hhand : room'.hand = room.hand := by
        funext p
        rw [Room.hand, Room.hand, hhands]
      rw [hplayers, hhand]
      exact h.hands (heq ▸ hs)
    · rcases hover with hover | hover <;> simp [hover] at hs
  ongoing hs := by
    rcases hstate with heq | hover
    · exact h.ongoing (heq ▸ hs)
    · exact absurd hover hs
  once := h.once

end Room

namespace RoomStep

variable {rng : Shuffler} {room room' : Room} {log : List AcceptedAction}
  {accepted : Option (PlayerActionRequest × PlayerActionResult)}

theorem endsOnce (roomId : ℤ) (h : RoomStep rng room accepted room') (htrio : room.HasTrio)
    (hwf : room.WellFormed) (hI : room.EndsOnce log) :
    room'.EndsOnce (log ++ logged roomId room accepted) := by
  have htrio' := (hasTrio_startGame rng).mpr htrio
  cases h with
  | unchanged => simpa using hI
  | @accepted playerId request _ result hact hrule =>
    obtain ⟨written, ended, hrule, rfl, rfl⟩ := hrule
    have hp := hact.mem
    rw [← startGame_players rng] at hp
    have hopen : ¬ (room.startGame rng).state.IsOver := by
      by_cases hw : room.state = .waitStart
      · simp [startGame_state rng hw, RoomState.IsOver]
      · rw [startGame_of_ne hw]
        exact fun hover => hover.elim hact.notSettling hact.notFinished
    have hruled := (hI.startGame rng hwf htrio).rule (hwf.startGame htrio) htrio' hp hopen
      (a := ⟨roomId, room.currentOperatorPlayerId, request,
        (written.bumpSnapshotVersion true).actionResult playerId ended⟩) rfl hrule
    exact hruled.congr rfl rfl (Or.inl rfl)
  | rejected hact hrule =>
    have hp := hact.mem
    rw [← startGame_players rng] at hp
    rw [((hwf.startGame htrio).rejectRule htrio' hp hrule).1, logged_none, List.append_nil]
    exact hI.startGame rng hwf htrio
  | presence =>
    rw [logged_none, List.append_nil]
    exact hI.congr rfl rfl (Or.inl rfl)
  | settling =>
    rw [logged_none, List.append_nil]
    exact hI.congr rfl rfl (Or.inr (Or.inl rfl))
  | finished =>
    rw [logged_none, List.append_nil]
    exact hI.congr rfl rfl (Or.inr (Or.inr rfl))

/-- A game that is over is not touched any more. -/
lemma frozen (h : RoomStep rng room accepted room') (hover : room.state.IsOver) :
    room'.hands = room.hands ∧ room'.landlordPlayerId = room.landlordPlayerId ∧
      room'.baseCoin = room.baseCoin ∧ room'.lastActionSeq = room.lastActionSeq := by
  have hnot : ∀ {pid}, ¬ room.CanAct pid := fun hact =>
    hover.elim hact.notSettling hact.notFinished
  cases h with
  | unchanged => exact ⟨rfl, rfl, rfl, rfl⟩
  | accepted hact hrule => exact absurd hact hnot
  | rejected hact hrule => exact absurd hact hnot
  | presence => exact ⟨rfl, rfl, rfl, rfl⟩
  | settling => exact ⟨rfl, rfl, rfl, rfl⟩
  | finished => exact ⟨rfl, rfl, rfl, rfl⟩

/-- The step that ends the game. -/
lemma ends {request : PlayerActionRequest} {result : PlayerActionResult}
    (h : RoomStep rng room (some (request, result)) room') (htrio : room.HasTrio)
    (hwf : room.WellFormed) (hI : room.EndsOnce log) (hover : result.gameOver = true) :
    room'.state = .settling ∧ result.winnerPlayerId ∈ room.players ∧
      room'.hand result.winnerPlayerId = [] ∧
      ∀ q ∈ room.players, q ≠ result.winnerPlayerId → room'.hand q ≠ [] := by
  cases h with
  | @accepted playerId _ _ _ hact hrule =>
    obtain ⟨written, ended, hrule, rfl, rfl⟩ := hrule
    obtain rfl : ended = true := hover
    have hplayers := (Accepted.players ⟨written, true, hrule, rfl, rfl⟩).trans
      (startGame_players rng room)
    obtain ⟨hstate, hwinner, hothers⟩ := (hI.startGame rng hwf htrio).hands_ended hrule
    exact ⟨hstate, hact.mem, hwinner, fun q hq => hothers q (hplayers.symm ▸ hq)⟩

end RoomStep

namespace RoomManager

variable {rng : Shuffler} {m : RoomManager}

/-- Whatever happens to the room of a game that is over, no action is accepted there. -/
lemma rejected_of_closed {roomId : ℤ} (h : m.Closed roomId) (playerId : ℤ)
    (request : PlayerActionRequest) :
    (m.applyPlayerAction rng roomId playerId request).2.toOption = none ∧
      (m.applyTrusteeAction rng roomId playerId).2.toOption = none := by
  have haction : ∀ request,
      (m.applyPlayerAction rng roomId playerId request).2.toOption = none := by
    intro request
    cases hfind : m.rooms.find roomId with
    | none => simp [applyPlayerAction, hfind, Except.toOption]
    | some room =>
      have hnot : ¬ room.CanAct playerId := fun hact =>
        (h.ended room hfind).elim hact.notSettling hact.notFinished
      obtain ⟨err, herr⟩ := applyPlayerAction_of_not_canAct rng request hnot
      rw [applyPlayerAction_reply hfind, herr]
      rfl
  refine ⟨haction request, ?_⟩
  simp only [applyTrusteeAction]
  split
  · rfl
  · split
    · rfl
    · exact haction _

lemma Closed.run {roomId : ℤ} {m' : RoomManager} {ops : List RoomOp} (h : m.Closed roomId)
    (hrun : Run.exec (step rng) m ops = some m') : m'.Closed roomId := by
  refine Run.invariant (I := fun m => m.Closed roomId) ?_ h hrun
  intro m op m' hI hop
  obtain rfl := Run.total_eq_some.mp hop
  exact hI.apply rng op

/-- A game of three distinct players is over at most once. Until then everyone has cards in
`Playing`; at that moment only the winner has none; and from then on, as after any mark that settles
or finishes the room, every action is rejected and the game stays as it is. -/
theorem game_over_final {m₀ : RoomManager} {mode : ℤ} {players : List ℤ} {ops : List RoomOp}
    (hlen : players.length = 3) (hnd : players.Nodup)
    (hrun : Run.exec (step rng) (m₀.createRoom mode players).1 ops = some m) :
    let roomId := (m₀.createRoom mode players).2
    let log := actionsOn roomId
      (Run.history (step rng) (recordAccepted rng) (m₀.createRoom mode players).1 ops [])
    log.countP (·.result.gameOver) ≤ 1 ∧
    (∀ room, m.rooms.find roomId = some room → room.state = .playing →
      ∀ p ∈ players, room.hand p ≠ []) ∧
    (∀ op a, m.acceptedAction rng op = some a → a.roomId = roomId → a.result.gameOver = true →
      ∃ room, (m.apply rng op).rooms.find roomId = some room ∧ room.state = .settling ∧
        a.result.winnerPlayerId ∈ players ∧ room.hand a.result.winnerPlayerId = [] ∧
        ∀ q ∈ players, q ≠ a.result.winnerPlayerId → room.hand q ≠ []) ∧
    (∀ room, m.rooms.find roomId = some room → room.state = .settling ∨ room.state = .finished →
      ∀ later m', Run.exec (step rng) m later = some m' →
        (∀ playerId request,
          (m'.applyPlayerAction rng roomId playerId request).2.toOption = none ∧
          (m'.applyTrusteeAction rng roomId playerId).2.toOption = none) ∧
        ∀ room', m'.rooms.find roomId = some room' →
          (room'.state = .settling ∨ room'.state = .finished) ∧ room'.hands = room.hands ∧
          room'.landlordPlayerId = room.landlordPlayerId ∧ room'.baseCoin = room.baseCoin ∧
          room'.lastActionSeq = room.lastActionSeq) := by
  intro roomId log
  obtain ⟨room, ⟨hplayers, hwf, hI⟩, hlive⟩ := created_history
    (I := fun room log => room.players = players ∧ room.WellFormed ∧ room.EndsOnce log)
    ⟨rfl, wellFormed_newRoom _ _ _, endsOnce_newRoom _ _ _⟩
    (fun room accepted room' log hI h =>
      have htrio : room.HasTrio := ⟨hI.1.symm ▸ hlen, hI.1.symm ▸ hnd⟩
      ⟨h.players.trans hI.1, h.wellFormed htrio hI.2.1, h.endsOnce _ htrio hI.2.1 hI.2.2⟩) hrun
  have htrio : room.HasTrio := by
    rw [HasTrio, hplayers]
    exact ⟨hlen, hnd⟩
  refine ⟨hI.once, ?_, ?_, ?_⟩
  · intro room' hfind hstate p hp
    obtain rfl := hlive room' hfind
    exact hI.hands (Or.inr (Or.inr hstate)) p (hplayers.symm ▸ hp)
  · rintro op a ha hr hover
    obtain ⟨room₁, room', hfind, hfind', hstep⟩ := step_of_acceptedAction ha
    rw [hr] at hfind hfind'
    obtain rfl := hlive room₁ hfind
    rw [← hplayers]
    exact ⟨room', hfind', hstep.ends htrio hwf hI hover⟩
  · intro room₁ hfind hover later m' hlater
    have hclosed : m.Closed roomId := by
      refine ⟨(Table.find_bounds hfind).2, fun room₂ hfind' => ?_⟩
      obtain rfl := Option.some.inj (hfind.symm.trans hfind')
      exact hover
    have hfrozen := live_invariant
      (I := fun room' => room'.state.IsOver ∧ room'.hands = room₁.hands ∧
        room'.landlordPlayerId = room₁.landlordPlayerId ∧ room'.baseCoin = room₁.baseCoin ∧
        room'.lastActionSeq = room₁.lastActionSeq)
      (fun room accepted room' hI h => by
        obtain ⟨hover, hhands, hlandlord, hcoin, hseq⟩ := hI
        obtain ⟨hhands', hlandlord', hcoin', hseq'⟩ := h.frozen hover
        exact ⟨h.isOver hover, hhands'.trans hhands, hlandlord'.trans hlandlord,
          hcoin'.trans hcoin, hseq'.trans hseq⟩)
      hfind ⟨hover, rfl, rfl, rfl, rfl⟩ hlater
    exact ⟨rejected_of_closed (hclosed.run hlater), hfrozen⟩

/-- Player 2 becomes landlord and leads until one card is left. -/
def nearlyWonGame : List RoomOp :=
  let act (pid : ℤ) (request : PlayerActionRequest) : RoomOp := .applyPlayerAction 1 pid request
  let lead (cards : List ℤ) : List RoomOp :=
    [act 2 { actionType := .playCards, cards := cards }, act 3 { actionType := .pass },
      act 1 { actionType := .pass }]
  [act 1 { callScore := 3 }, act 1 { actionType := .robLandlord, rob := 0 },
      act 2 { actionType := .robLandlord, rob := 1 },
      act 3 { actionType := .robLandlord, rob := 0 }]
    ++ lead [13, 1, 28, 16, 4, 31, 19, 7, 34, 22, 10, 37] ++ lead [25, 51] ++ lead [52, 53]
    ++ lead [40] ++ lead [43] ++ lead [46]

/-- The last card of player 2. -/
def lastCard : RoomOp := .applyPlayerAction 1 2 { actionType := .playCards, cards := [49] }

/-- Everyone has cards until player 2 puts down the last one; then only player 2 has none, and no
action is accepted any more. -/
theorem game_over_final_in_game :
    let m := (createRoom {} 3 [1, 2, 3]).1
    (∃ m', Run.exec (step .sorted) m nearlyWonGame = some m' ∧
      (∃ room, m'.rooms.find 1 = some room ∧ room.state = .playing ∧
        ∀ p ∈ [1, 2, 3], room.hand p ≠ []) ∧
      ∃ a room, m'.acceptedAction .sorted lastCard = some a ∧ a.result.winnerPlayerId = 2 ∧
        (m'.apply .sorted lastCard).rooms.find 1 = some room ∧ room.state = .settling ∧
        room.hand 2 = [] ∧ room.hand 1 ≠ [] ∧ room.hand 3 ≠ []) ∧
    ∃ m' room, Run.exec (step .sorted) m (nearlyWonGame ++ [lastCard, .markFinished 1]) = some m' ∧
      m'.rooms.find 1 = some room ∧ room.state = .finished ∧
      (m'.applyTrusteeAction .sorted 1 3).2.toOption = none := by
  intro m
  constructor
  · have hlive : (Run.exec (step .sorted) m nearlyWonGame).any (fun m' =>
        (m'.rooms.find 1).any (fun room => room.state = .playing) ∧
        (m'.acceptedAction .sorted lastCard).any fun a =>
          a.roomId = 1 ∧ a.result.gameOver ∧ a.result.winnerPlayerId = 2) = true := by
      decide +kernel
    obtain ⟨m', hrun, hfacts⟩ := (Option.any_eq_true _ _).mp hlive
    obtain ⟨hroom, haction⟩ := of_decide_eq_true hfacts
    obtain ⟨room, hfind, hstate⟩ := (Option.any_eq_true _ _).mp hroom
    obtain ⟨a, ha, hover⟩ := (Option.any_eq_true _ _).mp haction
    obtain ⟨hroomId, hover, hwinner⟩ := of_decide_eq_true hover
    obtain ⟨-, hplaying, hends, -⟩ := game_over_final rfl (by decide) hrun
    have hstate' := of_decide_eq_true hstate
    obtain ⟨room', hfind', hsettling, -, hnone, hothers⟩ := hends lastCard a ha hroomId hover
    rw [hwinner] at hnone hothers
    exact ⟨m', hrun, ⟨room, hfind, hstate', hplaying room hfind hstate'⟩, a, room', ha, hwinner,
      hfind', hsettling, hnone, hothers 1 (by simp) (by decide), hothers 3 (by simp) (by decide)⟩
  · have hlive : ((Run.exec (step .sorted) m (nearlyWonGame ++ [lastCard, .markFinished 1])).bind
        fun m' => m'.rooms.find 1).any (fun room => room.state = .finished) = true := by
      decide +kernel
    obtain ⟨room, hroom, hstate⟩ := (Option.any_eq_true _ _).mp hlive
    obtain ⟨m', hrun, hfind⟩ := Option.bind_eq_some_iff.mp hroom
    have hfinished := of_decide_eq_true hstate
    refine ⟨m', room, hrun, hfind, hfinished, ?_⟩
    exact ((((game_over_final rfl (by decide) hrun).2.2.2 room hfind (Or.inr hfinished) [] m'
      rfl).1 3 {}).2)

end RoomManager

end DdzServer
