import DdzServer.Room.Cards

/-!
# The rules of an action

`ActionRule` lists what an accepted action can do to a room whose cards are dealt, and
`RejectRule` what a rejected one leaves behind. The two inversion theorems at the end are all that
later files use of `applyPlayerAction`.
-/

namespace DdzServer

/-- A request to call a score. -/
def PlayerActionRequest.IsCall (request : PlayerActionRequest) : Prop :=
  request.actionType = .callScore ∧ 0 ≤ request.callScore ∧ request.callScore ≤ 3

/-- A request to rob the landlord, or not to. -/
def PlayerActionRequest.IsRob (request : PlayerActionRequest) : Prop :=
  request.actionType = .robLandlord ∧ (request.rob = 0 ∨ request.rob = 1)

instance (request : PlayerActionRequest) : Decidable request.IsCall :=
  inferInstanceAs (Decidable (_ ∧ _))

instance (request : PlayerActionRequest) : Decidable request.IsRob :=
  inferInstanceAs (Decidable (_ ∧ _))

namespace Room

variable {rng : Shuffler} {room room' : Room} {playerId : ℤ} {request : PlayerActionRequest}

/-! ### Starting the game -/

lemma startGame_of_ne (h : room.state ≠ .waitStart) : room.startGame rng = room := if_neg h

/-- The first action enters `CallScore`, and of the rest only the cards can change. -/
lemma startGame_of_eq (rng : Shuffler) (h : room.state = .waitStart) :
    ∃ hands bottom dealt, room.startGame rng =
      { room with
        state := .callScore, hands := hands, landlordBottomCards := bottom, dealt := dealt } := by
  rw [startGame, if_pos h, dealCards]
  split_ifs
  · exact ⟨room.hands, room.landlordBottomCards, room.dealt, rfl⟩
  · exact ⟨_, _, _, rfl⟩

lemma startGame_state (rng : Shuffler) (h : room.state = .waitStart) :
    (room.startGame rng).state = .callScore := by
  obtain ⟨_, _, _, heq⟩ := startGame_of_eq rng h
  rw [heq]

/-- The deal of a room of three players. -/
lemma startGame_of_undealt (rng : Shuffler) (h : room.state = .waitStart)
    (hlen : room.players.length = 3) (hd : room.dealt = false) :
    room.startGame rng =
      let cards := rng.shuffle room.dealSeed deck
      { room with
        state := .callScore
        hands := dealHands room.players cards room.hands
        landlordBottomCards := [cards.getD 51 0, cards.getD 52 0, cards.getD 53 0]
        dealt := true } := by
  simp [startGame, h, dealCards, hlen, hd, dealSeed]

@[simp] lemma startGame_players (rng : Shuffler) (room : Room) :
    (room.startGame rng).players = room.players := by
  unfold startGame dealCards
  split_ifs <;> rfl

@[simp] lemma startGame_snapshotVersion (rng : Shuffler) (room : Room) :
    (room.startGame rng).snapshotVersion = room.snapshotVersion := by
  unfold startGame dealCards
  split_ifs <;> rfl

@[simp] lemma startGame_roomId (rng : Shuffler) (room : Room) :
    (room.startGame rng).roomId = room.roomId := by
  unfold startGame dealCards
  split_ifs <;> rfl

/-! ### Accepted actions -/

/-- `ActionRule room playerId request written over`: the room as an accepted action has written it,
before its version is bumped, and whether the game is over. -/
inductive ActionRule (room : Room) (playerId : ℤ) (request : PlayerActionRequest) :
    Room → Bool → Prop
  | callNext (hstate : room.state = .callScore) (hcall : request.IsCall)
      (hscore : request.callScore ≠ 3)
      (hnext : room.stateActionCount + 1 < room.players.length) :
      ActionRule room playerId request
        { room.recordCall playerId request.callScore with
          currentOperatorPlayerId := room.nextOperator playerId } false
  | callLast (hstate : room.state = .callScore) (hcall : request.IsCall)
      (hlast : request.callScore = 3 ∨ (room.players.length : ℤ) ≤ room.stateActionCount + 1) :
      ActionRule room playerId request (room.recordCall playerId request.callScore).endCalls false
  | robNext (hstate : room.state = .robLandlord) (hrob : request.IsRob)
      (hnext : room.stateActionCount + 1 < room.players.length) :
      ActionRule room playerId request
        { room.recordRob playerId request.rob with
          currentOperatorPlayerId := room.nextOperator playerId } false
  | robLast (hstate : room.state = .robLandlord) (hrob : request.IsRob)
      (hlast : (room.players.length : ℤ) ≤ room.stateActionCount + 1) (hand : List ℤ)
      (hhand : room.hands.lookup (room.recordRob playerId request.rob).finalLandlord = some hand) :
      ActionRule room playerId request
        ({ room.recordRob playerId request.rob with
            landlordPlayerId := (room.recordRob playerId request.rob).finalLandlord
          }.startPlaying hand) false
  | passNext (hstate : room.state = .playing) (htype : request.actionType = .pass)
      (htable : room.lastPlayCards ≠ []) (hlead : room.lastPlayPlayerId ≠ playerId)
      (hnext : room.consecutivePassCount + 1 < (room.players.length : ℤ) - 1) :
      ActionRule room playerId request
        { room with
          consecutivePassCount := room.consecutivePassCount + 1
          currentOperatorPlayerId := room.nextOperator playerId } false
  | passLast (hstate : room.state = .playing) (htype : request.actionType = .pass)
      (htable : room.lastPlayCards ≠ []) (hlead : room.lastPlayPlayerId ≠ playerId)
      (hlast : (room.players.length : ℤ) - 1 ≤ room.consecutivePassCount + 1) :
      ActionRule room playerId request room.clearTable false
  | play (hstate : room.state = .playing) (htype : request.actionType = .playCards)
      (hne : request.cards ≠ []) (hand : List ℤ) (hhand : room.hands.lookup playerId = some hand)
      (hvalid : (analyze request.cards).valid = true)
      (hbeats : room.beatsTable playerId request.cards = true)
      (hcards : request.cards.Subperm hand) (hrest : hand.diff request.cards ≠ []) :
      ActionRule room playerId request
        { room.putCards playerId request.cards (hand.diff request.cards) with
          currentOperatorPlayerId := room.nextOperator playerId } false
  | playLast (hstate : room.state = .playing) (htype : request.actionType = .playCards)
      (hne : request.cards ≠ []) (hand : List ℤ) (hhand : room.hands.lookup playerId = some hand)
      (hvalid : (analyze request.cards).valid = true)
      (hbeats : room.beatsTable playerId request.cards = true)
      (hcards : request.cards.Subperm hand) (hrest : hand.diff request.cards = []) :
      ActionRule room playerId request
        { room.putCards playerId request.cards [] with
          state := .settling
          currentOperatorPlayerId := playerId } true

/-- The result of an accepted action. -/
def actionResult (room : Room) (playerId : ℤ) (ended : Bool) : PlayerActionResult where
  snapshot := room.makeSnapshot
  gameOver := ended
  winnerPlayerId := if ended then playerId else 0
  baseCoin := if ended then max 1 room.baseCoin else 0

/-- A room written by a rule, as it is returned. -/
def Accepted (room : Room) (playerId : ℤ) (request : PlayerActionRequest) (room' : Room)
    (result : PlayerActionResult) : Prop :=
  ∃ written ended, ActionRule room playerId request written ended ∧
    room' = written.bumpSnapshotVersion true ∧ result = room'.actionResult playerId ended

/-- What an action leaves behind when its last checks reject it: only the call for the landlord's
hand comes after the room was written. -/
inductive RejectRule (room : Room) (playerId : ℤ) (request : PlayerActionRequest) : Room → Prop
  | unchanged (hcall : room.state = .callScore → ¬ request.IsCall) :
      RejectRule room playerId request room
  | noLandlordHand (hstate : room.state = .robLandlord) (hrob : request.IsRob)
      (hlast : (room.players.length : ℤ) ≤ room.stateActionCount + 1)
      (hhand : room.hands.lookup (room.recordRob playerId request.rob).finalLandlord = none) :
      RejectRule room playerId request
        { room.recordRob playerId request.rob with
          landlordPlayerId := (room.recordRob playerId request.rob).finalLandlord }

/-- The reply of a branch, judged by the rules. -/
def ObeysRules (room : Room) (playerId : ℤ) (request : PlayerActionRequest)
    (out : Room × ActionReply) : Prop :=
  match out.2 with
  | .ok result => room.Accepted playerId request out.1 result
  | .error _   => room.RejectRule playerId request out.1

lemma obeysRules_accept {written : Room} (h : ActionRule room playerId request written false) :
    room.ObeysRules playerId request written.accept :=
  ⟨written, false, h, rfl, rfl⟩

lemma obeysRules_reject (err : String) (h : room.state = .callScore → ¬ request.IsCall) :
    room.ObeysRules playerId request (room.reject err) :=
  RejectRule.unchanged h

lemma obeysRules_actCallScore (hstate : room.state = .callScore) :
    room.ObeysRules playerId request (room.actCallScore playerId request) := by
  unfold actCallScore
  dsimp only
  split_ifs with htype hscore hlast
  · exact obeysRules_reject _ fun _ hcall => htype hcall.1
  · refine obeysRules_reject _ fun _ hcall => ?_
    have := hcall.2
    omega
  · exact obeysRules_accept (.callLast hstate ⟨not_not.mp htype, by omega, by omega⟩ hlast)
  · obtain ⟨hne, hcount⟩ := not_or.mp hlast
    exact obeysRules_accept
      (.callNext hstate ⟨not_not.mp htype, by omega, by omega⟩ hne (not_le.mp hcount))

lemma obeysRules_actRobLandlord (hstate : room.state = .robLandlord) :
    room.ObeysRules playerId request (room.actRobLandlord playerId request) := by
  have hcall : room.state = .callScore → ¬ request.IsCall := by simp [hstate]
  unfold actRobLandlord
  dsimp only
  split_ifs with htype hflag hlast
  · exact obeysRules_reject _ hcall
  · exact obeysRules_reject _ hcall
  · have hrob : request.IsRob := ⟨not_not.mp htype, by omega⟩
    split
    next hhand => exact RejectRule.noLandlordHand hstate hrob hlast hhand
    next hand hhand => exact obeysRules_accept (.robLast hstate hrob hlast hand hhand)
  · exact obeysRules_accept (.robNext hstate ⟨not_not.mp htype, by omega⟩ (not_le.mp hlast))

lemma obeysRules_actPass (hstate : room.state = .playing) (htype : request.actionType = .pass) :
    room.ObeysRules playerId request (room.actPass playerId request) := by
  have hcall : room.state = .callScore → ¬ request.IsCall := by simp [hstate]
  unfold actPass
  dsimp only
  split_ifs with hcards htable hlead hlast
  · exact obeysRules_reject _ hcall
  · exact obeysRules_reject _ hcall
  · exact obeysRules_reject _ hcall
  · exact obeysRules_accept (.passLast hstate htype htable hlead hlast)
  · exact obeysRules_accept (.passNext hstate htype htable hlead (not_le.mp hlast))

lemma obeysRules_actPlayCards {hand : List ℤ} (hstate : room.state = .playing)
    (htype : request.actionType = .playCards) (hne : request.cards ≠ [])
    (hhand : room.hands.lookup playerId = some hand) :
    room.ObeysRules playerId request (room.actPlayCards playerId request.cards hand) := by
  have hcall : room.state = .callScore → ¬ request.IsCall := by simp [hstate]
  rw [actPlayCards, removeCards_eq]
  by_cases hcards : request.cards.Subperm hand
  · rw [if_pos hcards]
    dsimp only
    rw [if_neg (fun h : ¬ true = true => h rfl)]
    split_ifs with hvalid hbeats hrest
    · rw [hrest]
      exact ⟨_, true, .playLast hstate htype hne hand hhand hvalid hbeats hcards hrest, rfl, rfl⟩
    · exact obeysRules_accept (.play hstate htype hne hand hhand hvalid hbeats hcards hrest)
    · exact obeysRules_reject _ hcall
    · exact obeysRules_reject _ hcall
  · -- the hand is written back as it was
    have hsame : { room with hands := Finmap.insert playerId hand room.hands } = room := by
      rw [UnorderedMap.insert_lookup hhand]
    rw [if_neg hcards]
    dsimp only
    rw [hsame, if_pos Bool.false_ne_true]
    split_ifs
    · exact obeysRules_reject _ hcall
    · exact obeysRules_reject _ hcall
    · exact obeysRules_reject _ hcall

lemma obeysRules_actPlaying (hstate : room.state = .playing) :
    room.ObeysRules playerId request (room.actPlaying playerId request) := by
  have hcall : room.state = .callScore → ¬ request.IsCall := by simp [hstate]
  unfold actPlaying
  split_ifs with hpass htype hne
  · exact obeysRules_actPass hstate hpass
  · exact obeysRules_reject _ hcall
  · exact obeysRules_reject _ hcall
  · split
    next => exact obeysRules_reject _ hcall
    next hand hhand => exact obeysRules_actPlayCards hstate (not_not.mp htype) hne hhand

/-- It is the player's turn in a room that takes actions. -/
structure CanAct (room : Room) (playerId : ℤ) : Prop where
  mem : playerId ∈ room.players
  turn : room.currentOperatorPlayerId = playerId
  notSettling : room.state ≠ .settling
  notFinished : room.state ≠ .finished

instance (room : Room) (playerId : ℤ) : Decidable (room.CanAct playerId) :=
  decidable_of_iff (playerId ∈ room.players ∧ room.currentOperatorPlayerId = playerId ∧
    room.state ≠ .settling ∧ room.state ≠ .finished)
    ⟨fun h => ⟨h.1, h.2.1, h.2.2.1, h.2.2.2⟩, fun h => ⟨h.1, h.2, h.3, h.4⟩⟩

/-- Out of turn nothing happens. -/
lemma applyPlayerAction_of_not_canAct (rng : Shuffler) (request : PlayerActionRequest)
    (h : ¬ room.CanAct playerId) :
    ∃ err, room.applyPlayerAction rng playerId request = (room, .error err) := by
  by_cases hmem : playerId ∈ room.players
  · by_cases hturn : room.currentOperatorPlayerId = playerId
    · by_cases hstate : room.state = .settling ∨ room.state = .finished
      · exact ⟨"room state not allow action",
          by simp [applyPlayerAction, hmem, hturn, hstate, reject]⟩
      · obtain ⟨hs, hf⟩ := not_or.mp hstate
        exact absurd ⟨hmem, hturn, hs, hf⟩ h
    · exact ⟨"not player turn", by simp [applyPlayerAction, hmem, hturn, reject]⟩
  · exact ⟨"player not in room", by simp [applyPlayerAction, hmem, reject]⟩

/-- In turn the rules decide, once the cards are dealt. -/
lemma obeysRules_applyPlayerAction (rng : Shuffler) (request : PlayerActionRequest)
    (h : room.CanAct playerId) :
    (room.startGame rng).ObeysRules playerId request
      (room.applyPlayerAction rng playerId request) := by
  obtain ⟨hmem, hturn, hs, hf⟩ := h
  rw [applyPlayerAction, if_neg (not_not.mpr hmem), if_neg (not_not.mpr hturn),
    if_neg (not_or.mpr ⟨hs, hf⟩)]
  dsimp only
  split
  next hstate => exact obeysRules_actCallScore hstate
  next hstate => exact obeysRules_actRobLandlord hstate
  next hstate => exact obeysRules_actPlaying hstate
  next h₁ h₂ h₃ =>
    -- no other state is left after the start
    by_cases hw : room.state = .waitStart
    · exact absurd (startGame_state rng hw) h₁
    · rw [startGame_of_ne hw] at h₁ h₂ h₃
      cases hst : room.state <;> contradiction

/-- What an accepted action did. -/
theorem accepted_of_apply {result : PlayerActionResult}
    (h : room.applyPlayerAction rng playerId request = (room', .ok result)) :
    room.CanAct playerId ∧ (room.startGame rng).Accepted playerId request room' result := by
  by_cases hact : room.CanAct playerId
  · have hrules := obeysRules_applyPlayerAction rng request hact
    rw [h] at hrules
    exact ⟨hact, hrules⟩
  · obtain ⟨err, herr⟩ := applyPlayerAction_of_not_canAct rng request hact
    rw [herr] at h
    cases h

/-- What a rejected action left behind. -/
theorem rejected_of_apply {err : String}
    (h : room.applyPlayerAction rng playerId request = (room', .error err)) :
    room' = room ∨
      room.CanAct playerId ∧ (room.startGame rng).RejectRule playerId request room' := by
  by_cases hact : room.CanAct playerId
  · have hrules := obeysRules_applyPlayerAction rng request hact
    rw [h] at hrules
    exact Or.inr ⟨hact, hrules⟩
  · obtain ⟨err', herr⟩ := applyPlayerAction_of_not_canAct rng request hact
    rw [herr] at h
    exact Or.inl (congrArg Prod.fst h).symm

end Room

end DdzServer
