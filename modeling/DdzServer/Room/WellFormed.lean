import DdzServer.Room.RoomStep

/-!
# Well-formed rooms

What holds of a room of three distinct players at every moment: the cards are dealt exactly while
the game is on, everyone has a hand then, and the candidates for the landlord are players.
-/

namespace DdzServer

open Room UnorderedMap

/-- Rooms are created for three distinct players. -/
def Room.HasTrio (room : Room) : Prop := room.players.length = 3 ∧ room.players.Nodup

structure Room.WellFormed (room : Room) : Prop where
  undealt : room.state = .waitStart → room.dealt = false
  dealt : room.state = .callScore ∨ room.state = .robLandlord ∨ room.state = .playing →
    room.dealt = true
  hands : room.dealt = true → ∀ pid ∈ room.players, room.hands.lookup pid ≠ none
  caller : room.highestCallPlayerId = 0 ∨ room.highestCallPlayerId ∈ room.players
  landlord : room.landlordPlayerId = 0 ∨ room.landlordPlayerId ∈ room.players

namespace Room

variable {rng : Shuffler} {room room' : Room} {playerId : ℤ} {request : PlayerActionRequest}

lemma wellFormed_newRoom (roomId mode : ℤ) (players : List ℤ) :
    (newRoom roomId mode players).WellFormed where
  undealt _ := rfl
  dealt h := by simp [newRoom] at h
  hands h := by simp [newRoom] at h
  caller := Or.inl rfl
  landlord := Or.inl rfl

/-- Writing a hand takes no hand away. -/
lemma lookup_insert_ne_none {hands : UnorderedMap ℤ (List ℤ)} {a b : ℤ} (hand : List ℤ)
    (h : hands.lookup a ≠ none) : (Finmap.insert b hand hands).lookup a ≠ none := by
  rw [lookup_insert]
  split_ifs <;> simp_all

lemma highestCaller_mem (hne : room.players ≠ [])
    (h : room.highestCallPlayerId = 0 ∨ room.highestCallPlayerId ∈ room.players) :
    room.highestCaller ∈ room.players := by
  obtain ⟨p, ps, hps⟩ := List.exists_cons_of_ne_nil hne
  unfold highestCaller
  split_ifs with h0
  · simp [hps]
  · exact h.resolve_left fun hz => h0 ⟨hz, hne⟩

/-- The landlord is a player. -/
lemma finalLandlord_mem (hne : room.players ≠ [])
    (hcaller : room.highestCallPlayerId = 0 ∨ room.highestCallPlayerId ∈ room.players)
    (hlandlord : room.landlordPlayerId = 0 ∨ room.landlordPlayerId ∈ room.players) :
    room.finalLandlord ∈ room.players := by
  obtain ⟨p, ps, hps⟩ := List.exists_cons_of_ne_nil hne
  unfold finalLandlord
  dsimp only
  split_ifs with h1 h2 h3
  · simp [hps]
  · exact hcaller.resolve_left fun hz => h2 ⟨hz, hne⟩
  · simp [hps]
  · exact hlandlord.resolve_left h1

lemma HasTrio.ne_nil (h : room.HasTrio) : room.players ≠ [] := by
  rintro h0
  simp [HasTrio, h0] at h

/-- The landlord at the end of the robbing is a player. -/
lemma WellFormed.finalLandlord_mem (h : room.WellFormed) (htrio : room.HasTrio)
    (hp : playerId ∈ room.players) (rob : ℤ) :
    (room.recordRob playerId rob).finalLandlord ∈ room.players := by
  have hcaller : (room.recordRob playerId rob).highestCallPlayerId = 0 ∨
      (room.recordRob playerId rob).highestCallPlayerId ∈ room.players := h.caller
  refine Room.finalLandlord_mem htrio.ne_nil hcaller ?_
  change (if rob = 1 then playerId else room.landlordPlayerId) = 0 ∨
    (if rob = 1 then playerId else room.landlordPlayerId) ∈ room.players
  split_ifs
  · exact Or.inr hp
  · exact h.landlord

/-- In a room of three players the deal reaches everyone. -/
lemma WellFormed.startGame (h : room.WellFormed) (htrio : room.HasTrio) :
    (room.startGame rng).WellFormed := by
  by_cases hw : room.state = .waitStart
  · rw [startGame_of_undealt rng hw htrio.1 (h.undealt hw)]
    exact {
      undealt := fun hs => by cases hs
      dealt := fun _ => rfl
      hands := fun _ _ hp => lookup_dealHands_ne_none _ _ hp
      caller := h.caller
      landlord := h.landlord }
  · rwa [startGame_of_ne hw]

lemma WellFormed.rule {written : Room} {ended : Bool} (h : room.WellFormed)
    (htrio : room.HasTrio) (hp : playerId ∈ room.players)
    (hrule : ActionRule room playerId request written ended) : written.WellFormed := by
  -- a call makes a player the highest caller
  have hcaller : (room.recordCall playerId request.callScore).highestCallPlayerId = 0 ∨
      (room.recordCall playerId request.callScore).highestCallPlayerId ∈ room.players := by
    simp only [recordCall]
    split_ifs
    · exact Or.inr hp
    · exact h.caller
  have hlandlord : (room.recordRob playerId request.rob).landlordPlayerId = 0 ∨
      (room.recordRob playerId request.rob).landlordPlayerId ∈ room.players := by
    simp only [recordRob]
    split_ifs
    · exact Or.inr hp
    · exact h.landlord
  cases hrule with
  | callNext hstate =>
    exact {
      undealt := fun hs => by simp [recordCall, hstate] at hs
      dealt := fun _ => h.dealt (Or.inl hstate)
      hands := h.hands
      caller := hcaller
      landlord := h.landlord }
  | callLast hstate =>
    exact {
      undealt := fun hs => by cases hs
      dealt := fun _ => h.dealt (Or.inl hstate)
      hands := h.hands
      caller := Or.inr (highestCaller_mem htrio.ne_nil hcaller)
      landlord := h.landlord }
  | robNext hstate =>
    exact {
      undealt := fun hs => by simp [recordRob, hstate] at hs
      dealt := fun _ => h.dealt (Or.inr (Or.inl hstate))
      hands := h.hands
      caller := h.caller
      landlord := hlandlord }
  | robLast hstate hrob hlast hand hhand =>
    exact {
      undealt := fun hs => by cases hs
      dealt := fun _ => h.dealt (Or.inr (Or.inl hstate))
      hands := fun hd _ hq => lookup_insert_ne_none _ (h.hands hd _ hq)
      caller := h.caller
      landlord := Or.inr (h.finalLandlord_mem htrio hp request.rob) }
  | passNext hstate =>
    exact {
      undealt := fun hs => by simp [hstate] at hs
      dealt := fun _ => h.dealt (Or.inr (Or.inr hstate))
      hands := h.hands
      caller := h.caller
      landlord := h.landlord }
  | passLast hstate =>
    exact {
      undealt := fun hs => by simp [clearTable, hstate] at hs
      dealt := fun _ => h.dealt (Or.inr (Or.inr hstate))
      hands := h.hands
      caller := h.caller
      landlord := h.landlord }
  | play hstate =>
    exact {
      undealt := fun hs => by simp [putCards, hstate] at hs
      dealt := fun _ => h.dealt (Or.inr (Or.inr hstate))
      hands := fun hd _ hq => lookup_insert_ne_none _ (h.hands hd _ hq)
      caller := h.caller
      landlord := h.landlord }
  | playLast hstate =>
    exact {
      undealt := fun hs => by cases hs
      dealt := fun _ => h.dealt (Or.inr (Or.inr hstate))
      hands := fun hd _ hq => lookup_insert_ne_none _ (h.hands hd _ hq)
      caller := h.caller
      landlord := h.landlord }

lemma WellFormed.bump (h : room.WellFormed) (b : Bool) : (room.bumpSnapshotVersion b).WellFormed :=
  ⟨h.undealt, h.dealt, h.hands, h.caller, h.landlord⟩

/-- The landlord has a hand, so a rejected action wrote nothing but the deal. -/
lemma WellFormed.rejectRule (h : room.WellFormed) (htrio : room.HasTrio)
    (hp : playerId ∈ room.players) (hrule : room.RejectRule playerId request room') :
    room' = room ∧ (room.state = .callScore → ¬ request.IsCall) := by
  cases hrule with
  | unchanged hcall => exact ⟨rfl, hcall⟩
  | noLandlordHand hstate hrob hlast hhand =>
    exact absurd hhand
      (h.hands (h.dealt (Or.inr (Or.inl hstate))) _ (h.finalLandlord_mem htrio hp request.rob))

lemma hasTrio_startGame (rng : Shuffler) : (room.startGame rng).HasTrio ↔ room.HasTrio := by
  simp [HasTrio]

lemma Accepted.players {result : PlayerActionResult}
    (h : room.Accepted playerId request room' result) : room'.players = room.players := by
  obtain ⟨written, ended, hrule, rfl, -⟩ := h
  cases hrule <;> rfl

lemma RejectRule.players (h : room.RejectRule playerId request room') :
    room'.players = room.players := by
  cases h <;> rfl

end Room

namespace RoomStep

variable {rng : Shuffler} {room room' : Room}
  {accepted : Option (PlayerActionRequest × PlayerActionResult)}

/-- The players of a room never change. -/
lemma players (h : RoomStep rng room accepted room') : room'.players = room.players := by
  cases h with
  | unchanged => rfl
  | accepted _ hrule => rw [hrule.players, startGame_players]
  | rejected _ hrule => rw [hrule.players, startGame_players]
  | presence => rfl
  | settling => rfl
  | finished => rfl

lemma hasTrio (h : RoomStep rng room accepted room') : room'.HasTrio ↔ room.HasTrio := by
  rw [HasTrio, HasTrio, h.players]

theorem wellFormed (h : RoomStep rng room accepted room') (htrio : room.HasTrio)
    (hwf : room.WellFormed) : room'.WellFormed := by
  have htrio' := (hasTrio_startGame rng).mpr htrio
  cases h with
  | unchanged => exact hwf
  | accepted hact hrule =>
    obtain ⟨written, ended, hrule, rfl, -⟩ := hrule
    have hp := hact.mem
    rw [← startGame_players rng] at hp
    exact ((hwf.startGame htrio).rule htrio' hp hrule).bump true
  | rejected hact hrule =>
    have hp := hact.mem
    rw [← startGame_players rng] at hp
    rw [((hwf.startGame htrio).rejectRule htrio' hp hrule).1]
    exact hwf.startGame htrio
  | presence => exact ⟨hwf.undealt, hwf.dealt, hwf.hands, hwf.caller, hwf.landlord⟩
  | settling =>
    exact {
      undealt := fun hs => by cases hs
      dealt := fun hs => by rcases hs with hs | hs | hs <;> cases hs
      hands := hwf.hands
      caller := hwf.caller
      landlord := hwf.landlord }
  | finished =>
    exact {
      undealt := fun hs => by cases hs
      dealt := fun hs => by rcases hs with hs | hs | hs <;> cases hs
      hands := hwf.hands
      caller := hwf.caller
      landlord := hwf.landlord }

end RoomStep

/-- In every run from a manager without rooms, rooms of three distinct players are well-formed. -/
theorem RoomManager.wellFormed_of_run {rng : Shuffler} {m : RoomManager} {ops : List RoomOp}
    (hrun : Run.exec (step rng) {} ops = some m) {r : ℤ} {room : Room}
    (h : m.rooms.find r = some room) (htrio : room.HasTrio) : room.WellFormed := by
  refine room_invariant (I := fun room => room.HasTrio → room.WellFormed)
    (fun roomId mode players _ => wellFormed_newRoom roomId mode players) ?_
    (by simp) hrun r room h htrio
  intro room accepted room' hI hstep htrio'
  have htrio := hstep.hasTrio.mp htrio'
  exact hstep.wellFormed htrio (hI htrio)

end DdzServer
