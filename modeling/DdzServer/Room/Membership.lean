import DdzServer.Room.WellFormed

/-!
# Who is in which room

Only the creation and the destruction of rooms change the members of rooms and the index from
players to rooms.
-/

namespace DdzServer

open Room UnorderedMap

/-- The operations on a room that is there: they neither create nor destroy rooms. -/
def RoomOp.IsInside : RoomOp → Bool
  | .createRoom _ _ => false
  | .destroyRoom _ => false
  | _ => true

/-- The id of a room never changes. -/
lemma RoomStep.roomId {rng : Shuffler} {room room' : Room}
    {accepted : Option (PlayerActionRequest × PlayerActionResult)}
    (h : RoomStep rng room accepted room') : room'.roomId = room.roomId := by
  cases h with
  | unchanged => rfl
  | accepted _ hrule =>
    obtain ⟨written, ended, hrule, rfl, -⟩ := hrule
    cases hrule <;> exact startGame_roomId rng room
  | rejected _ hrule => cases hrule <;> exact startGame_roomId rng room
  | presence => rfl
  | settling => rfl
  | finished => rfl

namespace RoomManager

variable {m : RoomManager}

/-- The id a room stores, and its players. -/
def membersOf (m : RoomManager) (r : ℤ) : Option (ℤ × List ℤ) :=
  (m.rooms.find r).map fun room => (room.roomId, room.players)

lemma membersOf_eq_some {r : ℤ} {id : ℤ} {players : List ℤ} :
    m.membersOf r = some (id, players) ↔
      ∃ room, m.rooms.find r = some room ∧ room.roomId = id ∧ room.players = players := by
  simp [membersOf]

lemma membersOf_apply (rng : Shuffler) {op : RoomOp} (hop : op.IsInside) (r : ℤ) :
    (m.apply rng op).membersOf r = m.membersOf r := by
  cases h : m.rooms.find r with
  | none =>
    cases h' : (m.apply rng op).rooms.find r with
    | none => simp [membersOf, h, h']
    | some room =>
      obtain ⟨mode, players, rfl, -, -⟩ := find_apply_of_none rng h h'
      cases hop
  | some room =>
    rcases find_apply_of_some rng op h with ⟨rfl, -⟩ | hsome
    · cases hop
    · have hstep := step_of_find op h hsome
      simp only [membersOf, h, hsome, Option.map_some, hstep.roomId, hstep.players]

/-- Only a creation takes a room id. -/
lemma nextId_apply (rng : Shuffler) {op : RoomOp} (hop : op.IsInside) :
    (m.apply rng op).rooms.nextId = m.rooms.nextId := by
  have haction : ∀ roomId pid req,
      (m.applyPlayerAction rng roomId pid req).1.rooms.nextId = m.rooms.nextId := by
    intro roomId pid req
    unfold applyPlayerAction
    split <;> rfl
  have hmark : ∀ pid f, (m.onRoomOfPlayer pid f).1.rooms.nextId = m.rooms.nextId := by
    intro pid f
    unfold onRoomOfPlayer
    split
    · rfl
    · split <;> rfl
  cases op with
  | createRoom mode players => cases hop
  | destroyRoom roomId => cases hop
  | applyPlayerAction roomId pid req => exact haction roomId pid req
  | applyTrusteeAction roomId pid =>
    simp only [apply, applyTrusteeAction]
    split
    · rfl
    · split
      · rfl
      · exact haction _ _ _
  | markPlayerOffline pid offlineAtMs => exact hmark pid _
  | markPlayerOnline pid => exact hmark pid _
  | markPlayerTrustee pid trustee => exact hmark pid _
  | markSettling roomId =>
    simp only [apply, markSettling]
    split <;> rfl
  | markFinished roomId =>
    simp only [apply, markFinished]
    split <;> rfl

lemma playerToRoom_applyPlayerAction (rng : Shuffler) (m : RoomManager) (roomId pid : ℤ)
    (req : PlayerActionRequest) :
    (m.applyPlayerAction rng roomId pid req).1.playerToRoom = m.playerToRoom := by
  unfold applyPlayerAction
  split <;> rfl

lemma playerToRoom_onRoomOfPlayer (m : RoomManager) (pid : ℤ) (f : Room → Room × Bool) :
    (m.onRoomOfPlayer pid f).1.playerToRoom = m.playerToRoom := by
  unfold onRoomOfPlayer
  split
  · rfl
  · split <;> rfl

lemma playerToRoom_apply (rng : Shuffler) {op : RoomOp} (hop : op.IsInside) :
    (m.apply rng op).playerToRoom = m.playerToRoom := by
  cases op with
  | createRoom mode players => cases hop
  | destroyRoom roomId => cases hop
  | applyPlayerAction roomId pid req => exact playerToRoom_applyPlayerAction rng m roomId pid req
  | applyTrusteeAction roomId pid =>
    simp only [apply, applyTrusteeAction]
    split
    · rfl
    · split
      · rfl
      · exact playerToRoom_applyPlayerAction rng m _ _ _
  | markPlayerOffline pid offlineAtMs => exact playerToRoom_onRoomOfPlayer m pid _
  | markPlayerOnline pid => exact playerToRoom_onRoomOfPlayer m pid _
  | markPlayerTrustee pid trustee => exact playerToRoom_onRoomOfPlayer m pid _
  | markSettling roomId =>
    simp only [apply, markSettling]
    split <;> rfl
  | markFinished roomId =>
    simp only [apply, markFinished]
    split <;> rfl

lemma membersOf_createRoom (m : RoomManager) (mode : ℤ) (players : List ℤ) (r : ℤ) :
    (m.createRoom mode players).1.membersOf r =
      if r = m.rooms.nextId then some (r, players) else m.membersOf r := by
  rw [membersOf, find_createRoom]
  split_ifs with hr
  · rw [hr]
    rfl
  · rfl

lemma playerToRoom_createRoom (m : RoomManager) (mode : ℤ) (players : List ℤ) (p : ℤ) :
    (m.createRoom mode players).1.playerToRoom.lookup p =
      if p ∈ players then some m.rooms.nextId else m.playerToRoom.lookup p :=
  lookup_foldl_insert (fun _ => m.rooms.nextId) players m.playerToRoom p

lemma membersOf_destroyRoom (m : RoomManager) (roomId r : ℤ) :
    (m.destroyRoom roomId).1.membersOf r = if r = roomId then none else m.membersOf r := by
  rw [membersOf, find_destroyRoom]
  split_ifs <;> rfl

lemma playerToRoom_destroyRoom {roomId : ℤ} {id : ℤ} {players : List ℤ}
    (h : m.membersOf roomId = some (id, players)) (p : ℤ) :
    (m.destroyRoom roomId).1.playerToRoom.lookup p =
      if p ∈ players then none else m.playerToRoom.lookup p := by
  obtain ⟨room, hroom, -, rfl⟩ := membersOf_eq_some.mp h
  rw [destroyRoom, hroom]
  exact lookup_foldl_erase room.players m.playerToRoom p

/-- Nobody enters a room when a room is destroyed. -/
lemma playerToRoom_of_destroyRoom {roomId p r : ℤ}
    (h : (m.destroyRoom roomId).1.playerToRoom.lookup p = some r) :
    m.playerToRoom.lookup p = some r := by
  cases hmembers : m.membersOf roomId with
  | none =>
    rw [destroyRoom, Option.map_eq_none_iff.mp hmembers] at h
    exact h
  | some members =>
    rw [playerToRoom_destroyRoom hmembers] at h
    split_ifs at h
    exact h

end RoomManager

end DdzServer
