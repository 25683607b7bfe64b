import DdzServer.Lib.Run
import DdzServer.Lib.Table
import DdzServer.Room.Action

/-!
# The room manager

`service/room/room_manager.cpp`: the rooms, the index from players to rooms, and the operations on
both. Every operation holds the manager's mutex throughout, so a run is a list of operations;
`ApplyTrusteeAction` takes it twice and is one operation here, as it is for a single caller.
-/

namespace DdzServer

structure RoomManager where
  rooms : Table Room := .empty
  playerToRoom : UnorderedMap ℤ ℤ := ∅

/-- The room `CreateRoom` stores. -/
def newRoom (roomId mode : ℤ) (players : List ℤ) : Room where
  roomId := roomId
  mode := mode
  players := players
  currentOperatorPlayerId := players.headD 0
  onlineByPlayer := players.foldl (fun m pid => Finmap.insert pid true m) ∅
  trusteeByPlayer := players.foldl (fun m pid => Finmap.insert pid false m) ∅
  offlineAtMsByPlayer := players.foldl (fun m pid => Finmap.insert pid 0 m) ∅

namespace RoomManager

variable (rng : Shuffler)

def getRoomById (m : RoomManager) (roomId : ℤ) : Option Room := m.rooms.find roomId

def getRoomIdByPlayer (m : RoomManager) (playerId : ℤ) : Option ℤ := m.playerToRoom.lookup playerId

def buildSnapshotByRoomId (m : RoomManager) (roomId : ℤ) : Option RoomSnapshot :=
  (m.rooms.find roomId).map Room.makeSnapshot

def buildPushSnapshotV2ByRoomId (m : RoomManager) (roomId : ℤ) : Option RoomPushSnapshotV2 :=
  (m.rooms.find roomId).map Room.makePushSnapshotV2

def pickWinnerForOfflineLose (m : RoomManager) (roomId loserPlayerId : ℤ) : Option ℤ :=
  (m.rooms.find roomId).bind fun room => room.pickWinnerForOfflineLose loserPlayerId

def createRoom (m : RoomManager) (mode : ℤ) (players : List ℤ) : RoomManager × ℤ :=
  let roomId := m.rooms.nextId
  ({ rooms := m.rooms.insert (newRoom roomId mode players)
     playerToRoom := players.foldl (fun t pid => Finmap.insert pid roomId t) m.playerToRoom },
    roomId)

def destroyRoom (m : RoomManager) (roomId : ℤ) : RoomManager × Bool :=
  match m.rooms.find roomId with
  | none      => (m, false)
  | some room =>
    ({ rooms := m.rooms.delete roomId
       playerToRoom := room.players.foldl (fun t pid => Finmap.erase pid t) m.playerToRoom },
      true)

def applyPlayerAction (m : RoomManager) (roomId playerId : ℤ) (request : PlayerActionRequest) :
    RoomManager × Room.ActionReply :=
  match m.rooms.find roomId with
  | none      => (m, .error "room not found")
  | some room =>
    let (room', reply) := room.applyPlayerAction rng playerId request
    ({ m with rooms := m.rooms.set roomId room' }, reply)

def applyTrusteeAction (m : RoomManager) (roomId playerId : ℤ) : RoomManager × Room.ActionReply :=
  match m.rooms.find roomId with
  | none      => (m, .error "room not found")
  | some room =>
    match room.trusteeRequest playerId with
    | .error err   => (m, .error err)
    | .ok request  => m.applyPlayerAction rng roomId playerId request

/-- The operations that mark a player work on the room the index gives for the player. -/
def onRoomOfPlayer (m : RoomManager) (playerId : ℤ) (f : Room → Room × Bool) :
    RoomManager × Bool :=
  match m.playerToRoom.lookup playerId with
  | none        => (m, false)
  | some roomId =>
    match m.rooms.find roomId with
    | none      => (m, false)
    | some room => ({ m with rooms := m.rooms.set roomId (f room).1 }, (f room).2)

def markPlayerOffline (m : RoomManager) (playerId offlineAtMs : ℤ) : RoomManager × Bool :=
  m.onRoomOfPlayer playerId fun room => room.markPlayerOffline playerId offlineAtMs

def markPlayerOnline (m : RoomManager) (playerId : ℤ) : RoomManager × Bool :=
  m.onRoomOfPlayer playerId fun room => room.markPlayerOnline playerId

def markPlayerTrustee (m : RoomManager) (playerId : ℤ) (trustee : Bool) : RoomManager × Bool :=
  m.onRoomOfPlayer playerId fun room => room.markPlayerTrustee playerId trustee

def markSettling (m : RoomManager) (roomId : ℤ) : RoomManager × Bool :=
  match m.rooms.find roomId with
  | none      => (m, false)
  | some room => ({ m with rooms := m.rooms.set roomId room.markSettling }, true)

def markFinished (m : RoomManager) (roomId : ℤ) : RoomManager × Bool :=
  match m.rooms.find roomId with
  | none      => (m, false)
  | some room => ({ m with rooms := m.rooms.set roomId room.markFinished }, true)

end RoomManager

/-! ### Runs -/

/-- The operations of the manager that write. -/
inductive RoomOp where
  | createRoom (mode : ℤ) (players : List ℤ)
  | destroyRoom (roomId : ℤ)
  | applyPlayerAction (roomId playerId : ℤ) (request : PlayerActionRequest)
  | applyTrusteeAction (roomId playerId : ℤ)
  | markPlayerOffline (playerId offlineAtMs : ℤ)
  | markPlayerOnline (playerId : ℤ)
  | markPlayerTrustee (playerId : ℤ) (trustee : Bool)
  | markSettling (roomId : ℤ)
  | markFinished (roomId : ℤ)

namespace RoomManager

variable (rng : Shuffler)

/-- One operation. -/
def apply (m : RoomManager) : RoomOp → RoomManager
  | .createRoom mode players            => (m.createRoom mode players).1
  | .destroyRoom roomId                 => (m.destroyRoom roomId).1
  | .applyPlayerAction roomId pid req   => (m.applyPlayerAction rng roomId pid req).1
  | .applyTrusteeAction roomId pid      => (m.applyTrusteeAction rng roomId pid).1
  | .markPlayerOffline pid offlineAtMs  => (m.markPlayerOffline pid offlineAtMs).1
  | .markPlayerOnline pid               => (m.markPlayerOnline pid).1
  | .markPlayerTrustee pid trustee      => (m.markPlayerTrustee pid trustee).1
  | .markSettling roomId                => (m.markSettling roomId).1
  | .markFinished roomId                => (m.markFinished roomId).1

/-- The step function of a run. -/
def step : RoomManager → RoomOp → Option RoomManager := Run.total (apply rng)

/-- An action that was accepted, with what it returned. -/
structure AcceptedAction where
  roomId : ℤ
  playerId : ℤ
  request : PlayerActionRequest
  result : PlayerActionResult

/-- The action an operation makes, if it makes one and the action is accepted. -/
def acceptedAction (m : RoomManager) : RoomOp → Option AcceptedAction
  | .applyPlayerAction roomId pid req =>
    match (m.applyPlayerAction rng roomId pid req).2 with
    | .ok result => some ⟨roomId, pid, req, result⟩
    | .error _   => none
  | .applyTrusteeAction roomId pid =>
    match m.rooms.find roomId with
    | none      => none
    | some room =>
      match room.trusteeRequest pid, (m.applyTrusteeAction rng roomId pid).2 with
      | .ok req, .ok result => some ⟨roomId, pid, req, result⟩
      | _,       _          => none
  | _ => none

/-- The history of the accepted actions, oldest first. -/
def recordAccepted (m : RoomManager) (op : RoomOp) (_ : RoomManager) (log : List AcceptedAction) :
    List AcceptedAction :=
  log ++ (m.acceptedAction rng op).toList

end RoomManager

/-! ### One room of the manager -/

/-- What an operation can be for one room. -/
inductive RoomEvent where
  | action (playerId : ℤ) (request : PlayerActionRequest)
  | offline (playerId offlineAtMs : ℤ)
  | online (playerId : ℤ)
  | trustee (playerId : ℤ) (trustee : Bool)
  | settling
  | finished

def Room.apply (rng : Shuffler) (room : Room) : RoomEvent → Room
  | .action pid req          => (room.applyPlayerAction rng pid req).1
  | .offline pid offlineAtMs => (room.markPlayerOffline pid offlineAtMs).1
  | .online pid              => (room.markPlayerOnline pid).1
  | .trustee pid trustee     => (room.markPlayerTrustee pid trustee).1
  | .settling                => room.markSettling
  | .finished                => room.markFinished

namespace RoomManager

/-- What an operation is for the room with the id `r`. -/
def event (m : RoomManager) (r : ℤ) (room : Room) : RoomOp → Option RoomEvent
  | .createRoom _ _ => none
  | .destroyRoom _ => none
  | .applyPlayerAction roomId pid req => if roomId = r then some (.action pid req) else none
  | .applyTrusteeAction roomId pid =>
    if roomId = r then (room.trusteeRequest pid).toOption.map (.action pid) else none
  | .markPlayerOffline pid offlineAtMs =>
    if m.playerToRoom.lookup pid = some r then some (.offline pid offlineAtMs) else none
  | .markPlayerOnline pid =>
    if m.playerToRoom.lookup pid = some r then some (.online pid) else none
  | .markPlayerTrustee pid trustee =>
    if m.playerToRoom.lookup pid = some r then some (.trustee pid trustee) else none
  | .markSettling roomId => if roomId = r then some .settling else none
  | .markFinished roomId => if roomId = r then some .finished else none

variable {rng : Shuffler} {m : RoomManager}

lemma find_applyPlayerAction (rng : Shuffler) (m : RoomManager) (roomId pid : ℤ)
    (req : PlayerActionRequest) (r : ℤ) :
    (m.applyPlayerAction rng roomId pid req).1.rooms.find r =
      if roomId = r then (m.rooms.find r).map fun room => (room.applyPlayerAction rng pid req).1
      else m.rooms.find r := by
  unfold applyPlayerAction
  split
  next h =>
    split_ifs with hr
    · rw [← hr, h]
      rfl
    · rfl
  next room h =>
    exact Table.find_set_map h (fun room => (room.applyPlayerAction rng pid req).1) r

lemma find_applyTrusteeAction (rng : Shuffler) (m : RoomManager) (roomId pid : ℤ) {r : ℤ}
    {room : Room} (h : m.rooms.find r = some room) :
    (m.applyTrusteeAction rng roomId pid).1.rooms.find r =
      some
        (((m.event r room (.applyTrusteeAction roomId pid)).map (room.apply rng)).getD room) := by
  simp only [applyTrusteeAction, event]
  by_cases hr : roomId = r
  · subst hr
    rw [h]
    dsimp only
    cases room.trusteeRequest pid with
    | error err => simp [h, Except.toOption]
    | ok req => simp [find_applyPlayerAction, h, Except.toOption, Room.apply]
  · rw [if_neg hr]
    split
    · exact h
    · split
      · exact h
      · rw [find_applyPlayerAction, if_neg hr, h]
        rfl

lemma find_onRoomOfPlayer (m : RoomManager) (pid : ℤ) (f : Room → Room × Bool) (r : ℤ) :
    (m.onRoomOfPlayer pid f).1.rooms.find r =
      if m.playerToRoom.lookup pid = some r then (m.rooms.find r).map fun room => (f room).1
      else m.rooms.find r := by
  unfold onRoomOfPlayer
  split
  next h => simp [h]
  next roomId h =>
    rw [h]
    simp only [Option.some.injEq]
    split
    next hfind =>
      split_ifs with hr
      · rw [← hr, hfind]
        rfl
      · rfl
    next room hfind => exact Table.find_set_map hfind (fun room => (f room).1) r

lemma find_markSettling (m : RoomManager) (roomId r : ℤ) :
    (m.markSettling roomId).1.rooms.find r =
      if roomId = r then (m.rooms.find r).map Room.markSettling else m.rooms.find r := by
  unfold markSettling
  split
  next h =>
    split_ifs with hr
    · rw [← hr, h]
      rfl
    · rfl
  next room h => exact Table.find_set_map h Room.markSettling r

lemma find_markFinished (m : RoomManager) (roomId r : ℤ) :
    (m.markFinished roomId).1.rooms.find r =
      if roomId = r then (m.rooms.find r).map Room.markFinished else m.rooms.find r := by
  unfold markFinished
  split
  next h =>
    split_ifs with hr
    · rw [← hr, h]
      rfl
    · rfl
  next room h => exact Table.find_set_map h Room.markFinished r

lemma find_createRoom (m : RoomManager) (mode : ℤ) (players : List ℤ) (r : ℤ) :
    (m.createRoom mode players).1.rooms.find r =
      if r = m.rooms.nextId then some (newRoom m.rooms.nextId mode players)
      else m.rooms.find r :=
  Table.find_insert _ _ _

lemma find_destroyRoom (m : RoomManager) (roomId r : ℤ) :
    (m.destroyRoom roomId).1.rooms.find r = if r = roomId then none else m.rooms.find r := by
  unfold destroyRoom
  split
  next h =>
    split_ifs with hr
    · rw [hr, h]
    · rfl
  next room h => exact Table.find_delete _ _ _

/-- Room ids are handed out in order. -/
lemma nextId_le_apply (rng : Shuffler) (m : RoomManager) (op : RoomOp) :
    m.rooms.nextId ≤ (m.apply rng op).rooms.nextId := by
  have haction : ∀ roomId pid req,
      (m.applyPlayerAction rng roomId pid req).1.rooms.nextId = m.rooms.nextId := by
    intro roomId pid req
    unfold applyPlayerAction
    split <;> rfl
  have hmark : ∀ pid f, (m.onRoomOfPlayer pid f).1.rooms.nextId = m.rooms.nextId := by
    intro pid f
    unfold onRoomOfPlayer
    split
    · rfl
    · split <;> rfl
  cases op with
  | createRoom mode players => simp [apply, createRoom]
  | destroyRoom roomId =>
    refine le_of_eq ?_
    simp only [apply, destroyRoom]
    split <;> rfl
  | applyPlayerAction roomId pid req => exact (haction roomId pid req).ge
  | applyTrusteeAction roomId pid =>
    refine le_of_eq ?_
    simp only [apply, applyTrusteeAction]
    split
    · rfl
    · split
      · rfl
      · exact (haction _ _ _).symm
  | markPlayerOffline pid offlineAtMs => exact (hmark pid _).ge
  | markPlayerOnline pid => exact (hmark pid _).ge
  | markPlayerTrustee pid trustee => exact (hmark pid _).ge
  | markSettling roomId =>
    refine le_of_eq ?_
    simp only [apply, markSettling]
    split <;> rfl
  | markFinished roomId =>
    refine le_of_eq ?_
    simp only [apply, markFinished]
    split <;> rfl

/-- A live room before an operation is destroyed by it, or does what the operation is for it. -/
theorem find_apply_of_some (rng : Shuffler) (op : RoomOp) {r : ℤ} {room : Room}
    (h : m.rooms.find r = some room) :
    op = .destroyRoom r ∧ (m.apply rng op).rooms.find r = none ∨
      (m.apply rng op).rooms.find r =
        some (((m.event r room op).map (room.apply rng)).getD room) := by
  cases op with
  | createRoom mode players =>
    refine Or.inr ?_
    have hr : r ≠ m.rooms.nextId := ne_of_lt (Table.find_bounds h).2
    rw [apply, find_createRoom, if_neg hr, h]
    rfl
  | destroyRoom roomId =>
    rw [apply, find_destroyRoom]
    split_ifs with hr
    · exact Or.inl ⟨by rw [hr], rfl⟩
    · exact Or.inr h
  | applyPlayerAction roomId pid req =>
    refine Or.inr ?_
    rw [apply, find_applyPlayerAction, h, event]
    split_ifs <;> rfl
  | applyTrusteeAction roomId pid => exact Or.inr (find_applyTrusteeAction rng m roomId pid h)
  | markPlayerOffline pid offlineAtMs =>
    refine Or.inr ?_
    rw [apply, markPlayerOffline, find_onRoomOfPlayer, h, event]
    split_ifs <;> rfl
  | markPlayerOnline pid =>
    refine Or.inr ?_
    rw [apply, markPlayerOnline, find_onRoomOfPlayer, h, event]
    split_ifs <;> rfl
  | markPlayerTrustee pid trustee =>
    refine Or.inr ?_
    rw [apply, markPlayerTrustee, find_onRoomOfPlayer, h, event]
    split_ifs <;> rfl
  | markSettling roomId =>
    refine Or.inr ?_
    rw [apply, find_markSettling, h, event]
    split_ifs <;> rfl
  | markFinished roomId =>
    refine Or.inr ?_
    rw [apply, find_markFinished, h, event]
    split_ifs <;> rfl

/-- What an operation is for a live room is done to it. -/
lemma find_apply_of_event (rng : Shuffler) {op : RoomOp} {r : ℤ} {room : Room} {ev : RoomEvent}
    (h : m.rooms.find r = some room) (hev : m.event r room op = some ev) :
    (m.apply rng op).rooms.find r = some (room.apply rng ev) := by
  rcases find_apply_of_some rng op h with ⟨rfl, -⟩ | hsome
  · cases hev
  · rw [hsome, hev]
    rfl

/-- A room that appears is the one just created. -/
theorem find_apply_of_none (rng : Shuffler) {op : RoomOp} {r : ℤ} {room : Room}
    (h : m.rooms.find r = none) (h' : (m.apply rng op).rooms.find r = some room) :
    ∃ mode players, op = .createRoom mode players ∧ r = m.rooms.nextId ∧
      room = newRoom r mode players := by
  cases op with
  | createRoom mode players =>
    rw [apply, find_createRoom] at h'
    split_ifs at h' with hr
    · exact ⟨mode, players, rfl, hr, hr ▸ (Option.some.inj h').symm⟩
    · rw [h] at h'
      cases h'
  | destroyRoom roomId =>
    rw [apply, find_destroyRoom, h, ite_self] at h'
    cases h'
  | applyPlayerAction roomId pid req =>
    rw [apply, find_applyPlayerAction, h, Option.map_none, ite_self] at h'
    cases h'
  | applyTrusteeAction roomId pid =>
    simp only [apply, applyTrusteeAction] at h'
    split at h'
    · rw [h] at h'
      cases h'
    · split at h'
      · rw [h] at h'
        cases h'
      · rw [find_applyPlayerAction, h, Option.map_none, ite_self] at h'
        cases h'
  | markPlayerOffline pid offlineAtMs =>
    rw [apply, markPlayerOffline, find_onRoomOfPlayer, h, Option.map_none, ite_self] at h'
    cases h'
  | markPlayerOnline pid =>
    rw [apply, markPlayerOnline, find_onRoomOfPlayer, h, Option.map_none, ite_self] at h'
    cases h'
  | markPlayerTrustee pid trustee =>
    rw [apply, markPlayerTrustee, find_onRoomOfPlayer, h, Option.map_none, ite_self] at h'
    cases h'
  | markSettling roomId =>
    rw [apply, find_markSettling, h, Option.map_none, ite_self] at h'
    cases h'
  | markFinished roomId =>
    rw [apply, find_markFinished, h, Option.map_none, ite_self] at h'
    cases h'

end RoomManager

end DdzServer
