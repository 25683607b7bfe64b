import DdzServer.Room.LaterRooms
import DdzServer.Server.LobbyAgreement
import DdzServer.Server.RoomPush

/-!
# Snapshots on their way

The room store takes every snapshot that arrives, whatever its version. So a browser shows the
newest one as long as the snapshots of a room are sent to its connection in the order of their
versions. The handlers send them outside of all locks, player by player, and do not see to that.
-/

namespace DdzServer

open Interleaving Inbox

/-! ### What the browser keeps -/

namespace Client

/-- The snapshot that a message puts into the room store. -/
def Message.base : Message → Option RoomSnapshotBase
  | .push .roomSnapshotNotify body => (receivedBody body).map parseRoomSnapshotBody
  | .push .roomStatePush body      => (receivedBody body).map parseRoomSnapshotBody
  | .push .roomStatePushV2 body    =>
    (receivedBody body).map fun text => (parseRoomPushV2Body text).toRoomSnapshotBase
  | _                              => none

/-- The snapshot that the room store shows. -/
def Browser.base (b : Browser) : RoomSnapshotBase := b.stores.room.base

lemma base_handleMessage (b : Browser) (msg : Message) :
    (b.handleMessage msg).base = msg.base.getD b.base := by
  cases msg with
  | push msg body =>
    rw [Browser.handleMessage]
    cases hbody : receivedBody body with
    | none => cases msg <;> simp [Message.base, hbody]
    | some text => cases msg <;> simp [Message.base, hbody, Browser.base, Stores.handlePush,
        RoomStore.setBase, RoomStore.setV2]
  | response seqId body =>
    rw [Browser.handleMessage]
    split
    next request _ _ =>
      cases request with
      | startMatch =>
        simp only [Browser.base, Stores.answered, Stores.matchStarted, Message.base]
        split_ifs <;> rfl
      | cancelMatch =>
        simp only [Browser.base, Stores.answered, Stores.matchCancelled, Message.base]
        split_ifs <;> rfl
    · rfl

end Client

/-! ### What the server sends -/

namespace RoomMessage

variable {msg msg' : RoomMessage}

lemma roomId_mem_fields (msg : RoomMessage) :
    (str "room_id", toStr msg.snapshot.roomId) ∈ msg.fields :=
  msg.subset_fields List.mem_cons_self

lemma snapshotVersion_mem_fields (msg : RoomMessage) :
    (str "snapshot_version", toStr msg.snapshot.snapshotVersion) ∈ msg.fields :=
  msg.subset_fields (by simp [roomStatePushFields])

/-- A field that two messages have in common has one number. -/
lemma number_eq (h : msg.snapshot.PlainTexts) (h' : msg'.snapshot.PlainTexts)
    (hbody : msg.body = msg'.body) {name : String} {n n' : ℤ}
    (hname : Json.jsStr name = JsString.ofAscii (str name))
    (hmem : (str name, toStr n) ∈ msg.fields) (hmem' : (str name, toStr n') ∈ msg'.fields) :
    n = n' := by
  have hget := get_of_mem h hname hmem
  rw [hbody, get_of_mem h' hname hmem', Option.some.injEq] at hget
  have htext : toStr n' = toStr n := ofAscii_injective hget
  exact (denotes_toStr n).unique (htext ▸ denotes_toStr n')

/-- The browser keeps the room and the version of a snapshot that it reads exactly. -/
lemma base_message (h : msg.snapshot.PlainTexts) (hroom : |msg.snapshot.roomId| ≤ 2 ^ 53)
    (hversion : |msg.snapshot.snapshotVersion| ≤ 2 ^ 53) :
    ∃ b, (Notification.room msg).message.base = some b ∧ b.roomId = msg.snapshot.roomId ∧
      b.snapshotVersion = msg.snapshot.snapshotVersion := by
  refine ⟨Client.parseRoomSnapshotBody (JsString.ofAscii msg.body), ?_, ?_, ?_⟩
  · have hbody := receivedBody_body h
    cases msg with
    | snapshotNotify snapshot => exact congrArg (Option.map _) hbody
    | statePush snapshot => exact congrArg (Option.map _) hbody
    | statePushV2 snapshot => exact congrArg (Option.map _) hbody
  · have hget := get_of_mem h (by decide) msg.roomId_mem_fields
    simp only [Client.parseRoomSnapshotBody, hget, parseI64_toStr hroom]
  · have hget := get_of_mem h (by decide) msg.snapshotVersion_mem_fields
    simp only [Client.parseRoomSnapshotBody, hget, parseI64_toStr hversion]

end RoomMessage

namespace Client.Message

/-- The message brings a snapshot of the room with the version. -/
def Brings (msg : Client.Message) (roomId version : ℤ) : Prop :=
  ∃ message : RoomMessage, message.snapshot.PlainTexts ∧ msg = (Notification.room message).message ∧
    message.snapshot.roomId = roomId ∧ message.snapshot.snapshotVersion = version

/-- The browser keeps what the message brings. -/
def IsRead (msg : Client.Message) : Prop :=
  ∀ roomId version, msg.Brings roomId version ↔
    ∃ b, msg.base = some b ∧ b.roomId = roomId ∧ b.snapshotVersion = version

/-- The message has nothing to do with snapshots. -/
def IsSilent (msg : Client.Message) : Prop :=
  msg.base = none ∧ ∀ roomId version, ¬ msg.Brings roomId version

lemma IsSilent.isRead {msg : Client.Message} (h : msg.IsSilent) : msg.IsRead := by
  refine fun roomId version => iff_of_false (h.2 roomId version) ?_
  rintro ⟨b, hb, -⟩
  simp [h.1] at hb

/-- Only three notifications bring snapshots. -/
lemma isSilent_push (push : Client.Push) (body : CppString) (hnotify : push ≠ .roomSnapshotNotify)
    (hpush : push ≠ .roomStatePush) (hpushV2 : push ≠ .roomStatePushV2) :
    (Client.Message.push push body).IsSilent := by
  refine ⟨?_, fun roomId version h => ?_⟩
  · cases push <;> first | rfl | contradiction
  · obtain ⟨message, -, hmsg, -⟩ := h
    have heq := (Client.Message.push.inj hmsg).1
    cases message with
    | snapshotNotify snapshot => exact hnotify heq
    | statePush snapshot => exact hpush heq
    | statePushV2 snapshot => exact hpushV2 heq

lemma isSilent_response (seqId : ℤ) (body : CppString) :
    (Client.Message.response seqId body).IsSilent := by
  refine ⟨rfl, fun roomId version h => ?_⟩
  obtain ⟨message, -, hmsg, -⟩ := h
  cases hmsg

/-- The room and the version are in the message. -/
lemma brings_message {message : RoomMessage} (h : message.snapshot.PlainTexts)
    {roomId version : ℤ} :
    (Notification.room message).message.Brings roomId version ↔
      message.snapshot.roomId = roomId ∧ message.snapshot.snapshotVersion = version := by
  refine ⟨?_, fun heq => ⟨message, h, rfl, heq⟩⟩
  rintro ⟨message', h', hmsg, rfl, rfl⟩
  have hbody : message.body = message'.body := (Client.Message.push.inj hmsg).2
  exact ⟨RoomMessage.number_eq h h' hbody (by decide) message.roomId_mem_fields
      message'.roomId_mem_fields,
    RoomMessage.number_eq h h' hbody (by decide) message.snapshotVersion_mem_fields
      message'.snapshotVersion_mem_fields⟩

/-- A message that the browser reads exactly. -/
lemma isRead_message {message : RoomMessage} (h : message.snapshot.PlainTexts)
    {b : Client.RoomSnapshotBase} (hb : (Notification.room message).message.base = some b)
    (hroom : b.roomId = message.snapshot.roomId)
    (hversion : b.snapshotVersion = message.snapshot.snapshotVersion) :
    (Notification.room message).message.IsRead := by
  intro roomId version
  rw [brings_message h, hb]
  simp [hroom, hversion]

end Client.Message

lemma Notification.isSilent {n : Notification} (h : ∀ message, n ≠ .room message) :
    n.message.IsSilent := by
  cases n with
  | room message => exact absurd rfl (h message)
  | matchSuccess => exact Client.Message.isSilent_push .matchSuccessNotify _ nofun nofun nofun
  | matchTimeout => exact Client.Message.isSilent_push .matchTimeoutNotify _ nofun nofun nofun
  | privateHand => exact Client.Message.isSilent_push .privateHandNotify _ nofun nofun nofun
  | gameOver => exact Client.Message.isSilent_push .gameOverNotify _ nofun nofun nofun
  | gameResult => exact Client.Message.isSilent_push .gameResultPush _ nofun nofun nofun

/-! ### What the handlers still have to send -/

namespace RoomManager

/-- The room is no future one, and has come as far as the version. -/
def Knows (m : RoomManager) (roomId version : ℤ) : Prop :=
  roomId < m.rooms.nextId ∧ ∀ room, m.rooms.find roomId = some room → version ≤ room.snapshotVersion

/-- The snapshot is the one of its room now. -/
def Shows (m : RoomManager) (snapshot : RoomSnapshot) : Prop :=
  ∃ room, m.rooms.find snapshot.roomId = some room ∧ snapshot = room.makeSnapshot

variable {m m' : RoomManager} {roomId version : ℤ} {snapshot : RoomSnapshot}

lemma Knows.later (h : m.Knows roomId version) (hlater : m.Later m') : m'.Knows roomId version := by
  refine ⟨lt_of_lt_of_le h.1 hlater.nextId, fun room' hfind' => ?_⟩
  obtain ⟨room, hfind, -, -, hversion⟩ := hlater.old roomId room' h.1 hfind'
  exact (h.2 room hfind).trans hversion

lemma Shows.knows (h : m.Shows snapshot) : m.Knows snapshot.roomId snapshot.snapshotVersion := by
  obtain ⟨room, hfind, rfl⟩ := h
  refine ⟨(Table.find_bounds hfind).2, fun room' hfind' => ?_⟩
  obtain rfl := Option.some.inj (hfind.symm.trans hfind')
  exact le_refl _

lemma Shows.plainTexts (h : m.Shows snapshot) : snapshot.PlainTexts := by
  obtain ⟨room, -, rfl⟩ := h
  exact room.makeSnapshot_plainTexts

/-- Nothing that the room has come to is newer. -/
lemma Shows.le (h : m.Shows snapshot) (hknows : m.Knows snapshot.roomId version) :
    version ≤ snapshot.snapshotVersion := by
  obtain ⟨room, hfind, heq⟩ := h
  rw [heq]
  exact hknows.2 room hfind

end RoomManager

namespace SendTask

/-- The snapshot of a task. -/
def snapshot : SendTask → Option RoomSnapshot
  | .notify _ (.room message) => some message.snapshot
  | .notifyRoom _ message     => some message.snapshot
  | _                         => none

/-- The snapshot that a task sends to the player, as the rooms are now. -/
def snapshotFor (rooms : RoomManager) (playerId : ℤ) : SendTask → Option RoomSnapshot
  | .notify p (.room message)  => if p = playerId then some message.snapshot else none
  | .notifyRoom roomId message =>
    (rooms.getRoomById roomId).bind fun room =>
      if playerId ∈ room.players then some message.snapshot else none
  | _                          => none

/-- The task makes a snapshot when its turn comes. -/
def IsBuild : SendTask → Prop
  | .buildPushSnapshotV2ByRoomId _ => True
  | _                              => False

/-- A task and a later one of the same handler do not send snapshots of a room in the wrong
order. -/
structure InOrder (t t' : SendTask) : Prop where
  built : t.IsBuild → t'.snapshot = none
  versions : ∀ s s', t.snapshot = some s → t'.snapshot = some s' → s.roomId = s'.roomId →
    s.snapshotVersion ≤ s'.snapshotVersion

/-- The room of a task is no future one, and its snapshot can be read and is known. -/
structure Known (rooms : RoomManager) (t : SendTask) : Prop where
  room : ∀ roomId message, t = .notifyRoom roomId message → roomId < rooms.rooms.nextId
  snapshot : ∀ s, t.snapshot = some s →
    s.PlainTexts ∧ rooms.Knows s.roomId s.snapshotVersion

variable {rooms rooms' : RoomManager} {t t' : SendTask} {p : ℤ} {s : RoomSnapshot}

lemma snapshot_of_snapshotFor (h : t.snapshotFor rooms p = some s) : t.snapshot = some s := by
  cases t with
  | notify q n =>
    cases n with
    | room message =>
      simp only [snapshotFor] at h
      split_ifs at h
      exact h
    | _ => cases h
  | notifyRoom roomId message =>
    obtain ⟨room, -, hroom⟩ := Option.bind_eq_some_iff.mp h
    split_ifs at hroom
    exact hroom
  | _ => cases h

/-- Tasks before one without a snapshot. -/
lemma inOrder_silent (t : SendTask) {t' : SendTask} (h : t'.snapshot = none) : t.InOrder t' :=
  ⟨fun _ => h, fun s s' _ hs => by simp [h] at hs⟩

lemma IsBuild.snapshot (h : t.IsBuild) : t.snapshot = none := by
  cases t with
  | buildPushSnapshotV2ByRoomId roomId => rfl
  | _ => exact h.elim

lemma known_of_silent (h : t.snapshot = none) : t.Known rooms where
  room roomId message ht := by
    rw [ht] at h
    cases h
  snapshot s hs := by simp [h] at hs

lemma Known.later (h : t.Known rooms) (hlater : rooms.Later rooms') : t.Known rooms' where
  room roomId message ht := lt_of_lt_of_le (h.room roomId message ht) hlater.nextId
  snapshot s hs := ⟨(h.snapshot s hs).1, (h.snapshot s hs).2.later hlater⟩

/-- What a task sends later it would send now. -/
lemma Known.snapshotFor_later (h : t.Known rooms) (hlater : rooms.Later rooms')
    (hs : t.snapshotFor rooms' p = some s) : t.snapshotFor rooms p = some s := by
  cases t with
  | notifyRoom roomId message =>
    obtain ⟨room', hfind', hroom'⟩ := Option.bind_eq_some_iff.mp hs
    obtain ⟨room, hfind, -, hplayers, -⟩ :=
      hlater.old roomId room' (h.room roomId message rfl) hfind'
    rw [hplayers] at hroom'
    exact Option.bind_eq_some_iff.mpr ⟨room, hfind, hroom'⟩
  | notify q n => cases n <;> exact hs
  | _ => exact hs

end SendTask

/-! ### The server goes on -/

namespace GameServer

/-- The players stay on their connections, and the rooms get on. -/
structure Continues (s s' : GameServer) : Prop where
  connection : ∀ p,
    s'.sessions.getConnectionIdByPlayer p = s.sessions.getConnectionIdByPlayer p
  rooms : s.rooms.Later s'.rooms

variable {s s' s'' : GameServer}

lemma Continues.refl (s : GameServer) : s.Continues s := ⟨fun _ => rfl, .refl _⟩

lemma continues_of_sameLinks (hlinks : SameLinks s s') (hrooms : s.rooms.Later s'.rooms) :
    s.Continues s' := by
  refine ⟨fun p => Option.ext fun c => ?_, hrooms⟩
  rw [SessionManager.getConnectionIdByPlayer_eq_some,
    SessionManager.getConnectionIdByPlayer_eq_some]
  exact hlinks.online p c

/-- An operation of the rooms. -/
lemma continues_rooms (rng : Shuffler) (s : GameServer) (op : RoomOp) :
    s.Continues { s with rooms := s.rooms.apply rng op } :=
  ⟨fun _ => rfl, RoomManager.later_apply rng s.rooms op⟩

lemma continues_handleMatch (s : GameServer) (connectionId : ℤ) (body : CppString) (nowMs : ℤ) :
    s.Continues (s.handleMatch connectionId body nowMs).1 := by
  have hother : (ServerOp.requestMatch connectionId body nowMs).IsOther = true := rfl
  refine continues_of_sameLinks (sameLinks_other .sorted s hother) ?_
  have houtcome := match_outcome s connectionId body nowMs
  generalize s.handleMatch connectionId body nowMs = out at houtcome
  cases houtcome with
  | refused => exact .refl _
  | waiting => exact .refl _
  | matched => exact RoomManager.later_apply .sorted s.rooms (.createRoom 3 _)

lemma continues_handleCancelMatch (s : GameServer) (connectionId : ℤ) :
    s.Continues (s.handleCancelMatch connectionId).1 := by
  have houtcome := cancel_outcome s connectionId
  generalize s.handleCancelMatch connectionId = out at houtcome
  cases houtcome <;> exact ⟨fun _ => rfl, .refl _⟩

lemma continues_settle (s : GameServer) (d : ServerSettlementDecision) (nowMs : ℤ) :
    s.Continues (s.settleByServerResult d nowMs).1 := by
  have hother : (ServerOp.settle d nowMs).IsOther = true := rfl
  refine continues_of_sameLinks (sameLinks_other .sorted s hother) ?_
  have hrule := settle_rule s d nowMs
  generalize (s.settleByServerResult d nowMs).1 = s' at hrule
  generalize (s.settleByServerResult d nowMs).2 = result at hrule
  have hsettling := RoomManager.later_apply .sorted s.rooms (.markSettling d.roomId)
  cases hrule with
  | invalid => exact .refl _
  | busy => exact .refl _
  | notFound => exact .refl _
  | failed => exact hsettling
  | @settled room _ _ _ _ _ =>
    exact (hsettling.trans (RoomManager.later_apply .sorted _ (.markFinished room.roomId))).trans
      (RoomManager.later_apply .sorted _ (.destroyRoom room.roomId))

lemma continues_setMark (s : GameServer) (mark : PresenceMark) :
    s.Continues { s with rooms := s.rooms.setMark mark } := by
  cases mark with
  | offline p offlineAtMs => exact continues_rooms .sorted s (.markPlayerOffline p offlineAtMs)
  | online p => exact continues_rooms .sorted s (.markPlayerOnline p)
  | trustee p trustee => exact continues_rooms .sorted s (.markPlayerTrustee p trustee)

/-- A task lets the server go on. -/
lemma continues_perform (s : GameServer) (task : SendTask) :
    s.Continues (s.perform task).server := by
  cases task with
  | notify p n => exact .refl s
  | notifyMatchSuccess p roomId mode players =>
    simp only [perform]
    split <;> exact .refl s
  | markPlayerOnline p => exact continues_rooms .sorted s (.markPlayerOnline p)
  | notifyRoom roomId message =>
    simp only [perform]
    split <;> exact .refl s
  | buildPushSnapshotV2ByRoomId roomId =>
    simp only [perform]
    split <;> exact .refl s
  | notifyPrivateHandsInRoom roomId snapshotVersion =>
    simp only [perform]
    split
    · exact .refl s
    · split_ifs <;> exact .refl s
  | notifyPrivateHandByConnection p roomId snapshotVersion =>
    simp only [perform]
    split <;> exact .refl s
  | settleByServerResult d nowMs => exact continues_settle s d nowMs
  | respond c seqId code => exact .refl s

end GameServer

/-! ### What a task does -/

namespace GameServer

variable {s : GameServer} {task : SendTask}

/-- A task that takes the place of another one sends its snapshot, or the one of the room now. -/
structure InPlaceOf (s : GameServer) (task t : SendTask) : Prop where
  build : ¬ t.IsBuild
  room : ∀ roomId message, t = .notifyRoom roomId message → roomId < s.rooms.rooms.nextId
  snapshot : ∀ snapshot, t.snapshot = some snapshot →
    task.snapshot = some snapshot ∨ task.IsBuild ∧ s.rooms.Shows snapshot
  snapshotFor : ∀ p snapshot, t.snapshotFor s.rooms p = some snapshot →
    task.snapshotFor s.rooms p = some snapshot ∨ s.rooms.Shows snapshot

lemma inPlaceOf_of_silent {t : SendTask} (h : t.snapshot = none ∧ ¬ t.IsBuild) :
    s.InPlaceOf task t where
  build := h.2
  room roomId message ht := by
    rw [ht] at h
    cases h.1
  snapshot snapshot hs := by simp [h.1] at hs
  snapshotFor p snapshot hs := by simp [SendTask.snapshot_of_snapshotFor hs] at h

/-- A round of the loop over the players of the room. -/
lemma inPlaceOf_notifyRoom {roomId : ℤ} {room : Room} {message : RoomMessage}
    (hroom : s.rooms.getRoomById roomId = some room) {p : ℤ} (hp : p ∈ room.players) :
    s.InPlaceOf (.notifyRoom roomId message) (.notify p (.room message)) where
  build := id
  room roomId message ht := by cases ht
  snapshot snapshot hs := Or.inl hs
  snapshotFor q snapshot hs := by
    left
    simp only [SendTask.snapshotFor] at hs ⊢
    split_ifs at hs with hq
    rw [hroom, Option.bind_some, if_pos (hq ▸ hp), hs]

/-- The snapshot that is made is the one of the room now. -/
lemma inPlaceOf_build (hids : ∀ r room, s.rooms.rooms.find r = some room → room.roomId = r)
    {roomId : ℤ} {room : Room} (hroom : s.rooms.rooms.find roomId = some room) :
    s.InPlaceOf (.buildPushSnapshotV2ByRoomId roomId)
      (.notifyRoom roomId (.statePushV2 room.makePushSnapshotV2)) := by
  have hshows : s.rooms.Shows room.makeSnapshot := by
    refine ⟨room, ?_, rfl⟩
    rw [show room.makeSnapshot.roomId = roomId from hids roomId room hroom]
    exact hroom
  refine ⟨id, fun r message heq => ?_, fun snapshot hs => Or.inr ⟨trivial, ?_⟩,
    fun q snapshot hs => Or.inr ?_⟩
  · obtain ⟨rfl, -⟩ := SendTask.notifyRoom.inj heq
    exact (Table.find_bounds hroom).2
  · obtain rfl := Option.some.inj hs
    exact hshows
  · obtain rfl := Option.some.inj (SendTask.snapshot_of_snapshotFor hs)
    exact hshows

/-- Such tasks are in order. -/
lemma InPlaceOf.inOrder {t t' : SendTask} (h : s.InPlaceOf task t) (h' : s.InPlaceOf task t') :
    t.InOrder t' := by
  refine ⟨fun hbuild => absurd hbuild h.build, fun snapshot snapshot' hs hs' hroom => ?_⟩
  rcases h.snapshot snapshot hs with hold | ⟨hbuild, hshows⟩
  · rcases h'.snapshot snapshot' hs' with hold' | ⟨hbuild', -⟩
    · obtain rfl := Option.some.inj (hold.symm.trans hold')
      exact le_refl _
    · simp [hbuild'.snapshot] at hold
  · rcases h'.snapshot snapshot' hs' with hold' | ⟨-, hshows'⟩
    · simp [hbuild.snapshot] at hold'
    · exact hshows'.le (hroom ▸ hshows.knows)

/-- The tasks that follow stay behind them. -/
lemma InPlaceOf.inOrder_rest {t t' : SendTask} (h : s.InPlaceOf task t) (h' : task.InOrder t') :
    t.InOrder t' := by
  refine ⟨fun hbuild => absurd hbuild h.build, fun snapshot snapshot' hs hs' => ?_⟩
  rcases h.snapshot snapshot hs with hold | ⟨hbuild, -⟩
  · exact h'.versions snapshot snapshot' hold hs'
  · simp [h'.built hbuild] at hs'

/-- Their snapshots can be read and are known. -/
lemma InPlaceOf.known {t : SendTask} (h : s.InPlaceOf task t) (htask : task.Known s.rooms) :
    t.Known s.rooms := by
  refine ⟨h.room, fun snapshot hs => ?_⟩
  rcases h.snapshot snapshot hs with hold | ⟨-, hshows⟩
  · exact htask.snapshot snapshot hold
  · exact ⟨hshows.plainTexts, hshows.knows⟩

lemma tasks_perform (hids : ∀ r room, s.rooms.rooms.find r = some room → room.roomId = r) :
    ∀ t ∈ (s.perform task).tasks, (s.perform task).server.InPlaceOf task t := by
  cases task with
  | notify p n => exact List.forall_mem_nil _
  | notifyMatchSuccess p roomId mode players =>
    simp only [perform]
    split
    · exact List.forall_mem_nil _
    · intro t ht
      obtain rfl := List.mem_singleton.mp ht
      exact inPlaceOf_of_silent ⟨rfl, id⟩
  | markPlayerOnline p => exact List.forall_mem_nil _
  | notifyRoom roomId message =>
    simp only [perform]
    split
    · exact List.forall_mem_nil _
    next room hroom =>
      intro t ht
      obtain ⟨p, hp, rfl⟩ := List.mem_map.mp ht
      exact inPlaceOf_notifyRoom hroom hp
  | buildPushSnapshotV2ByRoomId roomId =>
    simp only [perform]
    split
    · exact List.forall_mem_nil _
    next snapshot hsnapshot =>
      intro t ht
      obtain rfl := List.mem_singleton.mp ht
      obtain ⟨room, hroom, rfl⟩ := Option.map_eq_some_iff.mp hsnapshot
      exact inPlaceOf_build hids hroom
  | notifyPrivateHandsInRoom roomId snapshotVersion =>
    simp only [perform]
    split
    · exact List.forall_mem_nil _
    · split_ifs
      · intro t ht
        obtain ⟨p, -, rfl⟩ := List.mem_map.mp ht
        exact inPlaceOf_of_silent ⟨rfl, id⟩
      · exact List.forall_mem_nil _
  | notifyPrivateHandByConnection p roomId snapshotVersion =>
    simp only [perform]
    split <;> exact List.forall_mem_nil _
  | settleByServerResult d nowMs =>
    simp only [perform]
    split_ifs
    · intro t ht
      obtain ⟨player, -, ht⟩ := List.mem_flatMap.mp ht
      simp only [List.mem_cons, List.not_mem_nil, or_false] at ht
      rcases ht with rfl | rfl <;> exact inPlaceOf_of_silent ⟨rfl, id⟩
    · exact List.forall_mem_nil _
  | respond c seqId code => exact List.forall_mem_nil _

/-- Only the notifications of snapshots send snapshots. -/
lemma sends_perform {c : ℤ} {msg : Client.Message} (h : (s.perform task).sends = some (c, msg)) :
    (∃ p message, task = .notify p (.room message) ∧
      s.sessions.getConnectionIdByPlayer p = some c ∧
      msg = (Notification.room message).message) ∨ msg.IsSilent := by
  cases task with
  | notify p n =>
    obtain ⟨d, hd, heq⟩ := Option.map_eq_some_iff.mp h
    obtain ⟨rfl, rfl⟩ := Prod.mk.inj heq
    by_cases hroom : ∃ message, n = .room message
    · obtain ⟨message, rfl⟩ := hroom
      exact Or.inl ⟨p, message, rfl, hd, rfl⟩
    · exact Or.inr (Notification.isSilent (not_exists.mp hroom))
  | notifyMatchSuccess p roomId mode players =>
    simp only [perform] at h
    split at h
    · cases h
    · rw [← (Prod.mk.inj (Option.some.inj h)).2]
      exact Or.inr (Notification.isSilent (by simp))
  | markPlayerOnline p => cases h
  | notifyRoom roomId message =>
    simp only [perform] at h
    split at h <;> cases h
  | buildPushSnapshotV2ByRoomId roomId =>
    simp only [perform] at h
    split at h <;> cases h
  | notifyPrivateHandsInRoom roomId snapshotVersion =>
    simp only [perform] at h
    split at h
    · cases h
    · split_ifs at h
  | notifyPrivateHandByConnection p roomId snapshotVersion =>
    simp only [perform] at h
    split at h
    · rw [← (Prod.mk.inj (Option.some.inj h)).2]
      exact Or.inr (Notification.isSilent (by simp))
    · cases h
  | settleByServerResult d nowMs => cases h
  | respond d seqId code =>
    obtain ⟨-, rfl⟩ := Prod.mk.inj (Option.some.inj h)
    exact Or.inr (Client.Message.isSilent_response _ _)

end GameServer

/-! ### The invariant -/

namespace MessageThreads

variable {ι : Type} (base₀ : ℤ → Client.RoomSnapshotBase) (m : MessageThreads ι)

/-- What the room store of a browser has shown and will show. -/
def history (c : ℤ) : List Client.RoomSnapshotBase :=
  base₀ c :: (m.mail.sent c).filterMap Client.Message.base

/-- A handler has the snapshot to send over the connection. -/
def Owes (i : ι) (c : ℤ) (s : RoomSnapshot) : Prop :=
  ∃ t ∈ m.threads i, ∃ p, m.shared.sessions.getConnectionIdByPlayer p = some c ∧
    t.snapshotFor m.shared.rooms p = some s

/-- What holds of the snapshots between two steps. The versions of a room that are sent over a
connection rise, and no handler has an older one to send. -/
structure SnapshotInvariant : Prop where
  ids : ∀ r room, m.shared.rooms.rooms.find r = some room → room.roomId = r
  tasks : ∀ i, ∀ t ∈ m.threads i, t.Known m.shared.rooms
  inOrder : ∀ i, (m.threads i).Pairwise SendTask.InOrder
  known : ∀ c, ∀ b ∈ m.history base₀ c, m.shared.rooms.Knows b.roomId b.snapshotVersion
  ahead : ∀ c i s, m.Owes i c s → ∀ b ∈ m.history base₀ c, b.roomId = s.roomId →
    b.snapshotVersion ≤ s.snapshotVersion
  sorted : ∀ c, (m.history base₀ c).Pairwise fun b b' => b.roomId = b'.roomId →
    b.snapshotVersion ≤ b'.snapshotVersion
  shown : ∀ c, ∃ l, base₀ c :: (m.mail.received c).filterMap Client.Message.base =
    l ++ [(m.browser c).base]
  read : ∀ c, ∀ msg ∈ m.mail.sent c, msg.IsRead

/-- A handler that is about to send a snapshot can do so in good order: the browser reads its
numbers exactly, and no other handler has an older one of the room for the same connection. -/
def KeepsOrder : MessageLabel ι → Prop
  | .proceed i =>
    ∀ p message c, (m.threads i).head? = some (.notify p (.room message)) →
      m.shared.sessions.getConnectionIdByPlayer p = some c →
      |message.snapshot.roomId| ≤ 2 ^ 53 ∧ |message.snapshot.snapshotVersion| ≤ 2 ^ 53 ∧
        ∀ j, j ≠ i → ∀ s, m.Owes j c s → s.roomId = message.snapshot.roomId →
          message.snapshot.snapshotVersion ≤ s.snapshotVersion
  | _ => True

/-- The rooms are stored under their ids, and no browser shows what its room has not come to. -/
structure Started (s : GameServer) (browsers : ℤ → Client.Browser) : Prop where
  ids : ∀ r room, s.rooms.rooms.find r = some room → room.roomId = r
  known : ∀ c, s.rooms.Knows (browsers c).base.roomId (browsers c).base.snapshotVersion

variable {base₀ m}

lemma snapshotInvariant_start {s : GameServer} {browsers : ℤ → Client.Browser}
    (h : Started s browsers) :
    (start s browsers : MessageThreads ι).SnapshotInvariant fun c => (browsers c).base where
  ids := h.ids
  tasks _ _ ht := by cases ht
  inOrder _ := List.Pairwise.nil
  known c b hb := by
    obtain rfl := List.mem_singleton.mp hb
    exact h.known c
  ahead _ _ _ howes := by
    obtain ⟨_, ht, -⟩ := howes
    cases ht
  sorted _ := List.pairwise_singleton _ _
  shown _ := ⟨[], rfl⟩
  read _ _ hmsg := by cases hmsg

/-! ### Changes -/

lemma mem_threads_set_iff [DecidableEq ι] {i j : ι} {s : GameServer} {tasks : List SendTask}
    {t : SendTask} :
    t ∈ (m.toThreads.set i (s, tasks)).threads j ↔
      j = i ∧ t ∈ tasks ∨ j ≠ i ∧ t ∈ m.threads j := by
  by_cases hj : j = i
  · subst hj
    simp
  · rw [Threads.set_threads_of_ne _ hj]
    simp [hj]

variable {m' : MessageThreads ι} {s : GameServer}

/-- The server goes on. -/
lemma SnapshotInvariant.continues (h : m.SnapshotInvariant base₀) (hs : m.shared.Continues s) :
    ({ m with shared := s } : MessageThreads ι).SnapshotInvariant base₀ where
  ids r room hfind := by
    by_cases hr : r < m.shared.rooms.rooms.nextId
    · obtain ⟨room₀, hfind₀, hid, -⟩ := hs.rooms.old r room hr hfind
      exact hid.trans (h.ids r room₀ hfind₀)
    · exact hs.rooms.new r room (not_lt.mp hr) hfind
  tasks i t ht := (h.tasks i t ht).later hs.rooms
  inOrder := h.inOrder
  known c b hb := (h.known c b hb).later hs.rooms
  ahead c i snapshot howes := by
    obtain ⟨t, ht, p, hp, hsnapshot⟩ := howes
    have hsnapshot' := (h.tasks i t ht).snapshotFor_later hs.rooms hsnapshot
    refine h.ahead c i snapshot ⟨t, ht, p, ?_, hsnapshot'⟩
    rw [← hs.connection p]
    exact hp
  sorted := h.sorted
  shown := h.shown
  read := h.read

/-- A browser changes what has nothing to do with snapshots. -/
lemma SnapshotInvariant.change (h : m.SnapshotInvariant base₀) (d : ℤ)
    {f : Client.Browser → Client.Browser} (hf : ∀ b, (f b).base = b.base) :
    ({ m with mail := m.mail.change d f } : MessageThreads ι).SnapshotInvariant base₀ where
  ids := h.ids
  tasks := h.tasks
  inOrder := h.inOrder
  known := h.known
  ahead := h.ahead
  sorted := h.sorted
  shown c := by
    obtain ⟨l, hl⟩ := h.shown c
    refine ⟨l, hl.trans ?_⟩
    rw [browser, browser, Mail.recipients_change]
    split_ifs
    · rw [hf]
    · rfl
  read := h.read

variable [DecidableEq ι]

/-- A handler has other tasks: they send what it had to send anyway, or what the room shows now. -/
lemma SnapshotInvariant.tasks_set (h : m.SnapshotInvariant base₀) (i : ι) {tasks : List SendTask}
    (hknown : ∀ t ∈ tasks, t.Known m.shared.rooms) (horder : tasks.Pairwise SendTask.InOrder)
    (hsnapshots : ∀ t ∈ tasks, ∀ p snapshot, t.snapshotFor m.shared.rooms p = some snapshot →
      (∃ t' ∈ m.threads i, t'.snapshotFor m.shared.rooms p = some snapshot) ∨
        m.shared.rooms.Shows snapshot) :
    ({ toThreads := m.toThreads.set i (m.shared, tasks), mail := m.mail } :
      MessageThreads ι).SnapshotInvariant base₀ where
  ids := h.ids
  tasks j t ht := by
    rcases mem_threads_set_iff.mp ht with ⟨rfl, hnew⟩ | ⟨-, hold⟩
    · exact hknown t hnew
    · exact h.tasks j t hold
  inOrder j := by
    by_cases hj : j = i
    · subst hj
      simpa using horder
    · have hthread := m.toThreads.set_threads_of_ne hj (m.shared, tasks)
      rw [hthread]
      exact h.inOrder j
  known := h.known
  ahead c j snapshot howes b hb hroom := by
    obtain ⟨t, ht, p, hp, hsnapshot⟩ := howes
    rcases mem_threads_set_iff.mp ht with ⟨rfl, hnew⟩ | ⟨-, hold⟩
    · rcases hsnapshots t hnew p snapshot hsnapshot with ⟨t', ht', hsnapshot'⟩ | hshows
      · exact h.ahead c j snapshot ⟨t', ht', p, hp, hsnapshot'⟩ b hb hroom
      · exact hshows.le (hroom ▸ h.known c b hb)
    · exact h.ahead c j snapshot ⟨t, hold, p, hp, hsnapshot⟩ b hb hroom
  sorted := h.sorted
  shown := h.shown
  read := h.read

omit [DecidableEq ι] in
lemma history_send (c d : ℤ) (msg : Client.Message) :
    ({ m with mail := m.mail.send d msg } : MessageThreads ι).history base₀ c =
      m.history base₀ c ++ if c = d then msg.base.toList else [] := by
  simp only [history, Mail.sent_send]
  split_ifs
  · rw [List.filterMap_append, List.cons_append, List.filterMap_cons, List.filterMap_nil]
    cases msg.base <;> rfl
  · rw [List.append_nil]

omit [DecidableEq ι] in
/-- A message is sent: what it brings is not older than what was sent before it, and nobody has
anything older to send. -/
lemma SnapshotInvariant.send (h : m.SnapshotInvariant base₀) {d : ℤ} {msg : Client.Message}
    (hread : msg.IsRead)
    (hmsg : ∀ b, msg.base = some b → m.shared.rooms.Knows b.roomId b.snapshotVersion ∧
      (∀ b' ∈ m.history base₀ d, b'.roomId = b.roomId → b'.snapshotVersion ≤ b.snapshotVersion) ∧
      ∀ i snapshot, m.Owes i d snapshot → b.roomId = snapshot.roomId →
        b.snapshotVersion ≤ snapshot.snapshotVersion) :
    ({ m with mail := m.mail.send d msg } : MessageThreads ι).SnapshotInvariant base₀ where
  ids := h.ids
  tasks := h.tasks
  inOrder := h.inOrder
  known c b hb := by
    rw [history_send] at hb
    rcases List.mem_append.mp hb with hold | hnew
    · exact h.known c b hold
    · split_ifs at hnew
      · exact (hmsg b (Option.mem_toList.mp hnew)).1
      · cases hnew
  ahead c i snapshot howes b hb hroom := by
    rw [history_send] at hb
    rcases List.mem_append.mp hb with hold | hnew
    · exact h.ahead c i snapshot howes b hold hroom
    · split_ifs at hnew with hc
      · subst hc
        exact (hmsg b (Option.mem_toList.mp hnew)).2.2 i snapshot howes hroom
      · cases hnew
  sorted c := by
    rw [history_send]
    refine List.pairwise_append.mpr ⟨h.sorted c, ?_, fun b' hb' b hb hroom => ?_⟩
    · split_ifs
      · cases msg.base with
        | none => exact List.Pairwise.nil
        | some b => exact List.pairwise_singleton _ b
      · exact List.Pairwise.nil
    · split_ifs at hb with hc
      · subst hc
        exact (hmsg b (Option.mem_toList.mp hb)).2.1 b' hb' hroom
      · cases hb
  shown := h.shown
  read c msg' hmem := by
    have hsent : msg' ∈ (m.mail.send d msg).sent c := hmem
    rw [Mail.sent_send] at hsent
    split_ifs at hsent
    · rcases List.mem_append.mp hsent with hold | hnew
      · exact h.read c msg' hold
      · exact List.mem_singleton.mp hnew ▸ hread
    · exact h.read c msg' hsent

omit [DecidableEq ι] in
/-- A browser processes a message. -/
lemma SnapshotInvariant.process (h : m.SnapshotInvariant base₀) {d : ℤ}
    {mail : Mail ℤ Client.Message Client.Browser}
    (hmail : m.mail.receive Client.Browser.handleMessage d = some mail) :
    ({ m with mail := mail } : MessageThreads ι).SnapshotInvariant base₀ := by
  have hhistory : ∀ c,
      ({ m with mail := mail } : MessageThreads ι).history base₀ c = m.history base₀ c := by
    intro c
    rw [history, history, Mail.sent_receive hmail]
  obtain ⟨msg, rest, -, -, hreceived, hrecipients⟩ := Mail.receive_spec hmail
  refine ⟨h.ids, h.tasks, h.inOrder, fun c => ?_, fun c => ?_, fun c => ?_, fun c => ?_,
    fun c => ?_⟩
  · rw [hhistory]
    exact h.known c
  · rw [hhistory]
    exact h.ahead c
  · rw [hhistory]
    exact h.sorted c
  · obtain ⟨l, hl⟩ := h.shown c
    rw [browser, hreceived, hrecipients]
    by_cases hc : c = d
    · subst hc
      simp only [Function.update_self]
      rw [List.filterMap_append, ← List.cons_append, hl, Client.base_handleMessage,
        List.filterMap_cons, List.filterMap_nil]
      cases msg.base with
      | none => exact ⟨l, by simp [browser]⟩
      | some b => exact ⟨l ++ [(m.browser c).base], by simp⟩
    · simp only [Function.update_of_ne hc]
      exact ⟨l, hl⟩
  · rw [Mail.sent_receive hmail]
    exact h.read c

/-- A new call: what it has to send is what the rooms show now. -/
lemma SnapshotInvariant.enter (h : m.SnapshotInvariant base₀) {i : ι} {tasks : List SendTask}
    (hs : m.shared.Continues s) (henter : m.enter i s tasks = some m')
    (hknown : ∀ t ∈ tasks, t.Known s.rooms)
    (horder : tasks.Pairwise SendTask.InOrder)
    (hshows : ∀ t ∈ tasks, ∀ snapshot, t.snapshot = some snapshot → s.rooms.Shows snapshot) :
    m'.SnapshotInvariant base₀ := by
  obtain ⟨-, rfl⟩ := enter_spec henter
  refine (h.continues hs).tasks_set i hknown horder fun t ht p snapshot hsnapshot => Or.inr ?_
  exact hshows t ht snapshot (SendTask.snapshot_of_snapshotFor hsnapshot)

/-- A new call that has no snapshots to send. -/
lemma SnapshotInvariant.enter_silent (h : m.SnapshotInvariant base₀) {i : ι}
    {tasks : List SendTask} (hs : m.shared.Continues s) (henter : m.enter i s tasks = some m')
    (htasks : ∀ t ∈ tasks, t.snapshot = none) : m'.SnapshotInvariant base₀ := by
  refine h.enter hs henter (fun t ht => SendTask.known_of_silent (htasks t ht)) ?_ ?_
  · exact List.pairwise_of_forall_mem_list fun t _ t' ht' => t.inOrder_silent (htasks t' ht')
  · intro t ht snapshot hsnapshot
    simp [htasks t ht] at hsnapshot

omit [DecidableEq ι] in
/-- Of the tasks of an action the first one sends its snapshot. -/
lemma actionTasks_eq (roomId nowMs : ℤ) (result : PlayerActionResult) :
    ∃ tasks, (Room.ActionReply.tasks roomId nowMs (.ok result)) =
        .notifyRoom roomId (.statePush result.snapshot) :: tasks ∧
      ∀ t ∈ tasks, t.snapshot = none := by
  refine ⟨_, rfl, ?_⟩
  split_ifs <;> simp [SendTask.snapshot]

/-- An action has the snapshot of its room to send. -/
lemma SnapshotInvariant.enter_action (h : m.SnapshotInvariant base₀) {rng : Shuffler} {i : ι}
    {roomId playerId nowMs : ℤ} {request : PlayerActionRequest}
    (henter : m.enter i
      { m.shared with
        rooms := (m.shared.rooms.applyPlayerAction rng roomId playerId request).1 }
      ((m.shared.rooms.applyPlayerAction rng roomId playerId request).2.tasks roomId nowMs) =
        some m') : m'.SnapshotInvariant base₀ := by
  have hs := GameServer.continues_rooms rng m.shared (.applyPlayerAction roomId playerId request)
  have hids := (h.continues hs).ids
  have hfind := RoomManager.find_applyPlayerAction rng m.shared.rooms roomId playerId request roomId
  rw [if_pos rfl] at hfind
  cases hroom : m.shared.rooms.rooms.find roomId with
  | none =>
    have hreply : (m.shared.rooms.applyPlayerAction rng roomId playerId request).2 =
        .error "room not found" := by rw [RoomManager.applyPlayerAction, hroom]
    rw [hreply] at henter
    exact h.enter_silent hs henter (List.forall_mem_nil _)
  | some room =>
    rw [hroom, Option.map_some] at hfind
    rw [RoomManager.applyPlayerAction_reply hroom] at henter
    rcases hout : room.applyPlayerAction rng playerId request with ⟨room', err | result⟩
    · rw [hout] at henter
      exact h.enter_silent hs henter (List.forall_mem_nil _)
    · obtain ⟨-, written, ended, -, -, rfl⟩ := Room.accepted_of_apply hout
      rw [hout] at henter hfind
      obtain ⟨tasks, htasks, hsilent⟩ :=
        actionTasks_eq roomId nowMs (room'.actionResult playerId ended)
      rw [htasks] at henter
      have hshows : RoomManager.Shows
          (m.shared.rooms.applyPlayerAction rng roomId playerId request).1 room'.makeSnapshot := by
        refine ⟨room', ?_, rfl⟩
        rw [show room'.makeSnapshot.roomId = roomId from hids roomId room' hfind]
        exact hfind
      refine h.enter hs henter ?_ ?_ ?_
      · refine List.forall_mem_cons.mpr ⟨⟨fun r message heq => ?_, fun snapshot hsnapshot => ?_⟩,
          fun t ht => SendTask.known_of_silent (hsilent t ht)⟩
        · obtain ⟨rfl, -⟩ := SendTask.notifyRoom.inj heq
          exact (Table.find_bounds hfind).2
        · obtain rfl := Option.some.inj hsnapshot
          exact ⟨hshows.plainTexts, hshows.knows⟩
      · refine List.pairwise_cons.mpr ⟨fun t ht => SendTask.inOrder_silent _ (hsilent t ht), ?_⟩
        exact List.pairwise_of_forall_mem_list fun t _ t' ht' => t.inOrder_silent (hsilent t' ht')
      · refine List.forall_mem_cons.mpr
          ⟨fun snapshot hsnapshot => ?_, fun t ht snapshot hsnapshot => ?_⟩
        · obtain rfl := Option.some.inj hsnapshot
          exact hshows
        · simp [hsilent t ht] at hsnapshot

/-- A handler has done its next task and not sent anything yet. -/
lemma SnapshotInvariant.performed (h : m.SnapshotInvariant base₀) {i : ι} {task : SendTask}
    {rest : List SendTask} (hthread : m.threads i = task :: rest) {tasks : List SendTask}
    (hs : m.shared.Continues s) (hnew : ∀ t ∈ tasks, s.InPlaceOf task t) :
    ({ toThreads := m.toThreads.set i (s, tasks ++ rest), mail := m.mail } :
      MessageThreads ι).SnapshotInvariant base₀ := by
  have hmem : ∀ t ∈ task :: rest, t ∈ m.threads i := fun t ht => hthread ▸ ht
  have horder := h.inOrder i
  rw [hthread] at horder
  obtain ⟨hfirst, hrest⟩ := List.pairwise_cons.mp horder
  have hknown : ∀ t ∈ task :: rest, t.Known s.rooms := fun t ht =>
    (h.tasks i t (hmem t ht)).later hs.rooms
  refine (h.continues hs).tasks_set i (fun t ht => ?_) ?_ fun t ht p snapshot hsnapshot => ?_
  · rcases List.mem_append.mp ht with ht | ht
    · exact (hnew t ht).known (hknown task List.mem_cons_self)
    · exact hknown t (List.mem_cons_of_mem _ ht)
  · refine List.pairwise_append.mpr ⟨?_, hrest, fun t ht t' ht' => ?_⟩
    · exact List.pairwise_of_forall_mem_list fun t ht t' ht' => (hnew t ht).inOrder (hnew t' ht')
    · exact (hnew t ht).inOrder_rest (hfirst t' ht')
  · rcases List.mem_append.mp ht with ht | ht
    · rcases (hnew t ht).snapshotFor p snapshot hsnapshot with hold | hshows
      · exact Or.inl ⟨task, hmem task List.mem_cons_self, hold⟩
      · exact Or.inr hshows
    · exact Or.inl ⟨t, hmem t (List.mem_cons_of_mem _ ht), hsnapshot⟩

/-- A handler does its next task. -/
lemma SnapshotInvariant.proceed (h : m.SnapshotInvariant base₀) {i : ι} {task : SendTask}
    {rest : List SendTask} (hthread : m.threads i = task :: rest)
    (hkeeps : m.KeepsOrder (.proceed i)) : (m.proceed i task rest).SnapshotInvariant base₀ := by
  have hperformed := h.performed hthread (m.shared.continues_perform task)
    (GameServer.tasks_perform h.ids)
  rw [MessageThreads.proceed]
  cases hsends : (m.shared.perform task).sends with
  | none => exact hperformed
  | some send =>
    obtain ⟨c, msg⟩ := send
    rcases GameServer.sends_perform hsends with ⟨p, message, rfl, hp, rfl⟩ | hsilent
    · obtain ⟨hroom, hversion, hothers⟩ := hkeeps p message c (by rw [hthread]; rfl) hp
      have hmem : SendTask.notify p (.room message) ∈ m.threads i := by
        rw [hthread]
        exact List.mem_cons_self
      obtain ⟨hplain, hknows⟩ := (h.tasks i _ hmem).snapshot message.snapshot rfl
      obtain ⟨b, hb, hid, hb'⟩ := RoomMessage.base_message hplain hroom hversion
      have howes : m.Owes i c message.snapshot := ⟨_, hmem, p, hp, if_pos rfl⟩
      refine hperformed.send (Client.Message.isRead_message hplain hb hid hb') fun b₁ hb₁ => ?_
      obtain rfl := Option.some.inj (hb.symm.trans hb₁)
      rw [hid, hb']
      refine ⟨hknows, fun b₁ hb₁ heq => ?_, fun j snapshot howes' heq => ?_⟩
      · exact h.ahead c i _ howes b₁ hb₁ heq
      · obtain ⟨t, ht, q, hq, hsnapshot⟩ := howes'
        rcases mem_threads_set_iff.mp ht with ⟨rfl, hrest⟩ | ⟨hj, hold⟩
        · -- what the handler itself sends after this is not older
          have horder := h.inOrder j
          rw [hthread] at horder
          exact ((List.pairwise_cons.mp horder).1 t hrest).versions _ snapshot rfl
            (SendTask.snapshot_of_snapshotFor hsnapshot) heq
        · exact hothers j hj snapshot ⟨t, hold, q, hq, hsnapshot⟩ heq.symm
    · refine hperformed.send hsilent.isRead fun b hb => ?_
      simp [hsilent.1] at hb

/-- A step that keeps the order keeps the invariant. -/
theorem SnapshotInvariant.step (h : m.SnapshotInvariant base₀) {rng : Shuffler}
    {label : MessageLabel ι} (hkeeps : m.KeepsOrder label)
    (hstep : m.step rng label = some m') : m'.SnapshotInvariant base₀ := by
  cases label with
  | startMatch i c nowMs =>
    have hchange := h.change c (f := fun b => b.sendRequest .startMatch) fun _ => rfl
    refine hchange.enter_silent (m.shared.continues_handleMatch c _ nowMs) hstep fun t ht => ?_
    rcases List.mem_append.mp ht with ht | ht
    · split_ifs at ht
      · obtain ⟨p, -, rfl⟩ := List.mem_map.mp ht
        rfl
      · cases ht
    · obtain rfl := List.mem_singleton.mp ht
      rfl
  | cancelMatch i c =>
    have hchange := h.change c (f := fun b => b.sendRequest .cancelMatch) fun _ => rfl
    refine hchange.enter_silent (m.shared.continues_handleCancelMatch c) hstep fun t ht => ?_
    obtain rfl := List.mem_singleton.mp ht
    rfl
  | matchTimeout i nowMs timeoutMs =>
    have hs : m.shared.Continues (m.shared.handleMatchTimeout nowMs timeoutMs).1 :=
      ⟨fun _ => rfl, .refl _⟩
    refine h.enter_silent hs hstep fun t ht => ?_
    obtain ⟨event, -, rfl⟩ := List.mem_map.mp ht
    rfl
  | playerAction i c body nowMs =>
    simp only [MessageThreads.step] at hstep
    split at hstep
    · exact h.enter_silent (.refl _) hstep (List.forall_mem_nil _)
    · exact h.enter_action hstep
  | trusteeAction i roomId playerId nowMs =>
    simp only [MessageThreads.step, RoomManager.applyTrusteeAction] at hstep
    split at hstep
    · exact h.enter_silent (.refl _) hstep (List.forall_mem_nil _)
    · split at hstep
      · exact h.enter_silent (.refl _) hstep (List.forall_mem_nil _)
      · exact h.enter_action hstep
  | offlineLose i roomId playerId nowMs =>
    simp only [MessageThreads.step] at hstep
    split at hstep
    · exact h.enter_silent (.refl _) hstep (List.forall_mem_nil _)
    · refine h.enter_silent (.refl _) hstep fun t ht => ?_
      obtain rfl := List.mem_singleton.mp ht
      rfl
  | mark mark =>
    cases hstep
    exact h.continues (m.shared.continues_setMark mark)
  | proceed i =>
    simp only [MessageThreads.step] at hstep
    split at hstep
    · cases hstep
    next task rest hthread =>
      cases hstep
      exact h.proceed hthread hkeeps
  | requestTimeout c seqId =>
    cases hstep
    exact h.change c fun _ => rfl
  | process c =>
    obtain ⟨mail, hmail, rfl⟩ := Option.map_eq_some_iff.mp hstep
    exact h.process hmail

/-! ### Runs -/

/-- What a browser has received it has received for good. -/
lemma received_step {rng : Shuffler} {label : MessageLabel ι}
    (hstep : m.step rng label = some m') (c : ℤ) :
    m.mail.received c <+: m'.mail.received c := by
  have henter : ∀ m₁ : MessageThreads ι, m₁.mail.received = m.mail.received →
      ∀ {i s tasks}, m₁.enter i s tasks = some m' →
        m.mail.received c <+: m'.mail.received c := by
    intro m₁ hreceived i s tasks h
    obtain ⟨-, rfl⟩ := enter_spec h
    rw [← hreceived]
  cases label with
  | startMatch i d nowMs =>
    exact henter { m with mail := m.mail.change d fun b => b.sendRequest .startMatch } rfl hstep
  | cancelMatch i d =>
    exact henter { m with mail := m.mail.change d fun b => b.sendRequest .cancelMatch } rfl hstep
  | matchTimeout i nowMs timeoutMs => exact henter m rfl hstep
  | playerAction i d body nowMs =>
    simp only [MessageThreads.step] at hstep
    split at hstep <;> exact henter m rfl hstep
  | trusteeAction i roomId playerId nowMs => exact henter m rfl hstep
  | offlineLose i roomId playerId nowMs =>
    simp only [MessageThreads.step] at hstep
    split at hstep <;> exact henter m rfl hstep
  | mark mark =>
    cases hstep
    exact List.prefix_refl _
  | proceed i =>
    simp only [MessageThreads.step] at hstep
    split at hstep
    · cases hstep
    · cases hstep
      rw [MessageThreads.proceed]
      cases (m.shared.perform _).sends <;> exact List.prefix_refl _
  | requestTimeout d seqId =>
    cases hstep
    exact List.prefix_refl _
  | process d =>
    obtain ⟨mail, hmail, rfl⟩ := Option.map_eq_some_iff.mp hstep
    obtain ⟨msg, rest, -, -, hreceived, -⟩ := Mail.receive_spec hmail
    rw [hreceived]
    by_cases hc : c = d
    · subst hc
      rw [Function.update_self]
      exact List.prefix_append _ _
    · rw [Function.update_of_ne hc]

omit [DecidableEq ι] in
/-- A browser that has received everything shows the newest snapshot of its room. -/
lemma SnapshotInvariant.newest (h : m.SnapshotInvariant base₀) {c : ℤ}
    (hinbox : m.mail.inbox c = [])
    (hsome : ∃ msg ∈ m.mail.sent c, ∃ roomId version, msg.Brings roomId version) :
    (∃ msg ∈ m.mail.sent c,
        msg.Brings (m.browser c).base.roomId (m.browser c).base.snapshotVersion) ∧
      ∀ msg ∈ m.mail.sent c, ∀ version, msg.Brings (m.browser c).base.roomId version →
        version ≤ (m.browser c).base.snapshotVersion := by
  have hreceived : m.mail.received c = m.mail.sent c := by
    rw [Mail.sent, hinbox, List.append_nil]
  obtain ⟨l, hl⟩ := h.shown c
  rw [hreceived] at hl
  have hsorted := h.sorted c
  rw [history, hl] at hsorted
  have hlast := (List.pairwise_append.mp hsorted).2.2
  constructor
  · -- the last snapshot is that of a message
    obtain ⟨msg, hmsg, roomId, version, hbrings⟩ := hsome
    obtain ⟨b, hb, -⟩ := (h.read c msg hmsg roomId version).mp hbrings
    have hne : (m.mail.sent c).filterMap Client.Message.base ≠ [] :=
      List.ne_nil_of_mem (List.mem_filterMap.mpr ⟨msg, hmsg, hb⟩)
    have hmem : (m.browser c).base ∈ (m.mail.sent c).filterMap Client.Message.base := by
      obtain ⟨l', b', heq⟩ := (List.eq_nil_or_concat _).resolve_left hne
      rw [List.concat_eq_append] at heq
      rw [heq, ← List.cons_append] at hl
      obtain ⟨-, hb'⟩ := List.append_inj' hl rfl
      rw [heq, ← List.singleton_inj.mp hb']
      exact List.mem_append_right _ List.mem_cons_self
    obtain ⟨msg', hmsg', hb'⟩ := List.mem_filterMap.mp hmem
    exact ⟨msg', hmsg', (h.read c msg' hmsg' _ _).mpr ⟨_, hb', rfl, rfl⟩⟩
  · intro msg hmsg version hbrings
    obtain ⟨b, hb, hroom, rfl⟩ := (h.read c msg hmsg _ version).mp hbrings
    have hmem : b ∈ l ++ [(m.browser c).base] := by
      rw [← hl]
      exact List.mem_cons_of_mem _ (List.mem_filterMap.mpr ⟨msg, hmsg, hb⟩)
    rcases List.mem_append.mp hmem with hold | hnew
    · exact hlast b hold _ List.mem_cons_self hroom
    · rw [List.mem_singleton.mp hnew]

omit [DecidableEq ι] in
/-- A browser that has received more does not show an older snapshot of the same room. -/
lemma SnapshotInvariant.not_older (h : m.SnapshotInvariant base₀)
    (h' : m'.SnapshotInvariant base₀) {c : ℤ}
    (hreceived : m.mail.received c <+: m'.mail.received c)
    (hroom : (m'.browser c).base.roomId = (m.browser c).base.roomId) :
    (m.browser c).base.snapshotVersion ≤ (m'.browser c).base.snapshotVersion := by
  obtain ⟨more, hmore⟩ := hreceived
  obtain ⟨l, hl⟩ := h.shown c
  obtain ⟨l', hl'⟩ := h'.shown c
  have hsorted : (l' ++ [(m'.browser c).base]).Pairwise fun b b' =>
      b.roomId = b'.roomId → b.snapshotVersion ≤ b'.snapshotVersion := by
    refine (h'.sorted c).sublist ?_
    rw [← hl', history]
    exact ((List.sublist_append_left _ _).filterMap _).cons_cons _
  rw [← hmore, List.filterMap_append, ← List.cons_append, hl] at hl'
  rcases List.eq_nil_or_concat (more.filterMap Client.Message.base) with hnil | ⟨l₂, b, heq⟩
  · rw [hnil, List.append_nil] at hl'
    obtain ⟨-, hb⟩ := List.append_inj' hl' rfl
    rw [List.singleton_inj.mp hb]
  · rw [heq, List.concat_eq_append, ← List.append_assoc] at hl'
    obtain ⟨hfront, hb⟩ := List.append_inj' hl' rfl
    -- the one shown later has been received after the other
    refine (List.pairwise_append.mp hsorted).2.2 _ ?_ _ List.mem_cons_self hroom.symm
    rw [← hfront]
    exact List.mem_append_left _ (List.mem_append_right _ List.mem_cons_self)

/-- No browser goes back to an older snapshot of the room it shows, and one that has processed all
its messages shows the newest snapshot of its room that was sent to it. -/
structure ShowsNewest (rng : Shuffler) (m₀ : MessageThreads ι) (labels : List (MessageLabel ι)) :
    Prop where
  notOlder : ∀ l₁ l₂ l₃ t u, labels = l₁ ++ (l₂ ++ l₃) →
    Run.exec (MessageThreads.step rng) m₀ l₁ = some t →
    Run.exec (MessageThreads.step rng) t l₂ = some u →
    ∀ c, (u.browser c).base.roomId = (t.browser c).base.roomId →
      (t.browser c).base.snapshotVersion ≤ (u.browser c).base.snapshotVersion
  newest : ∀ t, Run.Visits (MessageThreads.step rng) m₀ labels t →
    ∀ c, t.mail.inbox c = [] →
      (∃ msg ∈ t.mail.sent c, ∃ roomId version, msg.Brings roomId version) →
      (∃ msg ∈ t.mail.sent c,
          msg.Brings (t.browser c).base.roomId (t.browser c).base.snapshotVersion) ∧
        ∀ msg ∈ t.mail.sent c, ∀ version, msg.Brings (t.browser c).base.roomId version →
          version ≤ (t.browser c).base.snapshotVersion

/-- In a run whose steps all keep the order, every browser ends on the newest snapshot. -/
theorem newest_shown_along {rng : Shuffler} {s : GameServer} {browsers : ℤ → Client.Browser}
    {labels : List (MessageLabel ι)} (hstarted : Started s browsers)
    (hkeeps : Run.Along (MessageThreads.step rng) KeepsOrder (start s browsers) labels) :
    ShowsNewest rng (start s browsers) labels := by
  have hstart : (start s browsers : MessageThreads ι).SnapshotInvariant _ :=
    snapshotInvariant_start hstarted
  have hstep : ∀ (m : MessageThreads ι) label m', m.SnapshotInvariant _ → m.KeepsOrder label →
      m.step rng label = some m' → m'.SnapshotInvariant fun c => (browsers c).base :=
    fun m label m' h hG hm => h.step hG hm
  constructor
  · rintro l₁ l₂ l₃ t u rfl ht hu c hroom
    obtain ⟨halong₁, halong⟩ := Run.along_append hkeeps ht
    have hinv := Run.invariant_along hstep hstart halong₁ ht
    have hinv' := Run.invariant_along hstep hinv (Run.along_append halong hu).1 hu
    refine hinv.not_older hinv' ?_ hroom
    exact Run.invariant (I := fun u => t.mail.received c <+: u.mail.received c)
      (fun _ _ _ h hm => h.trans (received_step hm c)) (List.prefix_refl _) hu
  · rintro t ⟨l₁, l₂, rfl, ht⟩ c hinbox hsome
    have hinv := Run.invariant_along hstep hstart (Run.along_append hkeeps ht).1 ht
    exact hinv.newest hinbox hsome

/-! ### A game of three -/

/-- A call with the score, as the body of a request. -/
def callBody (score : ℤ) : CppString :=
  buildKvBody [(str "room_id", toStr 1), (str "action_type", toStr 1), (str "score", toStr score)]

/-- The three players are in a room. -/
def threeInRoom : GameServer :=
  { threePlayers.shared with rooms := (({} : RoomManager).createRoom 3 [1, 2, 3]).1 }

lemma started_threeInRoom : Started threeInRoom fun _ => {} where
  ids r room hfind :=
    (RoomManager.later_apply .sorted {} (.createRoom 3 [1, 2, 3])).new r room
      (Int.add_one_le_of_lt (Table.find_bounds hfind).1) hfind
  known _ := by
    refine ⟨by decide, fun room hfind => ?_⟩
    exact absurd (Table.find_bounds hfind).1 (lt_irrefl _)

/-- The handler that proceeds is the only one, and the numbers that it sends are small. -/
def ProceedsAlone (m : MessageThreads (Fin 2)) : MessageLabel (Fin 2) → Prop
  | .proceed i => (∀ j, j ≠ i → (m.threads j).isEmpty) ∧
      ∀ snapshot ∈ (m.threads i).head?.bind SendTask.snapshot,
        |snapshot.roomId| ≤ 2 ^ 53 ∧ |snapshot.snapshotVersion| ≤ 2 ^ 53
  | _          => True

instance (m : MessageThreads (Fin 2)) : DecidablePred m.ProceedsAlone
  | .startMatch _ _ _      => isTrue trivial
  | .cancelMatch _ _       => isTrue trivial
  | .matchTimeout _ _ _    => isTrue trivial
  | .playerAction _ _ _ _  => isTrue trivial
  | .trusteeAction _ _ _ _ => isTrue trivial
  | .offlineLose _ _ _ _   => isTrue trivial
  | .mark _                => isTrue trivial
  | .proceed _             => inferInstanceAs (Decidable (_ ∧ _))
  | .requestTimeout _ _    => isTrue trivial
  | .process _             => isTrue trivial

lemma keepsOrder_of_proceedsAlone (m : MessageThreads (Fin 2)) {label : MessageLabel (Fin 2)}
    (h : m.ProceedsAlone label) : m.KeepsOrder label := by
  cases label with
  | proceed i =>
    intro p message c hhead hp
    obtain ⟨hroom, hversion⟩ := h.2 message.snapshot (by rw [hhead]; rfl)
    refine ⟨hroom, hversion, fun j hj snapshot howes => ?_⟩
    obtain ⟨t, ht, -⟩ := howes
    rw [List.isEmpty_iff.mp (h.1 j hj)] at ht
    cases ht
  | _ => trivial

/-- The first player acts, and his handler sends the snapshot to him. -/
def firstCall : List (MessageLabel (Fin 2)) :=
  [.playerAction 0 11 (callBody 1) 5, .proceed 0, .proceed 0, .process 11]

theorem newest_shown_after_call :
    Started threeInRoom (fun _ => {}) ∧
      Run.Along (step .sorted) KeepsOrder (start threeInRoom fun _ => {}) firstCall ∧
      ((Run.exec (step .sorted) (start threeInRoom fun _ => {}) firstCall).map fun m =>
        (m.browser 11).base.snapshotVersion) = some 2 ∧
      ShowsNewest .sorted (start threeInRoom fun _ => {}) firstCall := by
  have hfacts : Run.Along (step .sorted) ProceedsAlone (start threeInRoom fun _ => {}) firstCall ∧
      ((Run.exec (step .sorted) (start threeInRoom fun _ => {}) firstCall).map fun m =>
        (m.browser 11).base.snapshotVersion) = some 2 := by
    decide +kernel
  obtain ⟨halone, hversion⟩ := hfacts
  have hkeeps := halone.mono fun m _ => keepsOrder_of_proceedsAlone m
  exact ⟨started_threeInRoom, hkeeps, hversion, newest_shown_along started_threeInRoom hkeeps⟩

def slowThread : Fin 3 := Fin.last 2

def fastThread : Fin 3 := (Fin.last 1).castSucc

/-- The second player acts while the first one's handler has a snapshot left for the third player,
and the pushes of his own handler overtake it. -/
def overtakingRun : List (MessageLabel (Fin 3)) :=
  thirdRequest ++ [.playerAction slowThread 11 (callBody 1) 5] ++
    List.replicate 8 (.proceed slowThread) ++ [.playerAction fastThread 12 (callBody 2) 6] ++
      List.replicate 13 (.proceed fastThread) ++ [.proceed slowThread] ++
        List.replicate 7 (.process 13)

/-- The third browser has processed everything and shows the version 2, though 3 was sent to it. -/
theorem newest_snapshot_overtaken :
    Started threePlayers.shared (fun _ => {}) ∧
      (∃ t, Run.Visits (step .sorted) threePlayers overtakingRun t ∧ t.mail.inbox 13 = [] ∧
        (t.browser 13).base.roomId = 1 ∧ (t.browser 13).base.snapshotVersion = 2 ∧
        ∃ msg ∈ t.mail.sent 13, msg.Brings 1 3) ∧
      ¬ ShowsNewest .sorted threePlayers overtakingRun := by
  have hfacts : (Run.exec (step .sorted) threePlayers overtakingRun).map (fun m =>
      ((m.mail.inbox 13).isEmpty, (m.browser 13).base.roomId,
        (m.browser 13).base.snapshotVersion)) = some (true, 1, 2) ∧
      (Run.exec (step .sorted) threePlayers overtakingRun).map (fun m =>
        (m.shared.rooms.rooms.find 1).map fun room => (room.roomId, room.snapshotVersion,
          decide ((Notification.room (.statePush room.makeSnapshot)).message ∈ m.mail.sent 13))) =
        some (some (1, 3, true)) := by
    decide +kernel
  obtain ⟨hbrowser, hsends⟩ := hfacts
  obtain ⟨t, ht, heq⟩ := Option.map_eq_some_iff.mp hbrowser
  rw [ht, Option.map_some, Option.some.injEq] at hsends
  simp only [Prod.mk.injEq] at heq
  obtain ⟨hinbox, hroom, hversion⟩ := heq
  simp only [Option.map_eq_some_iff, Prod.mk.injEq, decide_eq_true_eq] at hsends
  obtain ⟨room, -, hid, hnumber, hsent⟩ := hsends
  have hvisits : Run.Visits (step .sorted) threePlayers overtakingRun t :=
    ⟨_, [], (List.append_nil _).symm, ht⟩
  have hbrings : ∃ msg ∈ t.mail.sent 13, msg.Brings 1 3 :=
    ⟨_, hsent, .statePush room.makeSnapshot, room.makeSnapshot_plainTexts, rfl, hid, hnumber⟩
  have hstarted : Started threePlayers.shared (fun _ => {}) := by
    refine ⟨fun r room hfind => ?_, fun _ => ⟨by decide, fun room hfind => ?_⟩⟩
    · simp [threePlayers, start, GameServer.loggedIn, GameServer.start] at hfind
    · exact absurd (Table.find_bounds hfind).1 (lt_irrefl _)
  refine ⟨hstarted, ⟨t, hvisits, List.isEmpty_iff.mp hinbox, hroom, hversion, hbrings⟩, fun h => ?_⟩
  obtain ⟨msg, hmsg, hbrought⟩ := hbrings
  have hnewest := (h.newest t hvisits 13 (List.isEmpty_iff.mp hinbox) ⟨msg, hmsg, 1, 3, hbrought⟩).2
  have hle := hnewest msg hmsg 3 (hroom ▸ hbrought)
  rw [hversion] at hle
  exact absurd hle (by decide)

end MessageThreads

end DdzServer
