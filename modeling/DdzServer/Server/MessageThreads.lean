import DdzServer.Lib.Inbox
import DdzServer.Lib.Interleaving
import DdzServer.Server.Notifications
import DdzServer.Server.PlayerAction

/-!
# Messages of concurrent handlers

The handlers of `server/game_server.cpp` from the service call on: what each of them sends, message
by message, while the handlers of other threads send too. Every connection delivers in the order of
sending, and a browser processes its messages one at a time. Who is online on which connection does
not change here.
-/

namespace DdzServer

open Interleaving Inbox

/-! ### Handlers -/

/-- What is left to do for a handler. -/
inductive SendTask where
  | notify (playerId : ℤ) (notification : Notification)
  /-- a round of the loop in `NotifyMatchSuccess` -/
  | notifyMatchSuccess (playerId roomId mode : ℤ) (players : List ℤ)
  | markPlayerOnline (playerId : ℤ)
  /-- `NotifyRoomStatePush` and `NotifyRoomStatePushV2` -/
  | notifyRoom (roomId : ℤ) (message : RoomMessage)
  | buildPushSnapshotV2ByRoomId (roomId : ℤ)
  | notifyPrivateHandsInRoom (roomId snapshotVersion : ℤ)
  | notifyPrivateHandByConnection (playerId roomId snapshotVersion : ℤ)
  | settleByServerResult (decision : ServerSettlementDecision) (nowMs : ℤ)
  /-- the response of a match or cancel request -/
  | respond (connectionId seqId : ℤ) (code : ErrorCode)

/-- One task done: the server afterwards, the tasks that take its place, and the message that is
sent, with its connection. -/
structure TaskDone where
  server : GameServer
  tasks : List SendTask := []
  sends : Option (ℤ × Client.Message) := none

/-- `NotifyGameOver`. -/
def SettlementResult.notifyGameOver (r : SettlementResult) : List SendTask :=
  r.players.flatMap fun p =>
    [.notify p.playerId (.gameOver r.roomId r.winnerPlayerId p),
     .notify p.playerId (.gameResult r.roomId r.winnerPlayerId p)]

namespace GameServer

variable (s : GameServer)

def perform : SendTask → TaskDone
  | .notify playerId notification =>
    { server := s
      sends := (s.sessions.getConnectionIdByPlayer playerId).map fun c =>
        (c, notification.message) }
  | .notifyMatchSuccess playerId roomId mode players =>
    match s.sessions.getConnectionIdByPlayer playerId with
    | none   => { server := s }
    | some c =>
      { server := s
        tasks := [.markPlayerOnline playerId]
        sends := some (c, (Notification.matchSuccess roomId mode players).message) }
  | .markPlayerOnline playerId =>
    { server := { s with rooms := (s.rooms.markPlayerOnline playerId).1 } }
  | .notifyRoom roomId message =>
    match s.rooms.getRoomById roomId with
    | none      => { server := s }
    | some room => { server := s, tasks := room.players.map fun p => .notify p (.room message) }
  | .buildPushSnapshotV2ByRoomId roomId =>
    match s.rooms.buildPushSnapshotV2ByRoomId roomId with
    | none          => { server := s }
    | some snapshot => { server := s, tasks := [.notifyRoom roomId (.statePushV2 snapshot)] }
  | .notifyPrivateHandsInRoom roomId snapshotVersion =>
    match s.rooms.getRoomById roomId with
    | none      => { server := s }
    | some room =>
      if room.dealt then
        { server := s
          tasks := room.players.map fun p =>
            .notifyPrivateHandByConnection p roomId snapshotVersion }
      else { server := s }
  | .notifyPrivateHandByConnection playerId roomId snapshotVersion =>
    match s.sessions.getConnectionIdByPlayer playerId,
      (s.rooms.getRoomById roomId).bind fun room => room.hands.lookup playerId with
    | some c, some cards =>
      { server := s
        sends := some (c,
          (Notification.privateHand roomId playerId cards snapshotVersion).message) }
    | _, _ => { server := s }
  | .settleByServerResult decision nowMs =>
    let (s, r) := s.settleByServerResult decision nowMs
    { server := s, tasks := if r.code = .ok then r.notifyGameOver else [] }
  | .respond connectionId seqId code =>
    { server := s, sends := some (connectionId, .response seqId (codeBody code)) }

end GameServer

/-- The rest of `MSG_MATCH_REQ`. -/
def MatchResult.tasks (r : MatchResult) (connectionId seqId : ℤ) : List SendTask :=
  (if r.matched then
    r.matchedPlayers.map fun p => .notifyMatchSuccess p r.roomId r.mode r.matchedPlayers
  else []) ++
    [.respond connectionId seqId r.code]

/-- The rest of `MSG_CANCEL_MATCH_REQ`. -/
def CancelMatchResult.tasks (r : CancelMatchResult) (connectionId seqId : ℤ) : List SendTask :=
  [.respond connectionId seqId r.code]

/-- `NotifyMatchTimeout`. -/
def notifyMatchTimeout (events : List MatchTimeoutEvent) : List SendTask :=
  events.map fun e => .notify e.playerId (.matchTimeout e.mode)

/-- What follows an action; the browser does nothing with the response. -/
def Room.ActionReply.tasks (roomId nowMs : ℤ) : Room.ActionReply → List SendTask
  | .error _   => []
  | .ok result =>
    [.notifyRoom roomId (.statePush result.snapshot), .buildPushSnapshotV2ByRoomId roomId,
      .notifyPrivateHandsInRoom roomId result.snapshot.snapshotVersion] ++
    if result.gameOver then
      [.settleByServerResult ⟨roomId, result.winnerPlayerId, result.baseCoin⟩ nowMs]
    else []

/-! ### The system -/

/-- The server, the handlers on their threads, and the messages to the browsers. -/
structure MessageThreads (ι : Type) extends Threads ι GameServer (List SendTask) where
  mail : Mail ℤ Client.Message Client.Browser

/-- A mark on a player that the timer or the end of a connection sets. -/
inductive PresenceMark where
  | offline (playerId offlineAtMs : ℤ)
  | online (playerId : ℤ)
  | trustee (playerId : ℤ) (trustee : Bool)

def RoomManager.setMark (m : RoomManager) : PresenceMark → RoomManager
  | .offline playerId offlineAtMs => (m.markPlayerOffline playerId offlineAtMs).1
  | .online playerId              => (m.markPlayerOnline playerId).1
  | .trustee playerId trustee     => (m.markPlayerTrustee playerId trustee).1

inductive MessageLabel (ι : Type) where
  | startMatch (thread : ι) (connectionId nowMs : ℤ)
  | cancelMatch (thread : ι) (connectionId : ℤ)
  | matchTimeout (thread : ι) (nowMs timeoutMs : ℤ)
  | playerAction (thread : ι) (connectionId : ℤ) (body : CppString) (nowMs : ℤ)
  | trusteeAction (thread : ι) (roomId playerId nowMs : ℤ)
  | offlineLose (thread : ι) (roomId playerId nowMs : ℤ)
  | mark (mark : PresenceMark)
  | proceed (thread : ι)
  | requestTimeout (connectionId seqId : ℤ)
  | process (connectionId : ℤ)

namespace MessageThreads

variable {ι : Type} [DecidableEq ι] (rng : Shuffler) (m : MessageThreads ι)

/-- The browser of a connection. -/
def browser {ι : Type} (m : MessageThreads ι) (connectionId : ℤ) : Client.Browser :=
  m.mail.recipients connectionId

/-- A free thread makes a service call and has to send the rest. -/
def enter (thread : ι) (s : GameServer) (tasks : List SendTask) : Option (MessageThreads ι) :=
  match m.threads thread with
  | []     => some { m with toThreads := m.toThreads.set thread (s, tasks) }
  | _ :: _ => none

/-- A browser sends a request, and a free thread makes the service call. -/
def request (thread : ι) (connectionId : ℤ) (r : Client.LobbyRequest) (s : GameServer)
    (tasks : List SendTask) : Option (MessageThreads ι) :=
  { m with mail := m.mail.change connectionId fun b => b.sendRequest r }.enter thread s tasks

/-- A handler does its next task. -/
def proceed (thread : ι) (task : SendTask) (rest : List SendTask) : MessageThreads ι :=
  let done := m.shared.perform task
  { toThreads := m.toThreads.set thread (done.server, done.tasks ++ rest)
    mail := done.sends.elim m.mail fun send => m.mail.send send.1 send.2 }

def step : MessageLabel ι → Option (MessageThreads ι)
  | .startMatch i connectionId nowMs =>
    let b := m.browser connectionId
    let (s, r) := m.shared.handleMatch connectionId
      (buildKvBody [(str "mode", toStr b.stores.lobby.mode)]) nowMs
    m.request i connectionId .startMatch s (r.tasks connectionId b.nextSeq)
  | .cancelMatch i connectionId =>
    let b := m.browser connectionId
    let (s, r) := m.shared.handleCancelMatch connectionId
    m.request i connectionId .cancelMatch s (r.tasks connectionId b.nextSeq)
  | .matchTimeout i nowMs timeoutMs =>
    let (s, events) := m.shared.handleMatchTimeout nowMs timeoutMs
    m.enter i s (notifyMatchTimeout events)
  | .playerAction i connectionId body nowMs =>
    match m.shared.requestedAction connectionId body with
    | none                         => m.enter i m.shared []
    | some (roomId, senderId, req) =>
      let (rooms, reply) := m.shared.rooms.applyPlayerAction rng roomId senderId req
      m.enter i { m.shared with rooms := rooms } (reply.tasks roomId nowMs)
  | .trusteeAction i roomId playerId nowMs =>
    let (rooms, reply) := m.shared.rooms.applyTrusteeAction rng roomId playerId
    m.enter i { m.shared with rooms := rooms } (reply.tasks roomId nowMs)
  | .offlineLose i roomId playerId nowMs =>
    match m.shared.rooms.pickWinnerForOfflineLose roomId playerId with
    | none        => m.enter i m.shared []
    | some winner => m.enter i m.shared [.settleByServerResult ⟨roomId, winner, 1⟩ nowMs]
  | .mark mark => some { m with shared := { m.shared with rooms := m.shared.rooms.setMark mark } }
  | .proceed i =>
    match m.threads i with
    | []           => none
    | task :: rest => some (m.proceed i task rest)
  | .requestTimeout connectionId seqId =>
    some { m with mail := m.mail.change connectionId fun b => b.requestTimeout seqId }
  | .process connectionId =>
    (m.mail.receive Client.Browser.handleMessage connectionId).map fun mail =>
      { m with mail := mail }

/-- No handler runs, and no message is on the way. -/
def start {ι : Type} (s : GameServer) (browsers : ℤ → Client.Browser) : MessageThreads ι where
  shared := s
  threads := fun _ => []
  mail := { received := fun _ => [], inbox := fun _ => [], recipients := browsers }

/-- A browser can process all that is on the way to it. -/
lemma exec_process (rng : Shuffler) (m : MessageThreads ι) (c : ℤ) :
    ∃ t, Run.exec (step rng) m (List.replicate (m.mail.inbox c).length (.process c)) = some t ∧
      t.mail.inbox c = [] ∧ t.browser c = m.mail.eventual Client.Browser.handleMessage c ∧
      t.toThreads = m.toThreads := by
  generalize hinbox : m.mail.inbox c = msgs
  induction msgs generalizing m with
  | nil =>
    refine ⟨m, rfl, hinbox, ?_, rfl⟩
    rw [Mail.eventual, hinbox]
    rfl
  | cons msg rest ih =>
    obtain ⟨mail, hmail⟩ : ∃ mail, m.mail.receive Client.Browser.handleMessage c = some mail := by
      simp only [Mail.receive, hinbox]
      exact ⟨_, rfl⟩
    obtain ⟨_, _, hcons, hrest, -, -⟩ := Mail.receive_spec hmail
    obtain ⟨rfl, rfl⟩ := List.cons.inj (hinbox.symm.trans hcons)
    obtain ⟨t, hexec, hempty, hbrowser, hthreads⟩ := ih { m with mail := mail }
      (by rw [hrest, Function.update_self])
    refine ⟨t, ?_, hempty, ?_, hthreads⟩
    · rw [List.length_cons, List.replicate_succ, Run.exec_cons]
      simp only [step, hmail, Option.map_some, Option.bind_some]
      exact hexec
    · rw [hbrowser]
      exact Mail.eventual_receive hmail c

end MessageThreads

end DdzServer
