import DdzServer.Session.ConnectionMap

/-!
# The network and the sessions

`network/tcp_server.cpp` with the callbacks of `server/game_server.cpp`. A connection leaves the
server when the peer closes it or reading fails, when a newer connection of its player replaces it,
or when it is idle for too long. Only the first of these ways tells the server.
-/

namespace DdzServer

open UnorderedMap

/-- The connections with the time of their last bytes, and the id of the next one. -/
structure TcpServer where
  connections : UnorderedMap ℤ ℤ := ∅
  nextConnectionId : ℤ := 1

namespace TcpServer

/-- `AcceptLoop` for one connection; `running` says whether the connection could be started. -/
def accept (tcp : TcpServer) (nowMs : ℤ) (running : Bool) : TcpServer where
  connections :=
    if running then Finmap.insert tcp.nextConnectionId nowMs tcp.connections else tcp.connections
  nextConnectionId := tcp.nextConnectionId + 1

/-- `TcpConnection::TouchHeartbeat`, when bytes arrive on a connection. -/
def touchHeartbeat (tcp : TcpServer) (connectionId nowMs : ℤ) : TcpServer :=
  match tcp.connections.lookup connectionId with
  | none   => tcp
  | some _ => { tcp with connections := Finmap.insert connectionId nowMs tcp.connections }

/-- `RemoveConnection`. -/
def removeConnection (tcp : TcpServer) (connectionId : ℤ) : TcpServer :=
  { tcp with connections := Finmap.erase connectionId tcp.connections }

/-- `CloseConnection`. -/
def closeConnection (tcp : TcpServer) (connectionId : ℤ) : TcpServer :=
  tcp.removeConnection connectionId

/-- `CloseIdleConnections` removes the connections without bytes for too long. -/
def closeIdleConnections (tcp : TcpServer) (nowMs heartbeatTimeoutMs : ℤ) : TcpServer :=
  { tcp with
    connections :=
      UnorderedMap.filter (fun _ lastMs => ¬ heartbeatTimeoutMs < nowMs - lastMs) tcp.connections }

def IsOpen (tcp : TcpServer) (connectionId : ℤ) : Prop := tcp.connections.lookup connectionId ≠ none

variable {tcp : TcpServer} {c d : ℤ}

lemma isOpen_removeConnection : (tcp.removeConnection c).IsOpen d ↔ d ≠ c ∧ tcp.IsOpen d := by
  simp only [IsOpen, removeConnection, lookup_erase]
  split_ifs with hd <;> simp [hd]

lemma isOpen_accept_of (h : tcp.IsOpen d) (nowMs : ℤ) (running : Bool) :
    (tcp.accept nowMs running).IsOpen d := by
  unfold IsOpen accept
  dsimp only
  split_ifs
  · rw [lookup_insert]
    split_ifs
    · simp
    · exact h
  · exact h

lemma isOpen_of_accept {nowMs : ℤ} {running : Bool} (h : (tcp.accept nowMs running).IsOpen d) :
    tcp.IsOpen d ∨ d = tcp.nextConnectionId := by
  unfold IsOpen accept at h
  dsimp only at h
  split_ifs at h
  · rw [lookup_insert] at h
    split_ifs at h with hd
    · exact Or.inr hd
    · exact Or.inl h
  · exact Or.inl h

lemma isOpen_touchHeartbeat (nowMs : ℤ) : (tcp.touchHeartbeat c nowMs).IsOpen d ↔ tcp.IsOpen d := by
  unfold touchHeartbeat
  split
  · rfl
  next hc =>
    simp only [IsOpen, lookup_insert]
    split_ifs with hd
    · subst hd
      simp [hc]
    · rfl

/-- The connection has sent nothing for too long. -/
def IsIdle (tcp : TcpServer) (nowMs heartbeatTimeoutMs c : ℤ) : Prop :=
  ∃ lastMs, tcp.connections.lookup c = some lastMs ∧ heartbeatTimeoutMs < nowMs - lastMs

lemma isOpen_closeIdleConnections {nowMs heartbeatTimeoutMs : ℤ} :
    (tcp.closeIdleConnections nowMs heartbeatTimeoutMs).IsOpen d ↔
      tcp.IsOpen d ∧ ¬ tcp.IsIdle nowMs heartbeatTimeoutMs d := by
  simp only [IsOpen, IsIdle, closeIdleConnections, lookup_filter]
  cases tcp.connections.lookup d with
  | none => simp
  | some lastMs =>
    by_cases hidle : heartbeatTimeoutMs < nowMs - lastMs
    · simp [Option.filter, hidle]
    · simp [Option.filter, hidle]

end TcpServer

/-- The operations that neither bind nor close a connection. -/
def ServerOp.IsOther : ServerOp → Bool
  | .login _ _ _ _ => false
  | .reconnect _ _ _ _ => false
  | .connectionClosed _ _ _ => false
  | _ => true

/-! ### The server on the network -/

structure Network where
  server : GameServer
  tcp : TcpServer := {}

/-- The events of the network, each with the work it causes. -/
inductive NetworkEvent where
  | accept (nowMs : ℤ) (running : Bool)
  | bytes (connectionId nowMs : ℤ)
  | login (connectionId : ℤ) (body : CppString) (nowMs : ℤ) (redis : RedisReplies)
  | reconnect (connectionId : ℤ) (body : CppString) (nowMs : ℤ) (redis : RedisReplies)
  | other (op : { op : ServerOp // op.IsOther })
  | closed (connectionId nowMs offlineAtMs : ℤ)
  | idleSweep (nowMs heartbeatTimeoutMs : ℤ)

namespace Network

/-- A connection replaced by the current one is closed; the close callback is not called. -/
def kick (tcp : TcpServer) (connectionId : ℤ) : Option ℤ → TcpServer
  | some oldConn => if oldConn ≠ connectionId then tcp.closeConnection oldConn else tcp
  | none         => tcp

/-- The dispatch of `MSG_LOGIN_REQ`. -/
def onLogin (n : Network) (connectionId : ℤ) (body : CppString) (nowMs : ℤ) (redis : RedisReplies) :
    Network :=
  let (server, r) := n.server.handleLogin connectionId body nowMs redis
  let snapshot :=
    if r.code = .ok ∧ r.reconnectMode ∧ 0 < r.roomId then
      server.rooms.buildSnapshotByRoomId r.roomId
    else none
  { tcp := kick n.tcp connectionId r.oldConnectionToKick
    server :=
      if snapshot.isSome then
        { server with rooms := (server.rooms.markPlayerOnline r.playerId).1 }
      else server }

/-- The dispatch of `MSG_RECONNECT_REQ`. -/
def onReconnect (n : Network) (connectionId : ℤ) (body : CppString) (nowMs : ℤ)
    (redis : RedisReplies) : Network :=
  let (server, r) := n.server.handleReconnect connectionId body nowMs redis
  { tcp := kick n.tcp connectionId r.oldConnectionToKick
    server :=
      if (r.code = .ok ∨ r.code = .snapshotVersionConflict) ∧ r.snapshot.isSome then
        { server with rooms := (server.rooms.markPlayerOnline r.playerId).1 }
      else server }

/-- `NotifyConnectionClosed`: the peer closed the connection, or reading from it failed. -/
def onClosed (n : Network) (connectionId nowMs offlineAtMs : ℤ) : Network where
  tcp := n.tcp.removeConnection connectionId
  server := n.server.onConnectionClosed connectionId nowMs offlineAtMs

variable (rng : Shuffler)

/-- One event. Packets and failed reads come on connections that were accepted; a worker may still
hold a connection that was removed meanwhile. -/
def step (n : Network) : NetworkEvent → Option Network
  | .accept nowMs running => some { n with tcp := n.tcp.accept nowMs running }
  | .bytes c nowMs => some { n with tcp := n.tcp.touchHeartbeat c nowMs }
  | .login c body nowMs redis =>
    if 0 < c ∧ c < n.tcp.nextConnectionId then some (n.onLogin c body nowMs redis) else none
  | .reconnect c body nowMs redis =>
    if 0 < c ∧ c < n.tcp.nextConnectionId then some (n.onReconnect c body nowMs redis) else none
  | .other op => some { n with server := n.server.apply rng op }
  | .closed c nowMs offlineAtMs =>
    if 0 < c ∧ c < n.tcp.nextConnectionId then some (n.onClosed c nowMs offlineAtMs) else none
  | .idleSweep nowMs heartbeatTimeoutMs =>
    some { n with tcp := n.tcp.closeIdleConnections nowMs heartbeatTimeoutMs }

/-- The server before its first connection. -/
def start (auth : AuthTokenService) (redisEnabled : Bool) : Network where
  server := .start auth redisEnabled

end Network

end DdzServer
