import DdzServer.Login.LoginService
import DdzServer.Match.MatchService
import DdzServer.Network.PacketCodec
import DdzServer.Server.PlayerAction

/-!
# The requests of the server

What the handlers that `GameServer::RegisterHandlers` registers read from a packet, before they look
at any state.
-/

namespace DdzServer

/-- What a packet asks the server for. -/
inductive ServerRequest where
  | login (loginTicket : CppString) (nickname : Option CppString)
  | heartbeat
  | match (mode : ℤ)
  | cancelMatch
  | reconnect (playerId : ℤ) (token : CppString) (roomId lastSnapshotVersion : ℤ)
  | sessionRefresh (playerId : ℤ) (token : CppString) (roomId : ℤ)
  | playerAction (roomId : ℤ) (req : PlayerActionRequest)
  deriving DecidableEq

/-- The request of a packet; `none` for one that a handler finds invalid, or that has none. -/
def readRequest (packet : Packet) : Option ServerRequest :=
  match packet.msgId.toNat with
  | 1001 =>
    (parseLoginTicket packet.body).map fun ticket =>
      .login ticket ((parseKvBody packet.body).lookup (str "nickname"))
  | 1101 => some .heartbeat
  | 2001 => (parseMode packet.body).map .match
  | 2003 => some .cancelMatch
  | 6001 =>
    (parseReconnectRequest packet.body).map fun req =>
      .reconnect req.playerId req.token req.roomId req.lastSnapshotVersion
  | 6103 =>
    (parseSessionRefreshRequest packet.body).map fun req =>
      .sessionRefresh req.playerId req.token req.roomId
  | 4001 => (parsePlayerAction packet.body).map fun action => .playerAction action.1 action.2
  | _    => none

end DdzServer
