import DdzServer.Login.AuthTokenService
import DdzServer.Match.MatchManager
import DdzServer.Player.PlayerManager
import DdzServer.Room.RoomManager
import DdzServer.Session.SessionManager
import DdzServer.Storage.StorageService

/-!
# The state of the game server

The managers that the services of the server share, and the set of rooms that are being settled.
-/

namespace DdzServer

structure GameServer where
  sessions : SessionManager := {}
  players : PlayerManager := {}
  matching : MatchManager := {}
  rooms : RoomManager := {}
  storage : StorageService := {}
  auth : AuthTokenService := {}
  settlingRooms : Finset ℤ := ∅
  redisEnabled : Bool := false

/-- What the external Redis answers to the calls of one request: the text under the token key, and
whether each write was carried out. -/
structure RedisReplies where
  getToken : Option CppString := none
  storeToken : Bool := true
  setOnline : Bool := true
  upsertSession : Bool := true

namespace RedisReplies

/-- `RedisOptionalStore::ValidateToken` with Redis enabled. -/
def validateToken (redis : RedisReplies) (token : CppString) : Bool :=
  match redis.getToken with
  | some stored => stored ≠ str "(nil)" ∧ stored = token
  | none        => false

/-- `RedisOptionalStore::StoreToken` with Redis enabled. -/
def storesToken (redis : RedisReplies) (playerId : ℤ) (token : CppString) (ttlMs : ℤ) : Bool :=
  0 < playerId ∧ token ≠ [] ∧ 0 < ttlMs ∧ redis.storeToken

/-- `RedisOptionalStore::SetOnline` with Redis enabled. -/
def setsOnline (redis : RedisReplies) (playerId ttlMs : ℤ) : Bool :=
  0 < playerId ∧ 0 < ttlMs ∧ redis.setOnline

/-- `RedisOptionalStore::UpsertSession` with Redis enabled. -/
def upsertsSession (redis : RedisReplies) (playerId ttlMs : ℤ) : Bool :=
  0 < playerId ∧ 0 < ttlMs ∧ redis.upsertSession

end RedisReplies

end DdzServer
