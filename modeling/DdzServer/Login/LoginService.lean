import DdzServer.Server.GameServer
import DdzServer.Util.KvCodec

/-!
# Login

`service/login/login_service.cpp`: a valid ticket registers its player and binds the connection.
-/

namespace DdzServer

structure LoginResult where
  code : ErrorCode := .unknownError
  playerId : ℤ := 0
  nickname : CppString := []
  coin : ℤ := 0
  roomId : ℤ := 0
  reconnectMode : Bool := false
  token : CppString := []
  expireAtMs : ℤ := 0
  oldConnectionToKick : Option ℤ := none
  deriving DecidableEq

/-- `LoginService::ParseLoginTicket`. -/
def parseLoginTicket (body : CppString) : Option CppString :=
  ((parseKvBody body).lookup (str "login_ticket")).filter fun ticket => ticket ≠ []

/-- The nickname a login asks for. -/
def loginNickname (body : CppString) (playerId : ℤ) : CppString :=
  match (parseKvBody body).lookup (str "nickname") with
  | some nickname => if nickname = [] then defaultNickname playerId else nickname
  | none          => defaultNickname playerId

namespace GameServer

variable (s : GameServer)

/-- The room a session remembers; 0 without a session. -/
def sessionRoomId (playerId : ℤ) : ℤ :=
  ((s.sessions.getSessionByPlayer playerId).map Session.roomId).getD 0

/-- The coins a login shows. -/
def loginCoin (playerId : ℤ) : ℤ := ((s.players.getPlayer playerId).map PlayerData.coin).getD 1000

/-- What a login writes: the player, the session, and the nonce of the token. -/
def loggedIn (playerId : ℤ) (nickname : CppString) (connectionId nowMs : ℤ) : GameServer :=
  let coin := if (s.players.getPlayer playerId).isSome then 0 else s.loginCoin playerId
  let state := if 0 < s.sessionRoomId playerId then PlayerState.inRoom else .lobby
  { s with
    players := (s.players.upsertPlayer playerId nickname coin).forceState playerId state
    sessions := (s.sessions.bindLogin playerId connectionId nowMs).1
    auth := (s.auth.issueSessionToken playerId nowMs).1 }

/-- `LoginService::HandleLogin`. -/
def handleLogin (connectionId : ℤ) (body : CppString) (nowMs : ℤ) (redis : RedisReplies) :
    GameServer × LoginResult :=
  match parseLoginTicket body with
  | none        => (s, { code := .invalidPacket })
  | some ticket =>
    let verify := s.auth.verify ticket nowMs AuthTokenService.purposeLogin
    if verify.expired then
      (s, { code := .tokenExpired })
    else if ¬ verify.ok then
      (s, { code := .invalidToken })
    else
      let playerId := verify.playerId
      let nickname := loginNickname body playerId
      let oldRoomId := s.sessionRoomId playerId
      let issued := (s.auth.issueSessionToken playerId nowMs).2
      let ttlMs := s.auth.ttlSeconds * 1000
      let s' := s.loggedIn playerId nickname connectionId nowMs
      if issued.token = [] then
        (s', { code := .unknownError })
      else
        let result : LoginResult :=
          { code := .ok
            playerId := playerId
            nickname := nickname
            coin := s.loginCoin playerId
            roomId := oldRoomId
            reconnectMode := 0 < oldRoomId
            token := issued.token
            expireAtMs := issued.expireAtMs
            oldConnectionToKick := (s.sessions.bindLogin playerId connectionId nowMs).2 }
        if s.redisEnabled ∧ ¬ (redis.storesToken playerId issued.token ttlMs ∧
            redis.setsOnline playerId ttlMs ∧ redis.upsertsSession playerId ttlMs) then
          (s', { result with code := .unknownError, token := [], expireAtMs := 0 })
        else
          (s', result)

/-- The player whose ticket a login carries, when the ticket is valid. -/
def loginPlayer (body : CppString) (nowMs : ℤ) : Option ℤ :=
  match parseLoginTicket body with
  | none        => none
  | some ticket =>
    let verify := s.auth.verify ticket nowMs AuthTokenService.purposeLogin
    if verify.ok then some verify.playerId else none

end GameServer

end DdzServer
