import DdzServer.Server.GameServer
import DdzServer.Util.KvCodec

/-!
# Reconnect

`service/reconnect/reconnect_service.cpp`: a session token binds another connection to the session
of its player, and the version of the client's snapshot is compared with that of the room.
-/

namespace DdzServer

structure ReconnectResult where
  code : ErrorCode := .unknownError
  playerId : ℤ := 0
  roomId : ℤ := 0
  reason : String := "unknown_error"
  oldConnectionToKick : Option ℤ := none
  snapshot : Option RoomSnapshot := none

structure SessionRefreshResult where
  code : ErrorCode := .unknownError
  playerId : ℤ := 0
  roomId : ℤ := 0
  reason : String := "unknown_error"
  token : CppString := []
  expireAtMs : ℤ := 0

structure ReconnectRequest where
  playerId : ℤ := 0
  token : CppString := []
  roomId : ℤ := 0
  lastSnapshotVersion : ℤ := 0

structure SessionRefreshRequest where
  playerId : ℤ := 0
  token : CppString := []
  roomId : ℤ := 0
  deriving DecidableEq

/-- `ParseSessionRefreshRequest`. -/
def parseSessionRefreshRequest (body : CppString) : Option SessionRefreshRequest :=
  let kv := parseKvBody body
  match kv.lookup (str "player_id"), kv.lookup (str "token"), kv.lookup (str "room_id") with
  | some player, some token, some room =>
    if token = [] then none
    else
      match parseI64Strict player, parseI64Strict room with
      | some playerId, some roomId => some ⟨playerId, token, roomId⟩
      | _, _ => none
  | _, _, _ => none

/-- `ParseReconnectRequest`: a refresh request with a version. -/
def parseReconnectRequest (body : CppString) : Option ReconnectRequest :=
  match parseSessionRefreshRequest body,
    ((parseKvBody body).lookup (str "last_snapshot_version")).bind parseI64Strict with
  | some req, some version => some ⟨req.playerId, req.token, req.roomId, version⟩
  | _, _ => none

namespace GameServer

variable (s : GameServer)

/-- What `HandleReconnect` and `HandleSessionRefresh` check after parsing: the session of the
player, or the code and the reason of the refusal. -/
def checkSession (playerId : ℤ) (token : CppString) (roomId nowMs : ℤ) (redis : RedisReplies) :
    Except (ErrorCode × String) Session :=
  let verify := s.auth.verify token nowMs AuthTokenService.purposeSession
  if verify.expired then
    .error (.tokenExpired, "token_expired")
  else if ¬ verify.ok then
    .error (.invalidToken, "invalid_token")
  else if verify.playerId ≠ playerId then
    .error (.invalidToken, "player_id_mismatch")
  else if s.redisEnabled ∧ ¬ redis.validateToken token then
    .error (.invalidToken, "token_not_found")
  else
    match s.sessions.getSessionByPlayer playerId with
    | none         => .error (.notLogin, "not_login")
    | some session =>
      if session.roomId ≠ roomId then
        .error (.reconnectRoomMismatch, "room_mismatch")
      else
        .ok session

/-- The answer of `HandleReconnect` before Redis is written. -/
def reconnectResult (session : Session) (req : ReconnectRequest) (oldConn : Option ℤ) :
    ReconnectResult :=
  let result : ReconnectResult :=
    { code := .ok
      playerId := req.playerId
      roomId := session.roomId
      reason := "ok"
      oldConnectionToKick := oldConn }
  let conflict :=
    { result with code := .snapshotVersionConflict, reason := "snapshot_version_conflict" }
  if 0 < session.roomId then
    match s.rooms.buildSnapshotByRoomId session.roomId with
    | none          => result
    | some snapshot =>
      if snapshot.snapshotVersion ≠ req.lastSnapshotVersion then
        { conflict with snapshot := some snapshot }
      else
        { result with snapshot := some snapshot }
  else if req.lastSnapshotVersion = 0 then result
  else conflict

/-- What a reconnect writes: the session, and the player's state. -/
def reconnected (playerId : ℤ) (session : Session) (connectionId nowMs : ℤ) : GameServer :=
  let state := if 0 < session.roomId then PlayerState.inRoom else .lobby
  { s with
    sessions := (s.sessions.rebindForReconnect playerId connectionId nowMs).1
    players := s.players.forceState playerId state }

/-- `ReconnectService::HandleReconnect`. -/
def handleReconnect (connectionId : ℤ) (body : CppString) (nowMs : ℤ) (redis : RedisReplies) :
    GameServer × ReconnectResult :=
  match parseReconnectRequest body with
  | none     => (s, { code := .invalidToken, reason := "invalid_packet" })
  | some req =>
    match s.checkSession req.playerId req.token req.roomId nowMs redis with
    | .error (code, reason) => (s, { code := code, reason := reason })
    | .ok session           =>
      let oldConn := (s.sessions.rebindForReconnect req.playerId connectionId nowMs).2
      let result := s.reconnectResult session req oldConn
      let ttlMs := s.auth.ttlSeconds * 1000
      let s' := s.reconnected req.playerId session connectionId nowMs
      if s.redisEnabled ∧ ¬ (redis.setsOnline req.playerId ttlMs ∧
          redis.upsertsSession req.playerId ttlMs) then
        (s', { result with code := .unknownError, reason := "redis_update_failed" })
      else
        (s', result)

/-- `ReconnectService::HandleSessionRefresh`. -/
def handleSessionRefresh (body : CppString) (nowMs : ℤ) (redis : RedisReplies) :
    GameServer × SessionRefreshResult :=
  match parseSessionRefreshRequest body with
  | none     => (s, { code := .invalidToken, reason := "invalid_packet" })
  | some req =>
    match s.checkSession req.playerId req.token req.roomId nowMs redis with
    | .error (code, reason) => (s, { code := code, reason := reason })
    | .ok session           =>
      let (auth, issued) := s.auth.issueSessionToken req.playerId nowMs
      let ttlMs := s.auth.ttlSeconds * 1000
      let s' := { s with auth := auth }
      if issued.token = [] then
        (s', { code := .unknownError, reason := "issue_token_failed" })
      else
        let result : SessionRefreshResult :=
          { code := .ok
            playerId := req.playerId
            roomId := session.roomId
            reason := "ok"
            token := issued.token
            expireAtMs := issued.expireAtMs }
        if s.redisEnabled ∧ ¬ (redis.storesToken req.playerId issued.token ttlMs ∧
            redis.setsOnline req.playerId ttlMs ∧ redis.upsertsSession req.playerId ttlMs) then
          (s', { result with
            code := .unknownError
            reason := "redis_update_failed"
            token := []
            expireAtMs := 0 })
        else
          (s', result)

/-- The player whom a reconnect binds, when it passes all checks. -/
def reconnectPlayer (body : CppString) (nowMs : ℤ) (redis : RedisReplies) : Option ℤ :=
  match parseReconnectRequest body with
  | none     => none
  | some req =>
    match s.checkSession req.playerId req.token req.roomId nowMs redis with
    | .error _ => none
    | .ok _    => some req.playerId

end GameServer

end DdzServer
