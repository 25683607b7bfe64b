import DdzServer.Server.HandlerCalls

/-!
# Failed logins, reconnects and refreshes

The three requests that authenticate a player write to the sessions, the players and Redis, with
checks and fallible calls in between. A request that fails after its first write does not undo it.
-/

namespace DdzServer

open UnorderedMap

/-! ### Redis -/

/-- What the external Redis keeps for `RedisOptionalStore`. -/
structure RedisStore where
  tokenByPlayer : UnorderedMap ℤ CppString := ∅
  onlineByPlayer : UnorderedMap ℤ Bool := ∅
  sessionByPlayer : UnorderedMap ℤ ℤ := ∅

/-- Which calls of a request Redis carries out. -/
structure RedisCalls where
  getToken : Bool := true
  storeToken : Bool := true
  setOnline : Bool := true
  upsertSession : Bool := true

namespace RedisStore

variable (r : RedisStore)

/-- The replies to a request for the given player. -/
def replies (calls : RedisCalls) (playerId : ℤ) : RedisReplies where
  getToken := if calls.getToken then r.tokenByPlayer.lookup playerId else none
  storeToken := calls.storeToken
  setOnline := calls.setOnline
  upsertSession := calls.upsertSession

/-- `SetOnline`, and `UpsertSession` if it succeeds. -/
def storeSession (redis : RedisReplies) (playerId roomId ttlMs : ℤ) : RedisStore :=
  if redis.setsOnline playerId ttlMs then
    if redis.upsertsSession playerId ttlMs then
      { r with
        onlineByPlayer := Finmap.insert playerId true r.onlineByPlayer
        sessionByPlayer := Finmap.insert playerId roomId r.sessionByPlayer }
    else
      { r with onlineByPlayer := Finmap.insert playerId true r.onlineByPlayer }
  else
    r

/-- `StoreToken`, and the others if it succeeds. -/
def storeAll (redis : RedisReplies) (playerId : ℤ) (token : CppString) (roomId ttlMs : ℤ) :
    RedisStore :=
  if redis.storesToken playerId token ttlMs then
    { r with tokenByPlayer := Finmap.insert playerId token r.tokenByPlayer }.storeSession redis
      playerId roomId ttlMs
  else
    r

end RedisStore

/-! ### The requests -/

inductive AuthRequest where
  | login (connectionId : ℤ) (body : CppString)
  | reconnect (connectionId : ℤ) (body : CppString)
  | sessionRefresh (body : CppString)

namespace GameServer

variable (s : GameServer)

/-- The player for whom a refresh issues a token, when it passes all checks. -/
def refreshPlayer (body : CppString) (nowMs : ℤ) (redis : RedisReplies) : Option ℤ :=
  match parseSessionRefreshRequest body with
  | none     => none
  | some req =>
    match s.checkSession req.playerId req.token req.roomId nowMs redis with
    | .error _ => none
    | .ok _    => some req.playerId

/-- The request and the session of the player who gets a new token. -/
lemma of_refreshPlayer {s : GameServer} {body : CppString} {nowMs : ℤ} {redis : RedisReplies}
    {playerId : ℤ} (h : s.refreshPlayer body nowMs redis = some playerId) :
    ∃ req session, parseSessionRefreshRequest body = some req ∧
      s.checkSession req.playerId req.token req.roomId nowMs redis = .ok session ∧
      req.playerId = playerId := by
  unfold refreshPlayer at h
  cases hparse : parseSessionRefreshRequest body with
  | none => simp [hparse] at h
  | some req =>
    simp only [hparse] at h
    cases hcheck : s.checkSession req.playerId req.token req.roomId nowMs redis with
    | error e => simp [hcheck] at h
    | ok session =>
      simp only [hcheck, Option.some.injEq] at h
      exact ⟨req, session, rfl, hcheck, h⟩

end GameServer

namespace AuthRequest

/-- The player that the request names; a login names one by its ticket. -/
def claimed (s : GameServer) (nowMs : ℤ) : AuthRequest → Option ℤ
  | .login _ body         => s.loginPlayer body nowMs
  | .reconnect _ body     => (parseReconnectRequest body).map ReconnectRequest.playerId
  | .sessionRefresh body  => (parseSessionRefreshRequest body).map SessionRefreshRequest.playerId

/-- The player for whom the request goes on to write, when it passes all checks. -/
def admitted (s : GameServer) (nowMs : ℤ) (redis : RedisReplies) : AuthRequest → Option ℤ
  | .login _ body         => s.loginPlayer body nowMs
  | .reconnect _ body     => s.reconnectPlayer body nowMs redis
  | .sessionRefresh body  => s.refreshPlayer body nowMs redis

/-- The handler of the request, and the code of its answer. -/
def handle (s : GameServer) (nowMs : ℤ) (redis : RedisReplies) :
    AuthRequest → GameServer × ErrorCode
  | .login connectionId body      =>
    (s.handleLogin connectionId body nowMs redis).map id LoginResult.code
  | .reconnect connectionId body  =>
    (s.handleReconnect connectionId body nowMs redis).map id ReconnectResult.code
  | .sessionRefresh body          =>
    (s.handleSessionRefresh body nowMs redis).map id SessionRefreshResult.code

/-- What an admitted request writes to Redis. -/
def store (s : GameServer) (r : RedisStore) (nowMs : ℤ) (redis : RedisReplies) (playerId : ℤ) :
    AuthRequest → RedisStore
  | .reconnect _ _ =>
    r.storeSession redis playerId (s.sessionRoomId playerId) (s.auth.ttlSeconds * 1000)
  | .login _ _ | .sessionRefresh _ =>
    r.storeAll redis playerId (s.auth.issueSessionToken playerId nowMs).2.token
      (s.sessionRoomId playerId) (s.auth.ttlSeconds * 1000)

/-- All Redis writes of an admitted request succeed. -/
def Stores (s : GameServer) (nowMs : ℤ) (redis : RedisReplies) (playerId : ℤ) :
    AuthRequest → Prop
  | .reconnect _ _ =>
    redis.setsOnline playerId (s.auth.ttlSeconds * 1000) = true ∧
      redis.upsertsSession playerId (s.auth.ttlSeconds * 1000) = true
  | .login _ _ | .sessionRefresh _ =>
    redis.storesToken playerId (s.auth.issueSessionToken playerId nowMs).2.token
        (s.auth.ttlSeconds * 1000) = true ∧
      redis.setsOnline playerId (s.auth.ttlSeconds * 1000) = true ∧
      redis.upsertsSession playerId (s.auth.ttlSeconds * 1000) = true

end AuthRequest

/-! ### What the handlers do -/

namespace AuthRequest

variable {s : GameServer} {nowMs pid : ℤ} {redis : RedisReplies}

/-- The player of a valid ticket. -/
lemma pos_of_loginPlayer {body : CppString} (h : s.loginPlayer body nowMs = some pid) : 0 < pid :=
  (GameServer.handleLogin_of_some 0 {} h).1

/-- A player whose token passes the checks. -/
lemma pos_of_checkSession {playerId roomId : ℤ} {token : CppString} {session : Session}
    (h : s.checkSession playerId token roomId nowMs redis = .ok session) : 0 < playerId := by
  simp only [GameServer.checkSession] at h
  split_ifs at h with hexpired hok hplayer
  rw [not_not] at hplayer
  exact hplayer ▸ AuthTokenService.playerId_pos_of_verify hok

lemma handleSessionRefresh_of_none {body : CppString}
    (h : s.refreshPlayer body nowMs redis = none) :
    (s.handleSessionRefresh body nowMs redis).1 = s := by
  unfold GameServer.refreshPlayer at h
  unfold GameServer.handleSessionRefresh
  cases hparse : parseSessionRefreshRequest body with
  | none => rfl
  | some req =>
    simp only [hparse] at h
    cases hcheck : s.checkSession req.playerId req.token req.roomId nowMs redis with
    | error e => simp only [hcheck]
    | ok session => simp [hcheck] at h

/-- A refused request changes nothing. -/
lemma handle_of_refused {req : AuthRequest} (h : req.admitted s nowMs redis = none) :
    (req.handle s nowMs redis).1 = s := by
  cases req with
  | login connectionId body => exact (GameServer.handleLogin_of_none connectionId redis h).1
  | reconnect connectionId body => exact (GameServer.handleReconnect_of_none connectionId h).1
  | sessionRefresh body => exact handleSessionRefresh_of_none h

/-- What the handler of an admitted request writes to the managers. -/
def written (s : GameServer) (nowMs pid : ℤ) : AuthRequest → GameServer
  | .login connectionId body     => s.loggedIn pid (loginNickname body pid) connectionId nowMs
  | .reconnect connectionId _    =>
    { s with
      sessions := (s.sessions.rebindForReconnect pid connectionId nowMs).1
      players := s.players.forceState pid (stateOfRoom (s.sessionRoomId pid)) }
  | .sessionRefresh _            => { s with auth := (s.auth.issueSessionToken pid nowMs).1 }

/-- The answer to an admitted login. -/
lemma code_login {body : CppString} (henabled : s.redisEnabled = true)
    (h : s.loginPlayer body nowMs = some pid) (connectionId : ℤ) :
    ((login connectionId body).Stores s nowMs redis pid →
        (s.handleLogin connectionId body nowMs redis).2.code = .ok) ∧
      (¬ (login connectionId body).Stores s nowMs redis pid →
        (s.handleLogin connectionId body nowMs redis).2.code = .unknownError) := by
  unfold GameServer.loginPlayer at h
  unfold GameServer.handleLogin
  split at h
  · cases h
  next ticket hparse =>
    dsimp only at h
    split_ifs at h with hok
    cases h
    have hpos := AuthTokenService.playerId_pos_of_verify hok
    have htoken := s.auth.issueSessionToken_token_ne_nil nowMs hpos
    have hexpired := AuthTokenService.not_expired_of_verify hok
    dsimp only
    rw [if_neg hexpired, if_neg (not_not.mpr hok), if_neg htoken]
    constructor
    · intro hstores
      rw [if_neg (fun hfails => hfails.2 hstores)]
    · intro hfails
      rw [if_pos ⟨henabled, hfails⟩]

lemma code_reconnectResult (session : Session) (req : ReconnectRequest) (oldConn : Option ℤ) :
    (s.reconnectResult session req oldConn).code = .ok ∨
      (s.reconnectResult session req oldConn).code = .snapshotVersionConflict := by
  unfold GameServer.reconnectResult
  dsimp only
  split_ifs
  · split
    · exact Or.inl rfl
    · split_ifs
      · exact Or.inr rfl
      · exact Or.inl rfl
  · exact Or.inl rfl
  · exact Or.inr rfl

/-- The answer to an admitted reconnect. -/
lemma code_reconnect {body : CppString} (henabled : s.redisEnabled = true)
    (h : s.reconnectPlayer body nowMs redis = some pid) (connectionId : ℤ) :
    ((reconnect connectionId body).Stores s nowMs redis pid →
        (s.handleReconnect connectionId body nowMs redis).2.code = .ok ∨
          (s.handleReconnect connectionId body nowMs redis).2.code = .snapshotVersionConflict) ∧
      (¬ (reconnect connectionId body).Stores s nowMs redis pid →
        (s.handleReconnect connectionId body nowMs redis).2.code = .unknownError) := by
  unfold GameServer.reconnectPlayer at h
  unfold GameServer.handleReconnect
  split at h
  · cases h
  next req hparse =>
    split at h
    · cases h
    next session hcheck =>
      cases h
      simp only [hcheck]
      constructor
      · intro hstores
        rw [if_neg (fun hfails => hfails.2 hstores)]
        exact code_reconnectResult session req _
      · intro hfails
        rw [if_pos ⟨henabled, hfails⟩]

/-- An admitted refresh: the nonce is used up, and the answer says whether Redis has the token. -/
lemma sessionRefresh_spec {body : CppString} (henabled : s.redisEnabled = true)
    (h : s.refreshPlayer body nowMs redis = some pid) :
    (s.handleSessionRefresh body nowMs redis).1 = (sessionRefresh body).written s nowMs pid ∧
      ((sessionRefresh body).Stores s nowMs redis pid →
        (s.handleSessionRefresh body nowMs redis).2.code = .ok) ∧
      (¬ (sessionRefresh body).Stores s nowMs redis pid →
        (s.handleSessionRefresh body nowMs redis).2.code = .unknownError) := by
  obtain ⟨req, session, hparse, hcheck, rfl⟩ := GameServer.of_refreshPlayer h
  have htoken := s.auth.issueSessionToken_token_ne_nil nowMs (pos_of_checkSession hcheck)
  unfold GameServer.handleSessionRefresh
  simp only [hparse, hcheck, if_neg htoken]
  refine ⟨?_, fun hstores => ?_, fun hfails => ?_⟩
  · split_ifs
    · rfl
    · rfl
  · rw [if_neg (fun hfails => hfails.2 hstores)]
  · rw [if_pos ⟨henabled, hfails⟩]

lemma handle_of_admitted (henabled : s.redisEnabled = true) {req : AuthRequest}
    (h : req.admitted s nowMs redis = some pid) :
    (req.handle s nowMs redis).1 = req.written s nowMs pid ∧
      (req.Stores s nowMs redis pid → (req.handle s nowMs redis).2 = .ok ∨
        (req.handle s nowMs redis).2 = .snapshotVersionConflict) ∧
      (¬ req.Stores s nowMs redis pid → (req.handle s nowMs redis).2 = .unknownError) := by
  cases req with
  | login connectionId body =>
    obtain ⟨hok, herror⟩ := code_login henabled h connectionId
    exact ⟨(GameServer.handleLogin_of_some connectionId redis h).2.1, fun hs => Or.inl (hok hs),
      herror⟩
  | reconnect connectionId body =>
    obtain ⟨hok, herror⟩ := code_reconnect henabled h connectionId
    obtain ⟨session, hsession, hserver, -⟩ := GameServer.handleReconnect_of_some connectionId h
    refine ⟨hserver.trans ?_, hok, herror⟩
    have hroom : s.sessionRoomId pid = session.roomId := by
      rw [GameServer.sessionRoomId, SessionManager.getSessionByPlayer, hsession]
      rfl
    rw [written, hroom]
    rfl
  | sessionRefresh body =>
    obtain ⟨hserver, hok, herror⟩ := sessionRefresh_spec henabled h
    exact ⟨hserver, fun hs => Or.inl (hok hs), herror⟩

lemma redisEnabled_handle (henabled : s.redisEnabled = true) (req : AuthRequest) :
    (req.handle s nowMs redis).1.redisEnabled = true := by
  cases h : req.admitted s nowMs redis with
  | none => rw [handle_of_refused h, henabled]
  | some pid =>
    rw [(handle_of_admitted henabled h).1]
    cases req with
    | login => exact henabled
    | reconnect => exact henabled
    | sessionRefresh => exact henabled

end AuthRequest

/-! ### The server with its Redis -/

/-- The connection of a player's session, and whether it is online. -/
def SessionManager.binding (m : SessionManager) (playerId : ℤ) : Option (ℤ × Bool) :=
  (m.getSessionByPlayer playerId).map fun session => (session.connectionId, session.online)

/-- Bindings, online flags and states are the same. -/
structure GameServer.SameManagers (s s' : GameServer) : Prop where
  conns : s'.sessions.connToPlayer = s.sessions.connToPlayer
  bindings : ∀ p, s'.sessions.binding p = s.sessions.binding p
  states : ∀ p, s'.players.getState p = s.players.getState p

lemma GameServer.SameManagers.refl (s : GameServer) : s.SameManagers s :=
  ⟨rfl, fun _ => rfl, fun _ => rfl⟩

/-- A server with Redis enabled. -/
structure RedisServer where
  server : GameServer
  redis : RedisStore := {}
  redisEnabled : server.redisEnabled = true

namespace RedisServer

variable (s : RedisServer) (nowMs : ℤ) (calls : RedisCalls) (req : AuthRequest)

/-- The replies of Redis to the request. -/
def replies : RedisReplies := s.redis.replies calls ((req.claimed s.server nowMs).getD 0)

/-- A request handled without interruption. -/
def handle : RedisServer × ErrorCode :=
  ({ server := (req.handle s.server nowMs (s.replies nowMs calls req)).1
     redis :=
      match req.admitted s.server nowMs (s.replies nowMs calls req) with
      | none     => s.redis
      | some pid => req.store s.server s.redis nowMs (s.replies nowMs calls req) pid
     redisEnabled := AuthRequest.redisEnabled_handle s.redisEnabled req },
    (req.handle s.server nowMs (s.replies nowMs calls req)).2)

/-- Bindings, online flags, states and tokens are the same. -/
structure Unchanged (s s' : RedisServer) : Prop where
  managers : s.server.SameManagers s'.server
  tokens : s'.redis.tokenByPlayer = s.redis.tokenByPlayer

/-- The player is online on the connection, in the state that fits the session's room. -/
def IsBound (pid connectionId : ℤ) : Prop :=
  s.server.sessions.binding pid = some (connectionId, true) ∧
    s.server.sessions.getPlayerIdByConnection connectionId = some pid ∧
    s.server.players.getState pid = stateOfRoom (s.server.sessionRoomId pid)

/-- The token that would be stored is not stored, or it is the one that is there. -/
def KeepsToken (pid : ℤ) : Prop :=
  (s.replies nowMs calls req).storesToken pid (s.server.auth.issueSessionToken pid nowMs).2.token
      (s.server.auth.ttlSeconds * 1000) = false ∨
    s.redis.tokenByPlayer.lookup pid = some (s.server.auth.issueSessionToken pid nowMs).2.token

/-- What an admitted request writes before a call fails is there already. -/
def WritesNothing (pid : ℤ) : Prop :=
  match req with
  | .login connectionId _     => s.IsBound pid connectionId ∧ s.KeepsToken nowMs calls req pid
  | .reconnect connectionId _ => s.IsBound pid connectionId
  | .sessionRefresh _         => s.KeepsToken nowMs calls req pid

/-- The request is refused by its checks, or all its writes to Redis succeed, or it writes nothing
new before one of them fails. -/
def Harmless : Prop :=
  ∀ pid, req.admitted s.server nowMs (s.replies nowMs calls req) = some pid →
    req.Stores s.server nowMs (s.replies nowMs calls req) pid ∨ s.WritesNothing nowMs calls req pid

/-! ### What a request leaves as it was -/

variable {s : RedisServer} {nowMs : ℤ} {calls : RedisCalls} {req : AuthRequest}

lemma tokens_storeSession (r : RedisStore) (redis : RedisReplies) (pid roomId ttlMs : ℤ) :
    (r.storeSession redis pid roomId ttlMs).tokenByPlayer = r.tokenByPlayer := by
  unfold RedisStore.storeSession
  split_ifs
  · rfl
  · rfl
  · rfl

/-- The tokens stay if the new one is not stored, or is there. -/
lemma tokens_storeAll_iff (r : RedisStore) (redis : RedisReplies) (pid : ℤ) (token : CppString)
    (roomId ttlMs : ℤ) :
    (r.storeAll redis pid token roomId ttlMs).tokenByPlayer = r.tokenByPlayer ↔
      redis.storesToken pid token ttlMs = false ∨ r.tokenByPlayer.lookup pid = some token := by
  unfold RedisStore.storeAll
  split_ifs with hstores
  · rw [tokens_storeSession]
    constructor
    · intro h
      refine Or.inr ?_
      rw [← h]
      exact Finmap.lookup_insert _
    · rintro (hfails | hlookup)
      · rw [hstores] at hfails
        cases hfails
      · exact insert_lookup hlookup
  · exact iff_of_true rfl (Or.inl (by simpa using hstores))

/-- A request that binds the player leaves the managers as they were if the player is bound. -/
lemma isBound_iff_of_written {server : GameServer} {pid connectionId : ℤ}
    (hbinding : server.sessions.binding pid = some (connectionId, true))
    (hothers : ∀ p, p ≠ pid → server.sessions.binding p = s.server.sessions.binding p)
    (hconn : server.sessions.connToPlayer.lookup connectionId = some pid)
    (hconns : s.server.sessions.binding pid = some (connectionId, true) → ∀ c, c ≠ connectionId →
      server.sessions.connToPlayer.lookup c = s.server.sessions.connToPlayer.lookup c)
    (hstate : ∀ p, server.players.getState p =
      if p = pid then stateOfRoom (s.server.sessionRoomId pid) else s.server.players.getState p) :
    s.server.SameManagers server ↔ s.IsBound pid connectionId := by
  constructor
  · rintro ⟨hc, hb, hs⟩
    refine ⟨(hb pid).symm.trans hbinding, ?_, ?_⟩
    · rw [SessionManager.getPlayerIdByConnection, ← hc, hconn]
    · rw [← hs pid, hstate, if_pos rfl]
  · rintro ⟨hbound, hlookup, hfits⟩
    refine ⟨Finmap.ext_lookup fun c => ?_, fun p => ?_, fun p => ?_⟩
    · by_cases hc : c = connectionId
      · rw [hc, hconn]
        exact hlookup.symm
      · exact hconns hbound c hc
    · by_cases hp : p = pid
      · rw [hp, hbinding, hbound]
      · exact hothers p hp
    · rw [hstate]
      split_ifs with hp
      · rw [hp, hfits]
      · rfl

lemma binding_of_lookup {m : SessionManager} {p : ℤ} {session : Session}
    (h : m.playerToSession.lookup p = some session) :
    m.binding p = some (session.connectionId, session.online) := by
  rw [SessionManager.binding, SessionManager.getSessionByPlayer, h]
  rfl

lemma binding_congr {m m' : SessionManager} {p : ℤ}
    (h : m'.playerToSession.lookup p = m.playerToSession.lookup p) :
    m'.binding p = m.binding p := by
  rw [SessionManager.binding, SessionManager.getSessionByPlayer, h]
  rfl

lemma isBound_iff_login (s : RedisServer) (connectionId : ℤ) (body : CppString) (nowMs pid : ℤ) :
    s.server.SameManagers ((AuthRequest.login connectionId body).written s.server nowMs pid) ↔
      s.IsBound pid connectionId := by
  have hlookup := s.server.sessions.lookup_bindLogin pid connectionId nowMs
  have hconn := s.server.sessions.lookup_conn_bindLogin pid connectionId nowMs
  refine isBound_iff_of_written ?_ (fun p hp => binding_congr ?_) ?_ (fun hbound c hc => ?_)
    fun p => ?_
  · exact binding_of_lookup ((hlookup pid).trans (if_pos rfl))
  · exact (hlookup p).trans (if_neg hp)
  · exact (hconn connectionId).trans (if_pos rfl)
  · obtain ⟨session, hsession, heq⟩ := Option.map_eq_some_iff.mp hbound
    obtain ⟨hid, honline⟩ := Prod.mk.inj heq
    have hlookup' : s.server.sessions.playerToSession.lookup pid = some session := hsession
    have hold : s.server.sessions.getConnectionIdByPlayer pid = some connectionId := by
      rw [SessionManager.getConnectionIdByPlayer, hlookup']
      simp [honline, hid]
    refine (hconn c).trans ?_
    rw [if_neg hc, hold, if_neg fun h => hc (Option.some.inj h).symm]
  · change ((s.server.players.upsertPlayer _ _ _).forceState pid _).getState p = _
    rw [PlayerManager.getState_forceState, PlayerManager.getState_upsertPlayer]
    rfl

lemma isBound_iff_reconnect (s : RedisServer) (connectionId : ℤ) (body : CppString)
    (nowMs : ℤ) {pid : ℤ} {session : Session}
    (hsession : s.server.sessions.playerToSession.lookup pid = some session) :
    s.server.SameManagers ((AuthRequest.reconnect connectionId body).written s.server nowMs pid) ↔
      s.IsBound pid connectionId := by
  have hlookup := SessionManager.lookup_rebindForReconnect hsession connectionId nowMs
  have hconn := SessionManager.lookup_conn_rebindForReconnect hsession connectionId nowMs
  refine isBound_iff_of_written ?_ (fun p hp => binding_congr ?_) ?_ (fun hbound c hc => ?_)
    fun p => ?_
  · exact binding_of_lookup ((hlookup pid).trans (if_pos rfl))
  · exact (hlookup p).trans (if_neg hp)
  · exact (hconn connectionId).trans (if_pos rfl)
  · rw [binding_of_lookup hsession, Option.some.injEq, Prod.mk.injEq] at hbound
    refine (hconn c).trans ?_
    rw [if_neg hc, hbound.1, if_neg fun h => hc h.1]
  · exact PlayerManager.getState_forceState _ _ _ _

/-- An admitted request that fails changes nothing if it writes nothing new. -/
lemma unchanged_iff_of_admitted {pid : ℤ}
    (h : req.admitted s.server nowMs (s.replies nowMs calls req) = some pid) :
    s.Unchanged (s.handle nowMs calls req).1 ↔ s.WritesNothing nowMs calls req pid := by
  have hserver : (s.handle nowMs calls req).1.server = req.written s.server nowMs pid :=
    (AuthRequest.handle_of_admitted s.redisEnabled h).1
  have hredis : (s.handle nowMs calls req).1.redis =
      req.store s.server s.redis nowMs (s.replies nowMs calls req) pid := by
    simp only [handle, h]
  have hunchanged : s.Unchanged (s.handle nowMs calls req).1 ↔
      s.server.SameManagers (req.written s.server nowMs pid) ∧
        (req.store s.server s.redis nowMs (s.replies nowMs calls req) pid).tokenByPlayer =
          s.redis.tokenByPlayer := by
    rw [← hserver, ← hredis]
    exact ⟨fun h => ⟨h.managers, h.tokens⟩, fun h => ⟨h.1, h.2⟩⟩
  rw [hunchanged]
  cases req with
  | login connectionId body =>
    exact and_congr (isBound_iff_login s connectionId body nowMs pid)
      (tokens_storeAll_iff _ _ _ _ _ _)
  | reconnect connectionId body =>
    obtain ⟨session, hsession, -⟩ := GameServer.handleReconnect_of_some connectionId h
    rw [isBound_iff_reconnect s connectionId body nowMs hsession]
    exact and_iff_left (tokens_storeSession _ _ _ _ _)
  | sessionRefresh body =>
    rw [and_iff_right ⟨rfl, fun _ => rfl, fun _ => rfl⟩]
    exact tokens_storeAll_iff _ _ _ _ _ _

/-- A login, reconnect or refresh that fails leaves bindings, online flags, states and tokens as
they were, exactly if its checks refuse it, or Redis carries out all its writes, so that it does not
fail, or it writes nothing new before one of them fails. -/
theorem failed_auth_unchanged_iff (s : RedisServer) (nowMs : ℤ) (calls : RedisCalls)
    (req : AuthRequest) :
    ((s.handle nowMs calls req).2 ≠ .ok → (s.handle nowMs calls req).2 ≠ .snapshotVersionConflict →
      s.Unchanged (s.handle nowMs calls req).1) ↔ s.Harmless nowMs calls req := by
  constructor
  · intro hunchanged pid h
    by_cases hstores : req.Stores s.server nowMs (s.replies nowMs calls req) pid
    · exact Or.inl hstores
    · have hcode : (s.handle nowMs calls req).2 = .unknownError :=
        (AuthRequest.handle_of_admitted s.redisEnabled h).2.2 hstores
      refine Or.inr ((unchanged_iff_of_admitted h).mp (hunchanged ?_ ?_))
      · rw [hcode]
        decide
      · rw [hcode]
        decide
  · intro hharmless hok hconflict
    cases h : req.admitted s.server nowMs (s.replies nowMs calls req) with
    | none =>
      have hserver : (s.handle nowMs calls req).1.server = s.server :=
        AuthRequest.handle_of_refused h
      have hredis : (s.handle nowMs calls req).1.redis = s.redis := by
        simp only [handle, h]
      exact ⟨hserver.symm ▸ .refl _, by rw [hredis]⟩
    | some pid =>
      rcases hharmless pid h with hstores | hnothing
      · rcases (AuthRequest.handle_of_admitted s.redisEnabled h).2.1 hstores with hcode | hcode
        · exact absurd hcode hok
        · exact absurd hcode hconflict
      · exact (unchanged_iff_of_admitted h).mpr hnothing

/-- Player 1 is logged in on connection 11. -/
def playerOne : RedisServer :=
  (handle { server := .start {} true, redisEnabled := rfl } 0 {}
    (.login 11 (GameServer.ticketBody 1))).1

/-- He logs in on connection 12, and Redis stores the token but not that he is online: the login
fails, connection 11 is cut off, and another token is stored. -/
theorem failed_login_takes_over :
    (playerOne.handle 5 { setOnline := false } (.login 12 (GameServer.ticketBody 1))).2 =
        .unknownError ∧
      playerOne.server.sessions.getPlayerIdByConnection 11 = some 1 ∧
      (playerOne.handle 5 { setOnline := false }
          (.login 12 (GameServer.ticketBody 1))).1.server.sessions.getPlayerIdByConnection 11 =
        none ∧
      (playerOne.handle 5 { setOnline := false }
          (.login 12 (GameServer.ticketBody 1))).1.redis.tokenByPlayer.lookup 1 ≠
        playerOne.redis.tokenByPlayer.lookup 1 := by
  decide +kernel

end RedisServer

end DdzServer
