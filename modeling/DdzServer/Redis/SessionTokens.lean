import DdzServer.Login.IssuedTokens
import DdzServer.Redis.FailedAuth
import DdzServer.Server.Agreement
import DdzServer.Session.ConnectionMap

/-!
# The session tokens that count

A reconnect or a refresh is let in by its token. Without Redis every session token that was issued
to the player counts until it expires, whatever has happened since; with Redis only the last one
that was stored does. Whoever is let in finds the room that has the player among its members.
-/

namespace DdzServer

open UnorderedMap

/-! ### The server with its Redis -/

/-- The requests that Redis is asked about. -/
def ServerOp.IsAuth : ServerOp → Bool
  | .login _ _ _ _ | .reconnect _ _ _ _ | .sessionRefresh _ _ _ => true
  | _                                                          => false

/-- A server and its Redis, enabled or not. -/
structure TokenServer where
  server : GameServer
  redis : RedisStore := {}

inductive TokenOp where
  | request (req : AuthRequest) (nowMs : ℤ) (calls : RedisCalls)
  | other (op : { op : ServerOp // op.IsAuth = false })

/-- A session token that was issued, and whether Redis has stored it. -/
structure TokenGrant where
  call : IssueCall
  stored : Bool

/-- The last token of the player that was stored. -/
def lastStored (grants : List TokenGrant) (playerId : ℤ) : Option CppString :=
  ((grants.filter fun g => g.stored ∧ g.call.playerId = playerId).getLast?).map fun g =>
    g.call.result.token

/-- What a reconnect and a refresh ask for. -/
def AuthRequest.resumes : AuthRequest → Option SessionRefreshRequest
  | .login _ _           => none
  | .reconnect _ body    =>
    (parseReconnectRequest body).map fun req => ⟨req.playerId, req.token, req.roomId⟩
  | .sessionRefresh body => parseSessionRefreshRequest body

/-- The operation of the server. -/
def AuthRequest.serverOp (req : AuthRequest) (nowMs : ℤ) (redis : RedisReplies) : ServerOp :=
  match req with
  | .login connectionId body     => .login connectionId body nowMs redis
  | .reconnect connectionId body => .reconnect connectionId body nowMs redis
  | .sessionRefresh body         => .sessionRefresh body nowMs redis

/-- The request issues a session token when it is admitted. -/
def AuthRequest.Issues : AuthRequest → Bool
  | .login _ _        => true
  | .reconnect _ _    => false
  | .sessionRefresh _ => true

namespace TokenServer

section Model

variable (rng : Shuffler) (w : TokenServer)

/-- The replies of Redis to the request. -/
def replies (req : AuthRequest) (nowMs : ℤ) (calls : RedisCalls) : RedisReplies :=
  w.redis.replies calls ((req.claimed w.server nowMs).getD 0)

/-- The player whom the request is admitted for. -/
def admitted (req : AuthRequest) (nowMs : ℤ) (calls : RedisCalls) : Option ℤ :=
  req.admitted w.server nowMs (w.replies req nowMs calls)

/-- Redis after a request; it is left alone unless it is enabled. -/
def stores (req : AuthRequest) (nowMs : ℤ) (calls : RedisCalls) : RedisStore :=
  match w.admitted req nowMs calls with
  | none     => w.redis
  | some pid =>
    if w.server.redisEnabled then
      req.store w.server w.redis nowMs (w.replies req nowMs calls) pid
    else w.redis

def apply (w : TokenServer) : TokenOp → TokenServer
  | .request req nowMs calls =>
    { server := (req.handle w.server nowMs (w.replies req nowMs calls)).1
      redis := w.stores req nowMs calls }
  | .other op                => { w with server := w.server.apply rng op }

def step : TokenServer → TokenOp → Option TokenServer := Run.total (apply rng)

/-- The token that an operation issues. -/
def grant (w : TokenServer) : TokenOp → Option TokenGrant
  | .request req nowMs calls =>
    if req.Issues then
      (w.admitted req nowMs calls).map fun pid =>
        { call := .sessionToken w.server.auth pid nowMs
          stored := w.server.redisEnabled ∧ (w.replies req nowMs calls).storesToken pid
            (w.server.auth.issueSessionToken pid nowMs).2.token (w.server.auth.ttlSeconds * 1000) }
    else none
  | .other _                 => none

/-- The tokens issued along a run. -/
def grants (w : TokenServer) (ops : List TokenOp) : List TokenGrant :=
  Run.history (step rng) (fun w op _ gs => gs ++ (w.grant op).toList) w ops []

/-- A server without players. -/
def start (auth : AuthTokenService) (redisEnabled : Bool) : TokenServer :=
  { server := GameServer.start auth redisEnabled }

/-- The token lets the player in, after the given tokens were issued. -/
structure Counts (gs : List TokenGrant) (playerId : ℤ) (token : CppString) (nowMs : ℤ)
    (calls : RedisCalls) : Prop where
  issued : ∃ g ∈ gs, g.call.playerId = playerId ∧ g.call.result.token = token ∧
    nowMs ≤ g.call.expireAtMs
  newest : w.server.redisEnabled = true →
    calls.getToken = true ∧ lastStored gs playerId = some token

end Model

end TokenServer

/-- The times of a request, with the expiry of a token issued then, fit into 64 bits. -/
def TokenOp.InTime (ttlSeconds : ℤ) : TokenOp → Prop
  | .request _ nowMs _ => 0 ≤ nowMs ∧ nowMs + ttlSeconds * 1000 ≤ 2 ^ 63 - 1
  | .other _           => True

/-- No step ends a session. -/
lemma Roster.Step.session_ne_none {R R' : Roster} (hstep : R.Step R') {p : ℤ}
    (hp : R.session p ≠ none) : R'.session p ≠ none := by
  cases hstep with
  | bind q =>
    dsimp only
    split_ifs
    · exact Option.some_ne_none _
    · exact hp
  | unbind q =>
    dsimp only
    split_ifs
    · exact Option.some_ne_none _
    · exact hp
  | enqueue => exact hp
  | release => exact hp
  | form =>
    dsimp only
    split_ifs
    · rwa [ne_eq, Option.map_eq_none_iff]
    · exact hp
  | close =>
    dsimp only
    split_ifs
    · rwa [ne_eq, Option.map_eq_none_iff]
    · exact hp

lemma Roster.session_of_steps {R R' : Roster} (hsteps : Relation.ReflTransGen Roster.Step R R')
    {p : ℤ} (hp : R.session p ≠ none) : R'.session p ≠ none := by
  induction hsteps with
  | refl => exact hp
  | tail _ hstep ih => exact hstep.session_ne_none ih

/-! ### The checks -/

namespace GameServer

variable {s : GameServer} {nowMs : ℤ} {redis : RedisReplies}

/-- All checks together. -/
lemma checkSession_eq_ok {playerId roomId : ℤ} {token : CppString} {session : Session} :
    s.checkSession playerId token roomId nowMs redis = .ok session ↔
      (s.auth.verify token nowMs AuthTokenService.purposeSession).ok = true ∧
        (s.auth.verify token nowMs AuthTokenService.purposeSession).playerId = playerId ∧
        (s.redisEnabled = true → redis.validateToken token = true) ∧
        s.sessions.playerToSession.lookup playerId = some session ∧ session.roomId = roomId := by
  constructor
  · intro h
    have hsession := lookup_of_checkSession h
    simp only [checkSession, SessionManager.getSessionByPlayer, hsession] at h
    split_ifs at h with hexpired hok hplayer hredis hroom
    rw [not_not] at hplayer hroom
    cases h
    refine ⟨hok, hplayer, fun henabled => ?_, hsession, hroom⟩
    by_contra hinvalid
    exact hredis ⟨henabled, hinvalid⟩
  · rintro ⟨hok, hplayer, hredis, hsession, hroom⟩
    have hexpired := AuthTokenService.not_expired_of_verify hok
    have hstored : ¬ (s.redisEnabled = true ∧ ¬ redis.validateToken token = true) :=
      fun hboth => hboth.2 (hredis hboth.1)
    simp only [checkSession, SessionManager.getSessionByPlayer, hsession]
    rw [if_neg hexpired, if_neg (not_not.mpr hok), if_neg (not_not.mpr hplayer), if_neg hstored,
      if_neg (not_not.mpr hroom)]

/-- The configuration of the tokens. -/
def tokenConfig (s : GameServer) : CppString × ℤ × Bool :=
  (s.auth.secret, s.auth.ttlSeconds, s.redisEnabled)

lemma tokenConfig_issue (auth : AuthTokenService) (playerId nowMs : ℤ) :
    (auth.issueSessionToken playerId nowMs).1.secret = auth.secret ∧
      (auth.issueSessionToken playerId nowMs).1.ttlSeconds = auth.ttlSeconds := by
  rw [AuthTokenService.issueSessionToken, AuthTokenService.issueWithPurpose]
  split_ifs
  · exact ⟨rfl, rfl⟩
  · exact ⟨rfl, rfl⟩

lemma tokenConfig_loggedIn (s : GameServer) (playerId : ℤ) (nickname : CppString)
    (connectionId nowMs : ℤ) :
    (s.loggedIn playerId nickname connectionId nowMs).tokenConfig = s.tokenConfig := by
  obtain ⟨hsecret, httl⟩ := tokenConfig_issue s.auth playerId nowMs
  rw [tokenConfig, tokenConfig, loggedIn, hsecret, httl]

/-- What an admitted refresh writes. -/
lemma handleSessionRefresh_of_some {body : CppString} {playerId : ℤ}
    (h : s.refreshPlayer body nowMs redis = some playerId) :
    (s.handleSessionRefresh body nowMs redis).1 =
      { s with auth := (s.auth.issueSessionToken playerId nowMs).1 } := by
  obtain ⟨req, session, hparse, hcheck, rfl⟩ := of_refreshPlayer h
  unfold handleSessionRefresh
  simp only [hparse, hcheck]
  split_ifs
  · rfl
  · rfl
  · rfl

/-- No operation changes the configuration of the tokens. -/
lemma tokenConfig_apply (rng : Shuffler) (s : GameServer) (op : ServerOp) :
    (s.apply rng op).tokenConfig = s.tokenConfig := by
  cases op with
  | login connectionId body nowMs redis =>
    rw [apply]
    cases hp : s.loginPlayer body nowMs with
    | none => rw [(handleLogin_of_none connectionId redis hp).1]
    | some p => rw [(handleLogin_of_some connectionId redis hp).2.1, tokenConfig_loggedIn]
  | reconnect connectionId body nowMs redis =>
    rw [apply]
    cases hp : s.reconnectPlayer body nowMs redis with
    | none => rw [(handleReconnect_of_none connectionId hp).1]
    | some p =>
      obtain ⟨session, -, heq, -⟩ := handleReconnect_of_some connectionId hp
      rw [heq]
      rfl
  | sessionRefresh body nowMs redis =>
    rw [apply]
    cases hp : s.refreshPlayer body nowMs redis with
    | none => rw [AuthRequest.handleSessionRefresh_of_none hp]
    | some p =>
      obtain ⟨hsecret, httl⟩ := tokenConfig_issue s.auth p nowMs
      rw [handleSessionRefresh_of_some hp, tokenConfig, tokenConfig, hsecret, httl]
  | requestMatch connectionId body nowMs =>
    have hrule := match_rule s connectionId body nowMs
    rw [apply]
    generalize (s.handleMatch connectionId body nowMs).1 = s' at hrule
    cases hrule with
    | refused => rfl
    | waiting => rfl
    | matched => rfl
  | cancelMatch connectionId =>
    have hrule := cancel_rule s connectionId
    rw [apply]
    generalize (s.handleCancelMatch connectionId).1 = s' at hrule
    cases hrule with
    | refused => rfl
    | failed => rfl
    | cancelled => rfl
  | connectionClosed connectionId nowMs offlineAtMs =>
    rw [apply, onConnectionClosed]
    split
    · rfl
    · rfl
  | settle d nowMs =>
    have hrule := settle_rule s d nowMs
    rw [apply]
    generalize s.settleByServerResult d nowMs = out at hrule
    obtain ⟨s', result⟩ := out
    cases hrule with
    | invalid => rfl
    | busy => rfl
    | notFound => rfl
    | failed => rfl
    | settled => rfl
  | heartbeat => rfl
  | matchTimeout => rfl
  | inRoom => rfl
  | setTxFailpoint => rfl

lemma session_apply (rng : Shuffler) (h : s.roster.Coherent) (hkept : s.matching.WellKept)
    (op : ServerOp) {p : ℤ} (hp : s.roster.session p ≠ none) :
    (s.apply rng op).roster.session p ≠ none :=
  Roster.session_of_steps (refines_apply rng h hkept op).1 hp

end GameServer

/-! ### What an admitted request leaves behind -/

namespace AuthRequest

variable {s : GameServer} {nowMs p : ℤ} {redis : RedisReplies} {req : AuthRequest}

lemma serverOp_spec (rng : Shuffler) (s : GameServer) (nowMs : ℤ) (redis : RedisReplies)
    (req : AuthRequest) :
    (req.handle s nowMs redis).1 = s.apply rng (req.serverOp nowMs redis) := by
  cases req with
  | login => rfl
  | reconnect => rfl
  | sessionRefresh => rfl

/-- Whom the checks let in. -/
lemma admitted_iff_checkSession {r : SessionRefreshRequest} (hreq : req.resumes = some r) :
    req.admitted s nowMs redis = some p ↔
      r.playerId = p ∧
        ∃ session, s.checkSession r.playerId r.token r.roomId nowMs redis = .ok session := by
  cases req with
  | login => cases hreq
  | reconnect connectionId body =>
    obtain ⟨req, hparse, rfl⟩ := Option.map_eq_some_iff.mp hreq
    simp only [admitted, GameServer.reconnectPlayer, hparse]
    cases s.checkSession req.playerId req.token req.roomId nowMs redis with
    | error e => simp
    | ok session => simp
  | sessionRefresh body =>
    have hparse : parseSessionRefreshRequest body = some r := hreq
    simp only [admitted, GameServer.refreshPlayer, hparse]
    cases s.checkSession r.playerId r.token r.roomId nowMs redis with
    | error e => simp
    | ok session => simp

lemma playerId_le_of_verify {auth : AuthTokenService} {token purpose : CppString}
    (h : (auth.verify token nowMs purpose).ok = true) :
    (auth.verify token nowMs purpose).playerId ≤ 2 ^ 63 - 1 := by
  have hids : ∀ {player expire ids}, AuthTokenService.parseIds player expire = some ids →
      ids.1 ≤ 2 ^ 63 - 1 := by
    intro player expire ids hids
    unfold AuthTokenService.parseIds at hids
    split at hids
    next playerId expireAtMs hplayer hexpire =>
      split_ifs at hids
      cases hids
      exact (parseI64Strict_bounds hplayer).2
    · cases hids
  unfold AuthTokenService.verify at h ⊢
  split at h
  · cases h
  next t ht =>
    split_ifs at h ⊢
    unfold AuthTokenService.parseToken at ht
    split at ht
    · split_ifs at ht
      obtain ⟨ids, hids', rfl⟩ := Option.map_eq_some_iff.mp ht
      exact hids hids'
    · split_ifs at ht
      obtain ⟨ids, hids', rfl⟩ := Option.map_eq_some_iff.mp ht
      exact hids hids'
    · cases ht

/-- The player of an admitted request has an id of 64 bits. -/
lemma bounds_of_admitted (h : req.admitted s nowMs redis = some p) : 0 < p ∧ p ≤ 2 ^ 63 - 1 := by
  have hchecked : ∀ {r : SessionRefreshRequest}, req.resumes = some r → 0 < p ∧ p ≤ 2 ^ 63 - 1 := by
    intro r hr
    obtain ⟨rfl, session, hcheck⟩ := (admitted_iff_checkSession hr).mp h
    obtain ⟨hok, hplayer, -⟩ := GameServer.checkSession_eq_ok.mp hcheck
    exact ⟨pos_of_checkSession hcheck, hplayer ▸ playerId_le_of_verify hok⟩
  cases req with
  | login connectionId body =>
    have hlogin : s.loginPlayer body nowMs = some p := h
    refine ⟨pos_of_loginPlayer hlogin, ?_⟩
    unfold GameServer.loginPlayer at hlogin
    split at hlogin
    · cases hlogin
    next ticket hparse =>
      dsimp only at hlogin
      split_ifs at hlogin with hok
      cases hlogin
      exact playerId_le_of_verify hok
  | reconnect connectionId body =>
    have hreconnect : s.reconnectPlayer body nowMs redis = some p := h
    cases hparse : parseReconnectRequest body with
    | none => simp [GameServer.reconnectPlayer, hparse] at hreconnect
    | some req => exact hchecked (Option.map_eq_some_iff.mpr ⟨req, hparse, rfl⟩)
  | sessionRefresh body =>
    have hrefresh : s.refreshPlayer body nowMs redis = some p := h
    cases hparse : parseSessionRefreshRequest body with
    | none => simp [GameServer.refreshPlayer, hparse] at hrefresh
    | some req => exact hchecked hparse

/-- What an admitted request writes to the managers. -/
lemma handle_fst_of_admitted (h : req.admitted s nowMs redis = some p) :
    (req.handle s nowMs redis).1 = req.written s nowMs p := by
  cases req with
  | login connectionId body => exact (GameServer.handleLogin_of_some connectionId redis h).2.1
  | reconnect connectionId body =>
    obtain ⟨session, hsession, hserver, -⟩ := GameServer.handleReconnect_of_some connectionId h
    have hroom : s.sessionRoomId p = session.roomId := by
      rw [GameServer.sessionRoomId, SessionManager.getSessionByPlayer, hsession]
      rfl
    rw [written, hroom]
    exact hserver
  | sessionRefresh body => exact GameServer.handleSessionRefresh_of_some h

/-- An admitted player has a session afterwards. -/
lemma session_of_admitted (rng : Shuffler) (hcoherent : s.roster.Coherent)
    (hkept : s.matching.WellKept) (h : req.admitted s nowMs redis = some p) :
    (req.handle s nowMs redis).1.roster.session p ≠ none := by
  have hstays : ∀ {r : SessionRefreshRequest}, req.resumes = some r →
      (req.handle s nowMs redis).1.roster.session p ≠ none := by
    intro r hr
    obtain ⟨rfl, session, hcheck⟩ := (admitted_iff_checkSession hr).mp h
    rw [serverOp_spec rng]
    refine GameServer.session_apply rng hcoherent hkept _ ?_
    simp [GameServer.roster, GameServer.lookup_of_checkSession hcheck]
  cases hreq : req.resumes with
  | some r => exact hstays hreq
  | none =>
    cases req with
    | login connectionId body =>
      rw [handle_fst_of_admitted h]
      have hlookup := s.sessions.lookup_bindLogin p connectionId nowMs p
      rw [if_pos rfl] at hlookup
      simp [GameServer.roster, written, GameServer.loggedIn, hlookup]
    | reconnect connectionId body =>
      have hparse : parseReconnectRequest body = none := Option.map_eq_none_iff.mp hreq
      have hreconnect : s.reconnectPlayer body nowMs redis = some p := h
      simp [GameServer.reconnectPlayer, hparse] at hreconnect
    | sessionRefresh body =>
      have hparse : parseSessionRefreshRequest body = none := hreq
      have hrefresh : s.refreshPlayer body nowMs redis = some p := h
      simp [GameServer.refreshPlayer, hparse] at hrefresh

/-- The tokens of Redis after a request. -/
lemma lookup_store (s : GameServer) (r : RedisStore) (nowMs : ℤ) (redis : RedisReplies)
    (p q : ℤ) (req : AuthRequest) :
    (req.store s r nowMs redis p).tokenByPlayer.lookup q =
      if req.Issues ∧ redis.storesToken p (s.auth.issueSessionToken p nowMs).2.token
          (s.auth.ttlSeconds * 1000) ∧ q = p then
        some (s.auth.issueSessionToken p nowMs).2.token
      else r.tokenByPlayer.lookup q := by
  have hstoreAll : ∀ token roomId ttlMs,
      (r.storeAll redis p token roomId ttlMs).tokenByPlayer.lookup q =
        if redis.storesToken p token ttlMs ∧ q = p then some token
        else r.tokenByPlayer.lookup q := by
    intro token roomId ttlMs
    unfold RedisStore.storeAll
    by_cases hstores : redis.storesToken p token ttlMs = true
    · rw [if_pos hstores, RedisServer.tokens_storeSession]
      simp only [lookup_insert, hstores, true_and]
    · rw [if_neg hstores, if_neg fun hboth => hstores hboth.1]
  cases req with
  | login =>
    simp only [store, Issues, true_and]
    exact hstoreAll _ _ _
  | reconnect =>
    rw [store, RedisServer.tokens_storeSession]
    simp [Issues]
  | sessionRefresh =>
    simp only [store, Issues, true_and]
    exact hstoreAll _ _ _

end AuthRequest

/-! ### The issued tokens along a run -/

lemma lastStored_concat (gs : List TokenGrant) (g : TokenGrant) (p : ℤ) :
    lastStored (gs ++ [g]) p =
      if g.stored ∧ g.call.playerId = p then some g.call.result.token else lastStored gs p := by
  unfold lastStored
  rw [List.filter_append]
  split_ifs with hg
  · simp [hg]
  · simp [hg]

namespace TokenServer

variable {rng : Shuffler} {auth : AuthTokenService} {redisEnabled : Bool} {w w' : TokenServer}
  {gs : List TokenGrant} {req : AuthRequest} {nowMs p : ℤ} {calls : RedisCalls}

/-- What holds of the server and of the tokens issued so far. -/
structure Sound (auth : AuthTokenService) (redisEnabled : Bool) (w : TokenServer)
    (gs : List TokenGrant) : Prop where
  config : w.server.tokenConfig = (auth.secret, auth.ttlSeconds, redisEnabled)
  coherent : w.server.roster.Coherent
  kept : w.server.matching.WellKept
  proper : ∀ g ∈ gs, g.call.Proper auth.secret
  purpose : ∀ g ∈ gs, g.call.purpose = AuthTokenService.purposeSession
  session : ∀ g ∈ gs, w.server.roster.session g.call.playerId ≠ none
  stored : ∀ p, w.redis.tokenByPlayer.lookup p = lastStored gs p

lemma sound_start (auth : AuthTokenService) (redisEnabled : Bool) :
    Sound auth redisEnabled (start auth redisEnabled) [] := by
  have hrun : Run.exec (GameServer.step .sorted) (GameServer.start auth redisEnabled) [] =
      some (GameServer.start auth redisEnabled) := rfl
  obtain ⟨hcoherent, hkept⟩ := GameServer.coherent_of_run hrun
  exact ⟨rfl, hcoherent, hkept, by simp, by simp, by simp, fun p => rfl⟩

/-- An operation of the server that issues nothing. -/
lemma Sound.server (h : Sound auth redisEnabled w gs) (rng : Shuffler) (op : ServerOp)
    (hserver : w'.server = w.server.apply rng op)
    (hredis : w'.redis.tokenByPlayer = w.redis.tokenByPlayer) :
    Sound auth redisEnabled w' gs := by
  obtain ⟨hrefines, hkept⟩ := GameServer.refines_apply rng h.coherent h.kept op
  refine ⟨?_, ?_, ?_, h.proper, h.purpose, fun g hg => ?_, fun p => ?_⟩
  · rw [hserver, GameServer.tokenConfig_apply, h.config]
  · rw [hserver]
    exact h.coherent.steps hrefines
  · rwa [hserver]
  · rw [hserver]
    exact GameServer.session_apply rng h.coherent h.kept op (h.session g hg)
  · rw [hredis, h.stored]

/-- A request that issues a token. -/
lemma Sound.issue (h : Sound auth redisEnabled w gs) (httl : 0 < auth.ttlSeconds)
    (hissues : req.Issues = true) (hadmitted : w.admitted req nowMs calls = some p)
    (htime : (TokenOp.request req nowMs calls).InTime auth.ttlSeconds) :
    Sound auth redisEnabled (w.apply rng (.request req nowMs calls))
      (gs ++ (w.grant (.request req nowMs calls)).toList) := by
  obtain ⟨hsecret, httl', henabled⟩ : w.server.auth.secret = auth.secret ∧
      w.server.auth.ttlSeconds = auth.ttlSeconds ∧ w.server.redisEnabled = redisEnabled := by
    simpa only [GameServer.tokenConfig, Prod.mk.injEq] using h.config
  have hserver := AuthRequest.serverOp_spec rng w.server nowMs (w.replies req nowMs calls) req
  obtain ⟨hrefines, hkept⟩ := GameServer.refines_apply rng h.coherent h.kept
    (req.serverOp nowMs (w.replies req nowMs calls))
  rw [← hserver] at hrefines hkept
  rw [grant, if_pos hissues, hadmitted]
  simp only [Option.map_some, Option.toList_some]
  refine ⟨?_, h.coherent.steps hrefines, hkept, ?_, ?_, ?_, fun q => ?_⟩
  · rw [← h.config]
    exact (congrArg GameServer.tokenConfig hserver).trans (GameServer.tokenConfig_apply rng _ _)
  · intro g hg
    rcases List.mem_append.mp hg with hg | hg
    · exact h.proper g hg
    · obtain rfl := List.mem_singleton.mp hg
      refine ⟨hsecret, AuthRequest.bounds_of_admitted hadmitted, htime.1, ?_, ?_⟩
      · exact httl'.symm ▸ httl
      · exact httl'.symm ▸ htime.2
  · intro g hg
    rcases List.mem_append.mp hg with hg | hg
    · exact h.purpose g hg
    · obtain rfl := List.mem_singleton.mp hg
      rfl
  · intro g hg
    rcases List.mem_append.mp hg with hg | hg
    · rw [apply, hserver]
      exact GameServer.session_apply rng h.coherent h.kept _ (h.session g hg)
    · obtain rfl := List.mem_singleton.mp hg
      exact AuthRequest.session_of_admitted rng h.coherent h.kept hadmitted
  · rw [lastStored_concat, ← h.stored]
    simp only [apply, stores, hadmitted]
    by_cases hen : w.server.redisEnabled = true
    · rw [if_pos hen, AuthRequest.lookup_store]
      simp only [hissues, hen, true_and, eq_comm (a := q), Bool.decide_eq_true]
      rfl
    · rw [if_neg hen]
      simp [hen]

lemma Sound.step (h : Sound auth redisEnabled w gs) (httl : 0 < auth.ttlSeconds) {op : TokenOp}
    (htime : op.InTime auth.ttlSeconds) :
    Sound auth redisEnabled (w.apply rng op) (gs ++ (w.grant op).toList) := by
  cases op with
  | other op =>
    rw [grant, Option.toList_none, List.append_nil]
    exact h.server rng op rfl rfl
  | request req nowMs calls =>
    have hserver := AuthRequest.serverOp_spec rng w.server nowMs (w.replies req nowMs calls) req
    cases hadmitted : w.admitted req nowMs calls with
    | none =>
      rw [grant, hadmitted, Option.map_none, ite_self, Option.toList_none, List.append_nil]
      refine h.server rng _ hserver ?_
      simp only [apply, stores, hadmitted]
    | some p =>
      by_cases hissues : req.Issues = true
      · exact h.issue httl hissues hadmitted htime
      · rw [grant, if_neg hissues, Option.toList_none, List.append_nil]
        refine h.server rng _ hserver (Finmap.ext_lookup fun q => ?_)
        simp only [apply, stores, hadmitted]
        split_ifs
        · rw [AuthRequest.lookup_store, if_neg fun hboth => hissues hboth.1]
        · rfl

lemma sound_of_run {ops : List TokenOp}
    (hrun : Run.exec (step rng) (start auth redisEnabled) ops = some w)
    (httl : 0 < auth.ttlSeconds) (htime : ∀ op ∈ ops, op.InTime auth.ttlSeconds) :
    Sound auth redisEnabled w (grants rng (start auth redisEnabled) ops) := by
  refine Run.invariant_history_along (G := fun _ op => op.InTime auth.ttlSeconds) ?_
    (sound_start auth redisEnabled) (Run.along_of_forall _ htime _) hrun
  intro w op w' gs h hop hstep
  obtain rfl := Run.total_eq_some.mp hstep
  exact h.step httl hop

/-! ### Who is let in -/

/-- The room a player sits in; 0 if there is none. -/
def roomOf (w : TokenServer) (p : ℤ) : ℤ := (w.server.rooms.playerToRoom.lookup p).getD 0

/-- The session remembers the room that the player sits in. -/
lemma Sound.roomId_eq (h : Sound auth redisEnabled w gs) {session : Session}
    (hsession : w.server.sessions.playerToSession.lookup p = some session) :
    session.roomId = w.roomOf p := by
  have hroster : w.server.roster.session p = some (session.roomId, session.online) := by
    simp [GameServer.roster, hsession]
  cases hroom : w.server.rooms.playerToRoom.lookup p with
  | none =>
    rw [roomOf, hroom]
    by_contra hne
    have hsome := h.coherent.indexed p _ _ hroster hne
    rw [show w.server.roster.roomOf p = none from hroom] at hsome
    cases hsome
  | some r =>
    rw [roomOf, hroom]
    obtain ⟨online, hlocated⟩ := h.coherent.located p r hroom
    exact (Prod.mk.inj (Option.some.inj (hroster.symm.trans hlocated))).1

/-- Redis confirms the token that it stores for the player. -/
lemma validateToken_replies (r : RedisStore) (calls : RedisCalls) (p : ℤ) (token : CppString) :
    (r.replies calls p).validateToken token = true ↔
      calls.getToken = true ∧ r.tokenByPlayer.lookup p = some token ∧ token ≠ str "(nil)" := by
  unfold RedisReplies.validateToken RedisStore.replies
  cases hcalls : calls.getToken with
  | false => simp
  | true =>
    cases hlookup : r.tokenByPlayer.lookup p with
    | none => simp
    | some stored =>
      simp only [if_true, decide_eq_true_eq, Option.some.injEq, true_and]
      constructor
      · rintro ⟨hnil, rfl⟩
        exact ⟨rfl, hnil⟩
      · rintro ⟨rfl, hnil⟩
        exact ⟨hnil, rfl⟩

/-- No token is the text with which the client of Redis shows that there is none. -/
lemma token_ne_nil {secret : CppString} {call : IssueCall} (h : call.Proper secret) :
    call.result.token ≠ str "(nil)" := by
  rw [IssueCall.result_eq h.player.1]
  intro heq
  have hdot : (46 : UInt8) ∈ str "(nil)" := by
    rw [← heq]
    simp [str]
  revert hdot
  decide

/-- What is verified as a session token was issued as one. -/
lemma Sound.verify_iff (h : Sound auth redisEnabled w gs) {tickets : Set IssueCall}
    (htickets : ∀ call ∈ tickets, call.Proper auth.secret ∧
      call.purpose = AuthTokenService.purposeLogin) {token : CppString}
    (hunforged : auth.Unforged (tickets ∪ {call | ∃ g ∈ gs, g.call = call}) token) :
    ((w.server.auth.verify token nowMs AuthTokenService.purposeSession).ok = true ∧
        (w.server.auth.verify token nowMs AuthTokenService.purposeSession).playerId = p) ↔
      ∃ g ∈ gs, g.call.playerId = p ∧ g.call.result.token = token ∧
        nowMs ≤ g.call.expireAtMs := by
  have hsecret : w.server.auth.secret = auth.secret := congrArg Prod.fst h.config
  have hverify : ∀ purpose, w.server.auth.verify token nowMs purpose =
      auth.verify token nowMs purpose := by
    intro purpose
    cases hparse : AuthTokenService.parseToken token with
    | none => rw [AuthTokenService.verify, AuthTokenService.verify, hparse]
    | some t =>
      have hsign : w.server.auth.sign t.payload = auth.sign t.payload := by
        rw [AuthTokenService.sign, AuthTokenService.sign, hsecret]
      simp only [AuthTokenService.verify, hparse]
      rw [hsign]
  have hpurpose : AuthTokenService.purposeLogin ≠ AuthTokenService.purposeSession := by decide
  have hsession : AuthTokenService.purposeSession ≠ [] := by decide
  rw [hverify]
  constructor
  · rintro ⟨hok, rfl⟩
    by_cases hissued : ∃ call ∈ tickets ∪ {call | ∃ g ∈ gs, g.call = call},
        call.result.token = token
    · obtain ⟨call, hticket | ⟨g, hg, rfl⟩, rfl⟩ := hissued
      · obtain ⟨hproper, hlogin⟩ := htickets call hticket
        rw [hproper.verify, if_pos ⟨hsession, hlogin ▸ hpurpose⟩] at hok
        cases hok
      · have hv := (h.proper g hg).verify nowMs AuthTokenService.purposeSession
        rw [if_neg fun hboth => hboth.2 (h.purpose g hg)] at hv
        rw [hv] at hok ⊢
        split_ifs at hok ⊢ with hlate
        exact ⟨g, hg, rfl, rfl, not_lt.mp hlate⟩
    · rw [AuthTokenService.verify_of_not_issued ?_ hunforged
        fun call hcall heq => hissued ⟨call, hcall, heq⟩] at hok
      · cases hok
      · rintro call (hticket | ⟨g, hg, rfl⟩)
        · exact (htickets call hticket).1
        · exact h.proper g hg
  · rintro ⟨g, hg, rfl, rfl, hintime⟩
    rw [(h.proper g hg).verify, if_neg fun hboth => hboth.2 (h.purpose g hg),
      if_neg (not_lt.mpr hintime)]
    exact ⟨rfl, rfl⟩

/-- Who is let in by a reconnect or a refresh. -/
lemma Sound.admitted_iff (h : Sound auth redisEnabled w gs) {tickets : Set IssueCall}
    (htickets : ∀ call ∈ tickets, call.Proper auth.secret ∧
      call.purpose = AuthTokenService.purposeLogin) {r : SessionRefreshRequest}
    (hreq : req.resumes = some r)
    (hunforged : auth.Unforged (tickets ∪ {call | ∃ g ∈ gs, g.call = call}) r.token) :
    w.admitted req nowMs calls = some p ↔
      r.playerId = p ∧ r.roomId = w.roomOf p ∧ w.Counts gs p r.token nowMs calls := by
  have hclaimed : req.claimed w.server nowMs = some r.playerId := by
    cases req with
    | login => cases hreq
    | reconnect connectionId body =>
      obtain ⟨req, hparse, rfl⟩ := Option.map_eq_some_iff.mp hreq
      exact Option.map_eq_some_iff.mpr ⟨req, hparse, rfl⟩
    | sessionRefresh body => exact Option.map_eq_some_iff.mpr ⟨r, hreq, rfl⟩
  rw [admitted, AuthRequest.admitted_iff_checkSession hreq]
  constructor
  · rintro ⟨rfl, session, hcheck⟩
    obtain ⟨hok, hplayer, hredis, hsession, hroom⟩ := GameServer.checkSession_eq_ok.mp hcheck
    refine ⟨rfl, hroom.symm.trans (h.roomId_eq hsession), ?_, fun henabled => ?_⟩
    · exact (h.verify_iff htickets hunforged).mp ⟨hok, hplayer⟩
    · have hvalid := hredis henabled
      rw [replies, hclaimed, Option.getD_some, validateToken_replies] at hvalid
      exact ⟨hvalid.1, (h.stored _).symm.trans hvalid.2.1⟩
  · rintro ⟨rfl, hroom, hcounts⟩
    obtain ⟨hok, hplayer⟩ := (h.verify_iff htickets hunforged).mpr hcounts.issued
    obtain ⟨g, hg, hgplayer, hgtoken, -⟩ := hcounts.issued
    have hroster := h.session g hg
    rw [hgplayer] at hroster
    cases hsession : w.server.sessions.playerToSession.lookup r.playerId with
    | none => simp [GameServer.roster, hsession] at hroster
    | some session =>
      refine ⟨rfl, session, GameServer.checkSession_eq_ok.mpr ⟨hok, hplayer, fun henabled => ?_,
        hsession, ?_⟩⟩
      · obtain ⟨hget, hlast⟩ := hcounts.newest henabled
        rw [replies, hclaimed, Option.getD_some, validateToken_replies, h.stored]
        exact ⟨hget, hlast, hgtoken ▸ token_ne_nil (h.proper g hg)⟩
      · rw [hroom, h.roomId_eq hsession]

/-! ### What a player comes back to -/

/-- A reconnect has bound the player to the connection, and the answer shows the room the player
sits in. -/
structure Resumed (w w' : TokenServer) (playerId connectionId version : ℤ) (redis : RedisReplies)
    (answer : ReconnectResult) : Prop where
  bound : ∀ q c, w'.server.sessions.OnlineAt q c ↔
    if q = playerId then c = connectionId else w.server.sessions.OnlineAt q c
  index : w'.server.sessions.getPlayerIdByConnection connectionId = some playerId
  rooms : w'.server.rooms = w.server.rooms
  roomId : answer.roomId = w.roomOf playerId
  seated : ∀ r, w.server.rooms.playerToRoom.lookup playerId = some r →
    ∃ room, w.server.rooms.rooms.find r = some room ∧ playerId ∈ room.players ∧
      answer.snapshot = some room.makeSnapshot ∧ w'.server.players.getState playerId = .inRoom
  free : w.server.rooms.playerToRoom.lookup playerId = none →
    answer.snapshot = none ∧ w'.server.players.getState playerId = .lobby
  code : answer.code =
    if w.server.redisEnabled = true ∧
        ¬ (redis.setsOnline playerId (w.server.auth.ttlSeconds * 1000) = true ∧
          redis.upsertsSession playerId (w.server.auth.ttlSeconds * 1000) = true) then
      .unknownError
    else if version = (answer.snapshot.map RoomSnapshot.snapshotVersion).getD 0 then .ok
    else .snapshotVersionConflict

/-- The snapshot of the room that a session remembers. -/
def FindsRoom (s : GameServer) (session : Session) : Option RoomSnapshot → Prop
  | some snapshot =>
    0 < session.roomId ∧ s.rooms.buildSnapshotByRoomId session.roomId = some snapshot
  | none          => session.roomId = 0

lemma reconnectResult_spec {s : GameServer} {session : Session} {snapshot : Option RoomSnapshot}
    (h : FindsRoom s session snapshot) (r : ReconnectRequest) (oldConn : Option ℤ) :
    (s.reconnectResult session r oldConn).roomId = session.roomId ∧
      (s.reconnectResult session r oldConn).snapshot = snapshot ∧
      (s.reconnectResult session r oldConn).code =
        if r.lastSnapshotVersion = (snapshot.map RoomSnapshot.snapshotVersion).getD 0 then .ok
        else .snapshotVersionConflict := by
  unfold GameServer.reconnectResult
  dsimp only
  cases snapshot with
  | none =>
    have hroom : session.roomId = 0 := h
    rw [hroom, if_neg (lt_irrefl 0)]
    by_cases hversion : r.lastSnapshotVersion = 0
    · simp [hversion]
    · simp [hversion]
  | some snapshot =>
    obtain ⟨hpos, hsnapshot⟩ := h
    rw [if_pos hpos, hsnapshot]
    by_cases hversion : r.lastSnapshotVersion = snapshot.snapshotVersion
    · simp [hversion]
    · simp [hversion, Ne.symm hversion]

/-- The answer to a reconnect that is let in. -/
lemma handleReconnect_snd {s : GameServer} {body : CppString} {redis : RedisReplies}
    {r : ReconnectRequest} {session : Session} {snapshot : Option RoomSnapshot}
    (hparse : parseReconnectRequest body = some r)
    (hcheck : s.checkSession r.playerId r.token r.roomId nowMs redis = .ok session)
    (h : FindsRoom s session snapshot) (connectionId : ℤ) :
    (s.handleReconnect connectionId body nowMs redis).2.roomId = session.roomId ∧
      (s.handleReconnect connectionId body nowMs redis).2.snapshot = snapshot ∧
      (s.handleReconnect connectionId body nowMs redis).2.code =
        if s.redisEnabled = true ∧
            ¬ (redis.setsOnline r.playerId (s.auth.ttlSeconds * 1000) = true ∧
              redis.upsertsSession r.playerId (s.auth.ttlSeconds * 1000) = true) then
          .unknownError
        else if r.lastSnapshotVersion = (snapshot.map RoomSnapshot.snapshotVersion).getD 0 then
          .ok
        else .snapshotVersionConflict := by
  obtain ⟨hroomId, hsnapshot, hcode⟩ := reconnectResult_spec h r
    (s.sessions.rebindForReconnect r.playerId connectionId nowMs).2
  simp only [GameServer.handleReconnect, hparse, hcheck]
  by_cases hfails : s.redisEnabled = true ∧
      ¬ (redis.setsOnline r.playerId (s.auth.ttlSeconds * 1000) = true ∧
        redis.upsertsSession r.playerId (s.auth.ttlSeconds * 1000) = true)
  · rw [if_pos hfails, if_pos hfails]
    exact ⟨hroomId, hsnapshot, rfl⟩
  · rw [if_neg hfails, if_neg hfails]
    exact ⟨hroomId, hsnapshot, hcode⟩

/-- Whoever is let in by a reconnect is back in the room. -/
lemma Sound.resumed (h : Sound auth redisEnabled w gs) {connectionId : ℤ} {body : CppString}
    {r : ReconnectRequest} (hparse : parseReconnectRequest body = some r)
    (hadmitted : w.admitted (.reconnect connectionId body) nowMs calls = some p) :
    Resumed w (w.apply rng (.request (.reconnect connectionId body) nowMs calls)) p connectionId
      r.lastSnapshotVersion (w.replies (.reconnect connectionId body) nowMs calls)
      (w.server.handleReconnect connectionId body nowMs
        (w.replies (.reconnect connectionId body) nowMs calls)).2 := by
  have hresumes : (AuthRequest.reconnect connectionId body).resumes =
      some ⟨r.playerId, r.token, r.roomId⟩ := Option.map_eq_some_iff.mpr ⟨r, hparse, rfl⟩
  obtain ⟨hp, session, hcheck⟩ := (AuthRequest.admitted_iff_checkSession hresumes).mp hadmitted
  obtain rfl : r.playerId = p := hp
  have hsession := GameServer.lookup_of_checkSession hcheck
  have hseat := h.roomId_eq hsession
  have hserver : (w.apply rng (.request (.reconnect connectionId body) nowMs calls)).server =
      w.server.reconnected r.playerId session connectionId nowMs := by
    obtain ⟨session', hsession', heq, -⟩ :=
      GameServer.handleReconnect_of_some connectionId hadmitted
    obtain rfl := Option.some.inj (hsession.symm.trans hsession')
    exact heq
  have hstate : (w.server.reconnected r.playerId session connectionId nowMs).players.getState
      r.playerId = if 0 < session.roomId then .inRoom else .lobby := by
    rw [GameServer.reconnected, PlayerManager.getState_forceState, if_pos rfl]
  have hfinds : ∃ snapshot, FindsRoom w.server session snapshot ∧
      (∀ id, w.server.rooms.playerToRoom.lookup r.playerId = some id →
        0 < session.roomId ∧ ∃ room, w.server.rooms.rooms.find id = some room ∧
          r.playerId ∈ room.players ∧ snapshot = some room.makeSnapshot) ∧
      (w.server.rooms.playerToRoom.lookup r.playerId = none →
        session.roomId = 0 ∧ snapshot = none) := by
    cases hindex : w.server.rooms.playerToRoom.lookup r.playerId with
    | none =>
      rw [roomOf, hindex] at hseat
      exact ⟨none, hseat, by simp, fun _ => ⟨hseat, rfl⟩⟩
    | some id =>
      rw [roomOf, hindex, Option.getD_some] at hseat
      obtain ⟨ps, hps, hmem⟩ := (h.coherent.index r.playerId id).mp hindex
      obtain ⟨room, hroom, -, rfl⟩ := RoomManager.membersOf_eq_some.mp hps
      have hpos := (Table.find_bounds hroom).1
      refine ⟨some room.makeSnapshot, ⟨hseat ▸ hpos, ?_⟩, ?_, by simp⟩
      · rw [hseat, RoomManager.buildSnapshotByRoomId, hroom]
        rfl
      · intro id' hid'
        obtain rfl := Option.some.inj hid'
        exact ⟨hseat ▸ hpos, room, hroom, hmem, rfl⟩
  obtain ⟨snapshot, hfound, hseated, hfree⟩ := hfinds
  obtain ⟨hroomId, hsnapshot, hcode⟩ := handleReconnect_snd hparse hcheck hfound connectionId
  refine ⟨?_, ?_, ?_, hroomId.trans hseat, fun id hid => ?_, fun hnone => ?_, ?_⟩
  · rw [hserver]
    exact SessionManager.onlineAt_rebindForReconnect hsession connectionId nowMs
  · rw [hserver]
    exact (SessionManager.lookup_conn_rebindForReconnect hsession connectionId nowMs
      connectionId).trans (if_pos rfl)
  · rw [hserver]
    rfl
  · obtain ⟨hpos, room, hroom, hmem, heq⟩ := hseated id hid
    refine ⟨room, hroom, hmem, hsnapshot.trans heq, ?_⟩
    rw [hserver, hstate, if_pos hpos]
  · obtain ⟨hzero, heq⟩ := hfree hnone
    refine ⟨hsnapshot.trans heq, ?_⟩
    rw [hserver, hstate, hzero, if_neg (lt_irrefl 0)]
  · rw [hcode, hsnapshot]

/-- After any run of the server a reconnect or a refresh lets a player in exactly with a session
token that counts, for the room in which the player sits; and a reconnect brings the player back
to that room. -/
theorem session_resumed_iff {rng : Shuffler} {auth : AuthTokenService} {redisEnabled : Bool}
    {ops : List TokenOp} {w : TokenServer} {tickets : Set IssueCall} {req : AuthRequest}
    {r : SessionRefreshRequest}
    (hrun : Run.exec (step rng) (start auth redisEnabled) ops = some w)
    (httl : 0 < auth.ttlSeconds) (htime : ∀ op ∈ ops, op.InTime auth.ttlSeconds)
    (htickets : ∀ call ∈ tickets, call.Proper auth.secret ∧
      call.purpose = AuthTokenService.purposeLogin)
    (hreq : req.resumes = some r)
    (hunforged : auth.Unforged (tickets ∪
      {call | ∃ g ∈ grants rng (start auth redisEnabled) ops, g.call = call}) r.token)
    (nowMs p : ℤ) (calls : RedisCalls) :
    (w.admitted req nowMs calls = some p ↔ r.playerId = p ∧ r.roomId = w.roomOf p ∧
      w.Counts (grants rng (start auth redisEnabled) ops) p r.token nowMs calls) ∧
    ∀ connectionId body version, req = .reconnect connectionId body →
      parseReconnectRequest body = some ⟨r.playerId, r.token, r.roomId, version⟩ →
      w.admitted req nowMs calls = some p →
      Resumed w (w.apply rng (.request req nowMs calls)) p connectionId version
        (w.replies req nowMs calls)
        (w.server.handleReconnect connectionId body nowMs (w.replies req nowMs calls)).2 := by
  have hsound := sound_of_run hrun httl htime
  refine ⟨hsound.admitted_iff htickets hreq hunforged, ?_⟩
  rintro connectionId body version rfl hparse hadmitted
  exact hsound.resumed hparse hadmitted

/-- The token of the first login, for player 1 at time 0. -/
def firstCall : IssueCall := .sessionToken {} 1 0

/-- A reconnect of player 1 from the lobby. -/
def resumeBody : CppString :=
  str "player_id=1;room_id=0;last_snapshot_version=0;token=" ++ firstCall.result.token

/-- Player 1 logs in and loses the connection. -/
def lostRun : List TokenOp :=
  [.request (.login 11 (GameServer.ticketBody 1)) 0 {}, .other ⟨.connectionClosed 11 5 5, rfl⟩]

theorem session_resumed_after_loss :
    ∃ w, Run.exec (step .sorted) (start {} false) lostRun = some w ∧ w.roomOf 1 = 0 ∧
      w.admitted (.reconnect 21 resumeBody) 9 {} = some 1 := by
  have hproper : firstCall.Proper ({} : AuthTokenService).secret :=
    ⟨rfl, by decide, by decide, by decide, by decide⟩
  have hlogin : (start {} false).admitted (.login 11 (GameServer.ticketBody 1)) 0 {} = some 1 := by
    decide +kernel
  have hgrants : grants .sorted (start {} false) lostRun = [⟨firstCall, false⟩] := by
    rw [grants, lostRun, Run.history_cons rfl, Run.history_cons rfl, Run.history_nil, grant, hlogin]
    rfl
  have hrequest : (AuthRequest.reconnect 21 resumeBody).resumes =
      some ⟨1, firstCall.result.token, 0⟩ := by decide +kernel
  have hfree : (lostRun.foldl (apply .sorted) (start {} false)).roomOf 1 = 0 := by decide +kernel
  have htime : ∀ op ∈ lostRun, op.InTime 604800 := by
    intro op hop
    rcases List.mem_cons.mp hop with rfl | hop
    · exact ⟨le_rfl, by decide⟩
    · obtain rfl := List.mem_singleton.mp hop
      trivial
  have hunforged : ({} : AuthTokenService).Unforged
      (∅ ∪ {call | ∃ g ∈ grants .sorted (start {} false) lostRun, g.call = call})
      firstCall.result.token := by
    intro payload hpayload
    obtain ⟨call, rfl, heq⟩ := AuthTokenService.unforged_token hproper payload hpayload
    exact ⟨_, Or.inr ⟨⟨firstCall, false⟩, by simp [hgrants], rfl⟩, heq⟩
  have httl : 0 < ({} : AuthTokenService).ttlSeconds := by decide
  obtain ⟨hadmitted, -⟩ := session_resumed_iff (Run.exec_total (apply .sorted) _ lostRun) httl
    htime (by simp) hrequest hunforged 9 1 {}
  refine ⟨_, Run.exec_total _ _ _, hfree, hadmitted.mpr ⟨rfl, hfree.symm, ?_, ?_⟩⟩
  · exact ⟨⟨firstCall, false⟩, by simp [hgrants], rfl, rfl, by decide⟩
  · intro henabled
    exact absurd henabled (by decide +kernel)

end TokenServer

end DdzServer
