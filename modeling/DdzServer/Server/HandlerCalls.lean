import DdzServer.Lib.Interleaving
import DdzServer.Server.ServerRun
import DdzServer.Settlement.SettlementCalls

/-!
# The handlers, call by call

The handlers of logins, reconnects, match requests, cancellations and closed connections as the
sequences of their calls on the managers, each of which holds a mutex of its own. Between two calls
other threads run. Left alone, the calls add up to the handlers as operations of the server.
-/

namespace DdzServer

open Interleaving

/-! ### Login -/

/-- A login whose ticket is valid. -/
structure LoginCall where
  playerId : ℤ
  nickname : CppString
  connectionId : ℤ
  nowMs : ℤ

/-- The call a login makes next, with the local variables it still needs. -/
inductive LoginPoint where
  | getSessionByPlayer
  | getPlayer (oldRoomId : ℤ)
  | upsertPlayer (oldRoomId coin : ℤ)
  | forceState (oldRoomId : ℤ)
  | bindLogin
  | issueSessionToken

/-- The state of a player whose session remembers the given room. -/
def stateOfRoom (roomId : ℤ) : PlayerState := if 0 < roomId then .inRoom else .lobby

namespace GameServer

/-- One call of a login. -/
def loginStep (s : GameServer) (call : LoginCall) : LoginPoint → GameServer × Option LoginPoint
  | .getSessionByPlayer => (s, some (.getPlayer (s.sessionRoomId call.playerId)))
  | .getPlayer oldRoomId =>
    let coin := if (s.players.getPlayer call.playerId).isSome then 0 else 1000
    (s, some (.upsertPlayer oldRoomId coin))
  | .upsertPlayer oldRoomId coin =>
    ({ s with players := s.players.upsertPlayer call.playerId call.nickname coin },
      some (.forceState oldRoomId))
  | .forceState oldRoomId =>
    ({ s with players := s.players.forceState call.playerId (stateOfRoom oldRoomId) },
      some .bindLogin)
  | .bindLogin =>
    ({ s with
        sessions := (s.sessions.bindLogin call.playerId call.connectionId call.nowMs).1 },
      some .issueSessionToken)
  | .issueSessionToken =>
    ({ s with auth := (s.auth.issueSessionToken call.playerId call.nowMs).1 }, none)

end GameServer

/-! ### Reconnect -/

/-- A reconnect whose token is valid. -/
structure ReconnectCall where
  playerId : ℤ
  roomId : ℤ
  connectionId : ℤ
  nowMs : ℤ

inductive ReconnectPoint where
  | getSessionByPlayer
  | rebindForReconnect (roomId : ℤ)
  | forceState (roomId : ℤ)

namespace GameServer

/-- The request of a reconnect, if it passes the checks before the session is read. -/
def reconnectRequest (s : GameServer) (body : CppString) (nowMs : ℤ) (redis : RedisReplies) :
    Option ReconnectRequest :=
  (parseReconnectRequest body).filter fun req =>
    let verify := s.auth.verify req.token nowMs AuthTokenService.purposeSession
    verify.ok ∧ verify.playerId = req.playerId ∧
      (s.redisEnabled → redis.validateToken req.token)

/-- One call of a reconnect. The snapshot that it reads last goes into its answer only. -/
def reconnectStep (s : GameServer) (call : ReconnectCall) :
    ReconnectPoint → GameServer × Option ReconnectPoint
  | .getSessionByPlayer =>
    match s.sessions.getSessionByPlayer call.playerId with
    | none         => (s, none)
    | some session =>
      if session.roomId ≠ call.roomId then (s, none)
      else (s, some (.rebindForReconnect session.roomId))
  | .rebindForReconnect roomId =>
    ({ s with
        sessions := (s.sessions.rebindForReconnect call.playerId call.connectionId call.nowMs).1 },
      some (.forceState roomId))
  | .forceState roomId =>
    ({ s with players := s.players.forceState call.playerId (stateOfRoom roomId) }, none)

end GameServer

/-! ### Match requests -/

structure MatchCall where
  connectionId : ℤ
  body : CppString
  nowMs : ℤ

inductive MatchPoint where
  | getPlayerIdByConnection
  | getState (playerId mode : ℤ)
  | getPlayer (playerId mode : ℤ)
  | join (playerId mode coin : ℤ)
  | setState (playerId mode : ℤ)
  | cancel (playerId : ℤ)
  | tryPopMatchedPlayers (mode : ℤ)
  | createRoom (mode : ℤ) (players : List ℤ)
  | setRoomId (roomId playerId : ℤ) (rest : List ℤ)
  | forceState (roomId playerId : ℤ) (rest : List ℤ)

/-- The loop over the matched players. -/
def MatchPoint.enter (roomId : ℤ) : List ℤ → Option MatchPoint
  | []          => none
  | pid :: rest => some (.setRoomId roomId pid rest)

namespace GameServer

/-- One call of a match request. -/
def matchStep (s : GameServer) (call : MatchCall) : MatchPoint → GameServer × Option MatchPoint
  | .getPlayerIdByConnection =>
    match s.sessions.getPlayerIdByConnection call.connectionId with
    | none     => (s, none)
    | some pid => (s, (parseMode call.body).map fun mode => .getState pid mode)
  | .getState pid mode =>
    (s, if s.players.getState pid = .lobby then some (.getPlayer pid mode) else none)
  | .getPlayer pid mode =>
    (s, some (.join pid mode (((s.players.getPlayer pid).map PlayerData.coin).getD 0)))
  | .join pid mode coin =>
    let (matching, joined) := s.matching.join ⟨pid, call.nowMs, coin, mode⟩
    ({ s with matching := matching }, if joined then some (.setState pid mode) else none)
  | .setState pid mode =>
    let (players, wasSet) := s.players.setState pid .matching
    ({ s with players := players },
      some (if wasSet then .tryPopMatchedPlayers mode else .cancel pid))
  | .cancel pid => ({ s with matching := (s.matching.cancel pid).1 }, none)
  | .tryPopMatchedPlayers mode =>
    let (matching, matched) := s.matching.tryPopMatchedPlayers mode
    ({ s with matching := matching }, matched.map (.createRoom mode))
  | .createRoom mode players =>
    let (rooms, roomId) := s.rooms.createRoom mode players
    ({ s with rooms := rooms }, MatchPoint.enter roomId players)
  | .setRoomId roomId pid rest =>
    ({ s with sessions := (s.sessions.setRoomId pid roomId).1 },
      some (.forceState roomId pid rest))
  | .forceState roomId pid rest =>
    ({ s with players := s.players.forceState pid .inRoom }, MatchPoint.enter roomId rest)

end GameServer

/-! ### Cancellations -/

inductive CancelPoint where
  | getPlayerIdByConnection
  | getState (playerId : ℤ)
  | cancel (playerId : ℤ)
  | forceState (playerId : ℤ)

namespace GameServer

/-- One call of `HandleCancelMatch`. -/
def cancelStep (s : GameServer) (connectionId : ℤ) :
    CancelPoint → GameServer × Option CancelPoint
  | .getPlayerIdByConnection =>
    (s, (s.sessions.getPlayerIdByConnection connectionId).map .getState)
  | .getState pid =>
    (s, if s.players.getState pid = .matching then some (.cancel pid) else none)
  | .cancel pid =>
    let (matching, cancelled) := s.matching.cancel pid
    ({ s with matching := matching }, if cancelled then some (.forceState pid) else none)
  | .forceState pid => ({ s with players := s.players.forceState pid .lobby }, none)

end GameServer

/-! ### Closed connections -/

/-- A closed connection; the clock is read twice. -/
structure CloseCall where
  connectionId : ℤ
  nowMs : ℤ
  offlineAtMs : ℤ

inductive ClosePoint where
  | getPlayerIdByConnection
  | getState (playerId : ℤ)
  | cancel (playerId : ℤ)
  | markOfflineByConnection (playerId : ℤ)
  | forceState (playerId : ℤ)
  | markPlayerOffline (playerId : ℤ)

namespace GameServer

/-- One call of `OnConnectionClosed`. The session that it reads goes to Redis only. -/
def closeStep (s : GameServer) (call : CloseCall) : ClosePoint → GameServer × Option ClosePoint
  | .getPlayerIdByConnection =>
    (s, (s.sessions.getPlayerIdByConnection call.connectionId).map .getState)
  | .getState pid =>
    (s, some (if s.players.getState pid = .matching then .cancel pid
      else .markOfflineByConnection pid))
  | .cancel pid =>
    ({ s with matching := (s.matching.cancel pid).1 }, some (.markOfflineByConnection pid))
  | .markOfflineByConnection pid =>
    ({ s with sessions := (s.sessions.markOfflineByConnection call.connectionId call.nowMs).1 },
      some (.forceState pid))
  | .forceState pid =>
    ({ s with players := s.players.forceState pid .offline }, some (.markPlayerOffline pid))
  | .markPlayerOffline pid =>
    ({ s with rooms := (s.rooms.markPlayerOffline pid call.offlineAtMs).1 }, none)

end GameServer

/-! ### All handlers -/

/-- A handler that has not returned. -/
inductive HandlerCall where
  | login (call : LoginCall) (point : LoginPoint)
  | reconnect (call : ReconnectCall) (point : ReconnectPoint)
  | requestMatch (call : MatchCall) (point : MatchPoint)
  | cancelMatch (connectionId : ℤ) (point : CancelPoint)
  | connectionClosed (call : CloseCall) (point : ClosePoint)
  | settle (decision : ServerSettlementDecision) (nowMs : ℤ) (point : SettlementPoint)

/-- The operations that are handlers made of several calls. -/
def ServerOp.IsHandler : ServerOp → Bool
  | .login .. | .reconnect .. | .requestMatch .. | .cancelMatch .. | .connectionClosed ..
  | .settle .. => true
  | _ => false

namespace GameServer

/-- The first call of an operation, after the checks that need no manager but the tokens. -/
def firstCall (s : GameServer) : ServerOp → Option HandlerCall
  | .login connectionId body nowMs _ =>
    (s.loginPlayer body nowMs).map fun pid =>
      .login ⟨pid, loginNickname body pid, connectionId, nowMs⟩ .getSessionByPlayer
  | .reconnect connectionId body nowMs redis =>
    (s.reconnectRequest body nowMs redis).map fun req =>
      .reconnect ⟨req.playerId, req.roomId, connectionId, nowMs⟩ .getSessionByPlayer
  | .requestMatch connectionId body nowMs =>
    some (.requestMatch ⟨connectionId, body, nowMs⟩ .getPlayerIdByConnection)
  | .cancelMatch connectionId => some (.cancelMatch connectionId .getPlayerIdByConnection)
  | .connectionClosed connectionId nowMs offlineAtMs =>
    some (.connectionClosed ⟨connectionId, nowMs, offlineAtMs⟩ .getPlayerIdByConnection)
  | .settle decision nowMs => some (.settle decision nowMs .tryBeginSettlement)
  | _ => none

/-- One call of a handler. -/
def handlerStep (s : GameServer) : HandlerCall → GameServer × Option HandlerCall
  | .login call point => (s.loginStep call point).map id (Option.map (.login call))
  | .reconnect call point => (s.reconnectStep call point).map id (Option.map (.reconnect call))
  | .requestMatch call point => (s.matchStep call point).map id (Option.map (.requestMatch call))
  | .cancelMatch connectionId point =>
    (s.cancelStep connectionId point).map id (Option.map (.cancelMatch connectionId))
  | .connectionClosed call point =>
    (s.closeStep call point).map id (Option.map (.connectionClosed call))
  | .settle decision nowMs point =>
    match s.settlementStep decision nowMs point with
    | (s', .inl point') => (s', some (.settle decision nowMs point'))
    | (s', .inr _)      => (s', none)

/-! ### A handler that no other thread interrupts -/

variable {s : GameServer} {nowMs : ℤ} {body : CppString} {redis : RedisReplies}

lemma finishes_login (s : GameServer) (connectionId : ℤ) (body : CppString) (nowMs : ℤ)
    (redis : RedisReplies) :
    Finishes handlerStep s (s.firstCall (.login connectionId body nowMs redis))
      (s.handleLogin connectionId body nowMs redis).1 := by
  cases hlogin : s.loginPlayer body nowMs with
  | none =>
    rw [(handleLogin_of_none connectionId redis hlogin).1, firstCall, hlogin]
    exact .done s
  | some pid =>
    rw [(handleLogin_of_some connectionId redis hlogin).2.1, firstCall, hlogin]
    have hcoin : (if (s.players.getPlayer pid).isSome then 0 else s.loginCoin pid) =
        if (s.players.getPlayer pid).isSome then 0 else 1000 := by
      rw [loginCoin]
      cases s.players.getPlayer pid <;> rfl
    unfold loggedIn
    rw [hcoin]
    exact .call (.call (.call (.call (.call (.call (.done _))))))

/-- Before the session is read, a reconnect changes nothing. -/
lemma handleReconnect_of_no_request (connectionId : ℤ)
    (h : s.reconnectRequest body nowMs redis = none) :
    (s.handleReconnect connectionId body nowMs redis).1 = s := by
  refine (handleReconnect_of_none connectionId ?_).1
  unfold reconnectPlayer
  cases hparse : parseReconnectRequest body with
  | none => rfl
  | some req =>
    rw [reconnectRequest, hparse, Option.filter_some] at h
    simp only [checkSession]
    split_ifs at h ⊢ with hchecks
    · rfl
    all_goals simp_all

/-- What a reconnect does after the checks that come before the session is read. -/
lemma handleReconnect_of_request (connectionId : ℤ) {req : ReconnectRequest}
    (h : s.reconnectRequest body nowMs redis = some req) :
    (s.sessions.getSessionByPlayer req.playerId = none →
      (s.handleReconnect connectionId body nowMs redis).1 = s) ∧
    ∀ session, s.sessions.getSessionByPlayer req.playerId = some session →
      (s.handleReconnect connectionId body nowMs redis).1 =
        if session.roomId ≠ req.roomId then s
        else s.reconnected req.playerId session connectionId nowMs := by
  obtain ⟨hparse, hchecks⟩ := Option.filter_eq_some_iff.mp h
  simp only [Bool.decide_and, Bool.decide_eq_true, Bool.and_eq_true, decide_eq_true_eq] at hchecks
  obtain ⟨hok, hplayer, hredis⟩ := hchecks
  have hexpired := AuthTokenService.not_expired_of_verify hok
  have hvalid : ¬ (s.redisEnabled = true ∧ ¬ redis.validateToken req.token = true) := by
    rintro ⟨henabled, hinvalid⟩
    exact hinvalid (hredis henabled)
  simp only [handleReconnect, hparse, checkSession, if_neg hexpired, if_neg (not_not.mpr hok),
    if_neg (not_not.mpr hplayer), if_neg hvalid]
  constructor
  · intro hnone
    simp only [hnone]
  · intro session hsession
    simp only [hsession]
    by_cases hroom : session.roomId = req.roomId
    · simp only [ne_eq, hroom, not_true_eq_false, if_false]
      split_ifs <;> rfl
    · simp only [ne_eq, hroom, not_false_eq_true, if_true]

lemma finishes_reconnect (s : GameServer) (connectionId : ℤ) (body : CppString) (nowMs : ℤ)
    (redis : RedisReplies) :
    Finishes handlerStep s (s.firstCall (.reconnect connectionId body nowMs redis))
      (s.handleReconnect connectionId body nowMs redis).1 := by
  cases hreq : s.reconnectRequest body nowMs redis with
  | none =>
    rw [handleReconnect_of_no_request connectionId hreq, firstCall, hreq]
    exact .done s
  | some req =>
    obtain ⟨hnone, hsome⟩ := handleReconnect_of_request connectionId hreq
    rw [firstCall, hreq]
    refine .call ?_
    cases hsession : s.sessions.getSessionByPlayer req.playerId with
    | none =>
      rw [hnone hsession]
      simp only [handlerStep, reconnectStep, hsession]
      exact .done s
    | some session =>
      rw [hsome session hsession]
      simp only [handlerStep, reconnectStep, hsession]
      split_ifs
      · exact .done s
      · exact .call (.call (.done _))

/-- The loop over the matched players. -/
lemma finishes_enter (call : MatchCall) (roomId : ℤ) (rest : List ℤ) (s : GameServer) :
    Finishes handlerStep s ((MatchPoint.enter roomId rest).map (.requestMatch call))
      (rest.foldl (enterRoom roomId) s) := by
  induction rest generalizing s with
  | nil => exact .done s
  | cons pid rest ih => exact .call (.call (ih (enterRoom roomId s pid)))

lemma finishes_join (call : MatchCall) (pid mode : ℤ) (s : GameServer) :
    Finishes handlerStep s
      (some (.requestMatch call (.join pid mode
        (((s.players.getPlayer pid).map PlayerData.coin).getD 0))))
      (s.joinQueue pid mode call.nowMs).1 := by
  refine .call ?_
  unfold joinQueue
  simp only [handlerStep, matchStep, Prod.map_apply, id_eq]
  by_cases hjoin : (s.matching.join ⟨pid, call.nowMs,
      ((s.players.getPlayer pid).map PlayerData.coin).getD 0, mode⟩).2 = true
  · rw [if_pos hjoin, if_neg (not_not.mpr hjoin)]
    refine .call ?_
    simp only [handlerStep, matchStep, Prod.map_apply, id_eq, Option.map_some]
    by_cases hset : (s.players.setState pid .matching).2 = true
    · rw [if_pos hset, if_neg (not_not.mpr hset)]
      refine .call ?_
      simp only [handlerStep, matchStep, Prod.map_apply, id_eq]
      cases hpop : (s.matching.join ⟨pid, call.nowMs,
          ((s.players.getPlayer pid).map PlayerData.coin).getD 0, mode⟩).1.tryPopMatchedPlayers
            mode with
      | mk matching matched =>
        cases matched with
        | none => exact .done _
        | some players => exact .call (finishes_enter call _ players _)
    · rw [if_neg hset, if_pos hset]
      exact .call (.done _)
  · rw [if_neg hjoin, if_pos hjoin]
    exact .done _

lemma finishes_match (s : GameServer) (connectionId : ℤ) (body : CppString) (nowMs : ℤ) :
    Finishes handlerStep s (s.firstCall (.requestMatch connectionId body nowMs))
      (s.handleMatch connectionId body nowMs).1 := by
  refine .call ?_
  unfold handleMatch
  simp only [handlerStep, matchStep]
  cases s.sessions.getPlayerIdByConnection connectionId with
  | none => exact .done s
  | some pid =>
    cases parseMode body with
    | none => exact .done s
    | some mode =>
      refine .call ?_
      simp only [handlerStep, matchStep, Prod.map_apply, id_eq]
      by_cases hlobby : s.players.getState pid = .lobby
      · simp only [hlobby, if_true, ne_eq, not_true_eq_false, if_false]
        exact .call (finishes_join ⟨connectionId, body, nowMs⟩ pid mode s)
      · simp only [hlobby, if_false, ne_eq, not_false_eq_true, if_true]
        split_ifs <;> exact .done s

lemma finishes_cancel (s : GameServer) (connectionId : ℤ) :
    Finishes handlerStep s (s.firstCall (.cancelMatch connectionId))
      (s.handleCancelMatch connectionId).1 := by
  refine .call ?_
  unfold handleCancelMatch
  simp only [handlerStep, cancelStep]
  cases s.sessions.getPlayerIdByConnection connectionId with
  | none => exact .done s
  | some pid =>
    refine .call ?_
    simp only [handlerStep, cancelStep, Prod.map_apply, id_eq]
    by_cases hmatching : s.players.getState pid = .matching
    · simp only [hmatching, if_true, ne_eq, not_true_eq_false, if_false]
      refine .call ?_
      simp only [handlerStep, cancelStep, Prod.map_apply, id_eq]
      split_ifs with hcancelled
      · exact .call (.done _)
      · exact .done _
    · simp only [hmatching, if_false, ne_eq, not_false_eq_true, if_true]
      exact .done s

lemma finishes_close (s : GameServer) (connectionId nowMs offlineAtMs : ℤ) :
    Finishes handlerStep s (s.firstCall (.connectionClosed connectionId nowMs offlineAtMs))
      (s.onConnectionClosed connectionId nowMs offlineAtMs) := by
  refine .call ?_
  unfold onConnectionClosed
  simp only [handlerStep, closeStep]
  cases s.sessions.getPlayerIdByConnection connectionId with
  | none => exact .done s
  | some pid =>
    refine .call ?_
    simp only [handlerStep, closeStep, Prod.map_apply, id_eq]
    split_ifs
    · exact .call (.call (.call (.call (.done _))))
    · exact .call (.call (.call (.done _)))

lemma finishes_of_returns {d : ServerSettlementDecision} {point : SettlementPoint}
    {s s' : GameServer} {result : SettlementResult} (h : Returns d nowMs s point s' result) :
    Finishes handlerStep s (some (.settle d nowMs point)) s' := by
  induction h with
  | last hstep =>
    refine .call ?_
    simp only [handlerStep, hstep]
    exact .done _
  | next hstep _ ih =>
    refine .call ?_
    simp only [handlerStep, hstep]
    exact ih

/-- Left alone, the calls of a handler do what the operation does. -/
theorem finishes_apply (rng : Shuffler) (s : GameServer) {op : ServerOp} (hop : op.IsHandler) :
    Finishes handlerStep s (s.firstCall op) (s.apply rng op) := by
  cases op with
  | login connectionId body nowMs redis => exact finishes_login s connectionId body nowMs redis
  | reconnect connectionId body nowMs redis =>
    exact finishes_reconnect s connectionId body nowMs redis
  | requestMatch connectionId body nowMs => exact finishes_match s connectionId body nowMs
  | cancelMatch connectionId => exact finishes_cancel s connectionId
  | connectionClosed connectionId nowMs offlineAtMs =>
    exact finishes_close s connectionId nowMs offlineAtMs
  | settle d nowMs => exact finishes_of_returns (returns_settleByServerResult s d nowMs)
  | _ => cases hop

end GameServer

end DdzServer
