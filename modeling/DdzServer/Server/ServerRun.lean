import DdzServer.Lib.Run
import DdzServer.Login.LoginService
import DdzServer.Match.MatchQueue
import DdzServer.Match.MatchService
import DdzServer.Reconnect.ReconnectService
import DdzServer.Room.Membership
import DdzServer.Settlement.SettleRule

/-!
# Runs of the server

The handlers of the server as operations on its state, executed one at a time, and what each of
them can do.
-/

namespace DdzServer

open UnorderedMap

namespace GameServer

variable (s : GameServer)

/-- `GameServer::OnConnectionClosed`; the clock is read twice. -/
def onConnectionClosed (connectionId nowMs offlineAtMs : ℤ) : GameServer :=
  match s.sessions.getPlayerIdByConnection connectionId with
  | none          => s
  | some playerId =>
    { s with
      matching :=
        if s.players.getState playerId = .matching then (s.matching.cancel playerId).1
        else s.matching
      sessions := (s.sessions.markOfflineByConnection connectionId nowMs).1
      players := s.players.forceState playerId .offline
      rooms := (s.rooms.markPlayerOffline playerId offlineAtMs).1 }

end GameServer

/-- The operations of the server. -/
inductive ServerOp where
  | login (connectionId : ℤ) (body : CppString) (nowMs : ℤ) (redis : RedisReplies)
  | reconnect (connectionId : ℤ) (body : CppString) (nowMs : ℤ) (redis : RedisReplies)
  | sessionRefresh (body : CppString) (nowMs : ℤ) (redis : RedisReplies)
  | heartbeat (connectionId nowMs : ℤ)
  | requestMatch (connectionId : ℤ) (body : CppString) (nowMs : ℤ)
  | cancelMatch (connectionId : ℤ)
  | matchTimeout (nowMs timeoutMs : ℤ)
  | connectionClosed (connectionId nowMs offlineAtMs : ℤ)
  | inRoom (op : { op : RoomOp // op.IsInside })
  | settle (decision : ServerSettlementDecision) (nowMs : ℤ)
  | setTxFailpoint (failpoint : StorageTxFailpoint)

namespace GameServer

/-- The server before its first request. -/
def start (auth : AuthTokenService) (redisEnabled : Bool) : GameServer :=
  { auth := auth, redisEnabled := redisEnabled }

/-- One operation. -/
def apply (rng : Shuffler) (s : GameServer) : ServerOp → GameServer
  | .login connectionId body nowMs redis     => (s.handleLogin connectionId body nowMs redis).1
  | .reconnect connectionId body nowMs redis => (s.handleReconnect connectionId body nowMs redis).1
  | .sessionRefresh body nowMs redis         => (s.handleSessionRefresh body nowMs redis).1
  | .heartbeat connectionId nowMs            =>
    { s with sessions := (s.sessions.updateHeartbeatByConnection connectionId nowMs).1 }
  | .requestMatch connectionId body nowMs    => (s.handleMatch connectionId body nowMs).1
  | .cancelMatch connectionId                => (s.handleCancelMatch connectionId).1
  | .matchTimeout nowMs timeoutMs            => (s.handleMatchTimeout nowMs timeoutMs).1
  | .connectionClosed connectionId nowMs offlineAtMs =>
    s.onConnectionClosed connectionId nowMs offlineAtMs
  | .inRoom op                               => { s with rooms := s.rooms.apply rng op }
  | .settle decision nowMs                   => (s.settleByServerResult decision nowMs).1
  | .setTxFailpoint failpoint                =>
    { s with storage := s.storage.setTxFailpointForTesting failpoint }

/-- A login request with a ticket that a server with the default secret accepts at time 0. -/
def ticketBody (playerId : ℤ) : CppString :=
  str "login_ticket=" ++ (({} : AuthTokenService).issueLoginTicket playerId 0).2.token

/-- The step function of a run. -/
def step (rng : Shuffler) : GameServer → ServerOp → Option GameServer := Run.total (apply rng)

/-! ### What the handlers do -/

variable {s : GameServer} {nowMs : ℤ} {body : CppString} {redis : RedisReplies}

/-- A login without a valid ticket changes nothing, and replaces no connection. -/
lemma handleLogin_of_none (connectionId : ℤ) (redis : RedisReplies)
    (h : s.loginPlayer body nowMs = none) :
    (s.handleLogin connectionId body nowMs redis).1 = s ∧
      (s.handleLogin connectionId body nowMs redis).2.oldConnectionToKick = none := by
  unfold loginPlayer at h
  unfold handleLogin
  split at h
  · exact ⟨rfl, rfl⟩
  next ticket hparse =>
    dsimp only at h ⊢
    split_ifs at h with hok
    split_ifs <;> exact ⟨rfl, rfl⟩

lemma handleLogin_of_some (connectionId : ℤ) (redis : RedisReplies) {playerId : ℤ}
    (h : s.loginPlayer body nowMs = some playerId) :
    0 < playerId ∧ (s.handleLogin connectionId body nowMs redis).1 =
        s.loggedIn playerId (loginNickname body playerId) connectionId nowMs ∧
      (s.handleLogin connectionId body nowMs redis).2.oldConnectionToKick =
        (s.sessions.bindLogin playerId connectionId nowMs).2 := by
  unfold loginPlayer at h
  unfold handleLogin
  split at h
  · cases h
  next ticket hparse =>
    dsimp only at h
    split_ifs at h with hok
    cases h
    have hpos := AuthTokenService.playerId_pos_of_verify hok
    have htoken := s.auth.issueSessionToken_token_ne_nil nowMs hpos
    have hexpired := AuthTokenService.not_expired_of_verify hok
    dsimp only
    rw [if_neg hexpired, if_neg (not_not.mpr hok), if_neg htoken]
    refine ⟨hpos, ?_⟩
    split_ifs <;> exact ⟨rfl, rfl⟩

lemma handleReconnect_of_none (connectionId : ℤ)
    (h : s.reconnectPlayer body nowMs redis = none) :
    (s.handleReconnect connectionId body nowMs redis).1 = s ∧
      (s.handleReconnect connectionId body nowMs redis).2.oldConnectionToKick = none := by
  unfold reconnectPlayer at h
  unfold handleReconnect
  split at h
  · exact ⟨rfl, rfl⟩
  next req hparse =>
    split at h
    next err hcheck =>
      simp only [hcheck]
      exact ⟨trivial, trivial⟩
    · cases h

/-- The session a reconnect passes its checks with. -/
lemma lookup_of_checkSession {playerId roomId : ℤ} {token : CppString} {session : Session}
    (h : s.checkSession playerId token roomId nowMs redis = .ok session) :
    s.sessions.playerToSession.lookup playerId = some session := by
  simp only [checkSession] at h
  split_ifs at h
  split at h
  · cases h
  next sess hsess =>
    split_ifs at h
    cases h
    exact hsess

lemma handleReconnect_of_some (connectionId : ℤ) {playerId : ℤ}
    (h : s.reconnectPlayer body nowMs redis = some playerId) :
    ∃ session, s.sessions.playerToSession.lookup playerId = some session ∧
      (s.handleReconnect connectionId body nowMs redis).1 =
        s.reconnected playerId session connectionId nowMs ∧
      (s.handleReconnect connectionId body nowMs redis).2.oldConnectionToKick =
        (s.sessions.rebindForReconnect playerId connectionId nowMs).2 := by
  unfold reconnectPlayer at h
  unfold handleReconnect
  split at h
  · cases h
  next req hparse =>
    split at h
    · cases h
    next session hcheck =>
      cases h
      have hkick : ∀ oldConn, (s.reconnectResult session req oldConn).oldConnectionToKick =
          oldConn := by
        intro oldConn
        unfold reconnectResult
        dsimp only
        split_ifs
        · split
          · rfl
          · split_ifs <;> rfl
        · rfl
        · rfl
      refine ⟨session, lookup_of_checkSession hcheck, ?_⟩
      simp only [hcheck]
      split_ifs
      · exact ⟨rfl, hkick _⟩
      · exact ⟨rfl, hkick _⟩

lemma handleSessionRefresh_fst (s : GameServer) (body : CppString) (nowMs : ℤ)
    (redis : RedisReplies) :
    ∃ auth, (s.handleSessionRefresh body nowMs redis).1 = { s with auth := auth } := by
  unfold handleSessionRefresh
  split
  · exact ⟨s.auth, rfl⟩
  · split
    · exact ⟨s.auth, rfl⟩
    · dsimp only
      split_ifs <;> exact ⟨_, rfl⟩

/-- The queue entry of a player. -/
def entryOf (player : PlayerData) (playerId nowMs : ℤ) : MatchPlayer :=
  ⟨playerId, nowMs, player.coin, 3⟩

/-- A player of the lobby put into the queue. -/
def waitingWith (s : GameServer) (player : PlayerData) (playerId nowMs : ℤ) : GameServer :=
  { s with
    matching := s.matching.joined (entryOf player playerId nowMs)
    players := s.players.write playerId { player with state := .matching } }

/-- The first three of the queue put into a new room. -/
def matchedUp (s : GameServer) : GameServer :=
  { s with
    matching := s.matching.popped
    players := s.players.forceStates (s.matching.waiting.take 3) .inRoom
    sessions := (s.matching.waiting.take 3).foldl
      (fun m pid => (m.setRoomId pid s.rooms.rooms.nextId).1) s.sessions
    rooms := (s.rooms.createRoom 3 (s.matching.waiting.take 3)).1 }

/-- What a match request does. -/
inductive MatchRule (s : GameServer) (connectionId nowMs : ℤ) : GameServer → Prop
  | refused : MatchRule s connectionId nowMs s
  | waiting {playerId player} (hconn : s.sessions.connToPlayer.lookup connectionId = some playerId)
      (hplayer : s.players.players.lookup playerId = some player) (hlobby : player.state = .lobby)
      (hfree : s.matching.matchingIndex.lookup playerId = none) :
      MatchRule s connectionId nowMs (s.waitingWith player playerId nowMs)
  | matched {playerId player} (hconn : s.sessions.connToPlayer.lookup connectionId = some playerId)
      (hplayer : s.players.players.lookup playerId = some player) (hlobby : player.state = .lobby)
      (hfree : s.matching.matchingIndex.lookup playerId = none)
      (hthree : 2 ≤ s.matching.queueThree.length) :
      MatchRule s connectionId nowMs (s.waitingWith player playerId nowMs).matchedUp

lemma foldl_enterRoom (players : List ℤ) (roomId : ℤ) (s : GameServer) :
    players.foldl (enterRoom roomId) s =
      { s with
        sessions := players.foldl (fun m pid => (m.setRoomId pid roomId).1) s.sessions
        players := s.players.forceStates players .inRoom } := by
  induction players generalizing s with
  | nil => rfl
  | cons pid ps ih => exact ih _

lemma parseMode_eq_some {mode : ℤ} (h : parseMode body = some mode) : mode = 3 := by
  unfold parseMode at h
  split at h
  · cases h
  · split at h
    · split_ifs at h with hmode
      cases h
      exact hmode
    · cases h

/-- What a match request does and answers. -/
inductive MatchOutcome (s : GameServer) (connectionId nowMs : ℤ) :
    GameServer × MatchResult → Prop
  | refused {result : MatchResult} (hcode : result.code ≠ .ok) (hmatched : result.matched = false) :
      MatchOutcome s connectionId nowMs (s, result)
  | waiting {playerId player} (hconn : s.sessions.connToPlayer.lookup connectionId = some playerId)
      (hplayer : s.players.players.lookup playerId = some player) (hlobby : player.state = .lobby)
      (hfree : s.matching.matchingIndex.lookup playerId = none)
      (hfew : s.matching.queueThree.length < 2) :
      MatchOutcome s connectionId nowMs
        (s.waitingWith player playerId nowMs, { code := .ok, playerId := playerId, mode := 3 })
  | matched {playerId player} (hconn : s.sessions.connToPlayer.lookup connectionId = some playerId)
      (hplayer : s.players.players.lookup playerId = some player) (hlobby : player.state = .lobby)
      (hfree : s.matching.matchingIndex.lookup playerId = none)
      (hthree : 2 ≤ s.matching.queueThree.length) :
      MatchOutcome s connectionId nowMs
        ((s.waitingWith player playerId nowMs).matchedUp,
          { code := .ok
            playerId := playerId
            mode := 3
            matched := true
            roomId := s.rooms.rooms.nextId
            matchedPlayers := (s.waitingWith player playerId nowMs).matching.waiting.take 3 })

theorem match_outcome (s : GameServer) (connectionId : ℤ) (body : CppString) (nowMs : ℤ) :
    MatchOutcome s connectionId nowMs (s.handleMatch connectionId body nowMs) := by
  unfold handleMatch
  split
  · exact .refused (show ErrorCode.notLogin ≠ .ok by decide) rfl
  next playerId hconn =>
    split
    · exact .refused (show ErrorCode.matchModeInvalid ≠ .ok by decide) rfl
    next mode hmode =>
      obtain rfl := parseMode_eq_some hmode
      dsimp only
      split_ifs with hlobby
      · exact .refused (show ErrorCode.playerAlreadyInRoom ≠ .ok by decide) rfl
      · exact .refused (show ErrorCode.invalidPlayerState ≠ .ok by decide) rfl
      · rw [not_not] at hlobby
        -- the player is registered: a missing one would be offline
        cases hplayer : s.players.players.lookup playerId with
        | none =>
          simp [PlayerManager.getState, at', hplayer] at hlobby
        | some player =>
          have hstate : player.state = .lobby := by
            simpa [PlayerManager.getState, at', hplayer] using hlobby
          have hget : s.players.getPlayer playerId = some player := hplayer
          have hset : s.players.setState playerId .matching =
              (s.players.write playerId { player with state := .matching }, true) := by
            simp [PlayerManager.setState, hplayer, hstate, isTransitionAllowed]
          simp only [joinQueue, hget, Option.map_some, Option.getD_some, hset,
            MatchManager.join_spec s.matching
              (show (entryOf player playerId nowMs).mode = 3 from rfl),
            show (⟨playerId, nowMs, player.coin, 3⟩ : MatchPlayer) =
              entryOf player playerId nowMs from rfl]
          by_cases hfree : s.matching.matchingIndex.lookup playerId = none
          · have hfree' : s.matching.matchingIndex.lookup
                (entryOf player playerId nowMs).playerId = none := hfree
            rw [if_pos hfree']
            simp only [MatchManager.tryPopMatchedPlayers_spec]
            have hjoined : (s.matching.joined (entryOf player playerId nowMs)).queueThree.length =
                s.matching.queueThree.length + 1 := by
              simp [MatchManager.joined]
            by_cases hlen :
                (s.matching.joined (entryOf player playerId nowMs)).queueThree.length < 3
            · simp only [if_pos hlen]
              exact .waiting hconn hplayer hstate hfree (by omega)
            · simp only [if_neg hlen, foldl_enterRoom]
              exact .matched hconn hplayer hstate hfree (by omega)
          · have hfree' : s.matching.matchingIndex.lookup
                (entryOf player playerId nowMs).playerId ≠ none := hfree
            rw [if_neg hfree']
            exact .refused (show ErrorCode.playerAlreadyMatching ≠ .ok by decide) rfl

theorem match_rule (s : GameServer) (connectionId : ℤ) (body : CppString) (nowMs : ℤ) :
    MatchRule s connectionId nowMs (s.handleMatch connectionId body nowMs).1 := by
  have houtcome := match_outcome s connectionId body nowMs
  generalize s.handleMatch connectionId body nowMs = out at houtcome
  cases houtcome with
  | refused => exact .refused
  | waiting hconn hplayer hlobby hfree => exact .waiting hconn hplayer hlobby hfree
  | matched hconn hplayer hlobby hfree hthree => exact .matched hconn hplayer hlobby hfree hthree

/-- What the cancellation of a match does. -/
inductive CancelRule (s : GameServer) (connectionId : ℤ) : GameServer → Prop
  | refused : CancelRule s connectionId s
  | failed (playerId : ℤ) :
      CancelRule s connectionId { s with matching := (s.matching.cancel playerId).1 }
  | cancelled {playerId} (hstate : s.players.getState playerId = .matching) :
      CancelRule s connectionId
        { s with
          matching := (s.matching.cancel playerId).1
          players := s.players.forceState playerId .lobby }

/-- What the cancellation of a match does and answers. -/
inductive CancelOutcome (s : GameServer) (connectionId : ℤ) :
    GameServer × CancelMatchResult → Prop
  | refused {result : CancelMatchResult} (hcode : result.code ≠ .ok) :
      CancelOutcome s connectionId (s, result)
  | failed (playerId : ℤ) :
      CancelOutcome s connectionId
        ({ s with matching := (s.matching.cancel playerId).1 },
          { code := .matchCancelFailed, playerId := playerId })
  | cancelled {playerId} (hconn : s.sessions.connToPlayer.lookup connectionId = some playerId)
      (hstate : s.players.getState playerId = .matching) :
      CancelOutcome s connectionId
        ({ s with
            matching := (s.matching.cancel playerId).1
            players := s.players.forceState playerId .lobby },
          { code := .ok, playerId := playerId })

theorem cancel_outcome (s : GameServer) (connectionId : ℤ) :
    CancelOutcome s connectionId (s.handleCancelMatch connectionId) := by
  unfold handleCancelMatch
  split
  · exact .refused (show ErrorCode.notLogin ≠ .ok by decide)
  next playerId hconn =>
    dsimp only
    split_ifs with hstate hcancel
    · exact .refused (show ErrorCode.invalidPlayerState ≠ .ok by decide)
    · exact .cancelled hconn (not_not.mp hstate)
    · exact .failed playerId

theorem cancel_rule (s : GameServer) (connectionId : ℤ) :
    CancelRule s connectionId (s.handleCancelMatch connectionId).1 := by
  have houtcome := cancel_outcome s connectionId
  generalize s.handleCancelMatch connectionId = out at houtcome
  cases houtcome with
  | refused => exact .refused
  | failed playerId => exact .failed playerId
  | cancelled hconn hstate => exact .cancelled hstate

end GameServer

end DdzServer
