import DdzServer.Network.TcpServer

/-!
# Online sessions and live connections

Every online session should have its connection among those of the server. Of the ways a connection
can leave the server, only a closed connection tells the sessions; the sweep of idle connections
does not, so it leaves the sessions on them online for ever.
-/

namespace DdzServer

open UnorderedMap

/-! ### Operations that leave the links alone -/

namespace GameServer

variable {rng : Shuffler} {s s' : GameServer}

lemma onlineAt_foldl_setRoomId (players : List ℤ) (roomId : ℤ) (m : SessionManager) (p c : ℤ) :
    (players.foldl (fun m pid => (m.setRoomId pid roomId).1) m).OnlineAt p c ↔ m.OnlineAt p c := by
  simp only [SessionManager.OnlineAt, SessionManager.lookup_foldl_setRoomId]
  split_ifs
  · cases m.playerToSession.lookup p <;> simp
  · rfl

lemma onlineAt_updateHeartbeat (m : SessionManager) (connectionId nowMs p c : ℤ) :
    (m.updateHeartbeatByConnection connectionId nowMs).1.OnlineAt p c ↔ m.OnlineAt p c := by
  unfold SessionManager.OnlineAt
  rcases m.lookup_updateHeartbeat connectionId nowMs p with heq | ⟨sess, hsess, heq⟩
  · rw [heq]
  · rw [heq, hsess]
    simp

lemma onlineAt_match {connectionId nowMs : ℤ} (hrule : MatchRule s connectionId nowMs s')
    (p c : ℤ) : s'.sessions.OnlineAt p c ↔ s.sessions.OnlineAt p c := by
  cases hrule with
  | refused => rfl
  | waiting => rfl
  | matched => exact onlineAt_foldl_setRoomId _ _ _ p c

lemma onlineAt_settle {d : ServerSettlementDecision} {nowMs : ℤ} {result : SettlementResult}
    (hrule : SettleRule s d nowMs s' result) (p c : ℤ) :
    s'.sessions.OnlineAt p c ↔ s.sessions.OnlineAt p c := by
  cases hrule with
  | invalid => rfl
  | busy => rfl
  | notFound => rfl
  | failed => rfl
  | settled => exact onlineAt_foldl_setRoomId _ _ _ p c

/-- Which session is online where does not depend on the other operations. -/
lemma onlineAt_other {op : ServerOp} (hop : op.IsOther) (p c : ℤ) :
    (s.apply rng op).sessions.OnlineAt p c ↔ s.sessions.OnlineAt p c := by
  cases op with
  | login => cases hop
  | reconnect => cases hop
  | connectionClosed => cases hop
  | sessionRefresh body nowMs redis =>
    obtain ⟨auth, heq⟩ := handleSessionRefresh_fst s body nowMs redis
    rw [apply, heq]
  | heartbeat connectionId nowMs => exact onlineAt_updateHeartbeat _ _ _ p c
  | requestMatch connectionId body nowMs =>
    exact onlineAt_match (match_rule s connectionId body nowMs) p c
  | cancelMatch connectionId =>
    have hrule := cancel_rule s connectionId
    rw [apply]
    generalize (s.handleCancelMatch connectionId).1 = s' at hrule
    cases hrule <;> rfl
  | matchTimeout nowMs timeoutMs => rfl
  | inRoom op => rfl
  | settle d nowMs => exact onlineAt_settle (settle_rule s d nowMs) p c
  | setTxFailpoint failpoint => rfl

/-- The other operations leave the index of the connections alone. -/
lemma connToPlayer_other {op : ServerOp} (hop : op.IsOther) :
    (s.apply rng op).sessions.connToPlayer = s.sessions.connToPlayer := by
  cases op with
  | login => cases hop
  | reconnect => cases hop
  | connectionClosed => cases hop
  | sessionRefresh body nowMs redis =>
    obtain ⟨auth, heq⟩ := handleSessionRefresh_fst s body nowMs redis
    rw [apply, heq]
  | heartbeat connectionId nowMs =>
    exact SessionManager.connToPlayer_updateHeartbeat _ connectionId nowMs
  | requestMatch connectionId body nowMs =>
    have hrule := match_rule s connectionId body nowMs
    rw [apply]
    generalize (s.handleMatch connectionId body nowMs).1 = s' at hrule
    cases hrule with
    | refused => rfl
    | waiting => rfl
    | matched => exact SessionManager.connToPlayer_foldl_setRoomId _ _ _
  | cancelMatch connectionId =>
    have hrule := cancel_rule s connectionId
    rw [apply]
    generalize (s.handleCancelMatch connectionId).1 = s' at hrule
    cases hrule <;> rfl
  | matchTimeout nowMs timeoutMs => rfl
  | inRoom op => rfl
  | settle d nowMs =>
    have hrule : ∀ {s' result}, SettleRule s d nowMs s' result →
        s'.sessions.connToPlayer = s.sessions.connToPlayer := by
      intro s' result hrule
      cases hrule with
      | invalid => rfl
      | busy => rfl
      | notFound => rfl
      | failed => rfl
      | settled => exact SessionManager.connToPlayer_foldl_setRoomId _ _ _
    exact hrule (settle_rule s d nowMs)
  | setTxFailpoint failpoint => rfl

/-- A player is bound to a connection with a positive id, as every accepted connection has one. -/
def BindsPositive : ServerOp → Prop
  | .login connectionId _ _ _     => 0 < connectionId
  | .reconnect connectionId _ _ _ => 0 < connectionId
  | _ => True

/-- The entries of the index stay linked to online sessions. -/
lemma linked_apply (rng : Shuffler) (h : s.sessions.Linked) {op : ServerOp}
    (hop : BindsPositive op) : (s.apply rng op).sessions.Linked := by
  cases op with
  | login connectionId body nowMs redis =>
    rw [apply]
    cases hp : s.loginPlayer body nowMs with
    | none =>
      rw [(handleLogin_of_none connectionId redis hp).1]
      exact h
    | some p =>
      rw [(handleLogin_of_some connectionId redis hp).2.1]
      exact h.bindLogin hop p nowMs
  | reconnect connectionId body nowMs redis =>
    rw [apply]
    cases hp : s.reconnectPlayer body nowMs redis with
    | none =>
      rw [(handleReconnect_of_none connectionId hp).1]
      exact h
    | some p =>
      obtain ⟨sess, hsess, hserver, -⟩ := handleReconnect_of_some connectionId hp
      rw [hserver]
      exact h.rebindForReconnect hop hsess nowMs
  | connectionClosed connectionId nowMs offlineAtMs =>
    rw [apply, Connections.sessions_onConnectionClosed]
    exact h.markOffline connectionId nowMs
  | _ => exact h.congr (onlineAt_other rfl) (connToPlayer_other rfl)

end GameServer

/-! ### Sessions without a connection -/

namespace Network

variable {rng : Shuffler} {n n' : Network} {ev : NetworkEvent} {p c : ℤ}

/-- Every online session has its connection. -/
def Connected (n : Network) : Prop :=
  ∀ p c, n.server.sessions.OnlineAt p c → n.tcp.IsOpen c

/-- The player and the connection that an event binds. -/
def binds (n : Network) : NetworkEvent → Option (ℤ × ℤ)
  | .login c body nowMs _ => (n.server.loginPlayer body nowMs).map fun p => (p, c)
  | .reconnect c body nowMs redis =>
    (n.server.reconnectPlayer body nowMs redis).map fun p => (p, c)
  | _ => none

/-- A player can be bound to a connection: it is still open, and nobody else is online on the
connection that the player leaves. -/
def CanBind (n : Network) (p c : ℤ) : Prop :=
  n.tcp.IsOpen c ∧ ∀ q d, q ≠ p → n.server.sessions.OnlineAt q d →
    n.server.sessions.OnlineAt p d → d = c

/-- The event takes no connection from an online session: a player is bound to an open connection
and leaves one that is not shared, a connection is closed on which nobody is online but the player
of the index, or the idle connections have no sessions online. -/
def Harmless (n : Network) (ev : NetworkEvent) : Prop :=
  (∀ p c, n.binds ev = some (p, c) → n.CanBind p c) ∧
    (∀ c nowMs offlineAtMs, ev = .closed c nowMs offlineAtMs →
      ∀ p, n.server.sessions.OnlineAt p c → n.server.sessions.connToPlayer.lookup c = some p) ∧
    ∀ nowMs heartbeatTimeoutMs, ev = .idleSweep nowMs heartbeatTimeoutMs →
      ∀ p c, n.server.sessions.OnlineAt p c → ¬ n.tcp.IsIdle nowMs heartbeatTimeoutMs c

/-- Connections have positive ids. -/
structure Numbered (n : Network) : Prop where
  next : 0 < n.tcp.nextConnectionId
  ids : ∀ c, n.tcp.IsOpen c → 0 < c

lemma isOpen_kick (tcp : TcpServer) (c : ℤ) (old : Option ℤ) (d : ℤ) :
    (kick tcp c old).IsOpen d ↔ tcp.IsOpen d ∧ ¬ (old = some d ∧ d ≠ c) := by
  cases old with
  | none => simp [kick]
  | some k =>
    simp only [kick, Option.some.injEq]
    split_ifs with hk
    · rw [TcpServer.closeConnection, TcpServer.isOpen_removeConnection]
      constructor
      · rintro ⟨hne, hopen⟩
        exact ⟨hopen, fun h => hne h.1.symm⟩
      · rintro ⟨hopen, hnot⟩
        exact ⟨fun heq => hnot ⟨heq.symm, heq ▸ hk⟩, hopen⟩
    · rw [ne_eq, not_not] at hk
      refine ⟨fun hopen => ⟨hopen, fun h => h.2 (h.1 ▸ hk)⟩, fun h => h.1⟩

lemma sessions_onLogin (n : Network) (c : ℤ) (body : CppString) (nowMs : ℤ) (redis : RedisReplies) :
    (n.onLogin c body nowMs redis).server.sessions =
      (n.server.handleLogin c body nowMs redis).1.sessions := by
  simp only [onLogin]
  split_ifs <;> rfl

lemma sessions_onReconnect (n : Network) (c : ℤ) (body : CppString) (nowMs : ℤ)
    (redis : RedisReplies) :
    (n.onReconnect c body nowMs redis).server.sessions =
      (n.server.handleReconnect c body nowMs redis).1.sessions := by
  simp only [onReconnect]
  split_ifs <;> rfl

/-- An event that binds a player, as a change of sessions and connections. -/
lemma step_of_binds (hnumbered : Numbered n)
    (hstep : step rng n ev = some n') (hbinds : n.binds ev = some (p, c)) :
    (∀ q d, n'.server.sessions.OnlineAt q d ↔
        if q = p then d = c else n.server.sessions.OnlineAt q d) ∧
      ∀ d, n'.tcp.IsOpen d ↔ n.tcp.IsOpen d ∧ ¬ (n.server.sessions.OnlineAt p d ∧ d ≠ c) := by
  cases ev with
  | login c' body nowMs redis =>
    obtain ⟨p', hp, heq⟩ := Option.map_eq_some_iff.mp hbinds
    cases heq
    simp only [step] at hstep
    split_ifs at hstep
    cases hstep
    obtain ⟨-, hserver, hkick⟩ :=
      GameServer.handleLogin_of_some c redis hp
    refine ⟨fun q d => ?_, fun d => ?_⟩
    · rw [sessions_onLogin, hserver]
      exact SessionManager.onlineAt_bindLogin _ p c nowMs q d
    · simp only [onLogin, isOpen_kick, hkick]
      rw [show (n.server.sessions.bindLogin p c nowMs).2 =
        n.server.sessions.getConnectionIdByPlayer p from rfl,
        SessionManager.getConnectionIdByPlayer_eq_some]
  | reconnect c' body nowMs redis =>
    obtain ⟨p', hp, heq⟩ := Option.map_eq_some_iff.mp hbinds
    cases heq
    simp only [step] at hstep
    split_ifs at hstep
    cases hstep
    obtain ⟨sess, hsess, hserver, hkick⟩ := GameServer.handleReconnect_of_some c hp
    refine ⟨fun q d => ?_, fun d => ?_⟩
    · rw [sessions_onReconnect, hserver]
      exact SessionManager.onlineAt_rebindForReconnect hsess c nowMs q d
    · simp only [onReconnect, isOpen_kick, hkick, SessionManager.rebindForReconnect_snd hsess]
      refine and_congr_right fun hopen => not_congr (and_congr_left fun hd => ?_)
      rw [SessionManager.onlineAt_of_lookup hsess]
      have hpos := hnumbered.ids d hopen
      constructor
      · intro hold
        split_ifs at hold with hcond
        exact ⟨hcond.1, Option.some.inj hold⟩
      · rintro ⟨honline, rfl⟩
        rw [if_pos ⟨honline, hpos.ne', hd⟩]
  | accept => cases hbinds
  | bytes => cases hbinds
  | other => cases hbinds
  | closed => cases hbinds
  | idleSweep => cases hbinds

/-- What an event is when it binds nobody. -/
lemma step_of_binds_none (hstep : step rng n ev = some n') (hbinds : n.binds ev = none) :
    (∃ c nowMs offlineAtMs, ev = .closed c nowMs offlineAtMs ∧
        n' = n.onClosed c nowMs offlineAtMs) ∨
      (∃ nowMs heartbeatTimeoutMs, ev = .idleSweep nowMs heartbeatTimeoutMs ∧
        n' = { n with tcp := n.tcp.closeIdleConnections nowMs heartbeatTimeoutMs }) ∨
      ((∀ c nowMs offlineAtMs, ev ≠ .closed c nowMs offlineAtMs) ∧
        (∀ nowMs heartbeatTimeoutMs, ev ≠ .idleSweep nowMs heartbeatTimeoutMs) ∧
        (∀ q d, n'.server.sessions.OnlineAt q d ↔ n.server.sessions.OnlineAt q d) ∧
        (∀ d, n.tcp.IsOpen d → n'.tcp.IsOpen d) ∧
        ∀ d, n'.tcp.IsOpen d → n.tcp.IsOpen d ∨ d = n.tcp.nextConnectionId) := by
  cases ev with
  | accept nowMs running =>
    cases hstep
    exact Or.inr (Or.inr ⟨by simp, by simp, fun _ _ => Iff.rfl,
      fun d hd => TcpServer.isOpen_accept_of hd nowMs running,
      fun d hd => TcpServer.isOpen_of_accept hd⟩)
  | bytes c nowMs =>
    cases hstep
    exact Or.inr (Or.inr ⟨by simp, by simp, fun _ _ => Iff.rfl,
      fun d hd => (TcpServer.isOpen_touchHeartbeat nowMs).mpr hd,
      fun d hd => Or.inl ((TcpServer.isOpen_touchHeartbeat nowMs).mp hd)⟩)
  | login c body nowMs redis =>
    obtain ⟨hserver, hkick⟩ := GameServer.handleLogin_of_none c redis
      (Option.map_eq_none_iff.mp hbinds)
    simp only [step] at hstep
    split_ifs at hstep
    cases hstep
    have htcp : (n.onLogin c body nowMs redis).tcp = n.tcp := by
      simp only [onLogin, hkick, kick]
    refine Or.inr (Or.inr ⟨by simp, by simp, fun q d => ?_, fun d hd => ?_, fun d hd => ?_⟩)
    · rw [sessions_onLogin, hserver]
    · rwa [htcp]
    · exact Or.inl (htcp ▸ hd)
  | reconnect c body nowMs redis =>
    obtain ⟨hserver, hkick⟩ := GameServer.handleReconnect_of_none c
      (Option.map_eq_none_iff.mp hbinds)
    simp only [step] at hstep
    split_ifs at hstep
    cases hstep
    have htcp : (n.onReconnect c body nowMs redis).tcp = n.tcp := by
      simp only [onReconnect, hkick, kick]
    refine Or.inr (Or.inr ⟨by simp, by simp, fun q d => ?_, fun d hd => ?_, fun d hd => ?_⟩)
    · rw [sessions_onReconnect, hserver]
    · rwa [htcp]
    · exact Or.inl (htcp ▸ hd)
  | other op =>
    cases hstep
    exact Or.inr (Or.inr ⟨by simp, by simp, GameServer.onlineAt_other op.2, fun _ hd => hd,
      fun _ hd => Or.inl hd⟩)
  | closed c nowMs offlineAtMs =>
    simp only [step] at hstep
    split_ifs at hstep
    cases hstep
    exact Or.inl ⟨c, nowMs, offlineAtMs, rfl, rfl⟩
  | idleSweep nowMs heartbeatTimeoutMs =>
    cases hstep
    exact Or.inr (Or.inl ⟨nowMs, heartbeatTimeoutMs, rfl, rfl⟩)

lemma onlineAt_onClosed {c nowMs offlineAtMs q d : ℤ} :
    (n.onClosed c nowMs offlineAtMs).server.sessions.OnlineAt q d ↔
      n.server.sessions.connToPlayer.lookup c ≠ some q ∧ n.server.sessions.OnlineAt q d := by
  simp only [onClosed, Connections.sessions_onConnectionClosed]
  cases hconn : n.server.sessions.connToPlayer.lookup c with
  | none => simp [SessionManager.markOfflineByConnection, hconn]
  | some p =>
    rw [SessionManager.onlineAt_markOffline hconn]
    simp [eq_comm]

lemma nextConnectionId_step (hstep : step rng n ev = some n') :
    n.tcp.nextConnectionId ≤ n'.tcp.nextConnectionId := by
  have hkick : ∀ (tcp : TcpServer) c old,
      (kick tcp c old).nextConnectionId = tcp.nextConnectionId := by
    intro tcp c old
    unfold kick
    split
    · split_ifs <;> rfl
    · rfl
  cases ev with
  | accept nowMs running =>
    cases hstep
    simp [TcpServer.accept]
  | bytes c nowMs =>
    cases hstep
    simp only [TcpServer.touchHeartbeat]
    split <;> exact le_rfl
  | login c body nowMs redis =>
    simp only [step] at hstep
    split_ifs at hstep
    cases hstep
    exact (hkick _ _ _).ge
  | reconnect c body nowMs redis =>
    simp only [step] at hstep
    split_ifs at hstep
    cases hstep
    exact (hkick _ _ _).ge
  | other op =>
    cases hstep
    exact le_rfl
  | closed c nowMs offlineAtMs =>
    simp only [step] at hstep
    split_ifs at hstep
    cases hstep
    exact le_rfl
  | idleSweep nowMs heartbeatTimeoutMs =>
    cases hstep
    exact le_rfl

lemma Numbered.step (h : Numbered n) (hstep : Network.step rng n ev = some n') : Numbered n' := by
  refine ⟨lt_of_lt_of_le h.next (nextConnectionId_step hstep), fun d hd => ?_⟩
  cases hbinds : n.binds ev with
  | none =>
    rcases step_of_binds_none hstep hbinds with
      ⟨c, nowMs, offlineAtMs, -, rfl⟩ | ⟨nowMs, heartbeatTimeoutMs, -, rfl⟩ | ⟨-, -, -, -, hnew⟩
    · exact h.ids d (TcpServer.isOpen_removeConnection.mp hd).2
    · exact h.ids d (TcpServer.isOpen_closeIdleConnections.mp hd).1
    · rcases hnew d hd with hopen | rfl
      · exact h.ids d hopen
      · exact h.next
  | some pc =>
    obtain ⟨p, c⟩ := pc
    exact h.ids d (((step_of_binds h hstep hbinds).2 d).mp hd).1

/-- One event keeps all online sessions connected exactly if it is harmless. -/
lemma connected_step_iff (hnumbered : Numbered n) (h : Connected n)
    (hstep : step rng n ev = some n') : Connected n' ↔ n.Harmless ev := by
  cases hbinds : n.binds ev with
  | none =>
    have hnone : ∀ p c, n.binds ev = some (p, c) → n.CanBind p c := fun p c hpc => by
      rw [hbinds] at hpc
      cases hpc
    rcases step_of_binds_none hstep hbinds with
      ⟨c, nowMs, offlineAtMs, rfl, rfl⟩ | ⟨nowMs, heartbeatTimeoutMs, rfl, rfl⟩ |
        ⟨hclosed, hsweep, honline, hopen, -⟩
    · constructor
      · intro h'
        refine ⟨hnone, fun c' _ _ heq q hq => ?_, fun _ _ heq => (by cases heq)⟩
        cases heq
        by_contra hne
        have hgone := h' q c (onlineAt_onClosed.mpr ⟨hne, hq⟩)
        exact (TcpServer.isOpen_removeConnection.mp hgone).1 rfl
      · rintro ⟨-, hindex, -⟩ q d hq
        obtain ⟨hne, honline⟩ := onlineAt_onClosed.mp hq
        refine TcpServer.isOpen_removeConnection.mpr ⟨?_, h q d honline⟩
        rintro rfl
        exact hne (hindex d nowMs offlineAtMs rfl q honline)
    · constructor
      · intro h'
        refine ⟨hnone, fun _ _ _ heq => (by cases heq), fun _ _ heq q d hq => ?_⟩
        cases heq
        exact (TcpServer.isOpen_closeIdleConnections.mp (h' q d hq)).2
      · rintro ⟨-, -, hidle⟩ q d hq
        exact TcpServer.isOpen_closeIdleConnections.mpr ⟨h q d hq, hidle _ _ rfl q d hq⟩
    · refine iff_of_true (fun q d hq => hopen d (h q d ((honline q d).mp hq)))
        ⟨hnone, fun c a b heq => absurd heq (hclosed c a b), fun a b heq => absurd heq (hsweep a b)⟩
  | some pc =>
    obtain ⟨p, c⟩ := pc
    obtain ⟨honline, hopen⟩ := step_of_binds hnumbered hstep hbinds
    have hcan : Connected n' ↔ n.CanBind p c := by
      constructor
      · intro h'
        refine ⟨?_, fun q d hq hqd hpd => ?_⟩
        · have hc := h' p c ((honline p c).mpr (by simp))
          exact ((hopen c).mp hc).1
        · have hd := h' q d ((honline q d).mpr (by rwa [if_neg hq]))
          by_contra hne
          exact ((hopen d).mp hd).2 ⟨hpd, hne⟩
      · rintro ⟨hc, hshared⟩ q d hq
        rw [honline] at hq
        rw [hopen]
        split_ifs at hq with hqp
        · rw [hq]
          exact ⟨hc, fun hboth => hboth.2 rfl⟩
        · exact ⟨h q d hq, fun hboth => hboth.2 (hshared q d hqp hq hboth.1)⟩
    rw [hcan]
    constructor
    · intro hbind
      refine ⟨fun p' c' heq => ?_, fun _ _ _ heq => ?_, fun _ _ heq => ?_⟩
      · rw [hbinds] at heq
        cases heq
        exact hbind
      · rw [heq] at hbinds
        cases hbinds
      · rw [heq] at hbinds
        cases hbinds
    · exact fun hharmless => hharmless.1 p c hbinds

/-- In a run every online session has its connection throughout, exactly if all events are
harmless. -/
theorem sessions_connected_iff {rng : Shuffler} {auth : AuthTokenService} {redisEnabled : Bool}
    {events : List NetworkEvent}
    (hrun : (Run.exec (step rng) (start auth redisEnabled) events).isSome) :
    (∀ t, Run.Visits (step rng) (start auth redisEnabled) events t → Connected t) ↔
      Run.Along (step rng) Harmless (start auth redisEnabled) events := by
  have hnumbered : Numbered (start auth redisEnabled) :=
    ⟨by simp [start], by simp [start, TcpServer.IsOpen]⟩
  have hconnected : Connected (start auth redisEnabled) := by
    intro p c hp
    simp [start, GameServer.start, SessionManager.OnlineAt] at hp
  exact Run.forall_visits_iff_along (I := Numbered) (fun n ev n' h _ hstep _ => h.step hstep)
    (fun n ev n' h hc hstep => connected_step_iff h hc hstep) hnumbered hconnected hrun

lemma harmless_accept (n : Network) (nowMs : ℤ) (running : Bool) :
    n.Harmless (.accept nowMs running) := ⟨nofun, nofun, nofun⟩

lemma harmless_other (n : Network) (op : { op : ServerOp // op.IsOther }) :
    n.Harmless (.other op) := ⟨nofun, nofun, nofun⟩

lemma harmless_login {n : Network} {c : ℤ} (h : ∀ p, n.CanBind p c) (body : CppString)
    (nowMs : ℤ) (redis : RedisReplies) : n.Harmless (.login c body nowMs redis) := by
  refine ⟨fun p c' hbinds => ?_, nofun, nofun⟩
  obtain ⟨p', -, heq⟩ := Option.map_eq_some_iff.mp hbinds
  cases heq
  exact h p

/-- A player logs in and sends a heartbeat. -/
theorem sessions_connected_after_login :
    Run.Along (step .sorted) Harmless (start {} false)
        [.accept 0 true, .login 1 (GameServer.ticketBody 1) 0 {}, .other ⟨.heartbeat 1 5, rfl⟩] ∧
      ∀ t, Run.Visits (step .sorted) (start {} false)
          [.accept 0 true, .login 1 (GameServer.ticketBody 1) 0 {},
            .other ⟨.heartbeat 1 5, rfl⟩] t →
        Connected t := by
  have halong : Run.Along (step .sorted) Harmless (start {} false)
      [.accept 0 true, .login 1 (GameServer.ticketBody 1) 0 {}, .other ⟨.heartbeat 1 5, rfl⟩] := by
    refine ⟨harmless_accept _ _ _, fun n hn => ⟨?_, fun n' _ => ?_⟩⟩
    · cases hn
      refine harmless_login (fun p => ⟨?_, fun q d _ hq => ?_⟩) _ _ _
      · simp [start, TcpServer.accept, TcpServer.IsOpen]
      · simp [start, GameServer.start, SessionManager.OnlineAt] at hq
    · exact ⟨harmless_other _ _, fun _ _ => trivial⟩
  exact ⟨halong, (sessions_connected_iff (by decide +kernel)).mpr halong⟩

/-- A player logs in and sends nothing: the sweep removes the connection, and the session stays
online. -/
theorem idle_sweep_leaves_session_online :
    ∃ t, Run.exec (step .sorted) (start {} false)
        [.accept 0 true, .login 1 (GameServer.ticketBody 1) 0 {}, .idleSweep 60000 30000] =
          some t ∧
      t.server.sessions.OnlineAt 1 1 ∧ ¬ t.tcp.IsOpen 1 ∧ ¬ Connected t := by
  have hfacts : (Run.exec (step .sorted) (start {} false)
      [.accept 0 true, .login 1 (GameServer.ticketBody 1) 0 {}, .idleSweep 60000 30000]).map
        (fun t => (Connections.onConnectionOne t.server.sessions, t.tcp.connections.lookup 1)) =
      some ((some 1, some (true, 1)), none) := by decide +kernel
  obtain ⟨t, ht, heq⟩ := Option.map_eq_some_iff.mp hfacts
  obtain ⟨hone, hgone⟩ := Prod.mk.inj heq
  have honline := Connections.onlineAt_of_onConnectionOne hone
  have hclosed : ¬ t.tcp.IsOpen 1 := not_not.mpr hgone
  exact ⟨t, ht, honline, hclosed, fun h => hclosed (h 1 1 honline)⟩

end Network

end DdzServer
