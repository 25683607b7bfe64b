import DdzServer.Server.ServerRun

/-!
# Connections and online sessions

A connection of the index should stand for the player whose session is online on it, and for nobody
else. Logins, reconnects and closed connections keep it so, except for a player who is bound to a
connection that another player is using: the index forgets the other player, whose session stays
online.
-/

namespace DdzServer

open UnorderedMap

namespace SessionManager

variable {m m' : SessionManager} {p c : ℤ}

/-- The session of a player is online on a connection. -/
def OnlineAt (m : SessionManager) (p c : ℤ) : Prop :=
  ∃ sess, m.playerToSession.lookup p = some sess ∧ sess.online = true ∧ sess.connectionId = c

/-- The index of the connections is the inverse of the online sessions. -/
def Bijective (m : SessionManager) : Prop :=
  ∀ c p, m.connToPlayer.lookup c = some p ↔ m.OnlineAt p c

lemma onlineAt_of_lookup {sess : Session} (h : m.playerToSession.lookup p = some sess) :
    m.OnlineAt p c ↔ sess.online = true ∧ sess.connectionId = c := by
  simp [OnlineAt, h]

lemma getConnectionIdByPlayer_eq_some : m.getConnectionIdByPlayer p = some c ↔ m.OnlineAt p c := by
  unfold getConnectionIdByPlayer OnlineAt
  cases m.playerToSession.lookup p with
  | none => simp
  | some sess => cases h : sess.online <;> simp [h]

/-- The player is bound to the connection: the session is online on it, the connection where it was
online before is forgotten, and all else is left alone. -/
structure Bound (m m' : SessionManager) (p c : ℤ) : Prop where
  online : ∀ q d, m'.OnlineAt q d ↔ if q = p then d = c else m.OnlineAt q d
  index : ∀ d q, m'.connToPlayer.lookup d = some q ↔
    if d = c then q = p else ¬ m.OnlineAt p d ∧ m.connToPlayer.lookup d = some q

/-- Binding a player keeps the index right exactly if nobody else uses the connection. -/
theorem Bound.bijective_iff (h : Bound m m' p c) (hm : m.Bijective) :
    m'.Bijective ↔ ∀ q, m.connToPlayer.lookup c = some q → q = p := by
  constructor
  · intro hm' q hq
    by_contra hne
    have honline : m'.OnlineAt q c := (h.online q c).mpr (by rw [if_neg hne]; exact (hm c q).mp hq)
    have hindex := (h.index c q).mp ((hm' c q).mpr honline)
    rw [if_pos rfl] at hindex
    exact hne hindex
  · intro hfree d q
    rw [h.index, h.online]
    by_cases hd : d = c
    · subst hd
      by_cases hq : q = p
      · simp [hq]
      · rw [if_pos rfl, if_neg hq, ← hm]
        exact iff_of_false hq fun hlookup => hq (hfree q hlookup)
    · by_cases hq : q = p
      · subst hq
        rw [if_neg hd, if_pos rfl, hm]
        exact iff_of_false (fun hboth => hboth.1 hboth.2) hd
      · rw [if_neg hd, if_neg hq, hm]
        refine ⟨fun hboth => hboth.2, fun honline => ⟨fun hp => hq ?_, honline⟩⟩
        have heq := (hm d q).mpr honline
        rw [(hm d p).mpr hp, Option.some.injEq] at heq
        exact heq.symm

lemma onlineAt_bindLogin (m : SessionManager) (p c nowMs q d : ℤ) :
    (m.bindLogin p c nowMs).1.OnlineAt q d ↔ if q = p then d = c else m.OnlineAt q d := by
  have hlookup := lookup_bindLogin m p c nowMs q
  by_cases hq : q = p
  · rw [if_pos hq] at hlookup ⊢
    rw [onlineAt_of_lookup hlookup]
    exact ⟨fun h => h.2.symm, fun h => ⟨rfl, h.symm⟩⟩
  · rw [if_neg hq] at hlookup ⊢
    simp only [OnlineAt, hlookup]

lemma onlineAt_rebindForReconnect {sess : Session} (h : m.playerToSession.lookup p = some sess)
    (c nowMs q d : ℤ) :
    (m.rebindForReconnect p c nowMs).1.OnlineAt q d ↔
      if q = p then d = c else m.OnlineAt q d := by
  have hlookup := lookup_rebindForReconnect h c nowMs q
  by_cases hq : q = p
  · rw [if_pos hq] at hlookup ⊢
    rw [onlineAt_of_lookup hlookup]
    exact ⟨fun h => h.2.symm, fun h => ⟨rfl, h.symm⟩⟩
  · rw [if_neg hq] at hlookup ⊢
    simp only [OnlineAt, hlookup]

lemma bound_bindLogin (m : SessionManager) (p c nowMs : ℤ) :
    Bound m (m.bindLogin p c nowMs).1 p c := by
  refine ⟨onlineAt_bindLogin m p c nowMs, fun d q => ?_⟩
  rw [lookup_conn_bindLogin]
  split_ifs with hd hold
  · rw [Option.some.injEq, eq_comm]
  · rw [getConnectionIdByPlayer_eq_some] at hold
    simp [hold]
  · rw [getConnectionIdByPlayer_eq_some] at hold
    simp [hold]

/-- A reconnect binds like a login when a session that is offline left no trace in the index, and
no session is online on the connection 0. -/
lemma bound_rebindForReconnect {sess : Session} (h : m.playerToSession.lookup p = some sess)
    (hpos : sess.connectionId ≠ 0)
    (hgone : sess.online = false → m.connToPlayer.lookup sess.connectionId = none) (c nowMs : ℤ) :
    Bound m (m.rebindForReconnect p c nowMs).1 p c := by
  refine ⟨onlineAt_rebindForReconnect h c nowMs, fun d q => ?_⟩
  rw [lookup_conn_rebindForReconnect h, onlineAt_of_lookup h]
  by_cases hd : d = c
  · simp [hd, eq_comm]
  · by_cases hprev : d = sess.connectionId
    · subst hprev
      cases honline : sess.online with
      | false => simp [hd, hgone honline]
      | true => simp [hd, hpos]
    · simp [hd, hprev, Ne.symm hprev]

/-- Closing a connection takes its player offline and changes nobody else. -/
lemma onlineAt_markOffline (hconn : m.connToPlayer.lookup c = some p) (nowMs q d : ℤ) :
    (m.markOfflineByConnection c nowMs).1.OnlineAt q d ↔ q ≠ p ∧ m.OnlineAt q d := by
  cases hsess : m.playerToSession.lookup p with
  | none =>
    have hsame : (m.markOfflineByConnection c nowMs).1.playerToSession = m.playerToSession := by
      simp [markOfflineByConnection, hconn, hsess]
    simp only [OnlineAt, hsame]
    refine ⟨fun h => ⟨fun hq => ?_, h⟩, fun h => h.2⟩
    rw [hq, hsess] at h
    simp at h
  | some sess =>
    have hlookup := lookup_markOfflineByConnection hconn hsess nowMs q
    by_cases hq : q = p
    · rw [if_pos hq] at hlookup
      rw [onlineAt_of_lookup hlookup]
      simp [hq]
    · rw [if_neg hq] at hlookup
      simp only [OnlineAt, hlookup, ne_eq, hq, not_false_eq_true, true_and]

lemma Bijective.markOffline (hm : m.Bijective) (c nowMs : ℤ) :
    (m.markOfflineByConnection c nowMs).1.Bijective := by
  cases hconn : m.connToPlayer.lookup c with
  | none =>
    rw [markOfflineByConnection, hconn]
    exact hm
  | some p =>
    have honline := (hm c p).mp hconn
    intro d q
    rw [lookup_conn_markOfflineByConnection hconn, onlineAt_markOffline hconn, ← hm]
    by_cases hd : d = c
    · subst hd
      rw [if_pos rfl, hconn]
      simp [eq_comm]
    · rw [if_neg hd]
      refine ⟨fun hq => ⟨fun heq => hd ?_, hq⟩, fun hq => hq.2⟩
      subst heq
      obtain ⟨sess, hsess, -, rfl⟩ := honline
      exact (((onlineAt_of_lookup hsess).mp ((hm d q).mp hq)).2).symm

/-! ### Entries of the index -/

lemma OnlineAt.unique {d : ℤ} (hc : m.OnlineAt p c) (hd : m.OnlineAt p d) : d = c := by
  obtain ⟨sess, hsess, -, hconn⟩ := hc
  rw [onlineAt_of_lookup hsess] at hd
  exact hd.2.symm.trans hconn

/-- An entry after a login is the new one, or one of before on which the player was not online. -/
lemma of_lookup_conn_bindLogin {nowMs d q : ℤ}
    (h : (m.bindLogin p c nowMs).1.connToPlayer.lookup d = some q) :
    d = c ∧ q = p ∨ m.connToPlayer.lookup d = some q ∧ ¬ m.OnlineAt p d := by
  rw [lookup_conn_bindLogin] at h
  split_ifs at h with hd hold
  · exact Or.inl ⟨hd, (Option.some.inj h).symm⟩
  · rw [getConnectionIdByPlayer_eq_some] at hold
    exact Or.inr ⟨h, hold⟩

lemma of_lookup_conn_rebindForReconnect {sess : Session}
    (hsess : m.playerToSession.lookup p = some sess)
    (hpositive : ∀ p c, m.OnlineAt p c → 0 < c) {nowMs d q : ℤ}
    (h : (m.rebindForReconnect p c nowMs).1.connToPlayer.lookup d = some q) :
    d = c ∧ q = p ∨ m.connToPlayer.lookup d = some q ∧ ¬ m.OnlineAt p d := by
  rw [lookup_conn_rebindForReconnect hsess] at h
  split_ifs at h with hd hold
  · exact Or.inl ⟨hd, (Option.some.inj h).symm⟩
  · refine Or.inr ⟨h, fun honline => hold ?_⟩
    -- the id 0, which a reconnect would leave in the index, has no session
    have hat := (onlineAt_of_lookup hsess).mp honline
    exact ⟨hat.2.symm, fun _ => (hpositive p d honline).ne'⟩

lemma of_lookup_conn_markOffline {nowMs d q : ℤ}
    (h : (m.markOfflineByConnection c nowMs).1.connToPlayer.lookup d = some q) :
    d ≠ c ∧ m.connToPlayer.lookup d = some q := by
  cases hconn : m.connToPlayer.lookup c with
  | none =>
    rw [markOfflineByConnection, hconn] at h
    refine ⟨fun hd => ?_, h⟩
    rw [← hd, h] at hconn
    cases hconn
  | some p =>
    rw [lookup_conn_markOfflineByConnection hconn] at h
    split_ifs at h with hd
    exact ⟨hd, h⟩

/-- Each entry of the index has its session online, on a connection with a positive id. -/
structure Linked (m : SessionManager) : Prop where
  positive : ∀ p c, m.OnlineAt p c → 0 < c
  online : ∀ c p, m.connToPlayer.lookup c = some p → m.OnlineAt p c

lemma linked_empty : Linked {} := ⟨by simp [OnlineAt], by simp⟩

lemma Linked.bind (h : m.Linked) (hc : 0 < c)
    (honline : ∀ q d, m'.OnlineAt q d ↔ if q = p then d = c else m.OnlineAt q d)
    (hindex : ∀ d q, m'.connToPlayer.lookup d = some q →
      d = c ∧ q = p ∨ m.connToPlayer.lookup d = some q ∧ ¬ m.OnlineAt p d) : m'.Linked := by
  refine ⟨fun q d hq => ?_, fun d q hq => ?_⟩
  · rw [honline] at hq
    split_ifs at hq
    · exact hq ▸ hc
    · exact h.positive q d hq
  · rw [honline]
    rcases hindex d q hq with ⟨rfl, rfl⟩ | ⟨hold, hleft⟩
    · rw [if_pos rfl]
    · have hqp : q ≠ p := by
        rintro rfl
        exact hleft (h.online d q hold)
      rw [if_neg hqp]
      exact h.online d q hold

lemma Linked.bindLogin (h : m.Linked) (hc : 0 < c) (p nowMs : ℤ) :
    (m.bindLogin p c nowMs).1.Linked :=
  h.bind hc (onlineAt_bindLogin m p c nowMs) fun _ _ hq => of_lookup_conn_bindLogin hq

lemma Linked.rebindForReconnect (h : m.Linked) (hc : 0 < c) {sess : Session}
    (hsess : m.playerToSession.lookup p = some sess) (nowMs : ℤ) :
    (m.rebindForReconnect p c nowMs).1.Linked :=
  h.bind hc (onlineAt_rebindForReconnect hsess c nowMs) fun _ _ hq =>
    of_lookup_conn_rebindForReconnect hsess h.positive hq

lemma Linked.markOffline (h : m.Linked) (c nowMs : ℤ) :
    (m.markOfflineByConnection c nowMs).1.Linked := by
  cases hconn : m.connToPlayer.lookup c with
  | none =>
    rw [markOfflineByConnection, hconn]
    exact h
  | some p =>
    refine ⟨fun q d hq => h.positive q d ((onlineAt_markOffline hconn nowMs q d).mp hq).2,
      fun d q hq => ?_⟩
    obtain ⟨hd, hq⟩ := of_lookup_conn_markOffline hq
    refine (onlineAt_markOffline hconn nowMs q d).mpr ⟨fun hqp => hd ?_, h.online d q hq⟩
    exact (h.online c p hconn).unique (hqp ▸ h.online d q hq)

lemma Linked.congr (h : m.Linked) (honline : ∀ q d, m'.OnlineAt q d ↔ m.OnlineAt q d)
    (hindex : m'.connToPlayer = m.connToPlayer) : m'.Linked :=
  ⟨fun q d hq => h.positive q d ((honline q d).mp hq),
    fun d q hq => (honline q d).mpr (h.online d q (hindex ▸ hq))⟩

/-- Closing a connection takes everybody offline whose session is online on it. -/
def ClosesAll (m : SessionManager) : Prop :=
  ∀ c nowMs p d, m.OnlineAt p c → ¬ (m.markOfflineByConnection c nowMs).1.OnlineAt p d

lemma Bijective.closesAll (hm : m.Bijective) : m.ClosesAll := by
  intro c nowMs p d honline hstill
  have hconn := (hm c p).mpr honline
  exact ((onlineAt_markOffline hconn nowMs p d).mp hstill).1 rfl

end SessionManager

/-! ### Runs -/

/-- The server together with the connections that are accepted and not closed. -/
structure Connections where
  server : GameServer
  live : Finset ℤ := ∅
  nextConnectionId : ℤ := 1

/-- The events that bear on sessions. -/
inductive ConnectionEvent where
  | accept
  | login (connectionId : ℤ) (body : CppString) (nowMs : ℤ) (redis : RedisReplies)
  | reconnect (connectionId : ℤ) (body : CppString) (nowMs : ℤ) (redis : RedisReplies)
  | close (connectionId nowMs offlineAtMs : ℤ)

namespace Connections

/-- One event: requests come on live connections; a connection that was accepted can be closed, also
twice. Ids are never used again. -/
def step (s : Connections) : ConnectionEvent → Option Connections
  | .accept =>
    some { s with
      live := insert s.nextConnectionId s.live
      nextConnectionId := s.nextConnectionId + 1 }
  | .login c body nowMs redis =>
    if c ∈ s.live then some { s with server := (s.server.handleLogin c body nowMs redis).1 }
    else none
  | .reconnect c body nowMs redis =>
    if c ∈ s.live then some { s with server := (s.server.handleReconnect c body nowMs redis).1 }
    else none
  | .close c nowMs offlineAtMs =>
    if 0 < c ∧ c < s.nextConnectionId then
      some { s with
        server := s.server.onConnectionClosed c nowMs offlineAtMs
        live := s.live.erase c }
    else none

/-- The player and the connection that an event binds. -/
def binds (s : Connections) : ConnectionEvent → Option (ℤ × ℤ)
  | .accept => none
  | .login c body nowMs _ => (s.server.loginPlayer body nowMs).map fun p => (p, c)
  | .reconnect c body nowMs redis =>
    (s.server.reconnectPlayer body nowMs redis).map fun p => (p, c)
  | .close _ _ _ => none

/-- Nobody is bound to a connection that another player is using. -/
def BindsFree (s : Connections) (ev : ConnectionEvent) : Prop :=
  ∀ p c, s.binds ev = some (p, c) →
    ∀ q, s.server.sessions.connToPlayer.lookup c = some q → q = p

/-- A session is online exactly if its connection is live. -/
structure Tracked (s : Connections) : Prop where
  next : 0 < s.nextConnectionId
  live : ∀ c ∈ s.live, 0 < c ∧ c < s.nextConnectionId
  sessions : ∀ p sess, s.server.sessions.playerToSession.lookup p = some sess →
    0 < sess.connectionId ∧ sess.connectionId < s.nextConnectionId ∧
      (sess.online = true ↔ sess.connectionId ∈ s.live)

variable {s s' : Connections} {ev : ConnectionEvent} {p c : ℤ}

/-- An event that binds a player, as a change of the sessions. -/
lemma bound_of_binds (htracked : Tracked s) (hm : s.server.sessions.Bijective)
    (hstep : step s ev = some s') (hbinds : s.binds ev = some (p, c)) :
    c ∈ s.live ∧ s'.live = s.live ∧ s'.nextConnectionId = s.nextConnectionId ∧
      SessionManager.Bound s.server.sessions s'.server.sessions p c ∧
      ∀ q sess, s'.server.sessions.playerToSession.lookup q = some sess →
        q = p ∧ sess.online = true ∧ sess.connectionId = c ∨
          s.server.sessions.playerToSession.lookup q = some sess := by
  cases ev with
  | accept => cases hbinds
  | login c' body nowMs redis =>
    obtain ⟨p', hp, heq⟩ := Option.map_eq_some_iff.mp hbinds
    cases heq
    simp only [step, (GameServer.handleLogin_of_some c redis hp).2.1] at hstep
    split_ifs at hstep with hlive
    cases hstep
    refine ⟨hlive, rfl, rfl, SessionManager.bound_bindLogin _ p c nowMs, fun q sess hq => ?_⟩
    simp only [GameServer.loggedIn, SessionManager.lookup_bindLogin] at hq
    split_ifs at hq with hqp
    · cases hq
      exact Or.inl ⟨hqp, rfl, rfl⟩
    · exact Or.inr hq
  | reconnect c' body nowMs redis =>
    obtain ⟨p', hp, heq⟩ := Option.map_eq_some_iff.mp hbinds
    cases heq
    obtain ⟨sess₀, hsess, hserver, -⟩ :=
      GameServer.handleReconnect_of_some c hp
    simp only [step, hserver] at hstep
    split_ifs at hstep with hlive
    cases hstep
    obtain ⟨hpos, -, honline⟩ := htracked.sessions p sess₀ hsess
    have hgone : sess₀.online = false →
        s.server.sessions.connToPlayer.lookup sess₀.connectionId = none := by
      intro hoff
      rw [Option.eq_none_iff_forall_ne_some]
      intro q hq
      -- somebody online there would make the connection live
      obtain ⟨sess₁, hsess₁, honline₁, hconn₁⟩ := (hm _ q).mp hq
      have hmem := (htracked.sessions q sess₁ hsess₁).2.2.mp honline₁
      rw [hconn₁] at hmem
      rw [honline.mpr hmem] at hoff
      cases hoff
    refine ⟨hlive, rfl, rfl,
      SessionManager.bound_rebindForReconnect hsess hpos.ne' hgone c nowMs, fun q sess hq => ?_⟩
    simp only [GameServer.reconnected, SessionManager.lookup_rebindForReconnect hsess] at hq
    split_ifs at hq with hqp
    · cases hq
      exact Or.inl ⟨hqp, rfl, rfl⟩
    · exact Or.inr hq
  | close c' nowMs offlineAtMs => cases hbinds

lemma sessions_onConnectionClosed (s : GameServer) (c nowMs offlineAtMs : ℤ) :
    (s.onConnectionClosed c nowMs offlineAtMs).sessions =
      (s.sessions.markOfflineByConnection c nowMs).1 := by
  unfold GameServer.onConnectionClosed SessionManager.getPlayerIdByConnection
  cases hconn : s.sessions.connToPlayer.lookup c with
  | none => simp [SessionManager.markOfflineByConnection, hconn]
  | some p => rfl

/-- What an event is when it binds nobody. -/
lemma step_of_binds_none (hstep : step s ev = some s') (hbinds : s.binds ev = none) :
    s' = s ∨
      s' = { s with
        live := insert s.nextConnectionId s.live
        nextConnectionId := s.nextConnectionId + 1 } ∨
      ∃ c nowMs, s'.server.sessions = (s.server.sessions.markOfflineByConnection c nowMs).1 ∧
        s'.live = s.live.erase c ∧ s'.nextConnectionId = s.nextConnectionId := by
  cases ev with
  | accept =>
    cases hstep
    exact Or.inr (Or.inl rfl)
  | login c body nowMs redis =>
    have hnone := Option.map_eq_none_iff.mp hbinds
    simp only [step, (GameServer.handleLogin_of_none c redis hnone).1] at hstep
    split_ifs at hstep
    cases hstep
    exact Or.inl rfl
  | reconnect c body nowMs redis =>
    have hnone := Option.map_eq_none_iff.mp hbinds
    simp only [step, (GameServer.handleReconnect_of_none c hnone).1] at hstep
    split_ifs at hstep
    cases hstep
    exact Or.inl rfl
  | close c nowMs offlineAtMs =>
    simp only [step] at hstep
    split_ifs at hstep
    cases hstep
    exact Or.inr (Or.inr ⟨c, nowMs, sessions_onConnectionClosed _ c nowMs offlineAtMs, rfl, rfl⟩)

lemma Tracked.accept (h : Tracked s) :
    Tracked { s with
      live := insert s.nextConnectionId s.live
      nextConnectionId := s.nextConnectionId + 1 } := by
  have hnext := h.next
  refine ⟨by dsimp only; omega, fun c hc => ?_, fun p sess hsess => ?_⟩
  · dsimp only at hc ⊢
    rcases Finset.mem_insert.mp hc with rfl | hc
    · omega
    · have := h.live c hc
      omega
  · obtain ⟨hpos, hlt, honline⟩ := h.sessions p sess hsess
    refine ⟨hpos, by dsimp only; omega, ?_⟩
    rw [honline, Finset.mem_insert]
    exact ⟨Or.inr, fun hmem => hmem.resolve_left (by omega)⟩

lemma Tracked.close (h : Tracked s) (hm : s.server.sessions.Bijective) {c nowMs : ℤ}
    (hsessions : s'.server.sessions = (s.server.sessions.markOfflineByConnection c nowMs).1)
    (hlive : s'.live = s.live.erase c) (hnext : s'.nextConnectionId = s.nextConnectionId) :
    Tracked s' := by
  refine ⟨hnext ▸ h.next, fun d hd => ?_, fun q sess hq => ?_⟩
  · rw [hlive] at hd
    exact hnext ▸ h.live d (Finset.mem_of_mem_erase hd)
  · rw [hsessions] at hq
    rw [hnext, hlive, Finset.mem_erase]
    cases hconn : s.server.sessions.connToPlayer.lookup c with
    | none =>
      rw [SessionManager.markOfflineByConnection, hconn] at hq
      obtain ⟨hpos, hlt, honline⟩ := h.sessions q sess hq
      refine ⟨hpos, hlt, fun hon => ⟨fun heq => ?_, honline.mp hon⟩, fun hmem => honline.mpr hmem.2⟩
      rw [(hm c q).mpr ⟨sess, hq, hon, heq⟩] at hconn
      cases hconn
    | some p =>
      obtain ⟨sess₀, hsess₀, -, hat⟩ := (hm c p).mp hconn
      rw [SessionManager.lookup_markOfflineByConnection hconn hsess₀] at hq
      split_ifs at hq with hqp
      · cases hq
        obtain ⟨hpos, hlt, -⟩ := h.sessions p sess₀ hsess₀
        exact ⟨hpos, hlt, by simp [hat]⟩
      · obtain ⟨hpos, hlt, honline⟩ := h.sessions q sess hq
        refine ⟨hpos, hlt, fun hon => ⟨fun heq => ?_, honline.mp hon⟩,
          fun hmem => honline.mpr hmem.2⟩
        rw [(hm c q).mpr ⟨sess, hq, hon, heq⟩, Option.some.injEq] at hconn
        exact hqp hconn

lemma Tracked.step (h : Tracked s) (hm : s.server.sessions.Bijective)
    (hstep : Connections.step s ev = some s') : Tracked s' := by
  cases hbinds : s.binds ev with
  | none =>
    rcases step_of_binds_none hstep hbinds with rfl | rfl | ⟨c, nowMs, hsessions, hlive, hnext⟩
    · exact h
    · exact h.accept
    · exact h.close hm hsessions hlive hnext
  | some pc =>
    obtain ⟨p, c⟩ := pc
    obtain ⟨hc, hlive, hnext, -, hsessions⟩ := bound_of_binds h hm hstep hbinds
    refine ⟨hnext ▸ h.next, fun d hd => ?_, fun q sess hq => ?_⟩
    · rw [hlive] at hd
      exact hnext ▸ h.live d hd
    · rw [hlive, hnext]
      rcases hsessions q sess hq with ⟨-, hon, rfl⟩ | hold
      · exact ⟨(h.live _ hc).1, (h.live _ hc).2, by simp [hon, hc]⟩
      · exact h.sessions q sess hold

/-- One event keeps the index right exactly if it binds nobody to a connection in use. -/
lemma bijective_step_iff (h : Tracked s) (hm : s.server.sessions.Bijective)
    (hstep : step s ev = some s') : s'.server.sessions.Bijective ↔ s.BindsFree ev := by
  cases hbinds : s.binds ev with
  | none =>
    refine iff_of_true ?_ fun p c hpc => by rw [hbinds] at hpc; cases hpc
    rcases step_of_binds_none hstep hbinds with rfl | rfl | ⟨c, nowMs, hsessions, -, -⟩
    · exact hm
    · exact hm
    · exact hsessions ▸ hm.markOffline c nowMs
  | some pc =>
    obtain ⟨p, c⟩ := pc
    obtain ⟨-, -, -, hbound, -⟩ := bound_of_binds h hm hstep hbinds
    rw [hbound.bijective_iff hm, BindsFree, hbinds]
    constructor
    · rintro hfree p' c' heq
      cases heq
      exact hfree
    · exact fun hfree => hfree p c rfl

/-- The server before its first connection. -/
def start (auth : AuthTokenService) (redisEnabled : Bool) : Connections where
  server := .start auth redisEnabled

/-- In a run the index is the inverse of the online sessions throughout, and closing a connection
takes all its players offline, exactly if no event binds a player to a connection that another
player is using. -/
theorem connections_bijective_iff {auth : AuthTokenService} {redisEnabled : Bool}
    {events : List ConnectionEvent}
    (hrun : (Run.exec step (start auth redisEnabled) events).isSome) :
    (∀ t, Run.Visits step (start auth redisEnabled) events t →
        t.server.sessions.Bijective ∧ t.server.sessions.ClosesAll) ↔
      Run.Along step BindsFree (start auth redisEnabled) events := by
  have hstart : Tracked (start auth redisEnabled) :=
    ⟨by simp [start], by simp [start], by simp [start, GameServer.start]⟩
  have hbijective : (start auth redisEnabled).server.sessions.Bijective := by
    intro c p
    simp [start, GameServer.start, SessionManager.OnlineAt]
  rw [← Run.forall_visits_iff_along (I := Tracked) (P := fun t => t.server.sessions.Bijective)
    (fun s ev s' h hm hstep _ => h.step hm hstep)
    (fun s ev s' h hm hstep => bijective_step_iff h hm hstep) hstart hbijective hrun]
  exact ⟨fun h t ht => (h t ht).1, fun h t ht => ⟨h t ht, (h t ht).closesAll⟩⟩

theorem connections_bijective_after_login :
    Run.Along step BindsFree (start {} false)
        [.accept, .login 1 (GameServer.ticketBody 1) 0 {}, .close 1 5 5] ∧
      ∀ t, Run.Visits step (start {} false)
          [.accept, .login 1 (GameServer.ticketBody 1) 0 {}, .close 1 5 5] t →
        t.server.sessions.Bijective ∧ t.server.sessions.ClosesAll := by
  have halong : Run.Along step BindsFree (start {} false)
      [.accept, .login 1 (GameServer.ticketBody 1) 0 {}, .close 1 5 5] := by
    refine ⟨fun p c h => (by cases h), fun s hs => ⟨fun p c _ q hq => ?_, fun s' _ => ?_⟩⟩
    · cases hs
      simp [start, GameServer.start] at hq
    · exact ⟨fun p c h => (by cases h), fun _ _ => trivial⟩
  exact ⟨halong, (connections_bijective_iff (by decide +kernel)).mpr halong⟩

/-- What the index and the session of player 1 say about connection 1. -/
def onConnectionOne (m : SessionManager) : Option ℤ × Option (Bool × ℤ) :=
  (m.connToPlayer.lookup 1,
    (m.playerToSession.lookup 1).map fun sess => (sess.online, sess.connectionId))

lemma onlineAt_of_onConnectionOne {m : SessionManager} {p : Option ℤ}
    (h : onConnectionOne m = (p, some (true, 1))) : m.OnlineAt 1 1 := by
  obtain ⟨sess, hsess, heq⟩ := Option.map_eq_some_iff.mp (Prod.mk.inj h).2
  exact ⟨sess, hsess, (Prod.mk.inj heq).1, (Prod.mk.inj heq).2⟩

/-- Two players log in on one connection: the first one stays online on it, and closing it does not
take the first one offline. -/
theorem two_logins_on_one_connection :
    ∃ t, Run.exec step (start {} false)
        [.accept, .login 1 (GameServer.ticketBody 1) 0 {},
          .login 1 (GameServer.ticketBody 2) 0 {}] = some t ∧
      t.server.sessions.connToPlayer.lookup 1 = some 2 ∧ t.server.sessions.OnlineAt 1 1 ∧
      ¬ t.server.sessions.Bijective ∧
      (t.server.onConnectionClosed 1 5 5).sessions.OnlineAt 1 1 := by
  have hfacts : (Run.exec step (start {} false)
      [.accept, .login 1 (GameServer.ticketBody 1) 0 {},
        .login 1 (GameServer.ticketBody 2) 0 {}]).map (fun t =>
          (onConnectionOne t.server.sessions,
            onConnectionOne (t.server.onConnectionClosed 1 5 5).sessions)) =
      some ((some 2, some (true, 1)), (none, some (true, 1))) := by decide +kernel
  obtain ⟨t, ht, heq⟩ := Option.map_eq_some_iff.mp hfacts
  obtain ⟨hopen, hclosed⟩ := Prod.mk.inj heq
  have hindex : t.server.sessions.connToPlayer.lookup 1 = some 2 := (Prod.mk.inj hopen).1
  have honline := onlineAt_of_onConnectionOne hopen
  refine ⟨t, ht, hindex, honline, fun hm => ?_, onlineAt_of_onConnectionOne hclosed⟩
  rw [(hm 1 1).mpr honline] at hindex
  cases hindex

end Connections

end DdzServer
