import DdzServer.Network.LiveSessions
import DdzServer.Server.PlayerAction

/-!
# Connections and the players they have proved

A connection stands for a player only when a ticket or token of that player was accepted on it, and
one connection at most stands for each player, namely the one on which the session is online.
-/

namespace DdzServer

open UnorderedMap

namespace GameServer

variable {rng : Shuffler} {s s' : GameServer} {nowMs : ℤ} {body : CppString}
  {redis : RedisReplies}

/-- The player whose session token a reconnect carries, when the token is valid. -/
def tokenPlayer (s : GameServer) (body : CppString) (nowMs : ℤ) : Option ℤ :=
  match parseReconnectRequest body with
  | none     => none
  | some req =>
    let verify := s.auth.verify req.token nowMs AuthTokenService.purposeSession
    if verify.ok then some verify.playerId else none

lemma tokenPlayer_of_reconnectPlayer {playerId : ℤ}
    (h : s.reconnectPlayer body nowMs redis = some playerId) :
    s.tokenPlayer body nowMs = some playerId := by
  unfold reconnectPlayer at h
  cases hparse : parseReconnectRequest body with
  | none => simp [hparse] at h
  | some req =>
    simp only [hparse] at h
    cases hcheck : s.checkSession req.playerId req.token req.roomId nowMs redis with
    | error e => simp [hcheck] at h
    | ok session =>
      simp only [hcheck, Option.some.injEq] at h
      simp only [checkSession] at hcheck
      split_ifs at hcheck with hexpired hok hplayer
      simp only [tokenPlayer, hparse]
      rw [if_pos hok, not_not.mp hplayer, h]

end GameServer

namespace Network

variable {rng : Shuffler} {n n' : Network} {ev : NetworkEvent} {p c : ℤ}

/-- The connection of a request and the player whom its ticket or token proves. -/
def proves (n : Network) : NetworkEvent → Option (ℤ × ℤ)
  | .login c body nowMs _     => (n.server.loginPlayer body nowMs).map fun p => (c, p)
  | .reconnect c body nowMs _ => (n.server.tokenPlayer body nowMs).map fun p => (c, p)
  | _ => none

/-- A player is bound only to a connection that has just proved the player. -/
lemma proves_of_binds (h : n.binds ev = some (p, c)) : n.proves ev = some (c, p) := by
  cases ev with
  | login c' body nowMs redis =>
    obtain ⟨p', hp, heq⟩ := Option.map_eq_some_iff.mp h
    cases heq
    simp [proves, hp]
  | reconnect c' body nowMs redis =>
    obtain ⟨p', hp, heq⟩ := Option.map_eq_some_iff.mp h
    cases heq
    simp [proves, GameServer.tokenPlayer_of_reconnectPlayer hp]
  | accept => cases h
  | bytes => cases h
  | other => cases h
  | closed => cases h
  | idleSweep => cases h

/-- The index of the connections is right: each entry was proved and has its session online. -/
structure Proven (n : Network) (shown : ℤ × ℤ → Prop) : Prop where
  linked : n.server.sessions.Linked
  shown : ∀ c p, n.server.sessions.connToPlayer.lookup c = some p → shown (c, p)

/-- The index stays linked to online sessions, whatever happens on the network. -/
lemma linked_step (h : n.server.sessions.Linked) (hstep : step rng n ev = some n') :
    n'.server.sessions.Linked := by
  cases ev with
  | accept nowMs running =>
    cases hstep
    exact h
  | bytes c nowMs =>
    cases hstep
    exact h
  | login c body nowMs redis =>
    simp only [step] at hstep
    split_ifs at hstep with hc
    cases hstep
    rw [sessions_onLogin]
    exact GameServer.linked_apply rng h
      (show GameServer.BindsPositive (.login c body nowMs redis) from hc.1)
  | reconnect c body nowMs redis =>
    simp only [step] at hstep
    split_ifs at hstep with hc
    cases hstep
    rw [sessions_onReconnect]
    exact GameServer.linked_apply rng h
      (show GameServer.BindsPositive (.reconnect c body nowMs redis) from hc.1)
  | other op =>
    cases hstep
    exact h.congr (GameServer.onlineAt_other op.2) (GameServer.connToPlayer_other op.2)
  | closed c nowMs offlineAtMs =>
    simp only [step] at hstep
    split_ifs at hstep
    cases hstep
    simp only [onClosed, Connections.sessions_onConnectionClosed]
    exact h.markOffline c nowMs
  | idleSweep nowMs heartbeatTimeoutMs =>
    cases hstep
    exact h

/-- A new entry of the index is that of the player whom the event binds. -/
lemma lookup_of_step (h : n.server.sessions.Linked) (hstep : step rng n ev = some n') {d q : ℤ}
    (hq : n'.server.sessions.connToPlayer.lookup d = some q) :
    n.binds ev = some (q, d) ∨ n.server.sessions.connToPlayer.lookup d = some q := by
  cases ev with
  | accept nowMs running =>
    cases hstep
    exact Or.inr hq
  | bytes c nowMs =>
    cases hstep
    exact Or.inr hq
  | login c body nowMs redis =>
    simp only [step] at hstep
    split_ifs at hstep
    cases hstep
    rw [sessions_onLogin] at hq
    cases hp : n.server.loginPlayer body nowMs with
    | none =>
      rw [(GameServer.handleLogin_of_none c redis hp).1] at hq
      exact Or.inr hq
    | some p =>
      rw [(GameServer.handleLogin_of_some c redis hp).2.1] at hq
      rcases SessionManager.of_lookup_conn_bindLogin hq with ⟨rfl, rfl⟩ | ⟨hold, -⟩
      · exact Or.inl (by simp [binds, hp])
      · exact Or.inr hold
  | reconnect c body nowMs redis =>
    simp only [step] at hstep
    split_ifs at hstep
    cases hstep
    rw [sessions_onReconnect] at hq
    cases hp : n.server.reconnectPlayer body nowMs redis with
    | none =>
      rw [(GameServer.handleReconnect_of_none c hp).1] at hq
      exact Or.inr hq
    | some p =>
      obtain ⟨sess, hsess, hserver, -⟩ := GameServer.handleReconnect_of_some c hp
      rw [hserver] at hq
      rcases SessionManager.of_lookup_conn_rebindForReconnect hsess h.positive hq with
        ⟨rfl, rfl⟩ | ⟨hold, -⟩
      · exact Or.inl (by simp [binds, hp])
      · exact Or.inr hold
  | other op =>
    cases hstep
    rw [GameServer.connToPlayer_other op.2] at hq
    exact Or.inr hq
  | closed c nowMs offlineAtMs =>
    simp only [step] at hstep
    split_ifs at hstep
    cases hstep
    simp only [onClosed, Connections.sessions_onConnectionClosed] at hq
    exact Or.inr (SessionManager.of_lookup_conn_markOffline hq).2
  | idleSweep nowMs heartbeatTimeoutMs =>
    cases hstep
    exact Or.inr hq

lemma Proven.step {shown : ℤ × ℤ → Prop} (h : Proven n shown)
    (hstep : Network.step rng n ev = some n') :
    Proven n' fun x => shown x ∨ n.proves ev = some x := by
  refine ⟨linked_step h.linked hstep, fun c p hp => ?_⟩
  rcases lookup_of_step h.linked hstep hp with hbinds | hold
  · exact Or.inr (proves_of_binds hbinds)
  · exact Or.inl (h.shown c p hold)

/-- In every state of a run, a connection that stands for a player has proved this player, and no
other connection stands for the player. What the dispatch of an action does, it does for such a
player. -/
theorem connection_proved {rng : Shuffler} {auth : AuthTokenService} {redisEnabled : Bool}
    {events : List NetworkEvent} {n : Network}
    (hrun : Run.exec (step rng) (start auth redisEnabled) events = some n) :
    (∀ c p, n.server.sessions.getPlayerIdByConnection c = some p →
      Run.Shown (step rng) proves (start auth redisEnabled) events (c, p) ∧
        ∀ c', n.server.sessions.getPlayerIdByConnection c' = some p → c' = c) ∧
    ∀ c body nowMs,
      (n.server.handlePlayerAction rng c body nowMs).1 = n.server ∨
        ∃ roomId p req, ∃ settled : List ServerOp,
          Run.Shown (step rng) proves (start auth redisEnabled) events (c, p) ∧
          (∀ c', n.server.sessions.getPlayerIdByConnection c' = some p ↔ c' = c) ∧
          (∀ op ∈ settled, ∃ d, op = .settle d nowMs) ∧
          (n.server.handlePlayerAction rng c body nowMs).1 =
            settled.foldl (GameServer.apply rng)
              (n.server.apply rng (.inRoom ⟨.applyPlayerAction roomId p req, rfl⟩)) := by
  have hstart : Proven (start auth redisEnabled) fun _ => False :=
    ⟨SessionManager.linked_empty, by simp [start, GameServer.start]⟩
  have hproven := Run.invariant_shown (fun _ _ _ _ h hstep => Proven.step h hstep) hstart hrun
  have hresolves : ∀ c p, n.server.sessions.getPlayerIdByConnection c = some p →
      Run.Shown (step rng) proves (start auth redisEnabled) events (c, p) ∧
        ∀ c', n.server.sessions.getPlayerIdByConnection c' = some p → c' = c := fun c p hp =>
    ⟨hproven.shown c p hp, fun c' hc' =>
      (hproven.linked.online c p hp).unique (hproven.linked.online c' p hc')⟩
  refine ⟨hresolves, fun c body nowMs => ?_⟩
  cases haction : n.server.requestedAction c body with
  | none => exact Or.inl (GameServer.handlePlayerAction_of_none haction)
  | some action =>
    obtain ⟨roomId, p, req⟩ := action
    obtain ⟨hp, settled, hsettled, heq⟩ :=
      GameServer.handlePlayerAction_of_some rng nowMs haction
    obtain ⟨hshown, hunique⟩ := hresolves c p hp
    exact Or.inr ⟨roomId, p, req, settled, hshown,
      fun c' => ⟨hunique c', fun hc => hc ▸ hp⟩, hsettled, heq⟩

/-- Player 1 logs in on a connection, and once more on another. -/
def loggedInTwice : List NetworkEvent :=
  [.accept 0 true, .login 1 (GameServer.ticketBody 1) 0 {}, .accept 5 true,
    .login 2 (GameServer.ticketBody 1) 5 {}]

/-- The second connection has proved the player, and the first one stands for nobody. -/
theorem connection_proved_after_rebinding :
    ∃ n, Run.exec (step .sorted) (start {} false) loggedInTwice = some n ∧
      n.server.sessions.getPlayerIdByConnection 2 = some 1 ∧
      Run.Shown (step .sorted) proves (start {} false) loggedInTwice (2, 1) ∧
      n.server.sessions.getPlayerIdByConnection 1 ≠ some 1 := by
  have hfacts : (Run.exec (step .sorted) (start {} false) loggedInTwice).map
      (fun n => n.server.sessions.getPlayerIdByConnection 2) = some (some 1) := by
    decide +kernel
  obtain ⟨n, hrun, hp⟩ := Option.map_eq_some_iff.mp hfacts
  obtain ⟨hshown, hunique⟩ := (connection_proved hrun).1 2 1 hp
  exact ⟨n, hrun, hp, hshown, fun hfirst => absurd (hunique 1 hfirst) (by decide)⟩

end Network

end DdzServer
