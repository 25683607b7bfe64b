import DdzServer.Network.LiveSessions
import DdzServer.Server.Agreement

/-!
# The queue and the states of the players

A player should wait in a queue exactly if his state says so. All handlers keep the two together but
those that bind a player to a connection: a login or a reconnect sets the state and leaves the
queue alone. It can also take the connection of another player, who then waits without one.
-/

namespace DdzServer

open UnorderedMap

namespace GameServer

variable {rng : Shuffler} {s s' : GameServer} {op : ServerOp}

/-- The players in the queues. -/
def queued (s : GameServer) : List ℤ :=
  (s.matching.queueThree ++ s.matching.queueFour).map MatchPlayer.playerId

/-- The players in the queues are those in the state `Matching`. -/
def QueueMatches (s : GameServer) : Prop := ∀ p, p ∈ s.queued ↔ s.players.getState p = .matching

/-- The player's session is online. -/
def IsOnline (s : GameServer) (p : ℤ) : Prop := ∃ c, s.sessions.OnlineAt p c

/-- Some connection stands for the player. -/
def IsConnected (s : GameServer) (p : ℤ) : Prop :=
  ∃ c, s.sessions.getPlayerIdByConnection c = some p

/-- Every player in the queues has a connection on which he can be heard. -/
def QueueConnected (s : GameServer) : Prop := ∀ p ∈ s.queued, s.IsConnected p

/-- What a player in a queue can rely on: he is online, has a connection, can cancel on it, and
nobody who is offline enters a room. -/
structure QueueSafe (rng : Shuffler) (s : GameServer) : Prop where
  online : ∀ p ∈ s.queued, s.IsOnline p
  connected : s.QueueConnected
  cancels : ∀ c p, s.sessions.getPlayerIdByConnection c = some p → p ∈ s.queued →
    (s.handleCancelMatch c).2.code = .ok
  rooms : ∀ op p r, (s.apply rng op).rooms.playerToRoom.lookup p = some r →
    s.rooms.playerToRoom.lookup p = some r ∨ s.IsOnline p

/-- The connections that a login of `p` on `c` takes from their players: `c` itself, and the one on
which `p` was online. -/
def TakenByLogin (s : GameServer) (p c d : ℤ) : Prop :=
  d = c ∨ s.sessions.getConnectionIdByPlayer p = some d

/-- A reconnect takes the connection of the session of `p` also when that session is offline. -/
def TakenByReconnect (s : GameServer) (p c d : ℤ) : Prop :=
  d = c ∨ ∃ sess, s.sessions.getSessionByPlayer p = some sess ∧ sess.connectionId = d

/-- Neither `p` nor anybody whose connection is taken is in a queue. -/
def SparesQueued (s : GameServer) (p : ℤ) (taken : ℤ → Prop) : Prop :=
  p ∉ s.queued ∧
    ∀ d q, taken d → s.sessions.getPlayerIdByConnection d = some q → q ∉ s.queued

/-- No player in a queue is bound to a connection, and none loses his connection to another. -/
def BindsUnqueued (s : GameServer) : ServerOp → Prop
  | .login c body nowMs _ =>
    ∀ p, s.loginPlayer body nowMs = some p → s.SparesQueued p (s.TakenByLogin p c)
  | .reconnect c body nowMs redis =>
    ∀ p, s.reconnectPlayer body nowMs redis = some p → s.SparesQueued p (s.TakenByReconnect p c)
  | _ => True

/-- What holds in every state, whether or not the queue is right. -/
structure QueueInvariant (s : GameServer) : Prop where
  coherent : s.roster.Coherent
  kept : s.matching.WellKept
  linked : s.sessions.Linked

lemma QueueInvariant.apply (h : s.QueueInvariant) (hop : BindsPositive op) :
    (s.apply rng op).QueueInvariant := by
  obtain ⟨hsteps, hkept⟩ := refines_apply rng h.coherent h.kept op
  exact ⟨h.coherent.steps hsteps, hkept, linked_apply rng h.linked hop⟩

lemma QueueInvariant.queued_eq (h : s.QueueInvariant) : s.queued = s.matching.waiting := by
  rw [queued, h.kept.queueFour, List.append_nil]
  rfl

/-! ### Queue and state -/

lemma queueMatches_iff (h : s.QueueInvariant) :
    s.QueueMatches ↔ ∀ p, p ∈ s.matching.waiting ↔ s.players.getState p = .matching := by
  rw [QueueMatches, h.queued_eq]

/-- A handler that sets the state of one player to another one and leaves the queue alone. -/
lemma queueMatches_forced (h : s.QueueInvariant) (h' : s'.QueueInvariant) (hm : s.QueueMatches)
    {p : ℤ} (next : PlayerState) (hnext : next ≠ .matching)
    (hmatching : s'.matching = s.matching)
    (hstate : ∀ q, s'.players.getState q = if q = p then next else s.players.getState q) :
    s'.QueueMatches ↔ p ∉ s.queued := by
  rw [queueMatches_iff h', hmatching, h.queued_eq]
  rw [queueMatches_iff h] at hm
  constructor
  · intro hm' hp
    have hstate' := (hm' p).mp hp
    rw [hstate, if_pos rfl] at hstate'
    exact hnext hstate'
  · intro hp q
    rw [hstate]
    split_ifs with hq
    · subst hq
      exact iff_of_false hp hnext
    · exact hm q

/-- Players in the queues keep their connections exactly if none of these is taken. -/
lemma queueConnected_forced (h : s.QueueInvariant) (hc : s.QueueConnected) {p : ℤ}
    (hp : p ∉ s.queued) {taken : ℤ → Prop} (hmatching : s'.matching = s.matching)
    (hindex : ∀ d q, q ≠ p → (s'.sessions.connToPlayer.lookup d = some q ↔
      ¬ taken d ∧ s.sessions.connToPlayer.lookup d = some q)) :
    s'.QueueConnected ↔
      ∀ d q, taken d → s.sessions.getPlayerIdByConnection d = some q → q ∉ s.queued := by
  have hqueued : s'.queued = s.queued := by rw [queued, hmatching, queued]
  rw [QueueConnected, hqueued]
  constructor
  · intro hc' d q htaken hd hq
    obtain ⟨d', hd'⟩ := hc' q hq
    obtain ⟨hfree, hbefore⟩ := (hindex d' q (by rintro rfl; exact hp hq)).mp hd'
    -- a player in the index is there with one connection
    have hsame : d' = d := (h.linked.online d q hd).unique (h.linked.online d' q hbefore)
    exact hfree (hsame ▸ htaken)
  · intro hspares q hq
    obtain ⟨d, hd⟩ := hc q hq
    refine ⟨d, (hindex d q (by rintro rfl; exact hp hq)).mpr ⟨fun htaken => ?_, hd⟩⟩
    exact hspares d q htaken hd hq

lemma queue_login (h : s.QueueInvariant) (h' : (s.apply rng op).QueueInvariant)
    (hm : s.QueueMatches) (hconn : s.QueueConnected) {c nowMs : ℤ} {body : CppString}
    {redis : RedisReplies} (hop : op = .login c body nowMs redis) :
    (s.apply rng op).QueueMatches ∧ (s.apply rng op).QueueConnected ↔ s.BindsUnqueued op := by
  subst hop
  rw [apply] at h' ⊢
  cases hp : s.loginPlayer body nowMs with
  | none =>
    rw [(handleLogin_of_none c redis hp).1]
    exact iff_of_true ⟨hm, hconn⟩ fun p hp' => by
      rw [hp] at hp'
      cases hp'
  | some p =>
    rw [(handleLogin_of_some c redis hp).2.1] at h' ⊢
    have hforced := queueMatches_forced h h' hm (p := p)
      (if 0 < s.sessionRoomId p then .inRoom else .lobby) (by split_ifs <;> simp) rfl
      fun q => by
        simp only [loggedIn, PlayerManager.getState_forceState, PlayerManager.getState_upsertPlayer]
    have hindex : ∀ d q, q ≠ p →
        ((s.sessions.bindLogin p c nowMs).1.connToPlayer.lookup d = some q ↔
          ¬ s.TakenByLogin p c d ∧ s.sessions.connToPlayer.lookup d = some q) := by
      intro d q hq
      rw [SessionManager.lookup_conn_bindLogin, TakenByLogin]
      split_ifs with hd hold
      · simp [hd, Ne.symm hq]
      · simp [hold]
      · simp [hd, hold]
    rw [hforced]
    simp only [BindsUnqueued, hp, Option.some.injEq, forall_eq', SparesQueued]
    exact and_congr_right fun hunqueued => queueConnected_forced h hconn hunqueued rfl hindex

lemma queue_reconnect (h : s.QueueInvariant) (h' : (s.apply rng op).QueueInvariant)
    (hm : s.QueueMatches) (hconn : s.QueueConnected) {c nowMs : ℤ} {body : CppString}
    {redis : RedisReplies} (hop : op = .reconnect c body nowMs redis) :
    (s.apply rng op).QueueMatches ∧ (s.apply rng op).QueueConnected ↔ s.BindsUnqueued op := by
  subst hop
  rw [apply] at h' ⊢
  cases hp : s.reconnectPlayer body nowMs redis with
  | none =>
    rw [(handleReconnect_of_none c hp).1]
    exact iff_of_true ⟨hm, hconn⟩ fun p hp' => by
      rw [hp] at hp'
      cases hp'
  | some p =>
    obtain ⟨session, hsession, hserver, -⟩ := handleReconnect_of_some c hp
    rw [hserver] at h' ⊢
    have hforced := queueMatches_forced h h' hm (p := p)
      (if 0 < session.roomId then .inRoom else .lobby) (by split_ifs <;> simp) rfl
      fun q => by simp only [reconnected, PlayerManager.getState_forceState]
    have hget : s.sessions.getSessionByPlayer p = some session := hsession
    have hindex : ∀ d q, q ≠ p →
        ((s.sessions.rebindForReconnect p c nowMs).1.connToPlayer.lookup d = some q ↔
          ¬ s.TakenByReconnect p c d ∧ s.sessions.connToPlayer.lookup d = some q) := by
      intro d q hq
      rw [SessionManager.lookup_conn_rebindForReconnect hsession, TakenByReconnect]
      simp only [hget, Option.some.injEq, exists_eq_left']
      split_ifs with hd hold
      · simp [hd, Ne.symm hq]
      · simp [hold.1]
      · refine ⟨fun hlookup => ⟨?_, hlookup⟩, fun hboth => hboth.2⟩
        -- no entry of the index is for the id 0, which a reconnect would leave there
        have hpos := h.linked.positive q d (h.linked.online d q hlookup)
        rintro (heq | heq)
        · exact hd heq
        · exact hold ⟨heq.symm, fun _ => hpos.ne'⟩
    rw [hforced]
    simp only [BindsUnqueued, hp, Option.some.injEq, forall_eq', SparesQueued]
    exact and_congr_right fun hunqueued => queueConnected_forced h hconn hunqueued rfl hindex

/-- A player of the lobby enters the queue and the state together. -/
lemma queueMatches_waitingWith (hm : ∀ p, p ∈ s.matching.waiting ↔ s.players.getState p = .matching)
    (player : PlayerData) (playerId nowMs p : ℤ) :
    p ∈ (s.waitingWith player playerId nowMs).matching.waiting ↔
      (s.waitingWith player playerId nowMs).players.getState p = .matching := by
  simp only [waitingWith, MatchManager.waiting_joined, PlayerManager.getState_write,
    List.mem_append, List.mem_singleton, entryOf]
  split_ifs with hp
  · simp [hp]
  · simp [hp, hm]

lemma queueMatches_matchedUp (hnd : s.matching.waiting.Nodup)
    (hm : ∀ p, p ∈ s.matching.waiting ↔ s.players.getState p = .matching) (p : ℤ) :
    p ∈ s.matchedUp.matching.waiting ↔ s.matchedUp.players.getState p = .matching := by
  simp only [matchedUp, MatchManager.waiting_popped, PlayerManager.getState_forceStates]
  rw [← List.take_append_drop 3 s.matching.waiting] at hnd
  have hdisj := (List.nodup_append'.mp hnd).2.2
  split_ifs with hp
  · exact iff_of_false (fun hdrop => hdisj hp hdrop) (by simp)
  · rw [← hm, ← List.take_append_drop 3 s.matching.waiting, List.mem_append,
      List.take_append_drop]
    simp [hp]

lemma queueMatches_match (hkept : s.matching.WellKept)
    (hm : ∀ p, p ∈ s.matching.waiting ↔ s.players.getState p = .matching) {c nowMs : ℤ}
    (hrule : MatchRule s c nowMs s') (p : ℤ) :
    p ∈ s'.matching.waiting ↔ s'.players.getState p = .matching := by
  cases hrule with
  | refused => exact hm p
  | waiting => exact queueMatches_waitingWith hm _ _ _ p
  | matched _ _ _ hfree =>
    exact queueMatches_matchedUp (hkept.joined hfree).nodup (queueMatches_waitingWith hm _ _ _) p

lemma queueMatches_cancel (hkept : s.matching.WellKept)
    (hm : ∀ p, p ∈ s.matching.waiting ↔ s.players.getState p = .matching) (c p : ℤ) :
    p ∈ (s.handleCancelMatch c).1.matching.waiting ↔
      (s.handleCancelMatch c).1.players.getState p = .matching := by
  unfold handleCancelMatch
  split
  · exact hm p
  next playerId hconn =>
    dsimp only
    split_ifs with hstate hcancel
    · exact hm p
    · rw [hkept.mem_waiting_cancel, PlayerManager.getState_forceState, hm]
      split_ifs with hp <;> simp [hp]
    · exact absurd (hkept.cancel_snd ((hm playerId).mpr (not_not.mp hstate))) hcancel

lemma queueMatches_matchTimeout (hkept : s.matching.WellKept)
    (hm : ∀ p, p ∈ s.matching.waiting ↔ s.players.getState p = .matching)
    (nowMs timeoutMs p : ℤ) :
    p ∈ (s.handleMatchTimeout nowMs timeoutMs).1.matching.waiting ↔
      (s.handleMatchTimeout nowMs timeoutMs).1.players.getState p = .matching := by
  simp only [handleMatchTimeout, hkept.mem_waiting_popTimeoutPlayers, getState_foldl_leaveQueue]
  split_ifs with hlate
  · exact iff_of_false (fun h => h.2 hlate.1) (by simp)
  · rw [hm]
    exact ⟨And.left, fun hstate => ⟨hstate, fun hmem => hlate ⟨hmem, hstate⟩⟩⟩

lemma queueMatches_connectionClosed (hkept : s.matching.WellKept)
    (hm : ∀ p, p ∈ s.matching.waiting ↔ s.players.getState p = .matching)
    (c nowMs offlineAtMs p : ℤ) :
    p ∈ (s.onConnectionClosed c nowMs offlineAtMs).matching.waiting ↔
      (s.onConnectionClosed c nowMs offlineAtMs).players.getState p = .matching := by
  unfold onConnectionClosed
  split
  · exact hm p
  next playerId hconn =>
    dsimp only
    rw [PlayerManager.getState_forceState]
    split_ifs with hstate hp hp
    · simp [hkept.mem_waiting_cancel, hp]
    · simp [hkept.mem_waiting_cancel, hp, hm]
    · simp [hm, hp, hstate]
    · exact hm p

lemma queueMatches_settle (hcoherent : s.roster.Coherent)
    (hm : ∀ p, p ∈ s.matching.waiting ↔ s.players.getState p = .matching)
    {d : ServerSettlementDecision} {nowMs : ℤ} {result : SettlementResult}
    (hrule : SettleRule s d nowMs s' result) (p : ℤ) :
    p ∈ s'.matching.waiting ↔ s'.players.getState p = .matching := by
  cases hrule with
  | invalid => exact hm p
  | busy => exact hm p
  | notFound => exact hm p
  | failed => exact hm p
  | @settled room _ _ _ hroom =>
    simp only [settled, PlayerManager.getState_forceStates, PlayerManager.getState_addCoins]
    split_ifs with hp
    · -- a player of a room does not wait
      refine iff_of_false (fun hwaits => ?_) (by simp)
      have hmembers : s.roster.members d.roomId = some (room.roomId, room.players) :=
        RoomManager.membersOf_eq_some.mpr ⟨room, hroom, rfl, rfl⟩
      have hid := (hcoherent.trio _ _ _ hmembers).2.1
      have hroomOf := (hcoherent.index p d.roomId).mpr ⟨room.players, hid ▸ hmembers, hp⟩
      rw [hcoherent.roomOf_of_waiting hwaits] at hroomOf
      cases hroomOf
    · exact hm p

/-! ### What a player in a queue can rely on -/

/-- Whoever waits after a match request waited before or sent it. -/
lemma waiting_of_match {c nowMs : ℤ} (hrule : MatchRule s c nowMs s') {p : ℤ}
    (hp : p ∈ s'.matching.waiting) :
    p ∈ s.matching.waiting ∨ s.sessions.connToPlayer.lookup c = some p := by
  have hwaiting : ∀ {player : PlayerData} {playerId : ℤ},
      s.sessions.connToPlayer.lookup c = some playerId →
      p ∈ (s.waitingWith player playerId nowMs).matching.waiting →
      p ∈ s.matching.waiting ∨ s.sessions.connToPlayer.lookup c = some p := by
    intro player playerId hconn hp
    rw [waitingWith, MatchManager.waiting_joined] at hp
    rcases List.mem_append.mp hp with hp | hp
    · exact Or.inl hp
    · exact Or.inr (List.mem_singleton.mp hp ▸ hconn)
  cases hrule with
  | refused => exact Or.inl hp
  | waiting hconn => exact hwaiting hconn hp
  | matched hconn =>
    rw [matchedUp, MatchManager.waiting_popped] at hp
    exact hwaiting hconn (List.mem_of_mem_drop hp)

/-- A login leaves the queues and the rooms alone. -/
lemma unmoved_login (s : GameServer) (c nowMs : ℤ) (body : CppString) (redis : RedisReplies) :
    (s.handleLogin c body nowMs redis).1.matching = s.matching ∧
      (s.handleLogin c body nowMs redis).1.rooms = s.rooms := by
  cases hp : s.loginPlayer body nowMs with
  | none =>
    rw [(handleLogin_of_none c redis hp).1]
    exact ⟨rfl, rfl⟩
  | some p =>
    rw [(handleLogin_of_some c redis hp).2.1]
    exact ⟨rfl, rfl⟩

/-- So does a reconnect. -/
lemma unmoved_reconnect (s : GameServer) (c nowMs : ℤ) (body : CppString) (redis : RedisReplies) :
    (s.handleReconnect c body nowMs redis).1.matching = s.matching ∧
      (s.handleReconnect c body nowMs redis).1.rooms = s.rooms := by
  cases hp : s.reconnectPlayer body nowMs redis with
  | none =>
    rw [(handleReconnect_of_none c hp).1]
    exact ⟨rfl, rfl⟩
  | some p =>
    obtain ⟨session, -, hserver, -⟩ := handleReconnect_of_some c hp
    rw [hserver]
    exact ⟨rfl, rfl⟩

/-- Only a match request brings somebody into the queue: the player of its connection. -/
lemma waiting_of_apply (hkept : s.matching.WellKept) {p : ℤ}
    (hp : p ∈ (s.apply rng op).matching.waiting) :
    p ∈ s.matching.waiting ∨ ∃ c, s.sessions.connToPlayer.lookup c = some p := by
  cases op with
  | login c body nowMs redis =>
    rw [apply, (unmoved_login s c nowMs body redis).1] at hp
    exact Or.inl hp
  | reconnect c body nowMs redis =>
    rw [apply, (unmoved_reconnect s c nowMs body redis).1] at hp
    exact Or.inl hp
  | sessionRefresh body nowMs redis =>
    obtain ⟨auth, heq⟩ := handleSessionRefresh_fst s body nowMs redis
    rw [apply, heq] at hp
    exact Or.inl hp
  | heartbeat c nowMs => exact Or.inl hp
  | requestMatch c body nowMs =>
    rcases waiting_of_match (match_rule s c body nowMs) hp with hp | hconn
    · exact Or.inl hp
    · exact Or.inr ⟨c, hconn⟩
  | cancelMatch c =>
    have hrule := cancel_rule s c
    rw [apply] at hp
    generalize (s.handleCancelMatch c).1 = s' at hrule hp
    cases hrule with
    | refused => exact Or.inl hp
    | failed => exact Or.inl ((hkept.mem_waiting_cancel _ p).mp hp).1
    | cancelled => exact Or.inl ((hkept.mem_waiting_cancel _ p).mp hp).1
  | matchTimeout nowMs timeoutMs =>
    exact Or.inl ((hkept.mem_waiting_popTimeoutPlayers nowMs timeoutMs p).mp hp).1
  | connectionClosed c nowMs offlineAtMs =>
    simp only [apply, onConnectionClosed] at hp
    split at hp
    · exact Or.inl hp
    · dsimp only at hp
      split_ifs at hp
      · exact Or.inl ((hkept.mem_waiting_cancel _ p).mp hp).1
      · exact Or.inl hp
  | inRoom op => exact Or.inl hp
  | settle d nowMs =>
    have hmatching : ∀ {s' result}, SettleRule s d nowMs s' result →
        s'.matching = s.matching := by
      intro s' result hrule
      cases hrule <;> rfl
    rw [apply, hmatching (settle_rule s d nowMs)] at hp
    exact Or.inl hp
  | setTxFailpoint failpoint => exact Or.inl hp

lemma connected_of_queued (h : s.QueueInvariant) (hconn : s.QueueConnected)
    (hop : BindsPositive op) {p : ℤ} (hp : p ∈ (s.apply rng op).queued) : s.IsConnected p := by
  have h' : (s.apply rng op).QueueInvariant := h.apply hop
  rw [h'.queued_eq] at hp
  rcases waiting_of_apply h.kept hp with hp | hconn'
  · exact hconn p (h.queued_eq ▸ hp)
  · exact hconn'

/-- The player whose connection is closed leaves the queue; all others keep theirs. -/
lemma queueConnected_connectionClosed (h : s.QueueInvariant) (hm : s.QueueMatches)
    (hconn : s.QueueConnected) (c nowMs offlineAtMs : ℤ) :
    (s.onConnectionClosed c nowMs offlineAtMs).QueueConnected := by
  have hop : BindsPositive (.connectionClosed c nowMs offlineAtMs) := trivial
  have h' : (s.apply .sorted (.connectionClosed c nowMs offlineAtMs)).QueueInvariant := h.apply hop
  intro p hp
  have hp' : p ∈ (s.apply .sorted (.connectionClosed c nowMs offlineAtMs)).queued := hp
  obtain ⟨d, hd⟩ := connected_of_queued h hconn hop hp'
  have hne : d ≠ c := by
    rintro rfl
    rw [apply] at h'
    have hstate := (queueMatches_connectionClosed h.kept ((queueMatches_iff h).mp hm)
      d nowMs offlineAtMs p).mp (h'.queued_eq ▸ hp)
    rw [onConnectionClosed, hd] at hstate
    simp only [PlayerManager.getState_forceState, if_true] at hstate
    cases hstate
  refine ⟨d, ?_⟩
  rw [Connections.sessions_onConnectionClosed, SessionManager.getPlayerIdByConnection]
  cases hclosed : s.sessions.connToPlayer.lookup c with
  | none =>
    rw [SessionManager.markOfflineByConnection, hclosed]
    exact hd
  | some q =>
    rw [SessionManager.lookup_conn_markOfflineByConnection hclosed, if_neg hne]
    exact hd

lemma queueConnected_other (h : s.QueueInvariant) (hconn : s.QueueConnected)
    (hop : BindsPositive op) (hother : op.IsOther) : (s.apply rng op).QueueConnected := by
  intro p hp
  obtain ⟨d, hd⟩ := connected_of_queued h hconn hop hp
  refine ⟨d, ?_⟩
  rw [SessionManager.getPlayerIdByConnection, connToPlayer_other hother]
  exact hd

/-- One operation keeps queue and state together, and those in the queue connected, exactly if it
binds nobody in a queue and takes nobody's connection there. -/
lemma queue_step_iff (h : s.QueueInvariant) (hm : s.QueueMatches) (hconn : s.QueueConnected)
    (hop : BindsPositive op) :
    (s.apply rng op).QueueMatches ∧ (s.apply rng op).QueueConnected ↔ s.BindsUnqueued op := by
  have h' : (s.apply rng op).QueueInvariant := h.apply hop
  have hw := (queueMatches_iff h).mp hm
  have hother : op.IsOther → (s.apply rng op).QueueConnected :=
    queueConnected_other h hconn hop
  cases op with
  | login c body nowMs redis => exact queue_login h h' hm hconn rfl
  | reconnect c body nowMs redis => exact queue_reconnect h h' hm hconn rfl
  | sessionRefresh body nowMs redis =>
    obtain ⟨auth, heq⟩ := handleSessionRefresh_fst s body nowMs redis
    exact iff_of_true ⟨by rw [apply, heq]; exact hm, hother rfl⟩ trivial
  | heartbeat c nowMs => exact iff_of_true ⟨hm, hother rfl⟩ trivial
  | requestMatch c body nowMs =>
    exact iff_of_true ⟨(queueMatches_iff h').mpr
      (queueMatches_match h.kept hw (match_rule s c body nowMs)), hother rfl⟩ trivial
  | cancelMatch c =>
    exact iff_of_true ⟨(queueMatches_iff h').mpr (queueMatches_cancel h.kept hw c), hother rfl⟩
      trivial
  | matchTimeout nowMs timeoutMs =>
    exact iff_of_true ⟨(queueMatches_iff h').mpr
      (queueMatches_matchTimeout h.kept hw nowMs timeoutMs), hother rfl⟩ trivial
  | connectionClosed c nowMs offlineAtMs =>
    exact iff_of_true ⟨(queueMatches_iff h').mpr
      (queueMatches_connectionClosed h.kept hw c nowMs offlineAtMs),
      queueConnected_connectionClosed h hm hconn c nowMs offlineAtMs⟩ trivial
  | inRoom op => exact iff_of_true ⟨hm, hother rfl⟩ trivial
  | settle d nowMs =>
    exact iff_of_true ⟨(queueMatches_iff h').mpr
      (queueMatches_settle h.coherent hw (settle_rule s d nowMs)), hother rfl⟩ trivial
  | setTxFailpoint failpoint => exact iff_of_true ⟨hm, hother rfl⟩ trivial

/-- Nobody but a player in the queue, or the one who asks for a match, enters a room. -/
lemma playerToRoom_of_apply {p r : ℤ}
    (hr : (s.apply rng op).rooms.playerToRoom.lookup p = some r) :
    s.rooms.playerToRoom.lookup p = some r ∨ p ∈ s.matching.waiting ∨
      ∃ c, s.sessions.connToPlayer.lookup c = some p := by
  cases op with
  | login c body nowMs redis =>
    rw [apply, (unmoved_login s c nowMs body redis).2] at hr
    exact Or.inl hr
  | reconnect c body nowMs redis =>
    rw [apply, (unmoved_reconnect s c nowMs body redis).2] at hr
    exact Or.inl hr
  | sessionRefresh body nowMs redis =>
    obtain ⟨auth, heq⟩ := handleSessionRefresh_fst s body nowMs redis
    rw [apply, heq] at hr
    exact Or.inl hr
  | heartbeat c nowMs => exact Or.inl hr
  | requestMatch c body nowMs =>
    have hrule := match_rule s c body nowMs
    rw [apply] at hr
    generalize (s.handleMatch c body nowMs).1 = s' at hrule hr
    cases hrule with
    | refused => exact Or.inl hr
    | waiting => exact Or.inl hr
    | @matched playerId player hconn =>
      simp only [matchedUp, RoomManager.playerToRoom_createRoom] at hr
      split_ifs at hr with hp
      · right
        have hp' := List.mem_of_mem_take hp
        rw [waitingWith, MatchManager.waiting_joined] at hp'
        rcases List.mem_append.mp hp' with hp' | hp'
        · exact Or.inl hp'
        · exact Or.inr ⟨c, List.mem_singleton.mp hp' ▸ hconn⟩
      · exact Or.inl hr
  | cancelMatch c =>
    have hrule := cancel_rule s c
    rw [apply] at hr
    generalize (s.handleCancelMatch c).1 = s' at hrule hr
    cases hrule <;> exact Or.inl hr
  | matchTimeout nowMs timeoutMs => exact Or.inl hr
  | connectionClosed c nowMs offlineAtMs =>
    simp only [apply, onConnectionClosed] at hr
    split at hr
    · exact Or.inl hr
    next playerId hconn =>
      have hinside : (RoomOp.markPlayerOffline playerId offlineAtMs).IsInside := rfl
      have hsame := RoomManager.playerToRoom_apply (m := s.rooms) rng hinside
      simp only [RoomManager.apply] at hsame
      rw [hsame] at hr
      exact Or.inl hr
  | inRoom op =>
    rw [apply, RoomManager.playerToRoom_apply rng op.2] at hr
    exact Or.inl hr
  | settle d nowMs =>
    have hsettle : ∀ {s' result}, SettleRule s d nowMs s' result →
        s'.rooms.playerToRoom.lookup p = some r → s.rooms.playerToRoom.lookup p = some r := by
      intro s' result hrule hr
      have hmark : ∀ m : RoomManager,
          (m.markSettling d.roomId).1.playerToRoom = m.playerToRoom := fun m =>
        RoomManager.playerToRoom_apply (m := m) rng
          (show RoomOp.IsInside (.markSettling d.roomId) from rfl)
      cases hrule with
      | invalid => exact hr
      | busy => exact hr
      | notFound => exact hr
      | failed => exact hmark s.rooms ▸ hr
      | @settled room =>
        have hfinish : ∀ m : RoomManager,
            (m.markFinished room.roomId).1.playerToRoom = m.playerToRoom := fun m =>
          RoomManager.playerToRoom_apply (m := m) rng
            (show RoomOp.IsInside (.markFinished room.roomId) from rfl)
        have hr' := RoomManager.playerToRoom_of_destroyRoom hr
        rw [hfinish, hmark] at hr'
        exact hr'
    exact Or.inl (hsettle (settle_rule s d nowMs) hr)
  | setTxFailpoint failpoint => exact Or.inl hr

lemma queueSafe_of_connected (rng : Shuffler) (h : s.QueueInvariant) (hm : s.QueueMatches)
    (hconn : s.QueueConnected) : s.QueueSafe rng := by
  have honline : ∀ p ∈ s.queued, s.IsOnline p := by
    intro p hp
    obtain ⟨c, hc⟩ := hconn p hp
    exact ⟨c, h.linked.online c p hc⟩
  refine ⟨honline, hconn, fun c p hc hp => ?_, fun op p r hr => ?_⟩
  · have hcancel := h.kept.cancel_snd (h.queued_eq ▸ hp)
    simp [handleCancelMatch, hc, (hm p).mp hp, hcancel]
  · rcases playerToRoom_of_apply hr with hold | hp | ⟨c, hc⟩
    · exact Or.inl hold
    · exact Or.inr (honline p (h.queued_eq ▸ hp))
    · exact Or.inr ⟨c, h.linked.online c p hc⟩

/-- In a run, the players in the queues are those in the state `Matching` throughout, and they can
rely on it, exactly if no login and no reconnect binds a player who is in a queue or takes the
connection of one. -/
theorem queue_matches_iff {rng : Shuffler} {auth : AuthTokenService} {redisEnabled : Bool}
    {ops : List ServerOp} (hids : ∀ op ∈ ops, BindsPositive op) :
    (∀ t, Run.Visits (step rng) (start auth redisEnabled) ops t →
        t.QueueMatches ∧ t.QueueSafe rng) ↔
      Run.Along (step rng) BindsUnqueued (start auth redisEnabled) ops := by
  have hstart : Run.exec (step rng) (start auth redisEnabled) [] =
      some (start auth redisEnabled) := rfl
  obtain ⟨hcoherent, hkept⟩ := coherent_of_run hstart
  have hinv : (start auth redisEnabled).QueueInvariant :=
    ⟨hcoherent, hkept, SessionManager.linked_empty⟩
  have hm : (start auth redisEnabled).QueueMatches := by
    intro p
    simp [queued, start, PlayerManager.getState, at']
  refine Run.forall_visits_iff_along_of (I := QueueInvariant) (H := BindsPositive)
    (fun s op s' hop h _ hstep _ => ?_) (fun s op s' hop h hP hstep => ?_) hids hinv
    ⟨hm, queueSafe_of_connected rng hinv hm (by simp [QueueConnected, queued, start])⟩ ?_
  · rw [← Run.total_eq_some.mp hstep]
    exact h.apply hop
  · have hiff : (s.apply rng op).QueueMatches ∧ (s.apply rng op).QueueConnected ↔
        s.BindsUnqueued op := queue_step_iff h hP.1 hP.2.connected hop
    rw [← Run.total_eq_some.mp hstep, ← hiff]
    refine ⟨fun hboth => ⟨hboth.1, hboth.2.connected⟩, fun hboth => ⟨hboth.1, ?_⟩⟩
    exact queueSafe_of_connected rng (h.apply hop) hboth.1 hboth.2
  · rw [step, Run.exec_total]
    rfl

/-- Player 1 waits and player 2 logs in on his connection: nobody can cancel for player 1. -/
example :
    let s := [.login 11 (ticketBody 1) 0 {}, .requestMatch 11 (str "mode=3") 5,
      .login 11 (ticketBody 2) 6 {}].foldl (apply .sorted) (start {} false)
    1 ∈ s.queued ∧ s.players.getState 1 = .matching ∧
      s.sessions.getPlayerIdByConnection 11 = some 2 ∧
      (s.handleCancelMatch 11).2.code = .invalidPlayerState := by
  decide +kernel

/-- Player 1 logs in and asks for a match; then player 2 logs in on another connection. -/
def requestThenLogin : List ServerOp :=
  [.login 11 (ticketBody 1) 0 {}, .requestMatch 11 (str "mode=3") 5,
    .login 12 (ticketBody 2) 6 {}]

theorem queue_matches_after_request :
    Run.Along (step .sorted) BindsUnqueued (start {} false) requestThenLogin ∧
      (requestThenLogin.foldl (apply .sorted) (start {} false)).queued = [1] ∧
      ∀ t, Run.Visits (step .sorted) (start {} false) requestThenLogin t →
        t.QueueMatches ∧ t.QueueSafe .sorted := by
  generalize hw : apply .sorted (apply .sorted (start {} false)
    (.login 11 (ticketBody 1) 0 {})) (.requestMatch 11 (str "mode=3") 5) = w
  have hfacts : w.loginPlayer (ticketBody 2) 6 = some 2 ∧ w.queued = [1] ∧
      w.sessions.getConnectionIdByPlayer 2 = none ∧
      w.sessions.getPlayerIdByConnection 12 = none ∧
      (apply .sorted w (.login 12 (ticketBody 2) 6 {})).queued = [1] := by
    rw [← hw]
    decide +kernel
  obtain ⟨hplayer, hqueued, hold, hfree, hafter⟩ := hfacts
  have halong : Run.Along (step .sorted) BindsUnqueued (start {} false) requestThenLogin := by
    refine ⟨fun p _ => ?_, fun s hs => ⟨trivial, fun t ht => ⟨fun p hp => ?_, fun _ _ => trivial⟩⟩⟩
    · simp [SparesQueued, queued, start]
    · obtain rfl := Run.total_eq_some.mp hs
      obtain rfl := Run.total_eq_some.mp ht
      rw [hw] at hp ⊢
      obtain rfl : 2 = p := Option.some.inj (hplayer.symm.trans hp)
      refine ⟨by simp [hqueued], fun d q htaken hd => ?_⟩
      rcases htaken with rfl | hconn
      · rw [hfree] at hd
        cases hd
      · rw [hold] at hconn
        cases hconn
  refine ⟨halong, ?_, (queue_matches_iff (by simp [requestThenLogin, BindsPositive])).mpr halong⟩
  rw [requestThenLogin, List.foldl_cons, List.foldl_cons, List.foldl_cons, List.foldl_nil, hw]
  exact hafter

/-- A player in the queue logs in once more: the queue keeps him, and his state is `Lobby`. When the
new connection closes he is still in the queue, and the next two players share a room with him. -/
theorem login_stays_queued :
    ∃ s t, Run.exec (step .sorted) (start {} false)
        [.login 11 (ticketBody 1) 0 {}, .login 12 (ticketBody 2) 0 {},
          .login 13 (ticketBody 3) 0 {}, .requestMatch 11 (str "mode=3") 5,
          .login 14 (ticketBody 1) 6 {}] = some s ∧
      1 ∈ s.queued ∧ s.players.getState 1 = .lobby ∧ ¬ s.QueueMatches ∧
      Run.exec (step .sorted) s
        [.connectionClosed 14 7 7, .requestMatch 12 (str "mode=3") 8,
          .requestMatch 13 (str "mode=3") 9] = some t ∧
      t.rooms.playerToRoom.lookup 1 = some 1 ∧
      (t.sessions.getSessionByPlayer 1).map Session.online = some false := by
  have hfacts : ((Run.exec (step .sorted) (start {} false)
      [.login 11 (ticketBody 1) 0 {}, .login 12 (ticketBody 2) 0 {},
        .login 13 (ticketBody 3) 0 {}, .requestMatch 11 (str "mode=3") 5,
        .login 14 (ticketBody 1) 6 {}]).any fun s =>
      (1 ∈ s.queued ∧ s.players.getState 1 = .lobby) ∧
      (Run.exec (step .sorted) s
        [.connectionClosed 14 7 7, .requestMatch 12 (str "mode=3") 8,
          .requestMatch 13 (str "mode=3") 9]).any fun t =>
        t.rooms.playerToRoom.lookup 1 = some 1 ∧
          (t.sessions.getSessionByPlayer 1).map Session.online = some false) = true := by
    decide +kernel
  obtain ⟨s, hs, hfacts⟩ := (Option.any_eq_true _ _).mp hfacts
  obtain ⟨⟨hqueued, hstate⟩, hlater⟩ := of_decide_eq_true hfacts
  obtain ⟨t, ht, hroom⟩ := (Option.any_eq_true _ _).mp hlater
  refine ⟨s, t, hs, hqueued, hstate, fun hm => ?_, ht, of_decide_eq_true hroom⟩
  have hmatching := (hm 1).mp hqueued
  rw [hstate] at hmatching
  cases hmatching

end GameServer

end DdzServer
