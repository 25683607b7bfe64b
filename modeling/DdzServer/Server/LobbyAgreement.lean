import DdzServer.Network.LiveSessions
import DdzServer.Server.Agreement
import DdzServer.Server.MessageThreads

/-!
# Lobby and server

A browser that has processed what it was sent should wait exactly if the server has its player in
the state `Matching`, and name the room of the player's session. It does as long as the messages for
it come in the order of the calls they belong to, which the server does not see to: the response of
the third player's request follows his success. No message says that the room of a game that is over
is gone.
-/

namespace DdzServer

open Interleaving Inbox Client

/-! ### What the server knows -/

namespace GameServer

variable {s s' : GameServer} {p c : ℤ}

/-- What the lobby of a player should show. -/
def shown (s : GameServer) (p : ℤ) : Bool × ℤ :=
  (decide (s.players.getState p = .matching), s.sessionRoomId p)

/-- The players are online on the same connections. -/
structure SameLinks (s s' : GameServer) : Prop where
  index : s'.sessions.connToPlayer = s.sessions.connToPlayer
  online : ∀ q d, s'.sessions.OnlineAt q d ↔ s.sessions.OnlineAt q d

lemma SameLinks.refl (s : GameServer) : SameLinks s s := ⟨rfl, fun _ _ => Iff.rfl⟩

lemma SameLinks.bijective (h : SameLinks s s') (hm : s.sessions.Bijective) :
    s'.sessions.Bijective := by
  intro c p
  rw [h.index, h.online]
  exact hm c p

lemma sameLinks_other (rng : Shuffler) (s : GameServer) {op : ServerOp} (hop : op.IsOther) :
    SameLinks s (s.apply rng op) := ⟨connToPlayer_other hop, onlineAt_other hop⟩

lemma shown_of_same (hstate : s'.players.getState p = s.players.getState p)
    (hsession : s'.sessions.playerToSession.lookup p = s.sessions.playerToSession.lookup p) :
    s'.shown p = s.shown p := by
  rw [shown, shown, hstate, sessionRoomId, sessionRoomId, SessionManager.getSessionByPlayer,
    SessionManager.getSessionByPlayer, hsession]

/-- A player who joined the queue. -/
lemma shown_waitingWith (s : GameServer) (player : PlayerData) (q nowMs p : ℤ) :
    (s.waitingWith player q nowMs).shown p =
      if p = q then (true, s.sessionRoomId p) else s.shown p := by
  have hstate := PlayerManager.getState_write s.players q p { player with state := .matching }
  split_ifs at hstate ⊢ with hp
  · have hmatching : (s.waitingWith player q nowMs).players.getState p = .matching := hstate
    rw [shown, hmatching]
    rfl
  · exact shown_of_same hstate rfl

/-- Three players who were matched. -/
lemma shown_matchedUp (s : GameServer) (hsession : s.sessions.playerToSession.lookup p ≠ none) :
    s.matchedUp.shown p =
      if p ∈ s.matching.waiting.take 3 then (false, s.rooms.rooms.nextId) else s.shown p := by
  have hstate := PlayerManager.getState_forceStates (s.matching.waiting.take 3) .inRoom s.players p
  have hlookup := SessionManager.lookup_foldl_setRoomId (s.matching.waiting.take 3)
    s.rooms.rooms.nextId s.sessions p
  split_ifs at hstate hlookup ⊢ with hp
  · obtain ⟨session, hsession⟩ := Option.ne_none_iff_exists'.mp hsession
    have hroom : s.matchedUp.sessions.playerToSession.lookup p =
        some { session with roomId := s.rooms.rooms.nextId } := by
      rw [matchedUp, hlookup, hsession]
      rfl
    have hinRoom : s.matchedUp.players.getState p = .inRoom := hstate
    rw [shown, hinRoom, sessionRoomId, SessionManager.getSessionByPlayer, hroom]
    rfl
  · exact shown_of_same hstate hlookup

/-- A player who left the queue. -/
lemma shown_forceState_lobby (s : GameServer) (matching : MatchManager) (q p : ℤ) :
    { s with matching := matching, players := s.players.forceState q .lobby }.shown p =
      if p = q then (false, s.sessionRoomId p) else s.shown p := by
  have hstate := PlayerManager.getState_forceState s.players q p .lobby
  split_ifs at hstate ⊢ with hp
  · simp [shown, hstate, sessionRoomId]
  · exact shown_of_same hstate rfl

/-- Players who waited too long. -/
lemma shown_handleMatchTimeout (s : GameServer) (nowMs timeoutMs p : ℤ) :
    (s.handleMatchTimeout nowMs timeoutMs).1.shown p =
      if p ∈ (s.matching.popTimeoutPlayers nowMs timeoutMs).2.map MatchPlayer.playerId then
        (false, s.sessionRoomId p)
      else s.shown p := by
  have hstate := getState_foldl_leaveQueue (s.matching.popTimeoutPlayers nowMs timeoutMs).2
    s.players p
  by_cases hlate : p ∈ (s.matching.popTimeoutPlayers nowMs timeoutMs).2.map MatchPlayer.playerId
  · rw [if_pos hlate]
    have hnot : (s.handleMatchTimeout nowMs timeoutMs).1.players.getState p ≠ .matching := by
      rw [handleMatchTimeout, hstate]
      split_ifs with hmatching
      · decide
      · exact fun heq => hmatching ⟨hlate, heq⟩
    rw [shown, decide_eq_false hnot]
    rfl
  · rw [if_neg hlate]
    rw [if_neg fun h => hlate h.1] at hstate
    exact shown_of_same hstate rfl

/-- A match request of the connection is accepted. -/
def CanJoin (s : GameServer) (connectionId : ℤ) : Prop :=
  ∃ playerId, s.sessions.connToPlayer.lookup connectionId = some playerId ∧
    s.players.getState playerId = .lobby ∧ s.matching.matchingIndex.lookup playerId = none

/-- The settlement is carried out in a room of the player. -/
def SettlesRoomOf (s : GameServer) (d : ServerSettlementDecision) (p : ℤ) : Prop :=
  ∃ room, s.rooms.rooms.find d.roomId = some room ∧ p ∈ room.players ∧ d.IsValid ∧
    d.roomId ∉ s.settlingRooms ∧ s.CanSettle d room

/-- Other settlements do not concern the player. -/
lemma shown_settle {d : ServerSettlementDecision} (h : ¬ s.SettlesRoomOf d p) (nowMs : ℤ) :
    (s.settleByServerResult d nowMs).1.shown p = s.shown p := by
  have hrule := settle_rule s d nowMs
  generalize (s.settleByServerResult d nowMs).1 = s' at hrule
  generalize (s.settleByServerResult d nowMs).2 = result at hrule
  cases hrule with
  | invalid => rfl
  | busy => rfl
  | notFound => rfl
  | failed => rfl
  | @settled room _ hd hfree hroom hcan =>
    have hp : p ∉ room.players := fun hp => h ⟨room, hroom, hp, hd, hfree, hcan⟩
    refine shown_of_same ?_ ?_
    · simp only [settled, PlayerManager.getState_forceStates, PlayerManager.getState_addCoins,
        if_neg hp]
    · simp only [settled, SessionManager.lookup_foldl_setRoomId, if_neg hp]

end GameServer

/-! ### What handlers owe to a lobby -/

/-- The message for the lobby of a player that a task sends over the connection: a notification, or
the confirmation of a request. -/
def SendTask.owed (c p : ℤ) : SendTask → Option Message
  | .notify q n => if q = p ∧ n.IsLobby then some n.message else none
  | .notifyMatchSuccess q roomId mode players =>
    if q = p then some (Notification.matchSuccess roomId mode players).message else none
  | .respond d seqId code =>
    if d = c ∧ code = .ok then some (.response seqId (codeBody code)) else none
  | _ => none

/-- The decision of a settlement. -/
def SendTask.settles : SendTask → Option ServerSettlementDecision
  | .settleByServerResult decision _ => some decision
  | _                                => none

namespace GameServer

variable {s : GameServer} {p c : ℤ}

/-- What a task sends to the player's connection that it does not owe to the lobby. -/
inductive IsAside (c : ℤ) : SendTask → Message → Prop
  | notification {task : SendTask} {n : Notification} (hn : ¬ n.IsLobby) : IsAside c task n.message
  | refusal {seqId : ℤ} {code : ErrorCode} (hcode : code ≠ .ok) :
      IsAside c (.respond c seqId code) (.response seqId (codeBody code))

/-- A response comes from the task that responds. -/
lemma IsAside.respond {task : SendTask} {seqId : ℤ} {body : CppString}
    (h : IsAside c task (.response seqId body)) : ∃ code, task = .respond c seqId code := by
  generalize hmsg : Message.response seqId body = msg at h
  cases h with
  | notification hn => cases hmsg
  | refusal hcode =>
    cases hmsg
    exact ⟨_, rfl⟩

/-- What a task sends over the connection of the player. -/
structure PerformSpec (s : GameServer) (c p : ℤ) (task : SendTask) : Prop where
  links : SameLinks s (s.perform task).server
  tasks : ∀ t ∈ (s.perform task).tasks,
    t.owed c p = none ∧ ∀ d seqId code, t ≠ .respond d seqId code
  shown : (∀ d nowMs, task = .settleByServerResult d nowMs → ¬ s.SettlesRoomOf d p) →
    (s.perform task).server.shown p = s.shown p
  owed : ∀ msg, task.owed c p = some msg → (s.perform task).sends = some (c, msg)
  aside : task.owed c p = none → ∀ msg, (s.perform task).sends = some (c, msg) → IsAside c task msg

/-- Tasks that send nothing. -/
lemma performSpec_of_silent {task : SendTask} (hlinks : SameLinks s (s.perform task).server)
    (hshown : (∀ d nowMs, task = .settleByServerResult d nowMs → ¬ s.SettlesRoomOf d p) →
      (s.perform task).server.shown p = s.shown p)
    (htasks : ∀ t ∈ (s.perform task).tasks,
      t.owed c p = none ∧ ∀ d seqId code, t ≠ .respond d seqId code)
    (hsends : (s.perform task).sends = none) (howed : task.owed c p = none) :
    s.PerformSpec c p task where
  links := hlinks
  tasks := htasks
  shown := hshown
  owed msg hmsg := by simp [howed] at hmsg
  aside _ msg hmsg := by simp [hsends] at hmsg

/-- Tasks that only look up for whom there are others. -/
lemma performSpec_of_reading {task : SendTask} (h : (s.perform task).server = s ∧
      (s.perform task).sends = none ∧ ∀ t ∈ (s.perform task).tasks,
        t.owed c p = none ∧ ∀ d seqId code, t ≠ .respond d seqId code)
    (howed : task.owed c p = none) : s.PerformSpec c p task := by
  obtain ⟨hserver, hsends, htasks⟩ := h
  refine performSpec_of_silent ?_ (fun _ => ?_) htasks hsends howed
  · rw [hserver]
    exact .refl s
  · rw [hserver]

/-- Every task sends to the lobby what it owes to it. -/
theorem perform_spec (hm : s.sessions.Bijective) (honline : s.sessions.OnlineAt p c)
    (task : SendTask) : s.PerformSpec c p task := by
  have hconn : s.sessions.getConnectionIdByPlayer p = some c :=
    SessionManager.getConnectionIdByPlayer_eq_some.mpr honline
  -- nobody else is online on the connection
  have hsole : ∀ q, s.sessions.getConnectionIdByPlayer q = some c → q = p := by
    intro q hq
    have hlookup := (hm c q).mpr (SessionManager.getConnectionIdByPlayer_eq_some.mp hq)
    rw [(hm c p).mpr honline] at hlookup
    exact (Option.some.inj hlookup).symm
  cases task with
  | notify q n =>
    refine ⟨.refl s, by simp [perform], fun _ => rfl, fun msg hmsg => ?_, fun howed msg hmsg => ?_⟩
    · simp only [SendTask.owed] at hmsg
      split_ifs at hmsg with hq
      cases hmsg
      simp [perform, hq.1, hconn]
    · obtain ⟨d, hd, heq⟩ := Option.map_eq_some_iff.mp hmsg
      obtain ⟨rfl, rfl⟩ := Prod.mk.inj heq
      refine .notification fun hn => ?_
      simp [SendTask.owed, hsole q hd, hn] at howed
  | notifyMatchSuccess q roomId mode players =>
    cases hq : s.sessions.getConnectionIdByPlayer q with
    | none =>
      have hne : q ≠ p := by
        rintro rfl
        simp [hq] at hconn
      exact performSpec_of_reading (by simp [perform, hq]) (if_neg hne)
    | some d =>
      refine ⟨?_, ?_, fun _ => ?_, fun msg hmsg => ?_, fun howed msg hmsg => ?_⟩
      · simpa [perform, hq] using SameLinks.refl s
      · simp [perform, hq, SendTask.owed]
      · simp [perform, hq]
      · simp only [SendTask.owed] at hmsg
        split_ifs at hmsg with heq
        cases hmsg
        rw [heq, hconn] at hq
        cases hq
        simp [perform, heq, hconn]
      · simp only [perform, hq, Option.some.injEq, Prod.mk.injEq] at hmsg
        simp [SendTask.owed, hsole q (hmsg.1 ▸ hq)] at howed
  | markPlayerOnline q =>
    exact performSpec_of_silent ⟨rfl, fun _ _ => Iff.rfl⟩ (fun _ => rfl) (by simp [perform]) rfl rfl
  | notifyRoom roomId message =>
    refine performSpec_of_reading ?_ rfl
    simp only [perform]
    split
    · simp
    · simp [SendTask.owed, Notification.IsLobby]
  | buildPushSnapshotV2ByRoomId roomId =>
    refine performSpec_of_reading ?_ rfl
    simp only [perform]
    split
    · simp
    · simp [SendTask.owed]
  | notifyPrivateHandsInRoom roomId snapshotVersion =>
    refine performSpec_of_reading ?_ rfl
    simp only [perform]
    split
    · simp
    · split_ifs <;> simp [SendTask.owed]
  | notifyPrivateHandByConnection q roomId snapshotVersion =>
    cases hq : s.sessions.getConnectionIdByPlayer q with
    | none => exact performSpec_of_reading (by simp [perform, hq]) rfl
    | some d =>
      cases hhand : (s.rooms.getRoomById roomId).bind fun room => room.hands.lookup q with
      | none => exact performSpec_of_reading (by simp [perform, hq, hhand]) rfl
      | some cards =>
        refine ⟨?_, ?_, fun _ => ?_, fun msg hmsg => ?_, fun _ msg hmsg => ?_⟩
        · simpa [perform, hq, hhand] using SameLinks.refl s
        · simp [perform, hq, hhand]
        · simp [perform, hq, hhand]
        · simp [SendTask.owed] at hmsg
        · simp only [perform, hq, hhand, Option.some.injEq, Prod.mk.injEq] at hmsg
          rw [← hmsg.2]
          exact .notification id
  | settleByServerResult d nowMs =>
    have hother : (ServerOp.settle d nowMs).IsOther = true := rfl
    refine performSpec_of_silent (sameLinks_other .sorted s hother)
      (fun hsettles => shown_settle (hsettles d nowMs rfl) nowMs) ?_ rfl rfl
    simp only [perform]
    split_ifs
    · intro t ht
      obtain ⟨player, -, ht⟩ := List.mem_flatMap.mp ht
      simp only [List.mem_cons, List.not_mem_nil, or_false] at ht
      rcases ht with rfl | rfl <;> simp [SendTask.owed, Notification.IsLobby]
    · simp
  | respond d seqId code =>
    refine ⟨.refl s, by simp [perform], fun _ => rfl, fun msg hmsg => ?_, fun howed msg hmsg => ?_⟩
    · simp only [SendTask.owed] at hmsg
      split_ifs at hmsg with hd
      cases hmsg
      rw [← hd.1]
      rfl
    · obtain ⟨rfl, rfl⟩ := Prod.mk.inj (Option.some.inj hmsg)
      refine .refusal fun hcode => ?_
      simp [SendTask.owed, hcode] at howed

end GameServer

/-! ### Runs -/

namespace MessageThreads

variable {ι : Type} (m : MessageThreads ι) (c p : ℤ)

/-- The messages for the lobby of a player that a handler has not sent yet. -/
def owed (i : ι) : List Message := (m.threads i).filterMap (SendTask.owed c p)

/-- The browser has processed all that was sent to it, and no handler owes anything to its lobby. -/
structure CaughtUp : Prop where
  inbox : m.mail.inbox c = []
  owed : ∀ i, m.owed c p i = []

/-- The lobby of the browser shows what the server knows of the player. -/
structure LobbyAgrees : Prop where
  matching : (m.browser c).stores.lobby.matching = true ↔ m.shared.players.getState p = .matching
  room : (m.browser c).stores.lobby.matchedRoomId = m.shared.sessionRoomId p

/-- The player is online on the connection, his lobby agrees with the server, and nothing is on the
way. -/
structure Opened : Prop where
  bijective : m.shared.sessions.Bijective
  online : m.shared.sessions.OnlineAt p c
  agrees : m.LobbyAgrees c p
  idle : ∀ i, m.threads i = []
  inbox : m.mail.inbox c = []

/-- A message confirms the request to its browser. -/
def Confirmation (seqId : ℤ) (msg : Message) : Prop :=
  ∃ body, msg = .response seqId body ∧ Confirms body

/-- A step keeps the lobby of the player right:
the player's own request does not complete a room;
what is sent to the lobby for a new call does not meet what another handler owes to it;
no settlement is carried out in a room of the player;
the browser does not give up a request that was confirmed. -/
def KeepsLobby : MessageLabel ι → Prop
  | .startMatch _ d _ =>
    m.shared.CanJoin d →
      (d = c → m.shared.matching.queueThree.length < 2 ∧ ∀ i, m.owed c p i = []) ∧
      (2 ≤ m.shared.matching.queueThree.length → p ∈ m.shared.matching.waiting.take 3 →
        (∀ i, m.owed c p i = []) ∧ m.shared.rooms.rooms.nextId ≤ 2 ^ 53)
  | .cancelMatch _ d => d = c → m.shared.players.getState p = .matching → ∀ i, m.owed c p i = []
  | .matchTimeout _ nowMs timeoutMs =>
    p ∈ (m.shared.matching.popTimeoutPlayers nowMs timeoutMs).2.map MatchPlayer.playerId →
      ∀ i, m.owed c p i = []
  | .proceed i =>
    ∀ d, (m.threads i).head?.bind SendTask.settles = some d → ¬ m.shared.SettlesRoomOf d p
  | .requestTimeout d seqId =>
    d = c → ∀ msg, (msg ∈ m.mail.inbox c ∨ ∃ i, msg ∈ m.owed c p i) → ¬ Confirmation seqId msg
  | _ => True

/-- The messages are those that one handler owes, and the others owe nothing. -/
def Due (msgs : List Message) : Prop :=
  (msgs = [] ∧ ∀ i, m.owed c p i = []) ∨ ∃ i, m.owed c p i = msgs ∧ ∀ j, j ≠ i → m.owed c p j = []

/-- The lobby when the inbox and then these messages have been processed. -/
def shownAfter (msgs : List Message) : Bool × ℤ :=
  (msgs.foldl Browser.handleMessage
    (m.mail.eventual Browser.handleMessage c)).stores.lobby.shown

/-- What holds of the player, his browser and the handlers between two steps. -/
structure LobbyInvariant : Prop where
  bijective : m.shared.sessions.Bijective
  online : m.shared.sessions.OnlineAt p c
  answered : ∀ seqId body, .response seqId body ∈ m.mail.inbox c → seqId < (m.browser c).nextSeq
  asked : ∀ i seqId code, .respond c seqId code ∈ m.threads i → seqId < (m.browser c).nextSeq
  once : ∀ i j seqId code code', .respond c seqId code ∈ m.threads i →
    .respond c seqId code' ∈ m.threads j → code = code'
  due : ∃ msgs, m.Due c p msgs ∧ m.shownAfter c msgs = m.shared.shown p

variable {m m' : MessageThreads ι} {c p}

/-- Nothing is due but what a handler owes. -/
lemma Due.mem {msgs : List Message} (h : m.Due c p msgs) {msg : Message} (hmsg : msg ∈ msgs) :
    ∃ i, msg ∈ m.owed c p i := by
  rcases h with ⟨rfl, -⟩ | ⟨i, rfl, -⟩
  · cases hmsg
  · exact ⟨i, hmsg⟩

lemma Due.eq_nil {msgs : List Message} (h : m.Due c p msgs) (hnone : ∀ i, m.owed c p i = []) :
    msgs = [] := by
  rcases h with ⟨rfl, -⟩ | ⟨i, rfl, -⟩
  · rfl
  · exact hnone i

lemma Due.congr {msgs : List Message} (h : m.Due c p msgs)
    (howed : ∀ i, m'.owed c p i = m.owed c p i) : m'.Due c p msgs := by
  rcases h with ⟨rfl, hnone⟩ | ⟨i, rfl, hothers⟩
  · exact Or.inl ⟨rfl, fun i => (howed i).trans (hnone i)⟩
  · exact Or.inr ⟨i, howed i, fun j hj => (howed j).trans (hothers j hj)⟩

/-- The responses that a handler owes are confirmations. -/
lemma respond_of_owed {i : ι} {seqId : ℤ} {body : CppString}
    (h : .response seqId body ∈ m.owed c p i) :
    .respond c seqId .ok ∈ m.threads i ∧ body = codeBody .ok := by
  obtain ⟨task, htask, howed⟩ := List.mem_filterMap.mp h
  cases task with
  | respond d seqId' code =>
    simp only [SendTask.owed] at howed
    split_ifs at howed with hd
    cases howed
    obtain ⟨rfl, rfl⟩ := hd
    exact ⟨htask, rfl⟩
  | notify q n =>
    simp only [SendTask.owed] at howed
    split_ifs at howed
    cases howed
  | notifyMatchSuccess q roomId mode players =>
    simp only [SendTask.owed] at howed
    split_ifs at howed
    cases howed
  | _ => cases howed

/-- A browser that is caught up agrees with the server. -/
lemma LobbyInvariant.lobbyAgrees (h : m.LobbyInvariant c p) (hcaught : m.CaughtUp c p) :
    m.LobbyAgrees c p := by
  obtain ⟨msgs, hdue, hshown⟩ := h.due
  obtain rfl := hdue.eq_nil hcaught.owed
  rw [shownAfter, List.foldl_nil, Mail.eventual, hcaught.inbox, List.foldl_nil, LobbyStore.shown,
    GameServer.shown, Prod.mk.injEq] at hshown
  refine ⟨?_, hshown.2⟩
  rw [browser, hshown.1, decide_eq_true_iff]

lemma Opened.lobbyInvariant (h : m.Opened c p) : m.LobbyInvariant c p where
  bijective := h.bijective
  online := h.online
  answered := by simp [h.inbox]
  asked := by simp [h.idle]
  once := by simp [h.idle]
  due := by
    refine ⟨[], Or.inl ⟨rfl, fun i => by simp [MessageThreads.owed, h.idle i]⟩, ?_⟩
    rw [shownAfter, List.foldl_nil, Mail.eventual, h.inbox, List.foldl_nil, LobbyStore.shown,
      GameServer.shown, Prod.mk.injEq]
    refine ⟨?_, h.agrees.room⟩
    rw [Bool.eq_iff_iff, decide_eq_true_iff]
    exact h.agrees.matching

/-- Without anything due the inbox leads to what the server knows. -/
lemma LobbyInvariant.shownAfter_nil (h : m.LobbyInvariant c p) (hnone : ∀ i, m.owed c p i = []) :
    m.shownAfter c [] = m.shared.shown p := by
  obtain ⟨msgs, hdue, hshown⟩ := h.due
  rwa [hdue.eq_nil hnone] at hshown

variable [DecidableEq ι] {rng : Shuffler}

lemma enter_spec {i : ι} {s : GameServer} {tasks : List SendTask}
    (h : m.enter i s tasks = some m') :
    m.threads i = [] ∧ m' = { m with toThreads := m.toThreads.set i (s, tasks) } := by
  rw [enter] at h
  split at h
  next hidle => exact ⟨hidle, (Option.some.inj h).symm⟩
  · cases h

lemma owed_set (i j : ι) (s : GameServer) (tasks : List SendTask)
    (mail : Mail ℤ Message Browser) :
    ({ toThreads := m.toThreads.set i (s, tasks), mail := mail } : MessageThreads ι).owed c p j =
      if j = i then tasks.filterMap (SendTask.owed c p) else m.owed c p j := by
  split_ifs with hj
  · rw [owed, hj, Threads.set_threads_self]
  · rw [owed, Threads.set_threads_of_ne _ hj]
    rfl

lemma mem_threads_set {i j : ι} {s : GameServer} {tasks : List SendTask} {t : SendTask}
    (h : t ∈ (m.toThreads.set i (s, tasks)).threads j) :
    t ∈ tasks ∨ t ∈ m.threads j := by
  by_cases hj : j = i
  · rw [hj, Threads.set_threads_self] at h
    exact Or.inl h
  · rw [Threads.set_threads_of_ne _ hj] at h
    exact Or.inr h

/-- A new call keeps the invariant if it owes nothing and changes nothing for the player, or if
nobody else owes anything and its messages lead to what the server knows then. -/
lemma LobbyInvariant.enter (h : m.LobbyInvariant c p) {i : ι} {s : GameServer}
    {tasks : List SendTask} (henter : m.enter i s tasks = some m')
    (hlinks : GameServer.SameLinks m.shared s)
    (hresponds : ∀ seqId code, .respond c seqId code ∈ tasks →
      seqId < (m.browser c).nextSeq ∧ (∀ code', .respond c seqId code' ∈ tasks → code = code') ∧
        ∀ j code', .respond c seqId code' ∉ m.threads j)
    (hdue : tasks.filterMap (SendTask.owed c p) = [] ∧ s.shown p = m.shared.shown p ∨
      (∀ j, m.owed c p j = []) ∧
        m.shownAfter c (tasks.filterMap (SendTask.owed c p)) = s.shown p) :
    m'.LobbyInvariant c p := by
  obtain ⟨hidle, rfl⟩ := enter_spec henter
  have howed : m.owed c p i = [] := by rw [owed, hidle, List.filterMap_nil]
  refine ⟨hlinks.bijective h.bijective, (hlinks.online p c).mpr h.online, h.answered, ?_, ?_, ?_⟩
  · intro j seqId code hmem
    rcases mem_threads_set hmem with hmem | hmem
    · exact (hresponds seqId code hmem).1
    · exact h.asked j seqId code hmem
  · intro j k seqId code code' hmem hmem'
    rcases mem_threads_set hmem with hmem | hmem <;> rcases mem_threads_set hmem' with hmem' | hmem'
    · exact (hresponds seqId code hmem).2.1 code' hmem'
    · exact absurd hmem' ((hresponds seqId code hmem).2.2 k code')
    · exact absurd hmem ((hresponds seqId code' hmem').2.2 j code)
    · exact h.once j k seqId code code' hmem hmem'
  · rcases hdue with ⟨hnone, hshown⟩ | ⟨hnone, hshown⟩
    · obtain ⟨msgs, hmsgs, heq⟩ := h.due
      refine ⟨msgs, hmsgs.congr fun j => ?_, heq.trans hshown.symm⟩
      rw [owed_set]
      split_ifs with hj
      · rw [hnone, hj, howed]
      · rfl
    · refine ⟨_, Or.inr ⟨i, ?_, fun j hj => ?_⟩, hshown⟩
      · rw [owed_set, if_pos rfl]
      · rw [owed_set, if_neg hj, hnone]

omit [DecidableEq ι] in
/-- A request that is sent joins those that the browser waits for in the end. -/
lemma LobbyInvariant.eventual_sendRequest (h : m.LobbyInvariant c p) (r : LobbyRequest) :
    (m.mail.change c fun b => b.sendRequest r).eventual Browser.handleMessage c =
      (m.mail.eventual Browser.handleMessage c).register (m.browser c).nextSeq r := by
  have hchange : (m.mail.change c fun b => b.sendRequest r) =
      m.mail.change c fun b => b.register (m.browser c).nextSeq r := rfl
  rw [hchange, Mail.eventual_change, if_pos rfl]
  intro msg hmsg b
  refine handleMessage_register b r fun body hbody => ?_
  exact lt_irrefl _ (h.answered _ body (hbody ▸ hmsg))

omit [DecidableEq ι] in
/-- Sending a request changes nothing for the lobby yet. -/
lemma LobbyInvariant.sendRequest (h : m.LobbyInvariant c p) (d : ℤ) (r : LobbyRequest) :
    { m with mail := m.mail.change d fun b => b.sendRequest r }.LobbyInvariant c p := by
  have hnext : (m.browser c).nextSeq ≤
      ((m.mail.change d fun b => b.sendRequest r).recipients c).nextSeq := by
    rw [Mail.recipients_change]
    split_ifs
    · exact (lt_add_one _).le
    · exact le_rfl
  refine ⟨h.bijective, h.online, fun seqId body hmem => ?_, fun i seqId code hmem => ?_, h.once, ?_⟩
  · exact lt_of_lt_of_le (h.answered seqId body hmem) hnext
  · exact lt_of_lt_of_le (h.asked i seqId code hmem) hnext
  · obtain ⟨msgs, hmsgs, hshown⟩ := h.due
    refine ⟨msgs, hmsgs, Eq.trans ?_ hshown⟩
    by_cases hd : d = c
    · subst hd
      rw [shownAfter, h.eventual_sendRequest]
      have halike : AlikeBut {(m.browser d).nextSeq}
          ((m.mail.eventual Browser.handleMessage d).register (m.browser d).nextSeq r)
          (m.mail.eventual Browser.handleMessage d) := by
        refine ⟨rfl, fun other hother => ?_⟩
        rw [Browser.register, UnorderedMap.lookup_insert, if_neg (by simpa using hother)]
      have hfold := halike.foldl msgs fun seqId hseq body hmem => ?_
      · rw [hfold.lobby]
        rfl
      · -- no handler answers a request that has not been sent
        obtain ⟨i, hi⟩ := hmsgs.mem hmem
        obtain rfl := Set.mem_singleton_iff.mp hseq
        exact absurd (h.asked i _ _ (respond_of_owed hi).1) (lt_irrefl _)
    · rw [shownAfter, shownAfter, Mail.eventual, Mail.recipients_change, if_neg (Ne.symm hd)]
      rfl

omit [DecidableEq ι] in
/-- A request that is given up before it is confirmed was of no use to the lobby. -/
lemma LobbyInvariant.requestTimeout (h : m.LobbyInvariant c p) (d seqId : ℤ)
    (hkeeps : m.KeepsLobby c p (.requestTimeout d seqId)) :
    { m with mail := m.mail.change d fun b => b.requestTimeout seqId }.LobbyInvariant c p := by
  have hnext : ((m.mail.change d fun b => b.requestTimeout seqId).recipients c).nextSeq =
      (m.browser c).nextSeq := by
    rw [Mail.recipients_change]
    split_ifs <;> rfl
  refine ⟨h.bijective, h.online, fun seqId body hmem => ?_, fun i seqId code hmem => ?_, h.once, ?_⟩
  · exact hnext ▸ h.answered seqId body hmem
  · exact hnext ▸ h.asked i seqId code hmem
  · obtain ⟨msgs, hmsgs, hshown⟩ := h.due
    refine ⟨msgs, hmsgs, Eq.trans ?_ hshown⟩
    rw [shownAfter, shownAfter, Mail.eventual, Mail.recipients_change, Mail.inbox_change,
      Mail.eventual, ← List.foldl_append, ← List.foldl_append]
    split_ifs with hd
    · have halike := (alikeBut_requestTimeout (m.mail.recipients c) seqId).foldl
        (m.mail.inbox c ++ msgs) fun other hother body hmem hconfirms => ?_
      · rw [halike.lobby]
      · obtain rfl := Set.mem_singleton_iff.mp hother
        refine hkeeps hd.symm _ ?_ ⟨body, rfl, hconfirms⟩
        exact (List.mem_append.mp hmem).imp id hmsgs.mem
    · rfl

omit [DecidableEq ι] in
/-- Processing a message brings the browser nearer to where it gets anyway. -/
lemma LobbyInvariant.process (h : m.LobbyInvariant c p) {d : ℤ} {mail : Mail ℤ Message Browser}
    (hmail : m.mail.receive Browser.handleMessage d = some mail) :
    { m with mail := mail }.LobbyInvariant c p := by
  obtain ⟨msg, rest, hinbox, hinbox', -, hrecipients⟩ := Mail.receive_spec hmail
  have hnext : (mail.recipients c).nextSeq = (m.browser c).nextSeq := by
    rw [hrecipients, Function.update_apply]
    split_ifs with hd
    · rw [nextSeq_handleMessage, ← hd]
      rfl
    · rfl
  have hmem : ∀ msg ∈ mail.inbox c, msg ∈ m.mail.inbox c := by
    intro msg' hmsg'
    rw [hinbox', Function.update_apply] at hmsg'
    split_ifs at hmsg' with hd
    · rw [hd, hinbox]
      exact List.mem_cons_of_mem _ hmsg'
    · exact hmsg'
  refine ⟨h.bijective, h.online, fun seqId body hbody => ?_, fun i seqId code hcode => ?_, h.once,
    ?_⟩
  · exact hnext ▸ h.answered seqId body (hmem _ hbody)
  · exact hnext ▸ h.asked i seqId code hcode
  · obtain ⟨msgs, hmsgs, hshown⟩ := h.due
    refine ⟨msgs, hmsgs, ?_⟩
    rw [shownAfter, Mail.eventual_receive hmail]
    exact hshown

/-- A message aside does not reach the lobby, and is waited for in vain. -/
lemma alikeBut_aside (b : Browser) {task : SendTask} {msg : Message}
    (h : GameServer.IsAside c task msg) :
    AlikeBut {seqId | ∃ code, task = .respond c seqId code ∧ code ≠ .ok} (b.handleMessage msg)
      b := by
  cases h with
  | notification hn =>
    refine ⟨congrArg id (lobby_of_not_isLobby b hn), fun seqId _ => ?_⟩
    rw [(requests_of_notification b _).1]
  | @refusal seqId code hcode =>
    obtain ⟨hlobby, hpending⟩ := alikeBut_refusal b seqId hcode
    refine ⟨hlobby, fun other hother => hpending other fun heq => hother ⟨code, ?_, hcode⟩⟩
    rw [Set.mem_singleton_iff.mp heq]

section Proceed

variable {i : ι} {task : SendTask} {rest : List SendTask}

/-- The next task of a handler is done, and no other lobby task takes its place. -/
lemma owed_proceed (i : ι) (rest : List SendTask) (hspec : m.shared.PerformSpec c p task)
    (j : ι) :
    (m.proceed i task rest).owed c p j =
      if j = i then rest.filterMap (SendTask.owed c p) else m.owed c p j := by
  rw [proceed, owed_set, List.filterMap_append]
  have hnone : (m.shared.perform task).tasks.filterMap (SendTask.owed c p) = [] :=
    List.filterMap_eq_nil_iff.mpr fun t ht => (hspec.tasks t ht).1
  rw [hnone, List.nil_append]

lemma mem_threads_proceed (hspec : m.shared.PerformSpec c p task)
    (hthread : m.threads i = task :: rest) {j : ι} {seqId : ℤ} {code : ErrorCode}
    (h : .respond c seqId code ∈ (m.proceed i task rest).threads j) :
    .respond c seqId code ∈ m.threads j := by
  by_cases hj : j = i
  · rw [proceed, hj] at h
    rw [Threads.set_threads_self] at h
    rcases List.mem_append.mp h with h | h
    · exact absurd rfl ((hspec.tasks _ h).2 c seqId code)
    · rw [hj, hthread]
      exact List.mem_cons_of_mem _ h
  · rw [proceed, Threads.set_threads_of_ne _ hj] at h
    exact h

lemma recipients_proceed (i : ι) (task : SendTask) (rest : List SendTask) :
    (m.proceed i task rest).mail.recipients = m.mail.recipients := by
  rw [proceed]
  cases (m.shared.perform task).sends <;> rfl

/-- What a task sends to the player's connection waits in the inbox. -/
lemma inbox_proceed_of_some {msg : Message} (h : (m.shared.perform task).sends = some (c, msg)) :
    (m.proceed i task rest).mail.inbox c = m.mail.inbox c ++ [msg] ∧
      (m.proceed i task rest).mail.eventual Browser.handleMessage c =
        (m.mail.eventual Browser.handleMessage c).handleMessage msg := by
  simp only [proceed, h, Option.elim_some]
  exact ⟨by rw [Mail.inbox_send, if_pos rfl], by rw [Mail.eventual_send, if_pos rfl]⟩

lemma inbox_proceed_of_none (h : ∀ msg, (m.shared.perform task).sends ≠ some (c, msg)) :
    (m.proceed i task rest).mail.inbox c = m.mail.inbox c ∧
      (m.proceed i task rest).mail.eventual Browser.handleMessage c =
        m.mail.eventual Browser.handleMessage c := by
  simp only [proceed]
  cases hsends : (m.shared.perform task).sends with
  | none => exact ⟨rfl, rfl⟩
  | some send =>
    have hne : c ≠ send.1 := by
      rintro rfl
      exact h send.2 hsends
    rw [Option.elim_some, Mail.inbox_send, Mail.eventual_send, if_neg hne, if_neg hne]
    exact ⟨rfl, rfl⟩

/-- A handler keeps the invariant as long as it settles no room of the player. -/
lemma LobbyInvariant.proceed (h : m.LobbyInvariant c p) (hthread : m.threads i = task :: rest)
    (hsettles : ∀ d nowMs, task = .settleByServerResult d nowMs → ¬ m.shared.SettlesRoomOf d p) :
    (m.proceed i task rest).LobbyInvariant c p := by
  have hspec := GameServer.perform_spec h.bijective h.online task
  have howed := owed_proceed i rest hspec
  have hkeeps : ∀ {j seqId code}, .respond c seqId code ∈ (m.proceed i task rest).threads j →
      .respond c seqId code ∈ m.threads j := fun hmem => mem_threads_proceed hspec hthread hmem
  have hnext : ((m.proceed i task rest).browser c).nextSeq = (m.browser c).nextSeq := by
    rw [browser, recipients_proceed]
    rfl
  have hfirst : m.owed c p i = (task.owed c p).toList ++ rest.filterMap (SendTask.owed c p) := by
    rw [owed, hthread, List.filterMap_cons]
    cases task.owed c p <;> rfl
  -- a response that is sent now belongs to a request of the browser
  have hasked : ∀ seqId body, (m.shared.perform task).sends = some (c, .response seqId body) →
      seqId < (m.browser c).nextSeq := by
    intro seqId body hsends
    cases hmsg : task.owed c p with
    | some msg =>
      have hmem : msg ∈ m.owed c p i := by
        rw [hfirst, hmsg]
        exact List.mem_cons_self
      rw [hspec.owed msg hmsg, Option.some.injEq, Prod.mk.injEq] at hsends
      exact h.asked i seqId .ok (respond_of_owed (hsends.2 ▸ hmem)).1
    | none =>
      obtain ⟨code, rfl⟩ := (hspec.aside hmsg _ hsends).respond
      refine h.asked i seqId code ?_
      rw [hthread]
      exact List.mem_cons_self
  obtain ⟨msgs, hmsgs, hshown⟩ := h.due
  refine ⟨hspec.links.bijective h.bijective, (hspec.links.online p c).mpr h.online, ?_,
    fun j seqId code hmem => hnext ▸ h.asked j seqId code (hkeeps hmem),
    fun j k seqId code code' hmem hmem' => h.once j k seqId code code' (hkeeps hmem) (hkeeps hmem'),
    ?_⟩
  · intro seqId body hbody
    rw [hnext]
    by_cases hsends : ∃ msg, (m.shared.perform task).sends = some (c, msg)
    · obtain ⟨msg, hsends⟩ := hsends
      rw [(inbox_proceed_of_some hsends).1] at hbody
      rcases List.mem_append.mp hbody with hbody | hbody
      · exact h.answered seqId body hbody
      · obtain rfl := List.mem_singleton.mp hbody
        exact hasked seqId body hsends
    · rw [(inbox_proceed_of_none (not_exists.mp hsends)).1] at hbody
      exact h.answered seqId body hbody
  · have hserver : (m.proceed i task rest).shared.shown p = m.shared.shown p := hspec.shown hsettles
    rw [hserver, ← hshown]
    cases hmsg : task.owed c p with
    | some msg =>
      -- what is due begins with this message
      rw [hmsg] at hfirst
      have hdue : msgs = m.owed c p i ∧ ∀ j, j ≠ i → m.owed c p j = [] := by
        rcases hmsgs with ⟨-, hnone⟩ | ⟨k, rfl, hothers⟩
        · rw [hnone i] at hfirst
          cases hfirst
        · by_cases hk : i = k
          · exact ⟨by rw [hk], fun j hj => hothers j (hk ▸ hj)⟩
          · rw [hothers i hk] at hfirst
            cases hfirst
      refine ⟨rest.filterMap (SendTask.owed c p), Or.inr ⟨i, ?_, fun j hj => ?_⟩, ?_⟩
      · rw [howed, if_pos rfl]
      · rw [howed, if_neg hj, hdue.2 j hj]
      · rw [shownAfter, (inbox_proceed_of_some (hspec.owed msg hmsg)).2, shownAfter, hdue.1, hfirst]
        rfl
    | none =>
      rw [hmsg] at hfirst
      refine ⟨msgs, hmsgs.congr fun j => ?_, ?_⟩
      · rw [howed]
        split_ifs with hj
        · rw [hj, hfirst]
          rfl
        · rfl
      · by_cases hsends : ∃ msg, (m.shared.perform task).sends = some (c, msg)
        · obtain ⟨msg, hsends⟩ := hsends
          have halike := (alikeBut_aside (m.mail.eventual Browser.handleMessage c)
            (hspec.aside hmsg msg hsends)).foldl msgs fun seqId hseq body hmem => ?_
          · rw [shownAfter, (inbox_proceed_of_some hsends).2, halike.lobby]
            rfl
          · obtain ⟨code, rfl, hcode⟩ := hseq
            obtain ⟨j, hj⟩ := hmsgs.mem hmem
            have htask : SendTask.respond c seqId code ∈ m.threads i := by
              rw [hthread]
              exact List.mem_cons_self
            exact absurd (h.once i j seqId code .ok htask (respond_of_owed hj).1) hcode
        · rw [shownAfter, (inbox_proceed_of_none (not_exists.mp hsends)).2]
          rfl

end Proceed

/-! ### Service calls -/

omit [DecidableEq ι] in
/-- Notifications of success, at least one of them. -/
lemma shown_foldl_matchSuccess {roomId : ℤ} (hroom : |roomId| ≤ 2 ^ 53) (mode : ℤ)
    (players : List ℤ) {msgs : List Message}
    (hmsgs : ∀ msg ∈ msgs, msg = (Notification.matchSuccess roomId mode players).message)
    (hne : msgs ≠ []) (b : Browser) :
    (msgs.foldl Browser.handleMessage b).stores.lobby.shown = (false, roomId) := by
  induction msgs generalizing b with
  | nil => exact absurd rfl hne
  | cons msg msgs ih =>
    obtain ⟨rfl, htail⟩ := List.forall_mem_cons.mp hmsgs
    by_cases hnil : msgs = []
    · rw [hnil]
      exact shown_matchSuccess b hroom mode players
    · exact ih htail hnil _

/-- Notifications of a timeout, at least one of them. -/
lemma shown_foldl_matchTimeout {msgs : List Message}
    (hmsgs : ∀ msg ∈ msgs, ∃ mode, msg = (Notification.matchTimeout mode).message)
    (hne : msgs ≠ []) (b : Browser) :
    (msgs.foldl Browser.handleMessage b).stores.lobby.shown =
      (false, b.stores.lobby.matchedRoomId) := by
  induction msgs generalizing b with
  | nil => exact absurd rfl hne
  | cons msg msgs ih =>
    obtain ⟨⟨mode, rfl⟩, htail⟩ := List.forall_mem_cons.mp hmsgs
    have hfirst := shown_matchTimeout b mode
    by_cases hnil : msgs = []
    · rw [hnil]
      exact hfirst
    · rw [List.foldl_cons, ih htail hnil]
      exact congrArg (Prod.mk false) (Prod.mk.inj hfirst).2

/-- A request and its service call keep the invariant if they owe nothing and change nothing for
the player, or if nobody else owes anything and the messages lead to what the server knows then. -/
lemma LobbyInvariant.request (h : m.LobbyInvariant c p) {i : ι} {d : ℤ} {r : LobbyRequest}
    {s : GameServer} {tasks : List SendTask} {code : ErrorCode}
    (hrequest : m.request i d r s tasks = some m') (hlinks : GameServer.SameLinks m.shared s)
    (hresponds : ∀ seqId code', .respond c seqId code' ∈ tasks →
      d = c ∧ seqId = (m.browser d).nextSeq ∧ code' = code)
    (hdue : tasks.filterMap (SendTask.owed c p) = [] ∧ s.shown p = m.shared.shown p ∨
      (∀ j, m.owed c p j = []) ∧ ∀ b : Browser, b.stores.lobby.shown = m.shared.shown p →
        (d = c → b.pending.lookup (m.browser c).nextSeq = some r) →
          ((tasks.filterMap (SendTask.owed c p)).foldl Browser.handleMessage b).stores.lobby.shown =
            s.shown p) :
    m'.LobbyInvariant c p := by
  refine (h.sendRequest d r).enter hrequest hlinks (fun seqId code' hmem => ?_) (hdue.imp id ?_)
  · obtain ⟨rfl, rfl, rfl⟩ := hresponds seqId code' hmem
    refine ⟨?_, fun code'' hmem' => (hresponds _ _ hmem').2.2.symm, fun j code'' hmem' => ?_⟩
    · rw [browser, browser, Mail.recipients_change, if_pos rfl]
      exact lt_add_one _
    · exact lt_irrefl _ (h.asked j _ _ hmem')
  · rintro ⟨hnone, hafter⟩
    refine ⟨hnone, hafter _ ?_ ?_⟩
    · exact (h.sendRequest d r).shownAfter_nil hnone
    · rintro rfl
      rw [h.eventual_sendRequest, Browser.register, UnorderedMap.lookup_insert, if_pos rfl]

omit [DecidableEq ι] in
/-- The player is online on no other connection. -/
lemma LobbyInvariant.player_iff (h : m.LobbyInvariant c p) {d q : ℤ}
    (hconn : m.shared.sessions.connToPlayer.lookup d = some q) : d = c ↔ p = q := by
  constructor
  · rintro rfl
    rw [(h.bijective _ p).mpr h.online] at hconn
    exact Option.some.inj hconn
  · rintro rfl
    exact h.online.unique ((h.bijective d p).mp hconn)

omit [DecidableEq ι] in
/-- What is owed to the lobby after a match request. -/
lemma owed_matchTasks (r : MatchResult) (d seqId : ℤ) :
    (r.tasks d seqId).filterMap (SendTask.owed c p) =
      (if r.matched then r.matchedPlayers.filterMap fun q =>
        if q = p then
          some (Notification.matchSuccess r.roomId r.mode r.matchedPlayers).message
        else none
      else []) ++
        if d = c ∧ r.code = .ok then [.response seqId (codeBody r.code)] else [] := by
  rw [MatchResult.tasks, List.filterMap_append]
  congr 1
  · split_ifs
    · rw [List.filterMap_map]
      rfl
    · rfl
  · rw [List.filterMap_cons, List.filterMap_nil, SendTask.owed]
    split_ifs <;> rfl

/-- A match request. -/
lemma LobbyInvariant.startMatch (h : m.LobbyInvariant c p) {i : ι} {d nowMs : ℤ}
    (hkeeps : m.KeepsLobby c p (.startMatch i d nowMs))
    (hstep : m.step rng (.startMatch i d nowMs) = some m') : m'.LobbyInvariant c p := by
  have hother : (ServerOp.requestMatch d
      (buildKvBody [(str "mode", toStr (m.browser d).stores.lobby.mode)]) nowMs).IsOther = true :=
    rfl
  have hlinks := GameServer.sameLinks_other rng m.shared hother
  have houtcome := GameServer.match_outcome m.shared d
    (buildKvBody [(str "mode", toStr (m.browser d).stores.lobby.mode)]) nowMs
  rw [GameServer.apply] at hlinks
  rw [step] at hstep
  dsimp only at hstep
  generalize m.shared.handleMatch d _ nowMs = out at hstep hlinks houtcome
  have hresponds : ∀ seqId code', .respond c seqId code' ∈ out.2.tasks d (m.browser d).nextSeq →
      d = c ∧ seqId = (m.browser d).nextSeq ∧ code' = out.2.code := by
    intro seqId code' hmem
    rcases List.mem_append.mp hmem with hmem | hmem
    · split_ifs at hmem
      · obtain ⟨q, -, hq⟩ := List.mem_map.mp hmem
        cases hq
      · cases hmem
    · obtain ⟨rfl, rfl, rfl⟩ := SendTask.respond.inj (List.mem_singleton.mp hmem)
      exact ⟨rfl, rfl, rfl⟩
  refine h.request hstep hlinks hresponds ?_
  rw [owed_matchTasks]
  cases houtcome with
  | refused hcode hmatched => exact Or.inl ⟨by simp [hcode, hmatched], rfl⟩
  | @waiting q player hconn hplayer hlobby hfree hfew =>
    have hjoin : m.shared.CanJoin d :=
      ⟨q, hconn, by simp [PlayerManager.getState, UnorderedMap.at', hplayer, hlobby], hfree⟩
    by_cases hd : d = c
    · subst hd
      obtain rfl := (h.player_iff hconn).mp rfl
      refine Or.inr ⟨((hkeeps hjoin).1 rfl).2, fun b hb hpending => ?_⟩
      simp only [Bool.false_eq_true, if_false, and_self, if_true, List.nil_append, List.foldl_cons,
        List.foldl_nil, handleMessage_code (hpending rfl), Stores.answered, matchStarted_code,
        GameServer.shown_waitingWith]
      exact Prod.ext rfl (Prod.mk.inj hb).2
    · refine Or.inl ⟨by simp [hd], ?_⟩
      rw [GameServer.shown_waitingWith, if_neg (mt (h.player_iff hconn).mpr hd)]
  | @matched q player hconn hplayer hlobby hfree hthree =>
    have hjoin : m.shared.CanJoin d :=
      ⟨q, hconn, by simp [PlayerManager.getState, UnorderedMap.at', hplayer, hlobby], hfree⟩
    have hd : d ≠ c := fun hd => absurd ((hkeeps hjoin).1 hd).1 (not_lt.mpr hthree)
    have hpq : p ≠ q := mt (h.player_iff hconn).mpr hd
    have hsession : m.shared.sessions.playerToSession.lookup p ≠ none := by
      obtain ⟨session, hsession, -⟩ := h.online
      simp [hsession]
    have hshown := GameServer.shown_matchedUp (m.shared.waitingWith player q nowMs) hsession
    dsimp only
    rw [if_neg fun hand : d = c ∧ _ => hd hand.1, List.append_nil, if_pos rfl, hshown]
    by_cases hp : p ∈ (m.shared.waitingWith player q nowMs).matching.waiting.take 3
    · -- the player was among those who waited first
      have hwaiting : p ∈ m.shared.matching.waiting.take 3 := by
        have hjoined : (m.shared.waitingWith player q nowMs).matching.waiting =
            m.shared.matching.waiting ++ [q] := MatchManager.waiting_joined _ _
        rw [hjoined, List.take_append] at hp
        rcases List.mem_append.mp hp with hp | hp
        · exact hp
        · exact absurd (List.mem_singleton.mp (List.mem_of_mem_take hp)) hpq
      obtain ⟨hnone, hroom⟩ := (hkeeps hjoin).2 hthree hwaiting
      refine Or.inr ⟨hnone, fun b _ _ => ?_⟩
      rw [if_pos hp]
      have hexact : |m.shared.rooms.rooms.nextId| ≤ 2 ^ 53 := by
        rw [abs_of_pos m.shared.rooms.rooms.nextId_pos]
        exact hroom
      generalize (m.shared.waitingWith player q nowMs).matching.waiting.take 3 = players at hp ⊢
      refine shown_foldl_matchSuccess hexact 3 players
        (fun msg hmsg => ?_) (fun hnil => ?_) b
      · obtain ⟨q', -, hq'⟩ := List.mem_filterMap.mp hmsg
        split_ifs at hq'
        exact (Option.some.inj hq').symm
      · exact absurd (List.filterMap_eq_nil_iff.mp hnil p hp) (by simp)
    · refine Or.inl ⟨?_, ?_⟩
      · refine List.filterMap_eq_nil_iff.mpr fun q' hq' => if_neg ?_
        rintro rfl
        exact hp hq'
      · rw [if_neg hp, GameServer.shown_waitingWith, if_neg hpq]

/-- A cancelled match. -/
lemma LobbyInvariant.cancelMatch (h : m.LobbyInvariant c p) {i : ι} {d : ℤ}
    (hkeeps : m.KeepsLobby c p (.cancelMatch i d))
    (hstep : m.step rng (.cancelMatch i d) = some m') : m'.LobbyInvariant c p := by
  have hother : (ServerOp.cancelMatch d).IsOther = true := rfl
  have hlinks := GameServer.sameLinks_other rng m.shared hother
  have houtcome := GameServer.cancel_outcome m.shared d
  rw [GameServer.apply] at hlinks
  rw [step] at hstep
  dsimp only at hstep
  generalize m.shared.handleCancelMatch d = out at hstep hlinks houtcome
  have hresponds : ∀ seqId code', .respond c seqId code' ∈ out.2.tasks d (m.browser d).nextSeq →
      d = c ∧ seqId = (m.browser d).nextSeq ∧ code' = out.2.code := by
    intro seqId code' hmem
    obtain ⟨rfl, rfl, rfl⟩ := SendTask.respond.inj (List.mem_singleton.mp hmem)
    exact ⟨rfl, rfl, rfl⟩
  refine h.request hstep hlinks hresponds ?_
  have howed : (out.2.tasks d (m.browser d).nextSeq).filterMap (SendTask.owed c p) =
      if d = c ∧ out.2.code = .ok then
        [.response (m.browser d).nextSeq (codeBody out.2.code)]
      else [] := by
    rw [CancelMatchResult.tasks, List.filterMap_cons, List.filterMap_nil, SendTask.owed]
    split_ifs <;> rfl
  rw [howed]
  cases houtcome with
  | refused hcode => exact Or.inl ⟨by simp [hcode], rfl⟩
  | failed q => exact Or.inl ⟨by simp, rfl⟩
  | @cancelled q hconn hstate =>
    by_cases hd : d = c
    · subst hd
      obtain rfl := (h.player_iff hconn).mp rfl
      refine Or.inr ⟨hkeeps rfl hstate, fun b hb hpending => ?_⟩
      simp only [and_self, if_true, List.foldl_cons, List.foldl_nil,
        handleMessage_code (hpending rfl), Stores.answered, matchCancelled_code,
        GameServer.shown_forceState_lobby]
      exact Prod.ext rfl (Prod.mk.inj hb).2
    · refine Or.inl ⟨by simp [hd], ?_⟩
      rw [GameServer.shown_forceState_lobby, if_neg (mt (h.player_iff hconn).mpr hd)]

/-- Players who waited too long. -/
lemma LobbyInvariant.matchTimeout (h : m.LobbyInvariant c p) {i : ι} {nowMs timeoutMs : ℤ}
    (hkeeps : m.KeepsLobby c p (.matchTimeout i nowMs timeoutMs))
    (hstep : m.step rng (.matchTimeout i nowMs timeoutMs) = some m') : m'.LobbyInvariant c p := by
  have hshown := m.shared.shown_handleMatchTimeout nowMs timeoutMs p
  have henter : m.enter i (m.shared.handleMatchTimeout nowMs timeoutMs).1
      (notifyMatchTimeout (m.shared.handleMatchTimeout nowMs timeoutMs).2) = some m' := hstep
  refine h.enter henter ⟨rfl, fun _ _ => Iff.rfl⟩ (fun seqId code hmem => ?_) ?_
  · obtain ⟨event, -, hevent⟩ := List.mem_map.mp hmem
    cases hevent
  · have hmsgs : ∀ msg ∈ (notifyMatchTimeout
        (m.shared.handleMatchTimeout nowMs timeoutMs).2).filterMap (SendTask.owed c p),
        ∃ mode, msg = (Notification.matchTimeout mode).message := by
      intro msg hmsg
      obtain ⟨task, htask, howed⟩ := List.mem_filterMap.mp hmsg
      obtain ⟨event, -, rfl⟩ := List.mem_map.mp htask
      simp only [SendTask.owed] at howed
      split_ifs at howed
      exact ⟨event.mode, (Option.some.inj howed).symm⟩
    by_cases hlate :
        p ∈ (m.shared.matching.popTimeoutPlayers nowMs timeoutMs).2.map MatchPlayer.playerId
    · have hnone := hkeeps hlate
      refine Or.inr ⟨hnone, ?_⟩
      rw [hshown, if_pos hlate, shownAfter, shown_foldl_matchTimeout hmsgs fun hnil => ?_]
      · exact congrArg (Prod.mk false) (Prod.mk.inj (h.shownAfter_nil hnone)).2
      · obtain ⟨player, hplayer, rfl⟩ := List.mem_map.mp hlate
        have htask : SendTask.notify player.playerId (.matchTimeout player.mode) ∈
            notifyMatchTimeout (m.shared.handleMatchTimeout nowMs timeoutMs).2 :=
          List.mem_map_of_mem (List.mem_map_of_mem hplayer)
        have howed := List.filterMap_eq_nil_iff.mp hnil _ htask
        simp [SendTask.owed, Notification.IsLobby] at howed
    · refine Or.inl ⟨List.filterMap_eq_nil_iff.mpr fun task htask => ?_, ?_⟩
      · obtain ⟨event, hevent, rfl⟩ := List.mem_map.mp htask
        obtain ⟨player, hplayer, rfl⟩ := List.mem_map.mp hevent
        refine if_neg fun hp => hlate ?_
        exact List.mem_map.mpr ⟨player, hplayer, hp.1⟩
      · rw [hshown, if_neg hlate]

omit [DecidableEq ι] in
/-- After an action nothing is owed to a lobby. -/
lemma owed_actionTasks (c p roomId nowMs : ℤ) (reply : Room.ActionReply) :
    ∀ t ∈ reply.tasks roomId nowMs,
      t.owed c p = none ∧ ∀ d seqId code, t ≠ .respond d seqId code := by
  cases reply with
  | error err => simp [Room.ActionReply.tasks]
  | ok result =>
    simp only [Room.ActionReply.tasks]
    split_ifs <;> simp [SendTask.owed]

/-- A call that owes nothing to a lobby. -/
lemma LobbyInvariant.enter_aside (h : m.LobbyInvariant c p) {i : ι} {s : GameServer}
    {tasks : List SendTask} (henter : m.enter i s tasks = some m')
    (hlinks : GameServer.SameLinks m.shared s) (hshown : s.shown p = m.shared.shown p)
    (htasks : ∀ t ∈ tasks, t.owed c p = none ∧ ∀ d seqId code, t ≠ .respond d seqId code) :
    m'.LobbyInvariant c p := by
  refine h.enter henter hlinks (fun seqId code hmem => ?_) (Or.inl ⟨?_, hshown⟩)
  · exact absurd rfl ((htasks _ hmem).2 c seqId code)
  · exact List.filterMap_eq_nil_iff.mpr fun t ht => (htasks t ht).1

/-- A step that keeps the lobby right keeps the invariant. -/
theorem LobbyInvariant.step (h : m.LobbyInvariant c p) {label : MessageLabel ι}
    (hkeeps : m.KeepsLobby c p label) (hstep : m.step rng label = some m') :
    m'.LobbyInvariant c p := by
  have hrooms : ∀ rooms, GameServer.SameLinks m.shared { m.shared with rooms := rooms } :=
    fun _ => ⟨rfl, fun _ _ => Iff.rfl⟩
  cases label with
  | startMatch i d nowMs => exact h.startMatch hkeeps hstep
  | cancelMatch i d => exact h.cancelMatch hkeeps hstep
  | matchTimeout i nowMs timeoutMs => exact h.matchTimeout hkeeps hstep
  | playerAction i d body nowMs =>
    simp only [MessageThreads.step] at hstep
    split at hstep
    · exact h.enter_aside hstep (.refl _) rfl (by simp)
    · exact h.enter_aside hstep (hrooms _) rfl (owed_actionTasks c p _ nowMs _)
  | trusteeAction i roomId playerId nowMs =>
    exact h.enter_aside hstep (hrooms _) rfl (owed_actionTasks c p roomId nowMs _)
  | offlineLose i roomId playerId nowMs =>
    simp only [MessageThreads.step] at hstep
    split at hstep
    · exact h.enter_aside hstep (.refl _) rfl (by simp)
    · exact h.enter_aside hstep (.refl _) rfl (by simp [SendTask.owed])
  | mark mark =>
    cases hstep
    exact ⟨h.bijective, h.online, h.answered, h.asked, h.once, h.due⟩
  | proceed i =>
    simp only [MessageThreads.step] at hstep
    split at hstep
    · cases hstep
    next task rest hthread =>
      cases hstep
      refine h.proceed hthread fun d nowMs htask => hkeeps d ?_
      rw [hthread, htask]
      rfl
  | requestTimeout d seqId =>
    cases hstep
    exact h.requestTimeout d seqId hkeeps
  | process d =>
    obtain ⟨mail, hmail, rfl⟩ := Option.map_eq_some_iff.mp hstep
    exact h.process hmail

/-- In a run whose steps all keep the lobby of a player right, his lobby agrees with the server
whenever his browser is caught up. -/
theorem lobby_agrees_along {m₀ : MessageThreads ι} {labels : List (MessageLabel ι)} {c p : ℤ}
    (hopened : m₀.Opened c p)
    (hkeeps : Run.Along (MessageThreads.step rng) (fun m => m.KeepsLobby c p) m₀ labels) :
    ∀ t, Run.Visits (MessageThreads.step rng) m₀ labels t → t.CaughtUp c p →
      t.LobbyAgrees c p := by
  rintro t ⟨l₁, l₂, rfl, hrun⟩ hcaught
  have hinv : t.LobbyInvariant c p :=
    Run.invariant_along (I := fun m => m.LobbyInvariant c p)
      (fun _ _ _ h hG hstep => h.step hG hstep) hopened.lobbyInvariant
      (Run.along_append hkeeps hrun).1 hrun
  exact hinv.lobbyAgrees hcaught

end MessageThreads

/-! ### Three players -/

namespace GameServer

/-- A player who logs in on a connection that nobody uses. -/
lemma bijective_loggedIn {s : GameServer} (hm : s.sessions.Bijective) {c : ℤ}
    (hfree : s.sessions.connToPlayer.lookup c = none) (p : ℤ) (nickname : CppString) (nowMs : ℤ) :
    (s.loggedIn p nickname c nowMs).sessions.Bijective := by
  refine ((SessionManager.bound_bindLogin _ p c nowMs).bijective_iff hm).mpr fun q hq => ?_
  rw [hfree] at hq
  cases hq

end GameServer

namespace MessageThreads

/-- Three players have logged in. -/
def threePlayers : MessageThreads (Fin 3) :=
  start ((((GameServer.start {} false).loggedIn 1 [] 11 0).loggedIn 2 [] 12 0).loggedIn 3 [] 13 0)
    fun _ => {}

lemma bijective_threePlayers : threePlayers.shared.sessions.Bijective := by
  have hempty : (GameServer.start {} false).sessions.Bijective := by
    intro c p
    simp [GameServer.start, SessionManager.OnlineAt]
  have hone := GameServer.bijective_loggedIn hempty (c := 11) (by decide +kernel) 1 [] 0
  have htwo := GameServer.bijective_loggedIn hone (c := 12) (by decide +kernel) 2 [] 0
  exact GameServer.bijective_loggedIn htwo (by decide +kernel) 3 [] 0

lemma opened_threePlayers {c p : ℤ}
    (hlookup : threePlayers.shared.sessions.connToPlayer.lookup c = some p)
    (hshown : threePlayers.shared.shown p = (false, 0)) : threePlayers.Opened c p where
  bijective := bijective_threePlayers
  online := (bijective_threePlayers c p).mp hlookup
  agrees := by
    obtain ⟨hmatching, hroom⟩ := Prod.mk.inj hshown
    exact ⟨⟨nofun, fun h => absurd h (of_decide_eq_false hmatching)⟩, hroom.symm⟩
  idle _ := rfl
  inbox := rfl

theorem lobby_agrees_after_request :
    threePlayers.Opened 11 1 ∧
      Run.Along (step .sorted) (fun m => m.KeepsLobby 11 1) threePlayers
        [.startMatch 0 11 5, .proceed 0, .process 11] ∧
      ∃ t, Run.Visits (step .sorted) threePlayers [.startMatch 0 11 5, .proceed 0, .process 11] t ∧
        t.CaughtUp 11 1 ∧ t.LobbyAgrees 11 1 := by
  have hopened : threePlayers.Opened 11 1 :=
    opened_threePlayers (by decide +kernel) (by decide +kernel)
  have hkeeps : Run.Along (step .sorted) (fun m => m.KeepsLobby 11 1) threePlayers
      [.startMatch 0 11 5, .proceed 0, .process 11] := by
    have hqueue : threePlayers.shared.matching.queueThree.length = 0 := by decide +kernel
    have htask : (step .sorted threePlayers (.startMatch 0 11 5)).map (fun m =>
        (m.threads 0).head?.bind SendTask.settles) = some none := by decide +kernel
    refine ⟨fun _ => ⟨fun _ => ⟨by omega, fun _ => rfl⟩, fun h => by omega⟩, fun m hm =>
      ⟨fun d hd => ?_, fun _ _ => ⟨trivial, fun _ _ => trivial⟩⟩⟩
    rw [hm, Option.map_some, Option.some.injEq] at htask
    rw [htask] at hd
    cases hd
  have hfacts : (Run.exec (step .sorted) threePlayers
      [.startMatch 0 11 5, .proceed 0, .process 11]).map (fun m =>
        (m.mail.inbox 11, (List.finRange 3).map fun i => m.owed 11 1 i)) =
      some ([], [[], [], []]) := by decide +kernel
  obtain ⟨t, ht, heq⟩ := Option.map_eq_some_iff.mp hfacts
  obtain ⟨hinbox, howed⟩ := Prod.mk.inj heq
  have hcaught : t.CaughtUp 11 1 := by
    refine ⟨hinbox, fun i => ?_⟩
    have hmem : t.owed 11 1 i ∈ ([[], [], []] : List (List Message)) :=
      howed ▸ List.mem_map_of_mem (List.mem_finRange i)
    simpa using hmem
  have hvisits : Run.Visits (step .sorted) threePlayers
      [.startMatch 0 11 5, .proceed 0, .process 11] t := ⟨_, [], (List.append_nil _).symm, ht⟩
  exact ⟨hopened, hkeeps, t, hvisits, hcaught, lobby_agrees_along hopened hkeeps t hvisits hcaught⟩

/-- The request of the third player takes all three to a room. -/
def thirdRequest : List (MessageLabel (Fin 3)) :=
  [.startMatch 0 11 5, .proceed 0, .startMatch 0 12 5, .proceed 0, .startMatch 0 13 5] ++
    List.replicate 7 (.proceed 0)

/-- The third player learns of the room first and that he waits for one after that. -/
theorem third_player_waits_in_room :
    threePlayers.Opened 13 3 ∧
      ∃ t, Run.Visits (step .sorted) threePlayers
          (thirdRequest ++ List.replicate 2 (.process 13)) t ∧
        t.CaughtUp 13 3 ∧ t.shared.players.getState 3 = .inRoom ∧
        (t.browser 13).stores.lobby.matching = true ∧ ¬ t.LobbyAgrees 13 3 := by
  refine ⟨opened_threePlayers (by decide +kernel) (by decide +kernel), ?_⟩
  have hfacts : (Run.exec (step .sorted) threePlayers thirdRequest).map (fun m =>
      (m.mail.inbox 13, (m.browser 13).pending.lookup 1,
        (List.finRange 3).map fun i => m.owed 13 3 i, m.shared.players.getState 3)) =
      some ([(Notification.matchSuccess 1 3 [1, 2, 3]).message, .response 1 (codeBody .ok)],
        some .startMatch, [[], [], []], .inRoom) := by decide +kernel
  obtain ⟨m, hm, heq⟩ := Option.map_eq_some_iff.mp hfacts
  simp only [Prod.mk.injEq] at heq
  obtain ⟨hinbox, hpending, howed, hstate⟩ := heq
  obtain ⟨t, ht, hempty, hbrowser, hthreads⟩ := exec_process .sorted m 13
  rw [hinbox] at ht
  have hwaits : (t.browser 13).stores.lobby.matching = true := by
    rw [hbrowser, Mail.eventual, hinbox]
    -- the success does not touch the request
    have hwait : ((m.browser 13).handleMessage
        (Notification.matchSuccess 1 3 [1, 2, 3]).message).pending.lookup 1 =
          some .startMatch := by
      rw [(requests_of_notification (m.browser 13) _).1]
      exact hpending
    simp only [List.foldl_cons, List.foldl_nil]
    rw [browser] at hwait
    rw [handleMessage_code hwait]
    simp only [Stores.answered, matchStarted_code, if_true]
  have hroom : t.shared.players.getState 3 = .inRoom := by
    rw [hthreads]
    exact hstate
  refine ⟨t, ⟨_, [], (List.append_nil _).symm, ?_⟩, ⟨hempty, fun i => ?_⟩, hroom, hwaits,
    fun h => ?_⟩
  · rw [Run.exec_append, hm]
    exact ht
  · have hmem : m.owed 13 3 i ∈ ([[], [], []] : List (List Message)) :=
      howed ▸ List.mem_map_of_mem (List.mem_finRange i)
    have hnone : m.owed 13 3 i = [] := by simpa using hmem
    rw [owed, hthreads]
    exact hnone
  · rw [h.matching.mp hwaits] at hroom
    cases hroom

end MessageThreads

end DdzServer
