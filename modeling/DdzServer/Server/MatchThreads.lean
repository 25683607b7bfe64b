import DdzServer.Match.MatchQueue
import DdzServer.Server.HandlerCalls
import Mathlib.Algebra.BigOperators.Group.Finset.Piecewise
import Mathlib.Algebra.Order.BigOperators.Group.Finset

/-!
# Trios that wait

The handlers that change the match queue, interleaved call by call. A `HandleMatch` that joined has
one attempt to take three players out of the queue, and loses it when its player's state does not
allow it. As long as a lost attempt takes a player out too, no trio is left waiting.
-/

namespace DdzServer

open Interleaving

/-! ### Timeouts -/

structure TimeoutCall where
  nowMs : ℤ
  timeoutMs : ℤ

inductive TimeoutPoint where
  | popTimeoutPlayers
  | getState (playerId : ℤ) (rest : List ℤ)
  | forceState (playerId : ℤ) (rest : List ℤ)

/-- The loop over the players who waited too long. -/
def TimeoutPoint.leave : List ℤ → Option TimeoutPoint
  | []          => none
  | pid :: rest => some (.getState pid rest)

namespace GameServer

/-- One call of `HandleMatchTimeout`. -/
def timeoutStep (s : GameServer) (call : TimeoutCall) :
    TimeoutPoint → GameServer × Option TimeoutPoint
  | .popTimeoutPlayers =>
    let (matching, late) := s.matching.popTimeoutPlayers call.nowMs call.timeoutMs
    ({ s with matching := matching }, TimeoutPoint.leave (late.map MatchPlayer.playerId))
  | .getState pid rest =>
    (s, if s.players.getState pid = .matching then some (.forceState pid rest)
      else TimeoutPoint.leave rest)
  | .forceState pid rest =>
    ({ s with players := s.players.forceState pid .lobby }, TimeoutPoint.leave rest)

lemma finishes_leave (call : TimeoutCall) (late : List MatchPlayer) (s : GameServer) :
    Finishes (fun s => s.timeoutStep call) s
      (TimeoutPoint.leave (late.map MatchPlayer.playerId))
      { s with players := late.foldl leaveQueue s.players } := by
  induction late generalizing s with
  | nil => exact .done s
  | cons p late ih =>
    refine .call ?_
    by_cases hmatching : s.players.getState p.playerId = .matching
    · simp only [timeoutStep, hmatching, if_true]
      refine .call ?_
      simp only [List.foldl_cons, leaveQueue, hmatching, if_true]
      exact ih _
    · simp only [timeoutStep, hmatching, if_false, List.foldl_cons, leaveQueue]
      exact ih s

/-- Left alone, the calls do what the operation does. -/
lemma finishes_timeout (s : GameServer) (nowMs timeoutMs : ℤ) :
    Finishes (fun s => s.timeoutStep ⟨nowMs, timeoutMs⟩) s (some .popTimeoutPlayers)
      (s.handleMatchTimeout nowMs timeoutMs).1 :=
  .call (finishes_leave _ _ _)

end GameServer

/-! ### The threads -/

/-- A request that works on the match queue. -/
inductive QueueRequest where
  | handleMatch (call : MatchCall)
  | handleCancelMatch (connectionId : ℤ)
  | handleMatchTimeout (call : TimeoutCall)
  | onConnectionClosed (call : CloseCall)

/-- A handler of such a request that has not returned. -/
inductive QueueTask where
  | handleMatch (call : MatchCall) (point : MatchPoint)
  | handleCancelMatch (connectionId : ℤ) (point : CancelPoint)
  | handleMatchTimeout (call : TimeoutCall) (point : TimeoutPoint)
  | onConnectionClosed (call : CloseCall) (point : ClosePoint)

def QueueRequest.first : QueueRequest → QueueTask
  | .handleMatch call               => .handleMatch call .getPlayerIdByConnection
  | .handleCancelMatch connectionId => .handleCancelMatch connectionId .getPlayerIdByConnection
  | .handleMatchTimeout call        => .handleMatchTimeout call .popTimeoutPlayers
  | .onConnectionClosed call        => .onConnectionClosed call .getPlayerIdByConnection

namespace QueueTask

def step (s : GameServer) : QueueTask → GameServer × Option QueueTask
  | .handleMatch call point => (s.matchStep call point).map id (Option.map (.handleMatch call))
  | .handleCancelMatch connectionId point =>
    (s.cancelStep connectionId point).map id (Option.map (.handleCancelMatch connectionId))
  | .handleMatchTimeout call point =>
    (s.timeoutStep call point).map id (Option.map (.handleMatchTimeout call))
  | .onConnectionClosed call point =>
    (s.closeStep call point).map id (Option.map (.onConnectionClosed call))

def IsHandleMatch : QueueTask → Prop
  | .handleMatch _ _ => True
  | _                => False

/-- The player whom a `HandleMatch` cancels in its next call. -/
def cancels : QueueTask → Option ℤ
  | .handleMatch _ (.cancel playerId) => some playerId
  | _                                 => none

end QueueTask

/-- The server and the handlers that run. -/
abbrev MatchThreads (ι : Type) := Threads ι GameServer (Option QueueTask)

inductive QueueLabel (ι : Type) where
  | enter (thread : ι) (request : QueueRequest)
  | step (thread : ι)

/-- The player is in the queue for three, and in the index. -/
def MatchManager.Queued (m : MatchManager) (p : ℤ) : Prop :=
  m.matchingIndex.lookup p = some 3 ∧ p ∈ m.waiting

instance (m : MatchManager) (p : ℤ) : Decidable (m.Queued p) := inferInstanceAs (Decidable (_ ∧ _))

namespace MatchThreads

variable {ι : Type} [DecidableEq ι]

def step (m : MatchThreads ι) : QueueLabel ι → Option (MatchThreads ι)
  | .enter i request =>
    match m.threads i with
    | none   => some (m.set i (m.shared, some request.first))
    | some _ => none
  | .step i => (m.threads i).map fun task => m.set i (task.step m.shared)

/-- No handler runs. -/
def start {κ : Type} (s : GameServer) : MatchThreads κ where
  shared := s
  threads := fun _ => none

/-- No `HandleMatch` is in progress. -/
def Quiet {κ : Type} (m : MatchThreads κ) : Prop :=
  ∀ i, ∀ task ∈ m.threads i, ¬ task.IsHandleMatch

/-- When a `HandleMatch` cancels, its player is still queued. -/
def CancelsQueued {κ : Type} (m : MatchThreads κ) : QueueLabel κ → Prop
  | .enter _ _ => True
  | .step i    => ∀ p ∈ (m.threads i).bind QueueTask.cancels, m.shared.matching.Queued p

end MatchThreads

/-! ### The length of the queue -/

namespace MatchManager

variable (m : MatchManager)

lemma length_join {player : MatchPlayer} (hmode : player.mode = 3) :
    (m.join player).1.queueThree.length =
      m.queueThree.length + if (m.join player).2 then 1 else 0 := by
  rw [join_spec m hmode]
  by_cases hidx : m.matchingIndex.lookup player.playerId = none
  · simp [hidx, joined]
  · simp [hidx]

lemma length_cancel (playerId : ℤ) :
    (m.cancel playerId).1.queueThree.length ≤ m.queueThree.length := by
  unfold cancel
  split
  · exact le_rfl
  · simp only [queueByMode, setQueue]
    split_ifs
    · exact List.length_filter_le _ _
    · exact le_rfl
    · exact le_rfl

/-- A queued player who cancels leaves the queue. -/
lemma length_cancel_lt {playerId : ℤ} (h : m.Queued playerId) :
    (m.cancel playerId).1.queueThree.length < m.queueThree.length := by
  obtain ⟨q, hq, hpid⟩ := List.mem_map.mp h.2
  simp only [cancel, h.1, queueByMode, setQueue, if_true]
  exact List.length_filter_lt_length_iff_exists.mpr ⟨q, hq, by simp [hpid]⟩

lemma length_popTimeoutPlayers (nowMs timeoutMs : ℤ) :
    (m.popTimeoutPlayers nowMs timeoutMs).1.queueThree.length ≤ m.queueThree.length := by
  unfold popTimeoutPlayers
  split_ifs
  · exact le_rfl
  · exact List.length_filter_le _ _

end MatchManager

/-! ### One call -/

namespace QueueTask

/-- The mode of a `HandleMatch` is always three. -/
def ModeThree : QueueTask → Prop
  | .handleMatch _ (.getState _ mode)           => mode = 3
  | .handleMatch _ (.getPlayer _ mode)          => mode = 3
  | .handleMatch _ (.join _ mode _)             => mode = 3
  | .handleMatch _ (.setState _ mode)           => mode = 3
  | .handleMatch _ (.tryPopMatchedPlayers mode) => mode = 3
  | _                                           => True

/-- A handler that has joined has one attempt to take three players out, until it cancels. -/
def attempts : Option QueueTask → ℕ
  | some (.handleMatch _ (.setState _ _))           => 1
  | some (.handleMatch _ (.tryPopMatchedPlayers _)) => 1
  | some (.handleMatch _ (.cancel _))               => 1
  | _                                               => 0

/-- What a call makes of the queue: it is short, or it grows by no more than the attempts. -/
structure Keeps (s : GameServer) (task : QueueTask) (out : GameServer × Option QueueTask) :
    Prop where
  mode : ∀ next, out.2 = some next → next.ModeThree
  queue : out.1.matching.queueThree.length ≤ 2 ∨
    out.1.matching.queueThree.length + attempts (some task) ≤
      s.matching.queueThree.length + attempts out.2

variable {s s' : GameServer} {task next : QueueTask}

lemma keeps_none (h : s'.matching.queueThree.length ≤ 2 ∨
    s'.matching.queueThree.length + attempts (some task) ≤ s.matching.queueThree.length) :
    Keeps s task (s', none) := by
  refine ⟨fun next hnext => ?_, h⟩
  cases hnext

lemma keeps_some (hmode : next.ModeThree)
    (h : s'.matching.queueThree.length + attempts (some task) ≤
      s.matching.queueThree.length + attempts (some next)) : Keeps s task (s', some next) := by
  refine ⟨fun next' hnext => ?_, Or.inr h⟩
  obtain rfl := Option.some.inj hnext
  exact hmode

lemma keeps_enter (call : MatchCall) (roomId : ℤ) (players : List ℤ)
    (htask : attempts (some task) = 0) (h : s'.matching = s.matching) :
    Keeps s task (s', (MatchPoint.enter roomId players).map (handleMatch call)) := by
  cases players with
  | nil => exact keeps_none (Or.inr (by rw [h, htask, Nat.add_zero]))
  | cons pid rest =>
    refine keeps_some trivial ?_
    rw [h, htask]
    exact le_rfl

lemma keeps_matchStep (s : GameServer) (call : MatchCall) (point : MatchPoint)
    (hmode : (handleMatch call point).ModeThree)
    (hcancel : ∀ p ∈ (handleMatch call point).cancels, s.matching.Queued p) :
    Keeps s (handleMatch call point) ((handleMatch call point).step s) := by
  cases point with
  | getPlayerIdByConnection =>
    simp only [step, GameServer.matchStep]
    cases s.sessions.getPlayerIdByConnection call.connectionId with
    | none => exact keeps_none (Or.inr le_rfl)
    | some pid =>
      cases hparse : parseMode call.body with
      | none => exact keeps_none (Or.inr le_rfl)
      | some mode => exact keeps_some (GameServer.parseMode_eq_some hparse) le_rfl
  | getState pid mode =>
    simp only [step, GameServer.matchStep]
    split_ifs
    · exact keeps_some hmode le_rfl
    · exact keeps_none (Or.inr le_rfl)
  | getPlayer pid mode => exact keeps_some hmode le_rfl
  | join pid mode coin =>
    have hthree : MatchPlayer.mode ⟨pid, call.nowMs, coin, mode⟩ = 3 := hmode
    have hlen := s.matching.length_join hthree
    simp only [step, GameServer.matchStep, Prod.map_apply, id_eq]
    split_ifs at hlen ⊢ with hjoined
    · exact keeps_some hmode hlen.le
    · exact keeps_none (Or.inr hlen.le)
  | setState pid mode =>
    simp only [step, GameServer.matchStep, Prod.map_apply, id_eq]
    split_ifs
    · exact keeps_some hmode le_rfl
    · exact keeps_some trivial le_rfl
  | cancel pid =>
    exact keeps_none (Or.inr (s.matching.length_cancel_lt (hcancel pid rfl)))
  | tryPopMatchedPlayers mode =>
    obtain rfl : mode = 3 := hmode
    simp only [step, GameServer.matchStep, s.matching.tryPopMatchedPlayers_spec, Prod.map_apply,
      id_eq]
    split_ifs with hshort
    · exact keeps_none (Or.inl (Nat.le_of_lt_succ hshort))
    · refine keeps_some trivial ?_
      simp only [MatchManager.popped, List.length_drop, attempts]
      omega
  | createRoom mode players => exact keeps_enter call _ players rfl rfl
  | setRoomId roomId pid rest => exact keeps_some trivial le_rfl
  | forceState roomId pid rest => exact keeps_enter call roomId rest rfl rfl

/-- The other handlers let nobody in, and have no attempts. -/
lemma keeps_of_le {out : GameServer × Option QueueTask} (htask : attempts (some task) = 0)
    (hnext : ∀ next, out.2 = some next → ¬ next.IsHandleMatch)
    (h : out.1.matching.queueThree.length ≤ s.matching.queueThree.length) :
    Keeps s task out := by
  refine ⟨fun next heq => ?_, Or.inr ?_⟩
  · have hnot := hnext next heq
    cases next with
    | handleMatch call point => exact absurd trivial hnot
    | _ => trivial
  · omega

lemma keeps_step (s : GameServer) (task : QueueTask) (hmode : task.ModeThree)
    (hcancel : ∀ p ∈ task.cancels, s.matching.Queued p) : Keeps s task (task.step s) := by
  cases task with
  | handleMatch call point => exact keeps_matchStep s call point hmode hcancel
  | handleCancelMatch connectionId point =>
    refine keeps_of_le rfl (fun next heq => ?_) ?_
    · obtain ⟨point', -, rfl⟩ := Option.map_eq_some_iff.mp heq
      exact id
    · cases point with
      | cancel pid => exact s.matching.length_cancel pid
      | _ => exact le_rfl
  | handleMatchTimeout call point =>
    refine keeps_of_le rfl (fun next heq => ?_) ?_
    · obtain ⟨point', -, rfl⟩ := Option.map_eq_some_iff.mp heq
      exact id
    · cases point with
      | popTimeoutPlayers => exact s.matching.length_popTimeoutPlayers call.nowMs call.timeoutMs
      | _ => exact le_rfl
  | onConnectionClosed call point =>
    refine keeps_of_le rfl (fun next heq => ?_) ?_
    · obtain ⟨point', -, rfl⟩ := Option.map_eq_some_iff.mp heq
      exact id
    · cases point with
      | cancel pid => exact s.matching.length_cancel pid
      | _ => exact le_rfl

lemma modeThree_first (request : QueueRequest) : request.first.ModeThree := by
  cases request <;> trivial

end QueueTask

/-! ### Runs -/

namespace MatchThreads

open QueueTask

variable {ι : Type} [DecidableEq ι] {m m' : MatchThreads ι} {label : QueueLabel ι}

/-- There are enough attempts for the players who wait. -/
structure Enough (m : MatchThreads ι) : Prop where
  mode : ∀ i task, m.threads i = some task → task.ModeThree
  attempts : ∃ S : Finset ι,
    m.shared.matching.queueThree.length ≤ 2 + ∑ i ∈ S, attempts (m.threads i)

omit [DecidableEq ι] in
lemma enough_start {s : GameServer} (h : s.matching.queueThree.length < 3) :
    Enough (start s : MatchThreads ι) where
  mode _ _ h := by cases h
  attempts := ⟨∅, Nat.le_of_lt_succ h⟩

lemma sum_attempts_set (m : MatchThreads ι) (i : ι) (out : GameServer × Option QueueTask)
    {S : Finset ι} (hi : i ∈ S) :
    ∑ j ∈ S, QueueTask.attempts ((m.set i out).threads j) + QueueTask.attempts (m.threads i) =
      ∑ j ∈ S, QueueTask.attempts (m.threads j) + QueueTask.attempts out.2 := by
  have hnew := Finset.add_sum_erase S (fun j => QueueTask.attempts ((m.set i out).threads j)) hi
  have hold := Finset.add_sum_erase S (fun j => QueueTask.attempts (m.threads j)) hi
  have hsame : ∑ j ∈ S.erase i, QueueTask.attempts ((m.set i out).threads j) =
      ∑ j ∈ S.erase i, QueueTask.attempts (m.threads j) := by
    refine Finset.sum_congr rfl fun j hj => ?_
    rw [Threads.set_threads_of_ne m (Finset.ne_of_mem_erase hj)]
  rw [Threads.set_threads_self] at hnew
  omega

lemma Enough.set (h : m.Enough) (i : ι) {out : GameServer × Option QueueTask}
    (hmode : ∀ next, out.2 = some next → next.ModeThree)
    (hqueue : out.1.matching.queueThree.length ≤ 2 ∨
      out.1.matching.queueThree.length + QueueTask.attempts (m.threads i) ≤
        m.shared.matching.queueThree.length + QueueTask.attempts out.2) :
    Enough (m.set i out) := by
  constructor
  · intro j task hj
    by_cases hji : j = i
    · rw [hji, Threads.set_threads_self] at hj
      exact hmode task hj
    · rw [Threads.set_threads_of_ne m hji] at hj
      exact h.mode j task hj
  · obtain ⟨S, hS⟩ := h.attempts
    refine ⟨insert i S, ?_⟩
    have hgrow : ∑ j ∈ S, QueueTask.attempts (m.threads j) ≤
        ∑ j ∈ insert i S, QueueTask.attempts (m.threads j) :=
      Finset.sum_le_sum_of_subset (Finset.subset_insert i S)
    have hsum := sum_attempts_set m i out (Finset.mem_insert_self i S)
    rw [Threads.set_shared]
    omega

/-- A step in which no attempt is lost for nothing. -/
lemma Enough.step (h : m.Enough) (hguard : m.CancelsQueued label)
    (hstep : step m label = some m') : m'.Enough := by
  cases label with
  | enter i request =>
    simp only [MatchThreads.step] at hstep
    split at hstep
    next hidle =>
      obtain rfl := Option.some.inj hstep
      refine h.set i (fun next heq => ?_) (Or.inr ?_)
      · obtain rfl := Option.some.inj heq
        exact modeThree_first request
      · rw [hidle]
        cases request <;> exact le_rfl
    · cases hstep
  | step i =>
    obtain ⟨task, htask, rfl⟩ := Option.map_eq_some_iff.mp hstep
    have hcancel : ∀ p ∈ task.cancels, m.shared.matching.Queued p := by
      intro p hp
      refine hguard p ?_
      rw [htask]
      exact hp
    have hkeeps := keeps_step m.shared task (h.mode i task htask) hcancel
    refine h.set i hkeeps.mode ?_
    rw [htask]
    exact hkeeps.queue

omit [DecidableEq ι] in
/-- Without a `HandleMatch` there are no attempts, so nobody waits in vain. -/
lemma Enough.length_lt (h : m.Enough) (hquiet : m.Quiet) :
    m.shared.matching.queueThree.length < 3 := by
  obtain ⟨S, hS⟩ := h.attempts
  have hzero : ∑ i ∈ S, QueueTask.attempts (m.threads i) = 0 := by
    refine Finset.sum_eq_zero fun i _ => ?_
    cases htask : m.threads i with
    | none => rfl
    | some task =>
      have hnot := hquiet i task htask
      cases task with
      | handleMatch call point => exact absurd trivial hnot
      | _ => rfl
  omega

/-- In every run in which each `HandleMatch` that cancels still finds its player in the queue, fewer
than three players wait whenever no `HandleMatch` is in progress. -/
theorem no_stranded_trio {s : GameServer} (hs : s.matching.queueThree.length < 3)
    {labels : List (QueueLabel ι)} (hguard : Run.Along step CancelsQueued (start s) labels) :
    ∀ m, Run.exec step (start s) labels = some m → m.Quiet →
      m.shared.matching.queueThree.length < 3 := by
  intro m hm hquiet
  have henough : m.Enough := Run.invariant_along
    (fun m label m' h hg hstep => Enough.step h hg hstep) (enough_start hs) hguard hm
  exact henough.length_lt hquiet

/-! ### Two runs -/

/-- The first `n` players are connected and in the lobby. -/
def lobby (n : ℕ) : GameServer :=
  (List.range n).foldl
    (fun s k => { s with
      players := (s.players.upsertPlayer (k + 1) [] 1000).forceState (k + 1) .lobby
      sessions := (s.sessions.bindLogin (k + 1) (k + 1) 0).1 })
    (.start {} false)

/-- The players enter `HandleMatch`, one after the other, and join. -/
def joins {n : ℕ} (players : List (Fin n)) : List (QueueLabel (Fin n)) :=
  players.flatMap fun i =>
    .enter i (.handleMatch ⟨i + 1, str "mode=3", 0⟩) :: List.replicate 4 (.step i)

/-- Some players go on for `k` calls, one after the other. -/
def goOn {n : ℕ} (players : List (Fin n)) (k : ℕ) : List (QueueLabel (Fin n)) :=
  players.flatMap fun i => List.replicate k (.step i)

instance {n : ℕ} (m : MatchThreads (Fin n)) (label : QueueLabel (Fin n)) :
    Decidable (m.CancelsQueued label) :=
  match label with
  | .enter _ _ => inferInstanceAs (Decidable True)
  | .step i =>
    inferInstanceAs (Decidable (∀ p ∈ (m.threads i).bind QueueTask.cancels,
      m.shared.matching.Queued p))

instance (task : QueueTask) : Decidable task.IsHandleMatch :=
  match task with
  | .handleMatch _ _ => inferInstanceAs (Decidable True)
  | .handleCancelMatch _ _ | .handleMatchTimeout _ _ | .onConnectionClosed _ _ =>
    inferInstanceAs (Decidable False)

instance {n : ℕ} (m : MatchThreads (Fin n)) : Decidable m.Quiet :=
  inferInstanceAs (Decidable (∀ i, ∀ task ∈ m.threads i, ¬ task.IsHandleMatch))

/-- Twelve players join before the last three go on: those take the other nine out of the queue,
whose states then refuse them. -/
def twelvePlayers : List (QueueLabel (Fin 12)) :=
  joins (List.finRange 12) ++ goOn [9, 10, 11] 9 ++ goOn ((List.finRange 12).take 9) 2

/-- All handlers have returned, and the last three players still wait. -/
theorem trio_left_waiting :
    (lobby 12).matching.queueThree.length < 3 ∧
      ∃ m, Run.exec step (start (lobby 12)) twelvePlayers = some m ∧ m.Quiet ∧
        m.shared.matching.waiting = [10, 11, 12] := by
  refine ⟨by decide +kernel, ?_⟩
  have hfacts : (Run.exec step (start (lobby 12)) twelvePlayers).map (fun m =>
      (decide m.Quiet, m.shared.matching.waiting)) = some (true, [10, 11, 12]) := by decide +kernel
  obtain ⟨m, hm, heq⟩ := Option.map_eq_some_iff.mp hfacts
  simp only [Prod.mk.injEq, decide_eq_true_eq] at heq
  exact ⟨m, hm, heq⟩

/-- Four players join, and the last of them goes on first. -/
def fourPlayers : List (QueueLabel (Fin 4)) :=
  joins (List.finRange 4) ++ goOn [3] 2 ++ goOn [0, 1, 2] 2 ++ goOn [3] 7

/-- All four handlers return, and one of the players waits in the end. -/
theorem no_stranded_trio_of_four :
    Run.Along step CancelsQueued (start (lobby 4)) fourPlayers ∧
      ∃ m, Run.exec step (start (lobby 4)) fourPlayers = some m ∧ m.Quiet ∧
        m.shared.matching.waiting.length = 1 ∧ m.shared.matching.queueThree.length < 3 := by
  have hguard : Run.Along step CancelsQueued (start (lobby 4)) fourPlayers := by decide +kernel
  have hfacts : (Run.exec step (start (lobby 4)) fourPlayers).map (fun m =>
      (decide m.Quiet, m.shared.matching.waiting.length)) = some (true, 1) := by decide +kernel
  obtain ⟨m, hm, heq⟩ := Option.map_eq_some_iff.mp hfacts
  simp only [Prod.mk.injEq, decide_eq_true_eq] at heq
  obtain ⟨hquiet, hwaiting⟩ := heq
  exact ⟨hguard, m, hm, hquiet, hwaiting,
    no_stranded_trio (by decide +kernel) hguard m hm hquiet⟩

end MatchThreads

end DdzServer
