import DdzServer.Server.HandlerCalls
import DdzServer.Server.ServerThreads

/-!
# The timer among the handlers

`TimerLoop` copies all sessions and then makes its calls for one player after another, while
handlers run in other threads. A player who is back may still be played for, or lose, because the
copy of the session says offline.
-/

namespace DdzServer

open Interleaving UnorderedMap

/-- What a thread is at: nothing, a handler, or a round of `TimerLoop`, where `loser` is the player
who loses by the settlement that is in progress. -/
inductive ServerTask where
  | idle
  | handler (call : HandlerCall)
  | tick (th : ServerThread) (loser : Option ℤ)

/-- A round that goes on with the next call; without one the thread is idle. -/
def ServerTask.ofTick (th : ServerThread) (loser : Option ℤ) : ServerTask :=
  match th with
  | { call := none, timer := .idle } => .idle
  | th => .tick th loser

def ServerTask.ofHandler : Option HandlerCall → ServerTask
  | none      => .idle
  | some call => .handler call

/-- The server with threads for its handlers and its timer. -/
abbrev TickThreads (ι : Type) := Threads ι World ServerTask

inductive TickLabel (ι : Type) where
  | enter (thread : ι) (op : ServerOp)
  | other (op : ServerOp)
  | timerLoop (thread : ι) (sessions : List Session) (nowMs : ℤ)
  | step (thread : ι) (nowMs : ℤ)

/-! ### The timer's calls -/

namespace ServerThread

/-- The player against whom the next call settles, if it is the one that finds a winner. -/
def losing : ServerThread → Option ℤ
  | { call := none, timer := .atSession _ session _ .pickWinnerForOfflineLose } =>
    some session.playerId
  | _ => none

/-- The player whom the next call of the thread makes a trustee, plays for, or lets lose. -/
def actsOn (th : ServerThread) (loser : Option ℤ) : Option ℤ :=
  match th with
  | { call := some call, timer := _ } =>
    if call.kind = .offlineTimeoutSettlement then loser else none
  | { call := none, timer := .atSession _ session _ .markPlayerTrustee } => some session.playerId
  | { call := none, timer := .atSession _ session _ .applyTrusteeAction } => some session.playerId
  | _ => none

end ServerThread

/-- In the copy of the sessions the player has been offline for 30 seconds. -/
def Session.IsLate (nowMs : ℤ) (session : Session) : Prop :=
  session.online = false ∧ 0 < session.offlineAtMs ∧ 30000 ≤ nowMs - session.offlineAtMs

instance (nowMs : ℤ) (session : Session) : Decidable (session.IsLate nowMs) :=
  inferInstanceAs (Decidable (_ ∧ _))

/-- The players of late sessions. -/
def latePlayers (nowMs : ℤ) (sessions : List Session) : List ℤ :=
  (sessions.filter fun session => session.IsLate nowMs).map Session.playerId

namespace TimerLoop

/-- The players whom the rest of the round may act on. -/
def pending : TimerLoop → List ℤ
  | .idle                             => []
  | .atSession nowMs session rest _   => latePlayers nowMs (session :: rest)

end TimerLoop

namespace ServerTask

def actsOn : ServerTask → Option ℤ
  | .tick th loser => th.actsOn loser
  | _ => none

/-- The players whom a round in progress may still act on. -/
def pending : ServerTask → List ℤ
  | .tick th loser =>
    (if th.call.isSome then loser.toList else []) ++ th.timer.pending
  | _ => []

end ServerTask

/-- The player whom the next call of a handler binds to a connection. -/
def HandlerCall.binds : HandlerCall → Option ℤ
  | .login call .bindLogin                  => some call.playerId
  | .reconnect call (.rebindForReconnect _) => some call.playerId
  | _ => none

def ServerTask.binds : ServerTask → Option ℤ
  | .handler call => call.binds
  | _ => none

/-- The session of the player is online. -/
def SessionManager.isOnline (m : SessionManager) (p : ℤ) : Bool :=
  (m.getSessionByPlayer p).any Session.online

/-! ### The steps -/

namespace TickThreads

variable {ι : Type} [DecidableEq ι] (rng : Shuffler)

/-- One call of a thread. -/
def taskStep (w : World) (nowMs : ℤ) : ServerTask → Option (World × ServerTask)
  | .idle          => none
  | .handler call  =>
    let (s, next) := w.server.handlerStep call
    some ({ w with server := s }, .ofHandler next)
  | .tick th loser =>
    (w.threadStep rng nowMs th).map fun out =>
      (out.1, .ofTick out.2 (if th.call.isSome then loser else th.losing))

/-- One step. -/
def step (m : TickThreads ι) : TickLabel ι → Option (TickThreads ι)
  | .enter i op =>
    match m.threads i with
    | .idle =>
      if op.IsHandler then
        some (m.set i (m.shared, .ofHandler (m.shared.server.firstCall op)))
      else none
    | _ => none
  | .other op =>
    if op.IsHandler then none
    else some { m with shared := { m.shared with server := m.shared.server.apply rng op } }
  | .timerLoop i sessions nowMs =>
    match m.threads i with
    | .idle =>
      -- the list has every session once, in any order
      if (sessions : Multiset Session) = values m.shared.server.sessions.playerToSession then
        some (m.set i (m.shared, .ofTick { timer := .next nowMs sessions } none))
      else none
    | _ => none
  | .step i nowMs => (taskStep rng m.shared nowMs (m.threads i)).map (m.set i)

/-- A server that was just started, with idle threads. -/
def start (auth : AuthTokenService) (redisEnabled : Bool) : TickThreads ι where
  shared := { server := .start auth redisEnabled }
  threads := fun _ => .idle

/-- The session of the player is online. -/
def isOnline (m : TickThreads ι) (p : ℤ) : Bool := m.shared.server.sessions.isOnline p

/-- The step does not play for, mark or defeat a player who is online. -/
def ActsOffline (m : TickThreads ι) : TickLabel ι → Prop
  | .step i _ => ∀ p ∈ (m.threads i).actsOn, m.isOnline p = false
  | _ => True

/-- The step binds no player whom a round in progress may still act on. -/
def BindsNoPending (m : TickThreads ι) : TickLabel ι → Prop
  | .step i _ => ∀ p ∈ (m.threads i).binds, ∀ j, p ∉ (m.threads j).pending
  | _ => True

end TickThreads

/-! ### Who comes online -/

namespace SessionManager

variable {m m' m'' : SessionManager} {bound : Option ℤ}

/-- Every session is stored under its player. -/
def Keyed (m : SessionManager) : Prop :=
  ∀ p session, m.playerToSession.lookup p = some session → session.playerId = p

/-- Nobody comes online but for the given player. -/
structure Brings (m m' : SessionManager) (bound : Option ℤ) : Prop where
  keyed : m.Keyed → m'.Keyed
  online : ∀ p, bound ≠ some p → m'.isOnline p = true → m.isOnline p = true

lemma Brings.refl (m : SessionManager) : m.Brings m bound := ⟨id, fun _ _ => id⟩

lemma Brings.trans (h : m.Brings m' bound) (h' : m'.Brings m'' bound) : m.Brings m'' bound :=
  ⟨fun hm => h'.keyed (h.keyed hm), fun p hp hm => h.online p hp (h'.online p hp hm)⟩

/-- One session is written. -/
lemma brings_insert {pid : ℤ} {session : Session} (conns : UnorderedMap ℤ ℤ)
    (hkey : m.Keyed → session.playerId = pid)
    (honline : bound ≠ some pid → session.online = true → m.isOnline pid = true) :
    m.Brings { connToPlayer := conns
               playerToSession := Finmap.insert pid session m.playerToSession } bound := by
  constructor
  · intro hm p other hother
    dsimp only at hother
    rw [lookup_insert] at hother
    split_ifs at hother with hp
    · obtain rfl := Option.some.inj hother
      rw [hp]
      exact hkey hm
    · exact hm p other hother
  · intro p hp hm
    rw [isOnline, getSessionByPlayer] at hm
    dsimp only at hm
    rw [lookup_insert] at hm
    split_ifs at hm with heq
    · rw [heq]
      exact honline (heq ▸ hp) hm
    · exact hm

lemma isOnline_of_lookup {p : ℤ} {session : Session}
    (h : m.playerToSession.lookup p = some session) : m.isOnline p = session.online := by
  rw [isOnline, getSessionByPlayer, h]
  rfl

lemma brings_bindLogin (m : SessionManager) (pid connectionId nowMs : ℤ) :
    m.Brings (m.bindLogin pid connectionId nowMs).1 (some pid) :=
  brings_insert _ (fun _ => rfl) fun h => absurd rfl h

lemma brings_rebindForReconnect (m : SessionManager) (pid connectionId nowMs : ℤ) :
    m.Brings (m.rebindForReconnect pid connectionId nowMs).1 (some pid) := by
  unfold rebindForReconnect
  split
  · exact .refl m
  next session hsession =>
    exact brings_insert _ (fun hm => hm pid session hsession) fun h => absurd rfl h

lemma brings_updateHeartbeat (m : SessionManager) (connectionId nowMs : ℤ) :
    m.Brings (m.updateHeartbeatByConnection connectionId nowMs).1 bound := by
  unfold updateHeartbeatByConnection
  split
  · exact .refl m
  next pid hconn =>
    split
    · exact .refl m
    next session hsession =>
      exact brings_insert _ (fun hm => hm pid session hsession) fun _ honline =>
        (isOnline_of_lookup hsession).trans honline

lemma brings_markOfflineByConnection (m : SessionManager) (connectionId nowMs : ℤ) :
    m.Brings (m.markOfflineByConnection connectionId nowMs).1 bound := by
  unfold markOfflineByConnection
  split
  · exact .refl m
  next pid hconn =>
    dsimp only
    split
    · exact ⟨id, fun _ _ => id⟩
    next session hsession =>
      exact brings_insert _ (fun hm => hm pid session hsession) fun _ honline =>
        absurd honline Bool.false_ne_true

lemma brings_setRoomId (m : SessionManager) (pid roomId : ℤ) :
    m.Brings (m.setRoomId pid roomId).1 bound := by
  unfold setRoomId
  split
  · exact .refl m
  next session hsession =>
    exact brings_insert _ (fun hm => hm pid session hsession) fun _ honline =>
      (isOnline_of_lookup hsession).trans honline

end SessionManager

namespace GameServer

variable {s : GameServer}

lemma brings_settlementStep (d : ServerSettlementDecision) (nowMs : ℤ) (point : SettlementPoint)
    (bound : Option ℤ) :
    s.sessions.Brings (s.settlementStep d nowMs point).1.sessions bound := by
  cases point with
  | clearRoomId room pid rest result => exact SessionManager.brings_setRoomId _ pid 0
  | tryBeginSettlement =>
    simp only [settlementStep]
    split_ifs
    all_goals exact .refl _
  | getRoomById =>
    simp only [settlementStep]
    split
    all_goals exact .refl _
  | getPlayer =>
    simp only [settlementStep]
    split
    all_goals exact .refl _
  | persistSettlementTransaction =>
    simp only [settlementStep]
    split
    all_goals exact .refl _
  | _ => exact .refl _

/-- A call of a handler brings nobody online but the player it binds. -/
lemma brings_handlerStep (call : HandlerCall) :
    s.sessions.Brings (s.handlerStep call).1.sessions call.binds := by
  cases call with
  | login c point =>
    cases point with
    | bindLogin => exact SessionManager.brings_bindLogin _ _ _ _
    | _ => exact .refl _
  | reconnect c point =>
    cases point with
    | getSessionByPlayer =>
      simp only [handlerStep, reconnectStep]
      split
      · exact .refl _
      · split_ifs
        all_goals exact .refl _
    | rebindForReconnect roomId => exact SessionManager.brings_rebindForReconnect _ _ _ _
    | forceState roomId => exact .refl _
  | requestMatch c point =>
    cases point with
    | getPlayerIdByConnection =>
      simp only [handlerStep, matchStep]
      split
      all_goals exact .refl _
    | setRoomId roomId pid rest => exact SessionManager.brings_setRoomId _ pid roomId
    | _ => exact .refl _
  | cancelMatch connectionId point => cases point <;> exact .refl _
  | connectionClosed c point =>
    cases point with
    | markOfflineByConnection pid => exact SessionManager.brings_markOfflineByConnection _ _ _
    | _ => exact .refl _
  | settle d nowMs point =>
    have h := brings_settlementStep (s := s) d nowMs point (HandlerCall.settle d nowMs point).binds
    simp only [handlerStep]
    split
    next hstep => rwa [hstep] at h
    next hstep => rwa [hstep] at h

/-- Nor does an operation that is no handler. -/
lemma brings_apply (rng : Shuffler) {op : ServerOp} (hop : ¬ op.IsHandler = true)
    (bound : Option ℤ) : s.sessions.Brings (s.apply rng op).sessions bound := by
  cases op with
  | sessionRefresh body nowMs redis =>
    obtain ⟨auth, heq⟩ := handleSessionRefresh_fst s body nowMs redis
    rw [apply, heq]
    exact .refl _
  | heartbeat connectionId nowMs => exact SessionManager.brings_updateHeartbeat _ _ _
  | matchTimeout nowMs timeoutMs => exact .refl _
  | inRoom op => exact .refl _
  | setTxFailpoint failpoint => exact .refl _
  | _ => exact absurd rfl hop

end GameServer

/-! ### What a round has left to do -/

namespace TimerLoop

/-- The session a round stands at has passed the checks before its point. -/
def Checked : TimerLoop → Prop
  | .idle => True
  | .atSession _ _ _ .markPlayerOnline            => True
  | .atSession _ session _ .markPlayerOffline     =>
    session.online = false ∧ 0 < session.offlineAtMs
  | .atSession nowMs session _ _                  => session.IsLate nowMs

lemma checked_next (nowMs : ℤ) (sessions : List Session) : (next nowMs sessions).Checked := by
  induction sessions with
  | nil => trivial
  | cons session rest ih =>
    unfold next
    split_ifs with hroom honline hsince
    · exact ih
    · trivial
    · exact ih
    · exact ⟨by simpa using honline, not_le.mp hsince⟩

lemma pending_next (nowMs : ℤ) (sessions : List Session) :
    (next nowMs sessions).pending ⊆ latePlayers nowMs sessions := by
  induction sessions with
  | nil => exact List.Subset.refl _
  | cons session rest ih =>
    have hrest : latePlayers nowMs rest ⊆ latePlayers nowMs (session :: rest) :=
      List.map_subset _ (List.filter_subset _ (List.subset_cons_self _ _))
    unfold next
    split_ifs
    · exact List.Subset.trans ih hrest
    · exact List.Subset.refl _
    · exact List.Subset.trans ih hrest
    · exact List.Subset.refl _

variable {nowMs : ℤ} {session : Session} {rest : List Session}

lemma mem_pending_of_late (h : session.IsLate nowMs) (rest : List Session) (point : TimerPoint) :
    session.playerId ∈ (TimerLoop.atSession nowMs session rest point).pending := by
  refine List.mem_map_of_mem (List.mem_filter.mpr ⟨List.mem_cons_self, ?_⟩)
  exact decide_eq_true h

lemma pending_next_subset (point : TimerPoint) :
    (next nowMs rest).pending ⊆ (TimerLoop.atSession nowMs session rest point).pending :=
  List.Subset.trans (pending_next nowMs rest)
    (List.map_subset _ (List.filter_subset _ (List.subset_cons_self _ _)))

/-- The check for a long absence leaves a checked round with no more players. -/
lemma checkOfflineLose_spec (h : session.online = false ∧ 0 < session.offlineAtMs)
    (point : TimerPoint) :
    (checkOfflineLose nowMs session rest).Checked ∧
      (checkOfflineLose nowMs session rest).pending ⊆
        (TimerLoop.atSession nowMs session rest point).pending := by
  unfold checkOfflineLose
  split_ifs with hlose
  · exact ⟨⟨h.1, h.2, by omega⟩, List.Subset.refl _⟩
  · exact ⟨checked_next nowMs rest, pending_next_subset point⟩

end TimerLoop

namespace World

variable {loopMs : ℤ} {session : Session} {rest : List Session} {point : TimerPoint}

lemma sessions_afterAction (w : World) (kind : SettlementKind) (roomId nowMs : ℤ)
    (out : RoomManager × Room.ActionReply) :
    (w.afterAction kind roomId nowMs out).1.server.sessions = w.server.sessions := by
  unfold afterAction
  split
  · rfl
  · split_ifs
    all_goals rfl

lemma sessions_timerStep (rng : Shuffler) (w : World) (nowMs loopMs : ℤ) (session : Session)
    (rest : List Session) (point : TimerPoint) :
    (w.timerStep rng nowMs loopMs session rest point).1.server.sessions = w.server.sessions := by
  cases point with
  | applyTrusteeAction => exact sessions_afterAction _ _ _ _ _
  | pickWinnerForOfflineLose =>
    simp only [timerStep]
    split
    all_goals rfl
  | _ => rfl

/-- One call for a session leaves a checked round with no more players. -/
lemma timerStep_spec (rng : Shuffler) (w : World) (nowMs : ℤ)
    (h : (TimerLoop.atSession loopMs session rest point).Checked) :
    (w.timerStep rng nowMs loopMs session rest point).2.timer.Checked ∧
      (w.timerStep rng nowMs loopMs session rest point).2.timer.pending ⊆
        (TimerLoop.atSession loopMs session rest point).pending := by
  have hnext : ∀ point : TimerPoint, (TimerLoop.next loopMs rest).Checked ∧
      (TimerLoop.next loopMs rest).pending ⊆
        (TimerLoop.atSession loopMs session rest point).pending := fun point =>
    ⟨TimerLoop.checked_next loopMs rest, TimerLoop.pending_next_subset point⟩
  cases point with
  | markPlayerOnline => exact hnext _
  | markPlayerOffline =>
    simp only [timerStep]
    split_ifs with hlate
    · exact ⟨⟨h.1, h.2, hlate⟩, List.Subset.refl _⟩
    · exact TimerLoop.checkOfflineLose_spec h _
  | markPlayerTrustee => exact ⟨h, List.Subset.refl _⟩
  | getRoomById =>
    simp only [timerStep]
    split_ifs
    · exact ⟨h, List.Subset.refl _⟩
    · exact TimerLoop.checkOfflineLose_spec ⟨h.1, h.2.1⟩ _
  | applyTrusteeAction => exact TimerLoop.checkOfflineLose_spec ⟨h.1, h.2.1⟩ _
  | pickWinnerForOfflineLose =>
    simp only [timerStep]
    split
    all_goals exact hnext _

end World

namespace ServerTask

variable {rng : Shuffler} {w w' : World} {th th' : ServerThread} {loser : Option ℤ} {nowMs : ℤ}

/-- A round in progress is checked. -/
def Checked : ServerTask → Prop
  | .tick th _ => th.timer.Checked
  | _ => True

lemma checked_ofTick (h : th.timer.Checked) : (ofTick th loser).Checked := by
  unfold ofTick
  split
  · trivial
  · exact h

lemma pending_ofTick : (ofTick th loser).pending = (ServerTask.tick th loser).pending := by
  unfold ofTick
  split
  · rfl
  · rfl

lemma pending_ofHandler (next : Option HandlerCall) : (ofHandler next).pending = [] := by
  cases next with
  | none => rfl
  | some call => rfl

lemma checked_ofHandler (next : Option HandlerCall) : (ofHandler next).Checked := by
  cases next with
  | none => trivial
  | some call => trivial

/-- The next call of a checked round acts on a player whom the round may act on. -/
lemma mem_pending_of_actsOn {task : ServerTask} (h : task.Checked) {p : ℤ}
    (hp : task.actsOn = some p) : p ∈ task.pending := by
  cases task with
  | idle => cases hp
  | handler call => cases hp
  | tick th loser =>
    obtain ⟨call, timer⟩ := th
    cases call with
    | some call =>
      have hloser : loser = some p := by
        simp only [actsOn, ServerThread.actsOn] at hp
        split_ifs at hp
        exact hp
      simp [pending, hloser]
    | none =>
      cases timer with
      | idle => cases hp
      | atSession loopMs session rest point =>
        have hpending : p = session.playerId → session.IsLate loopMs →
            p ∈ (ServerTask.tick ⟨none, .atSession loopMs session rest point⟩ loser).pending := by
          rintro rfl hlate
          exact TimerLoop.mem_pending_of_late hlate rest point
        cases point with
        | markPlayerTrustee => exact hpending (Option.some.inj hp).symm h
        | applyTrusteeAction => exact hpending (Option.some.inj hp).symm h
        | _ => cases hp

/-- A call of a round leaves it checked, adds no player to act on, and brings nobody online. -/
lemma tickStep_spec (loser : Option ℤ) (h : th.timer.Checked)
    (hstep : w.threadStep rng nowMs th = some (w', th')) :
    let task := ofTick th' (if th.call.isSome then loser else th.losing)
    task.Checked ∧ task.pending ⊆ (ServerTask.tick th loser).pending ∧
      w.server.sessions.Brings w'.server.sessions none := by
  intro task
  obtain ⟨call, timer⟩ := th
  cases call with
  | some call =>
    simp only [World.threadStep, Option.some.injEq, Prod.mk.injEq] at hstep
    obtain ⟨rfl, rfl⟩ := hstep
    refine ⟨checked_ofTick h, ?_, ?_⟩
    · rw [pending_ofTick]
      simp only [pending, Option.isSome_some, if_true]
      split_ifs
      · exact List.Subset.refl _
      · exact List.subset_append_right _ _
    · have hbrings := w.server.brings_settlementStep call.decision call.nowMs call.point none
      unfold World.settlementStep
      split
      next hout => rwa [hout] at hbrings
      next hout => rwa [hout] at hbrings
  | none =>
    cases timer with
    | idle => cases hstep
    | atSession loopMs session rest point =>
      obtain ⟨hchecked, hpending⟩ := World.timerStep_spec rng w nowMs h
      have hsessions := World.sessions_timerStep rng w nowMs loopMs session rest point
      simp only [World.threadStep, Option.some.injEq] at hstep
      rw [hstep] at hchecked hpending hsessions
      refine ⟨checked_ofTick hchecked, ?_, hsessions ▸ .refl _⟩
      have hlosing : (ServerThread.losing ⟨none, .atSession loopMs session rest point⟩).toList ⊆
          (TimerLoop.atSession loopMs session rest point).pending := by
        cases point with
        | pickWinnerForOfflineLose =>
          have hmem := TimerLoop.mem_pending_of_late h rest .pickWinnerForOfflineLose
          simpa [ServerThread.losing] using hmem
        | _ => exact List.nil_subset _
      rw [pending_ofTick]
      simp only [pending, Option.isSome_none, Bool.false_eq_true, if_false, List.nil_append]
      split_ifs
      · exact List.append_subset.mpr ⟨hlosing, hpending⟩
      · exact hpending

end ServerTask

namespace TickThreads

variable {ι : Type} [DecidableEq ι] {rng : Shuffler} {m m' : TickThreads ι} {label : TickLabel ι}

/-- Whoever a round may still act on is offline. -/
structure Sound (m : TickThreads ι) : Prop where
  keyed : m.shared.server.sessions.Keyed
  checked : ∀ i, (m.threads i).Checked
  offline : ∀ i, ∀ p ∈ (m.threads i).pending, m.isOnline p = false

omit [DecidableEq ι] in
lemma sound_start (auth : AuthTokenService) (redisEnabled : Bool) :
    Sound (start auth redisEnabled : TickThreads ι) where
  keyed := fun _ _ h => by cases h
  checked _ := trivial
  offline _ _ h := by cases h

omit [DecidableEq ι] in
/-- Nobody whom a round may still act on comes online. -/
lemma Sound.offline_of_brings (h : m.Sound) {sessions : SessionManager} {bound : Option ℤ}
    (hbrings : m.shared.server.sessions.Brings sessions bound)
    (hbound : ∀ p, bound = some p → ∀ j, p ∉ (m.threads j).pending) (i : ι) :
    ∀ p ∈ (m.threads i).pending, sessions.isOnline p = false := by
  intro p hp
  have hold := h.offline i p hp
  rw [Bool.eq_false_iff] at hold ⊢
  exact fun hnew => hold (hbrings.online p (fun hb => hbound p hb i hp) hnew)

/-- A step of one thread. -/
lemma Sound.set (h : m.Sound) (i : ι) {w : World} {task : ServerTask} (bound : Option ℤ)
    (hbrings : m.shared.server.sessions.Brings w.server.sessions bound)
    (hbound : ∀ p, bound = some p → ∀ j, p ∉ (m.threads j).pending) (hchecked : task.Checked)
    (hpending : ∀ p ∈ task.pending,
      p ∈ (m.threads i).pending ∨ w.server.sessions.isOnline p = false) :
    Sound (m.set i (w, task)) := by
  refine ⟨hbrings.keyed h.keyed, fun j => ?_, fun j p hp => ?_⟩
  · by_cases hj : j = i
    · rw [hj, Threads.set_threads_self]
      exact hchecked
    · rw [Threads.set_threads_of_ne m hj]
      exact h.checked j
  · by_cases hj : j = i
    · rw [hj, Threads.set_threads_self] at hp
      rcases hpending p hp with hp | hp
      · exact h.offline_of_brings hbrings hbound i p hp
      · exact hp
    · rw [Threads.set_threads_of_ne m hj] at hp
      exact h.offline_of_brings hbrings hbound j p hp

/-- The sessions that a round has copied are stored under their players. -/
lemma offline_of_late {sessions : SessionManager} (h : sessions.Keyed) {order : List Session}
    (horder : (order : Multiset Session) = values sessions.playerToSession) {nowMs p : ℤ}
    (hp : p ∈ latePlayers nowMs order) : sessions.isOnline p = false := by
  obtain ⟨session, hsession, rfl⟩ := List.mem_map.mp hp
  obtain ⟨hmem, hlate⟩ := List.mem_filter.mp hsession
  have hvalues : session ∈ values sessions.playerToSession := by
    rw [← horder]
    exact hmem
  obtain ⟨pid, hlookup⟩ := mem_values.mp hvalues
  rw [h pid session hlookup, SessionManager.isOnline_of_lookup hlookup]
  exact (of_decide_eq_true hlate).1

/-- A step that binds no pending player. -/
lemma Sound.step (h : m.Sound) (hguard : m.BindsNoPending label)
    (hstep : step rng m label = some m') : m'.Sound := by
  cases label with
  | enter i op =>
    simp only [TickThreads.step] at hstep
    split at hstep
    next hidle =>
      split_ifs at hstep
      obtain rfl := Option.some.inj hstep
      refine h.set i none (.refl _) (by simp) (ServerTask.checked_ofHandler _) ?_
      simp [ServerTask.pending_ofHandler]
    · cases hstep
  | other op =>
    simp only [TickThreads.step] at hstep
    split_ifs at hstep with hop
    obtain rfl := Option.some.inj hstep
    have hbrings := m.shared.server.brings_apply rng hop none
    exact ⟨hbrings.keyed h.keyed, h.checked, h.offline_of_brings hbrings (by simp)⟩
  | timerLoop i sessions nowMs =>
    simp only [TickThreads.step] at hstep
    split at hstep
    next hidle =>
      split_ifs at hstep with horder
      obtain rfl := Option.some.inj hstep
      refine h.set i none (.refl _) (by simp)
        (ServerTask.checked_ofTick (TimerLoop.checked_next nowMs sessions)) fun p hp => ?_
      rw [ServerTask.pending_ofTick] at hp
      exact Or.inr (offline_of_late h.keyed horder (TimerLoop.pending_next nowMs sessions hp))
    · cases hstep
  | step i nowMs =>
    obtain ⟨out, hout, rfl⟩ := Option.map_eq_some_iff.mp hstep
    cases htask : m.threads i with
    | idle =>
      rw [htask] at hout
      cases hout
    | handler call =>
      rw [htask] at hout
      obtain rfl := Option.some.inj hout
      have hbrings := m.shared.server.brings_handlerStep call
      refine h.set i (w := { m.shared with server := (m.shared.server.handlerStep call).1 }) _
        hbrings (fun p hp => hguard p (htask ▸ hp)) (ServerTask.checked_ofHandler _) ?_
      simp [ServerTask.pending_ofHandler]
    | tick th loser =>
      rw [htask] at hout
      obtain ⟨⟨w', th'⟩, hth, rfl⟩ := Option.map_eq_some_iff.mp hout
      have hchecked := h.checked i
      rw [htask] at hchecked
      obtain ⟨hc, hp, hb⟩ := ServerTask.tickStep_spec loser hchecked hth
      refine h.set i none hb (by simp) hc fun p hmem => Or.inl ?_
      rw [htask]
      exact hp hmem

/-- In every run in which no handler binds a player whom a round in progress may still act on, no
round marks, plays for or defeats a player who is online. -/
theorem acts_offline {auth : AuthTokenService} {redisEnabled : Bool} {labels : List (TickLabel ι)}
    (hguard : Run.Along (step rng) BindsNoPending (start auth redisEnabled) labels) :
    Run.Along (step rng) ActsOffline (start auth redisEnabled) labels := by
  refine hguard.of_invariant (fun m label m' hm hg hstep => hm.step hg hstep)
    (fun m label hm _ => ?_) (sound_start auth redisEnabled)
  cases label with
  | step i nowMs =>
    exact fun p hp => hm.offline i p (ServerTask.mem_pending_of_actsOn (hm.checked i) hp)
  | _ => trivial

/-! ### Two runs -/

instance (m : TickThreads Bool) (label : TickLabel Bool) : Decidable (m.ActsOffline label) :=
  match label with
  | .step i _ => inferInstanceAs (Decidable (∀ p ∈ (m.threads i).actsOn, m.isOnline p = false))
  | .enter _ _ | .other _ | .timerLoop _ _ _ => inferInstanceAs (Decidable True)

instance (m : TickThreads Bool) (label : TickLabel Bool) :
    Decidable (m.BindsNoPending label) :=
  match label with
  | .step i _ =>
    inferInstanceAs (Decidable (∀ p ∈ (m.threads i).binds, ∀ j, p ∉ (m.threads j).pending))
  | .enter _ _ | .other _ | .timerLoop _ _ _ => inferInstanceAs (Decidable True)

/-- A thread enters an operation and makes `n` calls. -/
def runs {κ : Type} (i : κ) (op : ServerOp) (n : ℕ) : List (TickLabel κ) :=
  .enter i op :: List.replicate n (.step i 0)

/-- Three players are matched, and the connection of player 2 is closed. -/
def leftTable : List (TickLabel Bool) :=
  runs false (.login 11 (GameServer.ticketBody 1) 0 {}) 6 ++
  runs false (.login 12 (GameServer.ticketBody 2) 0 {}) 6 ++
  runs false (.login 13 (GameServer.ticketBody 3) 0 {}) 6 ++
  runs false (.requestMatch 11 (str "mode=3") 0) 6 ++
  runs false (.requestMatch 12 (str "mode=3") 0) 6 ++
  runs false (.requestMatch 13 (str "mode=3") 0) 13 ++
  runs false (.connectionClosed 12 1000 1000) 5

/-- The sessions of the three players afterwards. -/
def copied : List Session :=
  [{ playerId := 2, connectionId := 12, roomId := 1, lastHeartbeatMs := 1000, offlineAtMs := 1000 },
    { playerId := 1, connectionId := 11, roomId := 1, online := true },
    { playerId := 3, connectionId := 13, roomId := 1, online := true }]

/-- A round makes player 2 a trustee and goes on to the next player; then player 2 logs in. -/
def backInTime : List (TickLabel Bool) :=
  leftTable ++ [.timerLoop false copied 40000] ++ List.replicate 3 (.step false 40000) ++
    runs true (.login 14 (GameServer.ticketBody 2) 40000 {}) 6 ++
    List.replicate 2 (.step false 40000)

/-- The three calls for player 2 are made before the login, and none afterwards. -/
theorem acts_offline_when_back_in_time :
    Run.Along (step .sorted) BindsNoPending (start {} false) backInTime ∧
      Run.Along (step .sorted) ActsOffline (start {} false) backInTime := by
  have hguard : Run.Along (step .sorted) BindsNoPending (start {} false) backInTime := by
    decide +kernel
  exact ⟨hguard, acts_offline hguard⟩

/-- Player 2 logs in after the first call that a round makes for him. -/
def backDuringRound : List (TickLabel Bool) :=
  leftTable ++ [.timerLoop false copied 200000, .step false 200000] ++
    runs true (.login 14 (GameServer.ticketBody 2) 200000 {}) 6 ++
    List.replicate 22 (.step false 200000)

/-- Player 2 is online from then on, and still becomes a trustee and loses the game and a coin. -/
theorem online_player_loses :
    ¬ Run.Along (step .sorted) ActsOffline (start {} false) backDuringRound ∧
      ∃ m, Run.exec (step .sorted) (start {} false) backDuringRound = some m ∧
        m.isOnline 2 = true ∧ m.shared.server.rooms.getRoomById 1 = none ∧
        m.shared.server.players.getCoin 2 = 999 := by
  refine ⟨by decide +kernel, ?_⟩
  have hfacts : (Run.exec (step .sorted) (start {} false) backDuringRound).map (fun m =>
      (m.isOnline 2, (m.shared.server.rooms.getRoomById 1).isNone,
        m.shared.server.players.getCoin 2)) = some (true, true, 999) := by decide +kernel
  obtain ⟨m, hm, heq⟩ := Option.map_eq_some_iff.mp hfacts
  simp only [Prod.mk.injEq, Option.isNone_iff_eq_none] at heq
  exact ⟨m, hm, heq⟩

end TickThreads

end DdzServer
