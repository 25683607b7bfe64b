import DdzServer.Lib.Run
import Mathlib.Algebra.Group.Nat.Defs
import Mathlib.Tactic.Common

/-!
# The WebSocket client

`net/wsClient.ts`: the status of the client, its socket and its reconnect timer under the events
of the browser. When the timer fires it calls `connect`, which gives up because the status is
`reconnecting`: the client opens no socket again.
-/

namespace DdzServer

inductive WsStatus where
  | idle | connecting | connected | reconnecting | disconnected
  deriving DecidableEq

/-- The `readyState` of a WebSocket. -/
inductive ReadyState where
  | connecting | opened | closing | closed
  deriving DecidableEq

/-- A socket, and the promise of the `connect` that opened it. -/
structure WebSocket where
  readyState : ReadyState := .connecting
  byTimer : Bool
  settled : Bool := false
  deriving DecidableEq

/-- `reconnectTimer`, which keeps a timer that has fired. -/
inductive ReconnectTimer where
  | none
  | armed (backoff : ℕ)
  | fired
  deriving DecidableEq

structure WsClient where
  ws : Option ℕ := none
  status : WsStatus := .idle
  pending : List ℕ := []
  nextSeq : ℕ := 1
  reconnectAttempt : ℕ := 0
  manuallyClosed : Bool := false
  reconnectTimer : ReconnectTimer := .none
  heartbeatTimer : Bool := false
  /-- All sockets that were opened; `ws` is the number of one of them. -/
  sockets : List WebSocket := []
  deriving DecidableEq

inductive WsEvent where
  | connect
  | socketOpen (socket : ℕ)
  | socketError (socket : ℕ)
  | socketClose (socket : ℕ)
  | timerFires
  | sendRequest
  | disconnect

namespace WsClient

/-- A socket with another value. -/
def setSocket (c : WsClient) (i : ℕ) (socket : WebSocket) : WsClient :=
  { c with sockets := c.sockets.set i socket }

def openSocket (c : WsClient) (byTimer : Bool) : WsClient :=
  { c with ws := some c.sockets.length, sockets := c.sockets ++ [{ byTimer := byTimer }] }

/-- `connect`, called by the user or by the reconnect timer. -/
def connect (c : WsClient) (byTimer : Bool) : WsClient :=
  if c.status = .connected then c
  else if c.status = .connecting ∨ c.status = .reconnecting then c
  else
    openSocket { c with
      manuallyClosed := false
      status := if 0 < c.reconnectAttempt then .reconnecting else .connecting } byTimer

def scheduleReconnect (c : WsClient) : WsClient :=
  { c with
    reconnectAttempt := c.reconnectAttempt + 1
    reconnectTimer := .armed (min 8000 (500 * 2 ^ (c.reconnectAttempt + 1))) }

/-- `WebSocket.close`. -/
def closeSocket (c : WsClient) (i : ℕ) : WsClient :=
  match c.sockets[i]? with
  | none        => c
  | some socket =>
    if socket.readyState = .closed then c
    else c.setSocket i { socket with readyState := .closing }

def disconnect (c : WsClient) : WsClient :=
  let c := { c with manuallyClosed := true, reconnectTimer := .none, heartbeatTimer := false }
  let c := match c.ws with
    | none   => c
    | some i => { c.closeSocket i with ws := none }
  { c with pending := [], status := .disconnected }

/-- `sendRequest` throws without a socket, and on one that is not open yet. -/
def sendRequest (c : WsClient) : WsClient :=
  match c.ws with
  | none   => c
  | some i =>
    if c.status ≠ .connected then c
    else if (c.sockets[i]?.map WebSocket.readyState) = some .connecting then
      { c with nextSeq := c.nextSeq + 1 }
    else
      { c with nextSeq := c.nextSeq + 1, pending := c.pending ++ [c.nextSeq] }

def onopen (c : WsClient) (i : ℕ) (socket : WebSocket) : WsClient :=
  { c.setSocket i { socket with readyState := .opened, settled := true } with
    reconnectAttempt := 0
    status := .connected
    heartbeatTimer := true }

/-- `onerror` rejects the promise; the reconnect timer catches this. -/
def onerror (c : WsClient) (i : ℕ) (socket : WebSocket) : WsClient :=
  let c' := c.setSocket i { socket with settled := true }
  if socket.byTimer ∧ ¬ socket.settled then c'.scheduleReconnect else c'

def onclose (c : WsClient) (i : ℕ) (socket : WebSocket) : WsClient :=
  let c := { c.setSocket i { socket with readyState := .closed } with
    heartbeatTimer := false
    ws := none
    pending := [] }
  if c.manuallyClosed then { c with status := .disconnected }
  else scheduleReconnect { c with status := .reconnecting }

def onTimer (c : WsClient) : WsClient := connect { c with reconnectTimer := .fired } true

/-- One event; `none` if it cannot happen. -/
def step (c : WsClient) : WsEvent → Option WsClient
  | .connect       => some (c.connect false)
  | .socketOpen i  =>
    (c.sockets[i]?.filter fun socket => socket.readyState = .connecting).map (c.onopen i)
  | .socketError i =>
    (c.sockets[i]?.filter fun socket => socket.readyState ≠ .closed).map (c.onerror i)
  | .socketClose i =>
    (c.sockets[i]?.filter fun socket => socket.readyState ≠ .closed).map (c.onclose i)
  | .timerFires    =>
    match c.reconnectTimer with
    | .armed _ => some c.onTimer
    | _        => none
  | .sendRequest   => some c.sendRequest
  | .disconnect    => some c.disconnect

/-! ### Being stuck -/

/-- The socket was neither opened nor closed yet. -/
def InFlight (c : WsClient) : Prop :=
  ∃ i, c.ws = some i ∧ c.sockets[i]?.map WebSocket.readyState = some .connecting

/-- A reconnect timer has not fired. -/
def Armed (c : WsClient) : Prop := ∃ backoff, c.reconnectTimer = .armed backoff

/-- A client that says it connects has a socket or a timer that will go on. -/
def NotStuck (c : WsClient) : Prop :=
  c.status = .connecting ∨ c.status = .reconnecting → c.InFlight ∨ c.Armed

/-- The timer does not fire while the status is `reconnecting`. -/
def FiresLate (c : WsClient) : WsEvent → Prop
  | .timerFires => c.status ≠ .reconnecting
  | _           => True

/-- While a timer is armed there is no socket to reconnect with, and none has come from a timer. -/
structure Timed (c : WsClient) : Prop where
  armed : c.Armed → c.ws = none ∧ (c.status = .reconnecting ∨ c.status = .connected) ∧
    c.manuallyClosed = false
  byTimer : ∀ socket ∈ c.sockets, socket.byTimer = false

variable {c c' : WsClient} {i : ℕ} {socket : WebSocket} {event : WsEvent}

lemma timed_init : Timed {} := by
  constructor
  · rintro ⟨backoff, h⟩
    cases h
  · intro socket h
    cases h

lemma armed_scheduleReconnect (c : WsClient) : c.scheduleReconnect.Armed := ⟨_, rfl⟩

/-- A timer that fires finds a status with which `connect` gives up. -/
lemma Timed.onTimer (h : c.Timed) (harmed : c.Armed) :
    c.onTimer = { c with reconnectTimer := .fired } := by
  unfold WsClient.onTimer connect
  rcases (h.armed harmed).2.1 with hstatus | hstatus
  · rw [if_neg (by simp [hstatus]), if_pos (Or.inr hstatus)]
  · rw [if_pos hstatus]

lemma Timed.byTimer_set (h : c.Timed) {socket' : WebSocket} (hget : c.sockets[i]? = some socket)
    (hsocket : socket'.byTimer = socket.byTimer) :
    ∀ s ∈ (c.setSocket i socket').sockets, s.byTimer = false := by
  intro s hs
  rcases List.mem_or_eq_of_mem_set hs with hs | rfl
  · exact h.byTimer s hs
  · rw [hsocket]
    exact h.byTimer socket (List.mem_of_getElem? hget)

lemma Timed.onerror (h : c.Timed) (hget : c.sockets[i]? = some socket) :
    c.onerror i socket = c.setSocket i { socket with settled := true } := by
  have hnot : ¬ (socket.byTimer = true ∧ ¬ socket.settled = true) := by
    rw [h.byTimer socket (List.mem_of_getElem? hget)]
    simp
  unfold WsClient.onerror
  rw [if_neg hnot]

/-! ### One event -/

lemma Timed.connect (h : c.Timed) : (c.connect false).Timed := by
  unfold WsClient.connect
  split_ifs with hconnected hconnecting
  · exact h
  · exact h
  all_goals
    constructor
    · intro harmed
      rcases (h.armed harmed).2.1 with hstatus | hstatus
      · exact absurd (Or.inr hstatus) hconnecting
      · exact absurd hstatus hconnected
    · intro socket hsocket
      rcases List.mem_append.mp hsocket with hold | hnew
      · exact h.byTimer socket hold
      · rw [List.mem_singleton.mp hnew]

lemma sockets_disconnect (c : WsClient) :
    c.disconnect.sockets = c.sockets ∨
      ∃ i socket, c.sockets[i]? = some socket ∧
        c.disconnect.sockets = c.sockets.set i { socket with readyState := .closing } := by
  unfold disconnect
  cases hws : c.ws with
  | none => exact Or.inl rfl
  | some i =>
    cases hget : c.sockets[i]? with
    | none => simp [closeSocket, hget]
    | some socket =>
      by_cases hclosed : socket.readyState = .closed
      · simp [closeSocket, hget, hclosed]
      · exact Or.inr ⟨i, socket, hget, by simp [closeSocket, hget, hclosed, setSocket]⟩

lemma Timed.disconnect (h : c.Timed) : c.disconnect.Timed := by
  constructor
  · rintro ⟨backoff, harmed⟩
    have hnone : c.disconnect.reconnectTimer = .none := by
      unfold WsClient.disconnect
      cases c.ws with
      | none => rfl
      | some i =>
        simp only [closeSocket]
        split
        · rfl
        · split_ifs <;> rfl
    rw [hnone] at harmed
    cases harmed
  · rcases sockets_disconnect c with heq | ⟨i, socket, hget, heq⟩
    · rw [heq]
      exact h.byTimer
    · rw [heq]
      exact h.byTimer_set hget rfl

lemma sendRequest_eq (c : WsClient) :
    ∃ nextSeq pending, c.sendRequest = { c with nextSeq := nextSeq, pending := pending } := by
  unfold sendRequest
  split
  · exact ⟨c.nextSeq, c.pending, rfl⟩
  · split_ifs
    · exact ⟨c.nextSeq, c.pending, rfl⟩
    · exact ⟨_, c.pending, rfl⟩
    · exact ⟨_, _, rfl⟩

/-- The client after its socket has closed. -/
def closed (c : WsClient) (i : ℕ) (socket : WebSocket) : WsClient :=
  { c.setSocket i { socket with readyState := .closed } with
    heartbeatTimer := false
    ws := none
    pending := [] }

lemma onclose_of_manual (i : ℕ) (socket : WebSocket) (h : c.manuallyClosed = true) :
    c.onclose i socket = { c.closed i socket with status := .disconnected } := if_pos h

lemma onclose_of_not_manual (i : ℕ) (socket : WebSocket) (h : c.manuallyClosed = false) :
    c.onclose i socket = scheduleReconnect { c.closed i socket with status := .reconnecting } :=
  if_neg (by simpa [setSocket] using h)

/-- What a socket event works on. -/
lemma get_of_step {p : WebSocket → Bool} {f : WebSocket → WsClient}
    (h : (c.sockets[i]?.filter p).map f = some c') :
    ∃ socket, c.sockets[i]? = some socket ∧ p socket = true ∧ f socket = c' := by
  obtain ⟨socket, hsocket, heq⟩ := Option.map_eq_some_iff.mp h
  obtain ⟨hget, hp⟩ := Option.filter_eq_some_iff.mp hsocket
  exact ⟨socket, hget, hp, heq⟩

lemma Timed.step (h : c.Timed) (hstep : c.step event = some c') : c'.Timed := by
  cases event with
  | connect =>
    obtain rfl := Option.some.inj hstep
    exact h.connect
  | socketOpen i =>
    obtain ⟨socket, hget, -, rfl⟩ := get_of_step hstep
    refine ⟨fun harmed => ?_, h.byTimer_set hget rfl⟩
    exact ⟨(h.armed harmed).1, Or.inr rfl, (h.armed harmed).2.2⟩
  | socketError i =>
    obtain ⟨socket, hget, -, rfl⟩ := get_of_step hstep
    rw [h.onerror hget]
    exact ⟨h.armed, h.byTimer_set hget rfl⟩
  | socketClose i =>
    obtain ⟨socket, hget, -, rfl⟩ := get_of_step hstep
    cases hmanual : c.manuallyClosed with
    | true =>
      rw [onclose_of_manual i socket hmanual]
      refine ⟨fun harmed => ?_, h.byTimer_set hget rfl⟩
      rw [(h.armed harmed).2.2] at hmanual
      cases hmanual
    | false =>
      rw [onclose_of_not_manual i socket hmanual]
      exact ⟨fun _ => ⟨rfl, Or.inl rfl, hmanual⟩, h.byTimer_set hget rfl⟩
  | timerFires =>
    cases htimer : c.reconnectTimer with
    | armed backoff =>
      simp only [WsClient.step, htimer, Option.some.injEq] at hstep
      rw [← hstep, h.onTimer ⟨backoff, htimer⟩]
      refine ⟨fun harmed => ?_, h.byTimer⟩
      obtain ⟨backoff', heq⟩ := harmed
      cases heq
    | none => simp [WsClient.step, htimer] at hstep
    | fired => simp [WsClient.step, htimer] at hstep
  | sendRequest =>
    obtain rfl := Option.some.inj hstep
    obtain ⟨nextSeq, pending, heq⟩ := sendRequest_eq c
    rw [heq]
    exact ⟨h.armed, h.byTimer⟩
  | disconnect =>
    obtain rfl := Option.some.inj hstep
    exact h.disconnect

/-! ### Runs -/

lemma inFlight_openSocket (c : WsClient) (byTimer : Bool) : (c.openSocket byTimer).InFlight :=
  ⟨c.sockets.length, rfl, by simp [openSocket]⟩

lemma NotStuck.connect (h : c.NotStuck) : (c.connect false).NotStuck := by
  unfold WsClient.connect
  split_ifs
  · exact h
  · exact h
  all_goals exact fun _ => Or.inl (inFlight_openSocket _ _)

lemma status_disconnect (c : WsClient) : c.disconnect.status = .disconnected := rfl

lemma notStuck_of_status (status : WsStatus) (h : c.status = status)
    (hstatus : status ≠ .connecting ∧ status ≠ .reconnecting) : c.NotStuck := by
  rintro (heq | heq)
  · exact absurd (h.symm.trans heq) hstatus.1
  · exact absurd (h.symm.trans heq) hstatus.2

/-- Only a timer that fires while the status is `reconnecting` leaves the client stuck. -/
lemma NotStuck.step_iff (h : c.NotStuck) (ht : c.Timed) (hstep : c.step event = some c') :
    c'.NotStuck ↔ c.FiresLate event := by
  cases event with
  | connect =>
    obtain rfl := Option.some.inj hstep
    exact iff_of_true h.connect trivial
  | socketOpen i =>
    obtain ⟨socket, hget, -, rfl⟩ := get_of_step hstep
    exact iff_of_true (notStuck_of_status .connected rfl (by simp)) trivial
  | socketError i =>
    obtain ⟨socket, hget, -, rfl⟩ := get_of_step hstep
    rw [ht.onerror hget]
    refine iff_of_true (fun hstatus => (h hstatus).imp_left ?_) trivial
    rintro ⟨j, hws, hconnecting⟩
    refine ⟨j, hws, ?_⟩
    rw [← hconnecting]
    by_cases hij : i = j
    · subst hij
      obtain ⟨hi, heq⟩ := List.getElem?_eq_some_iff.mp hget
      simp [setSocket, hi, heq]
    · simp [setSocket, hij]
  | socketClose i =>
    obtain ⟨socket, hget, -, rfl⟩ := get_of_step hstep
    refine iff_of_true ?_ trivial
    cases hmanual : c.manuallyClosed with
    | true =>
      rw [onclose_of_manual i socket hmanual]
      exact notStuck_of_status .disconnected rfl (by simp)
    | false =>
      rw [onclose_of_not_manual i socket hmanual]
      exact fun _ => Or.inr (armed_scheduleReconnect _)
  | timerFires =>
    cases htimer : c.reconnectTimer with
    | armed backoff =>
      obtain ⟨hws, hstatus, -⟩ := ht.armed ⟨backoff, htimer⟩
      simp only [WsClient.step, htimer, Option.some.injEq] at hstep
      rw [← hstep, ht.onTimer ⟨backoff, htimer⟩]
      constructor
      · intro hstays hreconnecting
        -- there is no socket, and the timer has fired
        rcases hstays (Or.inr hreconnecting) with ⟨i, hsome, -⟩ | ⟨backoff', harmed⟩
        · exact absurd (hws.symm.trans hsome) (by simp)
        · cases harmed
      · intro hnot
        exact notStuck_of_status .connected (hstatus.resolve_left hnot) (by simp)
    | none => simp [WsClient.step, htimer] at hstep
    | fired => simp [WsClient.step, htimer] at hstep
  | sendRequest =>
    obtain rfl := Option.some.inj hstep
    obtain ⟨nextSeq, pending, heq⟩ := sendRequest_eq c
    rw [heq]
    exact iff_of_true h trivial
  | disconnect =>
    obtain rfl := Option.some.inj hstep
    exact iff_of_true (notStuck_of_status _ (status_disconnect c) (by simp)) trivial

/-- A client is never stuck in a run exactly if no reconnect timer fires while the status is
`reconnecting`. -/
theorem never_stuck_iff {events : List WsEvent} (h : (Run.exec step {} events).isSome) :
    (∀ c, Run.Visits step {} events c → c.NotStuck) ↔ Run.Along step FiresLate {} events := by
  refine Run.forall_visits_iff_along (I := Timed) (fun c event c' ht _ hstep _ => ht.step hstep)
    (fun c event c' ht hc hstep => hc.step_iff ht hstep) timed_init ?_ h
  exact notStuck_of_status .idle rfl (by simp)

/-- No timer that fires opens a socket. -/
theorem timer_opens_no_socket {events : List WsEvent} {c c' : WsClient}
    (h : Run.exec step {} events = some c) (hfire : c.step .timerFires = some c') :
    c'.ws = none ∧ c'.sockets = c.sockets := by
  have ht : c.Timed := Run.invariant (fun c event c' hc hstep => hc.step hstep) timed_init h
  cases htimer : c.reconnectTimer with
  | armed backoff =>
    simp only [step, htimer, Option.some.injEq] at hfire
    rw [← hfire, ht.onTimer ⟨backoff, htimer⟩]
    exact ⟨(ht.armed ⟨backoff, htimer⟩).1, rfl⟩
  | none => simp [step, htimer] at hfire
  | fired => simp [step, htimer] at hfire

instance (c : WsClient) (event : WsEvent) : Decidable (c.FiresLate event) :=
  match event with
  | .timerFires => inferInstanceAs (Decidable (c.status ≠ .reconnecting))
  | .connect | .socketOpen _ | .socketError _ | .socketClose _ | .sendRequest | .disconnect =>
    inferInstanceAs (Decidable True)

/-- The connection is lost, and the user disconnects and connects again before the timer fires. -/
def connectedAgain : List WsEvent :=
  [.connect, .socketOpen 0, .sendRequest, .socketClose 0, .disconnect, .connect, .socketError 1,
    .socketOpen 1]

theorem never_stuck_connectedAgain :
    (Run.exec step {} connectedAgain).isSome ∧
      ((∀ c, Run.Visits step {} connectedAgain c → c.NotStuck) ↔
        Run.Along step FiresLate {} connectedAgain) :=
  ⟨by decide, never_stuck_iff (by decide)⟩

/-- The connection is lost, and the timer fires. -/
def connectionLost : List WsEvent := [.connect, .socketOpen 0, .socketClose 0, .timerFires]

/-- The client stays `reconnecting` with neither a socket nor a timer. -/
theorem stuck_after_connectionLost :
    ∃ c, Run.exec step {} connectionLost = some c ∧ c.status = .reconnecting ∧
      ¬ c.NotStuck := by
  refine ⟨_, rfl, rfl, fun h => ?_⟩
  rcases h (Or.inr rfl) with ⟨i, hws, -⟩ | ⟨backoff, harmed⟩
  · cases hws
  · cases harmed

end WsClient

end DdzServer
