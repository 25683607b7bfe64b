import DdzServer.Client.WsClient
import Mathlib.Data.List.Nodup

/-!
# Sockets that were superseded

A socket of `WsClient` lives on after `disconnect` until its `onclose` is called. The handlers of a
socket work on the fields of the client, whichever socket the client has by then. A close event that
comes while the client is disconnected is harmless; one that comes after the next `connect` takes
the new socket away.
-/

namespace DdzServer

/-! ### Requests and how they are settled -/

/-- What settles a request. -/
inductive Settlement where
  | response (socket : ℕ)
  | timeout
  | closed (socket : ℕ)
  | disconnected
  deriving DecidableEq

/-- The client, the sockets that its requests were sent on, and how requests were settled. -/
structure WsTraffic where
  client : WsClient := {}
  sentOn : List (ℕ × ℕ) := []
  settled : List (ℕ × Settlement) := []
  deriving DecidableEq

inductive TrafficEvent where
  | browser (event : WsEvent)
  /-- an envelope of this sequence id arrives at the socket -/
  | message (socket seqId : ℕ)
  | timeout (seqId : ℕ)

namespace WsClient

/-- The socket on which `sendRequest` sends a request. -/
def sendsOn (c : WsClient) : Option ℕ :=
  match c.ws with
  | none   => none
  | some i =>
    if c.status ≠ .connected then none
    else if (c.sockets[i]?.map WebSocket.readyState) = some .connecting then none
    else some i

/-- A request leaves `pending`. -/
def erasePending (c : WsClient) (seqId : ℕ) : WsClient :=
  { c with pending := c.pending.erase seqId }

end WsClient

namespace WsTraffic

/-- All requests that are pending are settled. -/
def settlePending (t : WsTraffic) (how : Settlement) : List (ℕ × Settlement) :=
  t.settled ++ t.client.pending.map fun seqId => (seqId, how)

/-- An event of the browser, `next` being what it makes of the client. -/
def browser (t : WsTraffic) (next : WsClient) : WsEvent → WsTraffic
  | .sendRequest =>
    match t.client.sendsOn with
    | some i => { t with client := next, sentOn := t.sentOn ++ [(t.client.nextSeq, i)] }
    | none   => { t with client := next }
  | .socketClose i => { t with client := next, settled := t.settlePending (.closed i) }
  | .disconnect    => { t with client := next, settled := t.settlePending .disconnected }
  | _              => { t with client := next }

/-- One event; `none` if it cannot happen. Only an open socket has messages. -/
def step (t : WsTraffic) : TrafficEvent → Option WsTraffic
  | .browser event => (t.client.step event).map fun next => t.browser next event
  | .message i seqId =>
    if t.client.sockets[i]?.map WebSocket.readyState = some .opened then
      if 0 < seqId ∧ seqId ∈ t.client.pending then
        some { t with
          client := t.client.erasePending seqId
          settled := t.settled ++ [(seqId, .response i)] }
      else some t
    else none
  | .timeout seqId =>
    if seqId ∈ t.client.pending then
      some { t with
        client := t.client.erasePending seqId
        settled := t.settled ++ [(seqId, .timeout)] }
    else none

/-! ### Harmless events and sound clients -/

/-- The socket that an event is of. -/
def socketOf : TrafficEvent → Option ℕ
  | .browser (.socketOpen i)  => some i
  | .browser (.socketError i) => some i
  | .browser (.socketClose i) => some i
  | .message i _              => some i
  | _                         => none

/-- The event is of a socket that is not the one of the latest `openSocket`. -/
def Superseded (t : WsTraffic) (event : TrafficEvent) : Prop :=
  ∃ i, socketOf event = some i ∧ i + 1 < t.client.sockets.length

/-- An event of a superseded socket changes neither the status, nor the socket, nor the pending
requests, nor the reconnect timer and what it counts. -/
def Harmless (t : WsTraffic) (event : TrafficEvent) : Prop :=
  t.Superseded event → ∀ t', t.step event = some t' →
    t'.client.status = t.client.status ∧ t'.client.ws = t.client.ws ∧
      t'.client.pending = t.client.pending ∧
      t'.client.reconnectTimer = t.client.reconnectTimer ∧
      t'.client.reconnectAttempt = t.client.reconnectAttempt

/-- A response comes from the socket that the request was sent on, and so does a close. -/
def Own (t : WsTraffic) : ℕ × Settlement → Prop
  | (seqId, .response i)   => (seqId, i) ∈ t.sentOn
  | (seqId, .closed i)     => (seqId, i) ∈ t.sentOn
  | (seqId, .timeout)      => ∃ i, (seqId, i) ∈ t.sentOn
  | (seqId, .disconnected) => ∃ i, (seqId, i) ∈ t.sentOn

/-- A connected client has the open socket, and every request is either pending or was settled, once
and by its own. -/
structure Sound (t : WsTraffic) : Prop where
  connected : t.client.status = .connected → ∃ i, t.client.ws = some i ∧
    i + 1 = t.client.sockets.length ∧
    t.client.sockets[i]?.map WebSocket.readyState = some .opened
  settled_once : ∀ seqId i, (seqId, i) ∈ t.sentOn →
    (t.settled.map Prod.fst).count seqId + t.client.pending.count seqId = 1
  settled_own : ∀ settlement ∈ t.settled, t.Own settlement

/-- A superseded socket that has not closed yet closes only while the client is disconnected. -/
def ClosesInTime (t : WsTraffic) : TrafficEvent → Prop
  | .browser (.socketClose i) =>
    i + 1 < t.client.sockets.length ∧
        t.client.sockets[i]?.map WebSocket.readyState ≠ some .closed →
      t.client.status = .disconnected
  | _ => True

end WsTraffic

/-! ### One socket is alive -/

namespace WsClient

/-- The client has the only socket that is alive, and has it only while it is not disconnected. -/
structure Current (c : WsClient) : Prop where
  timed : c.Timed
  alive : ∀ i socket, c.sockets[i]? = some socket →
    socket.readyState = .connecting ∨ socket.readyState = .opened → c.ws = some i
  latest : ∀ i, c.ws = some i → i + 1 = c.sockets.length ∧ c.manuallyClosed = false
  connected : c.status = .connected → ∃ i, c.ws = some i ∧
    c.sockets[i]?.map WebSocket.readyState = some .opened
  manual : c.manuallyClosed = true ↔ c.status = .disconnected
  idle : c.status = .idle → c.sockets = []
  pending : c.pending ≠ [] → c.status = .connected

variable {c c' : WsClient} {i : ℕ} {socket : WebSocket}

lemma current_start : ({} : WsClient).Current where
  timed := timed_init
  alive i socket h := by simp at h
  latest i h := by cases h
  connected h := by cases h
  manual := by decide
  idle _ := rfl
  pending h := absurd rfl h

/-- A client without a socket has none that is alive. -/
lemma Current.not_alive (h : c.Current) (hws : c.ws = none) (hget : c.sockets[i]? = some socket) :
    socket.readyState ≠ .connecting ∧ socket.readyState ≠ .opened := by
  constructor
  · intro hstate
    exact absurd (hws.symm.trans (h.alive i socket hget (Or.inl hstate))) (by simp)
  · intro hstate
    exact absurd (hws.symm.trans (h.alive i socket hget (Or.inr hstate))) (by simp)

lemma Current.ws_of_manual (h : c.Current) (hmanual : c.manuallyClosed = true) : c.ws = none := by
  cases hws : c.ws with
  | none => rfl
  | some i => simp [(h.latest i hws).2] at hmanual

/-- A new socket is opened when there is none. -/
lemma Current.ws_of_connect (h : c.Current) (hconnected : c.status ≠ .connected)
    (hconnecting : ¬ (c.status = .connecting ∨ c.status = .reconnecting)) :
    c.ws = none ∧ c.pending = [] := by
  refine ⟨?_, ?_⟩
  · cases hstatus : c.status with
    | idle =>
      cases hws : c.ws with
      | none => rfl
      | some i =>
        have hlast := (h.latest i hws).1
        rw [h.idle hstatus] at hlast
        simp at hlast
    | disconnected => exact h.ws_of_manual (h.manual.mpr hstatus)
    | connecting => exact absurd (Or.inl hstatus) hconnecting
    | reconnecting => exact absurd (Or.inr hstatus) hconnecting
    | connected => exact absurd hstatus hconnected
  · by_contra hne
    exact hconnected (h.pending hne)

lemma Current.connect (h : c.Current) : (c.connect false).Current := by
  have htimed := h.timed.connect
  revert htimed
  unfold WsClient.connect
  split_ifs with hconnected hconnecting hattempt
  · exact fun _ => h
  · exact fun _ => h
  all_goals
    intro htimed
    obtain ⟨hws, hpending⟩ := h.ws_of_connect hconnected hconnecting
    constructor
    case timed => exact htimed
    case alive =>
      intro i socket hget hstate
      simp only [openSocket] at hget ⊢
      rcases Nat.lt_or_ge i c.sockets.length with hlt | hge
      · rw [List.getElem?_append_left hlt] at hget
        obtain ⟨hconn, hopen⟩ := h.not_alive hws hget
        exact absurd hstate (not_or.mpr ⟨hconn, hopen⟩)
      · rw [List.getElem?_append_right hge] at hget
        have hzero : i - c.sockets.length = 0 := by
          by_contra hne
          simp [List.getElem?_eq_none (l := [({ byTimer := false } : WebSocket)])
            (i := i - c.sockets.length) (by simp; omega)] at hget
        exact congrArg some (by omega)
    case latest =>
      intro i hi
      obtain rfl := Option.some.inj hi
      exact ⟨by simp [openSocket], rfl⟩
    case connected =>
      intro hstatus
      simp [openSocket] at hstatus
    case manual => simp [openSocket]
    case idle =>
      intro hstatus
      simp [openSocket] at hstatus
    case pending =>
      intro hne
      exact absurd hpending hne

/-- A socket after one of them has changed. -/
lemma get_setSocket {socket' s : WebSocket} {j : ℕ}
    (h : (c.setSocket i socket').sockets[j]? = some s) :
    j = i ∧ s = socket' ∨ j ≠ i ∧ c.sockets[j]? = some s := by
  rw [setSocket, List.getElem?_set] at h
  by_cases hij : i = j
  · rw [if_pos hij] at h
    split_ifs at h
    exact Or.inl ⟨hij.symm, (Option.some.inj h).symm⟩
  · rw [if_neg hij] at h
    exact Or.inr ⟨Ne.symm hij, h⟩

lemma get_setSocket_self {socket' : WebSocket} (hget : c.sockets[i]? = some socket) :
    (c.setSocket i socket').sockets[i]? = some socket' := by
  obtain ⟨hi, -⟩ := List.getElem?_eq_some_iff.mp hget
  rw [setSocket, List.getElem?_set_self hi]

@[simp] lemma length_setSocket (c : WsClient) (i : ℕ) (socket : WebSocket) :
    (c.setSocket i socket).sockets.length = c.sockets.length := List.length_set

lemma sockets_ne_nil_of_get (hget : c.sockets[i]? = some socket) : c.sockets ≠ [] := by
  intro hnil
  simp [hnil] at hget

lemma Current.onopen (h : c.Current) (hget : c.sockets[i]? = some socket)
    (hstate : socket.readyState = .connecting) : (c.onopen i socket).Current := by
  have hws := h.alive i socket hget (Or.inl hstate)
  obtain ⟨hlast, hmanual⟩ := h.latest i hws
  constructor
  case timed =>
    have hstep : c.step (.socketOpen i) = some (c.onopen i socket) := by
      simp [step, hget, hstate]
    exact h.timed.step hstep
  case alive =>
    intro j s hj hs
    rcases get_setSocket hj with ⟨rfl, -⟩ | ⟨-, hj⟩
    · exact hws
    · exact h.alive j s hj hs
  case latest =>
    intro j hj
    obtain ⟨hlast', hmanual'⟩ := h.latest j hj
    exact ⟨hlast'.trans (length_setSocket _ _ _).symm, hmanual'⟩
  case connected =>
    intro _
    refine ⟨i, hws, ?_⟩
    change (c.setSocket i _).sockets[i]?.map _ = _
    rw [get_setSocket_self hget]
    rfl
  case manual => simp [WsClient.onopen, setSocket, hmanual]
  case idle =>
    intro hstatus
    cases hstatus
  case pending => exact fun _ => rfl

/-- An error settles a promise and nothing else. -/
lemma Current.onerror (h : c.Current) (hget : c.sockets[i]? = some socket) :
    (c.onerror i socket).Current := by
  rw [h.timed.onerror hget]
  constructor
  case timed => exact ⟨h.timed.armed, h.timed.byTimer_set hget rfl⟩
  case alive =>
    intro j s hj hs
    rcases get_setSocket hj with ⟨rfl, rfl⟩ | ⟨-, hj⟩
    · exact h.alive _ socket hget hs
    · exact h.alive j s hj hs
  case latest =>
    intro j hj
    obtain ⟨hlast, hmanual⟩ := h.latest j hj
    exact ⟨hlast.trans (length_setSocket _ _ _).symm, hmanual⟩
  case connected =>
    intro hstatus
    obtain ⟨j, hws, hopen⟩ := h.connected hstatus
    refine ⟨j, hws, ?_⟩
    by_cases hij : j = i
    · subst hij
      rw [get_setSocket_self hget]
      rw [hget] at hopen
      exact hopen
    · rw [setSocket, List.getElem?_set_ne (Ne.symm hij)]
      exact hopen
  case manual => exact h.manual
  case idle => exact fun hstatus => absurd (h.idle hstatus) (sockets_ne_nil_of_get hget)
  case pending => exact h.pending

/-- A client whose only live socket closes has none. -/
lemma Current.not_alive_closed (h : c.Current) (hws : ∀ j, c.ws = some j → j = i) {j : ℕ}
    {s : WebSocket}
    (hj : (c.setSocket i { socket with readyState := .closed }).sockets[j]? = some s) :
    ¬ (s.readyState = .connecting ∨ s.readyState = .opened) := by
  intro hs
  rcases get_setSocket hj with ⟨-, rfl⟩ | ⟨hne, hj⟩
  · rcases hs with hs | hs <;> cases hs
  · exact hne (hws j (h.alive j s hj hs))

/-- A socket closes in time: it is the client's, or the client has none. -/
lemma Current.onclose (h : c.Current) (hget : c.sockets[i]? = some socket)
    (hopen : socket.readyState ≠ .closed) (hws : ∀ j, c.ws = some j → j = i) :
    (c.onclose i socket).Current := by
  have hstep : c.step (.socketClose i) = some (c.onclose i socket) := by
    simp [step, hget, hopen]
  have htimed := h.timed.step hstep
  cases hmanual : c.manuallyClosed with
  | true =>
    rw [onclose_of_manual i socket hmanual] at htimed ⊢
    constructor
    case timed => exact htimed
    case alive => exact fun j s hj hs => absurd hs (h.not_alive_closed hws hj)
    case latest =>
      intro j hj
      cases hj
    case connected =>
      intro hstatus
      cases hstatus
    case manual => simp [closed, setSocket, hmanual]
    case idle =>
      intro hstatus
      cases hstatus
    case pending => exact fun hne => absurd rfl hne
  | false =>
    rw [onclose_of_not_manual i socket hmanual] at htimed ⊢
    constructor
    case timed => exact htimed
    case alive => exact fun j s hj hs => absurd hs (h.not_alive_closed hws hj)
    case latest =>
      intro j hj
      cases hj
    case connected =>
      intro hstatus
      cases hstatus
    case manual => simp [scheduleReconnect, closed, setSocket, hmanual]
    case idle =>
      intro hstatus
      cases hstatus
    case pending => exact fun hne => absurd rfl hne

lemma Current.onTimer (h : c.Current) (harmed : c.Armed) : c.onTimer.Current := by
  rw [h.timed.onTimer harmed]
  refine ⟨⟨?_, h.timed.byTimer⟩, h.alive, h.latest, h.connected, h.manual, h.idle, h.pending⟩
  rintro ⟨backoff, hfired⟩
  cases hfired

/-- What a request changes. -/
lemma sendRequest_cases (c : WsClient) :
    (c.sendsOn = none ∧ ∃ nextSeq, c.sendRequest = { c with nextSeq := nextSeq } ∧
        c.nextSeq ≤ nextSeq) ∨
      (∃ i, c.sendsOn = some i ∧ c.ws = some i ∧ c.status = .connected ∧
        c.sendRequest =
          { c with nextSeq := c.nextSeq + 1, pending := c.pending ++ [c.nextSeq] }) := by
  rw [sendsOn]
  split
  next hws =>
    have hsame : c.sendRequest = c := by simp only [sendRequest, hws]
    exact Or.inl ⟨rfl, c.nextSeq, hsame, Nat.le_refl _⟩
  next i hws =>
    split_ifs with hstatus hconnecting
    · have hsame : c.sendRequest = c := by simp only [sendRequest, hws, if_pos hstatus]
      exact Or.inl ⟨rfl, c.nextSeq, hsame, Nat.le_refl _⟩
    · refine Or.inl ⟨rfl, c.nextSeq + 1, ?_, Nat.le_succ _⟩
      simp only [sendRequest, hws, if_neg hstatus, if_pos hconnecting]
    · refine Or.inr ⟨i, rfl, hws, not_not.mp hstatus, ?_⟩
      simp only [sendRequest, hws, if_neg hstatus, if_neg hconnecting]

lemma Current.sendRequest (h : c.Current) : c.sendRequest.Current := by
  rcases sendRequest_cases c with ⟨-, nextSeq, heq, -⟩ | ⟨i, -, -, hstatus, heq⟩
  · rw [heq]
    exact ⟨⟨h.timed.armed, h.timed.byTimer⟩, h.alive, h.latest, h.connected, h.manual, h.idle,
      h.pending⟩
  · rw [heq]
    exact ⟨⟨h.timed.armed, h.timed.byTimer⟩, h.alive, h.latest, h.connected, h.manual, h.idle,
      fun _ => hstatus⟩

lemma Current.erasePending (h : c.Current) (seqId : ℕ) : (c.erasePending seqId).Current := by
  refine ⟨⟨h.timed.armed, h.timed.byTimer⟩, h.alive, h.latest, h.connected, h.manual, h.idle, ?_⟩
  intro hne
  refine h.pending fun hnil => hne ?_
  simp [WsClient.erasePending, hnil]

/-- What `disconnect` leaves. -/
lemma disconnect_fields (c : WsClient) :
    c.disconnect.ws = none ∧ c.disconnect.manuallyClosed = true ∧ c.disconnect.pending = [] ∧
      c.disconnect.nextSeq = c.nextSeq := by
  match hws : c.ws with
  | none => simp [disconnect, hws]
  | some i =>
    refine ⟨by simp only [disconnect, hws], ?_, rfl, ?_⟩
    all_goals
      simp only [disconnect, hws, closeSocket]
      split
      next => rfl
      next => split_ifs <;> rfl

/-- `disconnect` closes the client's socket and no other. -/
lemma get_disconnect {s : WebSocket} (hget : c.disconnect.sockets[i]? = some s) :
    s.readyState = .closing ∨ s.readyState = .closed ∨
      c.ws ≠ some i ∧ c.sockets[i]? = some s := by
  match hws : c.ws with
  | none =>
    simp only [disconnect, hws] at hget
    exact Or.inr (Or.inr ⟨by simp, hget⟩)
  | some j =>
    simp only [disconnect, hws, closeSocket] at hget
    split at hget
    next hnone =>
      refine Or.inr (Or.inr ⟨?_, hget⟩)
      rintro ⟨⟩
      exact absurd (hnone.symm.trans hget) (by simp)
    next socket hsome =>
      split_ifs at hget with hclosed
      · by_cases hij : j = i
        · subst hij
          obtain rfl := Option.some.inj (hsome.symm.trans hget)
          exact Or.inr (Or.inl hclosed)
        · exact Or.inr (Or.inr ⟨fun heq => hij (Option.some.inj heq), hget⟩)
      · rcases get_setSocket hget with ⟨-, rfl⟩ | ⟨hne, hget⟩
        · exact Or.inl rfl
        · exact Or.inr (Or.inr ⟨fun heq => hne (Option.some.inj heq).symm, hget⟩)

lemma Current.disconnect (h : c.Current) : c.disconnect.Current := by
  obtain ⟨hnone, hmanual, hpending, -⟩ := disconnect_fields c
  constructor
  case timed => exact h.timed.disconnect
  case alive =>
    intro j s hj hs
    -- the client's socket is closing, and no other one was alive
    exfalso
    rcases get_disconnect hj with hstate | hstate | ⟨hne, hj⟩
    · simp [hstate] at hs
    · simp [hstate] at hs
    · exact hne (h.alive j s hj hs)
  case latest =>
    intro j hj
    rw [hnone] at hj
    cases hj
  case connected =>
    intro hstatus
    cases hstatus
  case manual => exact iff_of_true hmanual rfl
  case idle =>
    intro hstatus
    cases hstatus
  case pending => exact fun hne => absurd hpending hne

/-- What a close leaves. -/
lemma onclose_fields (c : WsClient) (i : ℕ) (socket : WebSocket) :
    (c.onclose i socket).pending = [] ∧ (c.onclose i socket).nextSeq = c.nextSeq := by
  cases hmanual : c.manuallyClosed with
  | true =>
    rw [onclose_of_manual i socket hmanual]
    exact ⟨rfl, rfl⟩
  | false =>
    rw [onclose_of_not_manual i socket hmanual]
    exact ⟨rfl, rfl⟩

/-- `connect` does nothing to the requests. -/
lemma connect_fields (c : WsClient) :
    (c.connect false).pending = c.pending ∧ (c.connect false).nextSeq = c.nextSeq ∧
      (c.status = .connected → (c.connect false).ws = c.ws) := by
  unfold connect
  split_ifs with hconnected
  · exact ⟨rfl, rfl, fun _ => rfl⟩
  · exact ⟨rfl, rfl, fun _ => rfl⟩
  all_goals exact ⟨rfl, rfl, fun h => absurd h hconnected⟩

end WsClient

/-! ### One event -/

namespace WsTraffic

open WsClient

variable {t t' : WsTraffic} {event : TrafficEvent} {next : WsClient} {how : Settlement} {seqId : ℕ}

/-- Every request is pending or settled, and a pending one was sent on the client's socket. -/
structure Consistent (t : WsTraffic) : Prop where
  current : t.client.Current
  distinct : (t.sentOn.map Prod.fst).Nodup
  sent_lt : ∀ seqId ∈ t.sentOn.map Prod.fst, seqId < t.client.nextSeq
  pending_sent : ∀ seqId ∈ t.client.pending, ∃ i, t.client.ws = some i ∧ (seqId, i) ∈ t.sentOn
  counted : ∀ seqId, (t.settled.map Prod.fst).count seqId + t.client.pending.count seqId =
    (t.sentOn.map Prod.fst).count seqId
  settled_own : ∀ settlement ∈ t.settled, t.Own settlement

lemma consistent_start : ({} : WsTraffic).Consistent where
  current := current_start
  distinct := List.nodup_nil
  sent_lt seqId h := by cases h
  pending_sent seqId h := by cases h
  counted seqId := rfl
  settled_own settlement h := by cases h

/-- The requests stay as they are, and so does the socket they were sent on. -/
lemma Consistent.keep (h : t.Consistent) (hcurrent : next.Current)
    (hpending : next.pending = t.client.pending) (hseq : t.client.nextSeq ≤ next.nextSeq)
    (hws : t.client.status = .connected → next.ws = t.client.ws) :
    { t with client := next }.Consistent where
  current := hcurrent
  distinct := h.distinct
  sent_lt seqId hmem := Nat.lt_of_lt_of_le (h.sent_lt seqId hmem) hseq
  pending_sent seqId hmem := by
    rw [hpending] at hmem
    obtain ⟨i, hi, hsent⟩ := h.pending_sent seqId hmem
    exact ⟨i, (hws (h.current.pending (List.ne_nil_of_mem hmem))).trans hi, hsent⟩
  counted seqId := by
    rw [hpending]
    exact h.counted seqId
  settled_own := h.settled_own

/-- All pending requests are settled. -/
lemma Consistent.settleAll (h : t.Consistent) (hcurrent : next.Current)
    (hpending : next.pending = []) (hseq : next.nextSeq = t.client.nextSeq)
    (hown : ∀ seqId ∈ t.client.pending, t.Own (seqId, how)) :
    { t with client := next, settled := t.settlePending how }.Consistent where
  current := hcurrent
  distinct := h.distinct
  sent_lt seqId hmem := Nat.lt_of_lt_of_eq (h.sent_lt seqId hmem) hseq.symm
  pending_sent seqId hmem := by
    rw [hpending] at hmem
    cases hmem
  counted seqId := by
    have hkeys : (t.settlePending how).map Prod.fst =
        t.settled.map Prod.fst ++ t.client.pending := by
      rw [settlePending, List.map_append, List.map_map]
      exact congrArg _ (List.map_id _)
    rw [hkeys, hpending, List.count_append, List.count_nil, Nat.add_zero]
    exact h.counted seqId
  settled_own settlement hmem := by
    rcases List.mem_append.mp hmem with hold | hnew
    · exact h.settled_own settlement hold
    · obtain ⟨seqId, hseqId, rfl⟩ := List.mem_map.mp hnew
      exact hown seqId hseqId

/-- One pending request is settled. -/
lemma Consistent.settleOne (h : t.Consistent) (hmem : seqId ∈ t.client.pending)
    (hown : t.Own (seqId, how)) :
    { t with
      client := t.client.erasePending seqId
      settled := t.settled ++ [(seqId, how)] }.Consistent where
  current := h.current.erasePending seqId
  distinct := h.distinct
  sent_lt := h.sent_lt
  pending_sent seqId' hmem' := h.pending_sent seqId' (List.mem_of_mem_erase hmem')
  counted seqId' := by
    have hcount := h.counted seqId'
    have hpos : 0 < t.client.pending.count seqId := List.count_pos_iff.mpr hmem
    simp only [List.map_append, List.map_cons, List.map_nil, List.count_append, erasePending,
      List.count_erase, List.count_singleton, beq_iff_eq]
    by_cases hsame : seqId' = seqId
    · subst hsame
      simp only [if_true]
      omega
    · simp only [Ne.symm hsame, if_false]
      omega
  settled_own settlement hmem' := by
    rcases List.mem_append.mp hmem' with hold | hnew
    · exact h.settled_own settlement hold
    · obtain rfl := List.mem_singleton.mp hnew
      exact hown

/-- A pending request was sent. -/
lemma Consistent.sent (h : t.Consistent) (hmem : seqId ∈ t.client.pending) :
    ∃ i, (seqId, i) ∈ t.sentOn := by
  obtain ⟨i, -, hsent⟩ := h.pending_sent seqId hmem
  exact ⟨i, hsent⟩

lemma Consistent.sendRequest (h : t.Consistent) :
    (t.browser t.client.sendRequest .sendRequest).Consistent := by
  have hcurrent := h.current.sendRequest
  rcases sendRequest_cases t.client with ⟨hnone, nextSeq, heq, hle⟩ | ⟨i, hsome, hws, -, heq⟩
  · rw [heq] at hcurrent
    simp only [browser, hnone, heq]
    exact h.keep hcurrent rfl hle fun _ => rfl
  · rw [heq] at hcurrent
    simp only [browser, hsome, heq]
    have hnew : t.client.nextSeq ∉ t.sentOn.map Prod.fst :=
      fun hmem => absurd (h.sent_lt _ hmem) (Nat.lt_irrefl _)
    constructor
    case current => exact hcurrent
    case distinct =>
      rw [List.map_append]
      exact List.perm_append_comm.nodup_iff.mp (List.nodup_cons.mpr ⟨hnew, h.distinct⟩)
    case sent_lt =>
      intro seqId hmem
      rw [List.map_append] at hmem
      rcases List.mem_append.mp hmem with hold | hnew
      · exact Nat.lt_succ_of_lt (h.sent_lt seqId hold)
      · rw [List.mem_singleton.mp hnew]
        exact Nat.lt_succ_self _
    case pending_sent =>
      intro seqId hmem
      rcases List.mem_append.mp hmem with hold | hnew
      · obtain ⟨j, hj, hsent⟩ := h.pending_sent seqId hold
        exact ⟨j, hj, List.mem_append_left _ hsent⟩
      · rw [List.mem_singleton.mp hnew]
        exact ⟨i, hws, List.mem_append_right _ List.mem_cons_self⟩
    case counted =>
      intro seqId
      have hcount := h.counted seqId
      simp only [List.map_append, List.map_cons, List.map_nil, List.count_append]
      omega
    case settled_own =>
      intro settlement hmem
      have hown := h.settled_own settlement hmem
      obtain ⟨seqId, how⟩ := settlement
      cases how with
      | response i   => exact List.mem_append_left _ hown
      | closed i     => exact List.mem_append_left _ hown
      | timeout      => exact hown.imp fun _ => List.mem_append_left _
      | disconnected => exact hown.imp fun _ => List.mem_append_left _

/-- A socket that closes in time is the client's, or the client has none. -/
lemma Current.ws_of_closesInTime (h : t.client.Current) {i : ℕ} {socket : WebSocket}
    (hget : t.client.sockets[i]? = some socket) (hopen : socket.readyState ≠ .closed)
    (hguard : t.ClosesInTime (.browser (.socketClose i))) :
    ∀ j, t.client.ws = some j → j = i := by
  intro j hj
  obtain ⟨hi, -⟩ := List.getElem?_eq_some_iff.mp hget
  obtain ⟨hlast, hmanual⟩ := h.latest j hj
  by_cases hsuperseded : i + 1 < t.client.sockets.length
  · have hstatus := hguard ⟨hsuperseded, by simp [hget, hopen]⟩
    rw [h.manual.mpr hstatus] at hmanual
    cases hmanual
  · omega

/-- Every event keeps the requests consistent, as long as sockets close in time. -/
lemma Consistent.step (h : t.Consistent) (hguard : t.ClosesInTime event)
    (hstep : t.step event = some t') : t'.Consistent := by
  cases event with
  | browser event =>
    obtain ⟨next, hnext, rfl⟩ := Option.map_eq_some_iff.mp hstep
    cases event with
    | connect =>
      obtain rfl := Option.some.inj hnext
      obtain ⟨hpending, hseq, hws⟩ := connect_fields t.client
      exact h.keep h.current.connect hpending (Nat.le_of_eq hseq.symm) hws
    | socketOpen i =>
      obtain ⟨socket, hget, hstate, rfl⟩ := get_of_step hnext
      have hcurrent := h.current.onopen hget (of_decide_eq_true hstate)
      exact h.keep hcurrent rfl (Nat.le_refl _) fun _ => rfl
    | socketError i =>
      obtain ⟨socket, hget, -, rfl⟩ := get_of_step hnext
      have hcurrent := h.current.onerror hget
      rw [h.current.timed.onerror hget] at hcurrent ⊢
      exact h.keep hcurrent rfl (Nat.le_refl _) fun _ => rfl
    | socketClose i =>
      obtain ⟨socket, hget, hopen, rfl⟩ := get_of_step hnext
      have hws := Current.ws_of_closesInTime h.current hget (of_decide_eq_true hopen) hguard
      obtain ⟨hpending, hseq⟩ := onclose_fields t.client i socket
      refine h.settleAll (h.current.onclose hget (of_decide_eq_true hopen) hws) hpending hseq ?_
      intro seqId hmem
      obtain ⟨j, hj, hsent⟩ := h.pending_sent seqId hmem
      exact hws j hj ▸ hsent
    | timerFires =>
      have harmed : t.client.Armed ∧ t.client.onTimer = next := by
        simp only [WsClient.step] at hnext
        split at hnext
        next backoff htimer => exact ⟨⟨backoff, htimer⟩, Option.some.inj hnext⟩
        next => cases hnext
      obtain ⟨harmed, rfl⟩ := harmed
      have hcurrent := h.current.onTimer harmed
      rw [h.current.timed.onTimer harmed] at hcurrent ⊢
      exact h.keep hcurrent rfl (Nat.le_refl _) fun _ => rfl
    | sendRequest =>
      obtain rfl := Option.some.inj hnext
      exact h.sendRequest
    | disconnect =>
      obtain rfl := Option.some.inj hnext
      obtain ⟨-, -, hpending, hseq⟩ := disconnect_fields t.client
      exact h.settleAll h.current.disconnect hpending hseq fun seqId hmem => h.sent hmem
  | message i seqId =>
    simp only [WsTraffic.step] at hstep
    split_ifs at hstep with hopen hmem
    · obtain rfl := Option.some.inj hstep
      obtain ⟨socket, hget, hstate⟩ := Option.map_eq_some_iff.mp hopen
      obtain ⟨j, hj, hsent⟩ := h.pending_sent seqId hmem.2
      obtain rfl : j = i := Option.some.inj
        (hj.symm.trans (h.current.alive i socket hget (Or.inr hstate)))
      exact h.settleOne hmem.2 hsent
    · obtain rfl := Option.some.inj hstep
      exact h
  | timeout seqId =>
    simp only [WsTraffic.step] at hstep
    split_ifs at hstep with hmem
    obtain rfl := Option.some.inj hstep
    exact h.settleOne hmem (h.sent hmem)

lemma Consistent.sound (h : t.Consistent) : t.Sound where
  connected hstatus := by
    obtain ⟨i, hws, hopen⟩ := h.current.connected hstatus
    exact ⟨i, hws, (h.current.latest i hws).1, hopen⟩
  settled_once seqId i hmem := by
    rw [h.counted seqId]
    exact List.count_eq_one_of_mem h.distinct (List.mem_map_of_mem hmem)
  settled_own := h.settled_own

/-- A superseded socket is not alive. -/
lemma Consistent.not_alive (h : t.Consistent) {i : ℕ} {socket : WebSocket}
    (hget : t.client.sockets[i]? = some socket) (hlt : i + 1 < t.client.sockets.length) :
    ¬ (socket.readyState = .connecting ∨ socket.readyState = .opened) := by
  intro hstate
  have hlast := (h.current.latest i (h.current.alive i socket hget hstate)).1
  omega

/-- A close that changes nothing comes in time: it would count the next attempt to reconnect. -/
lemma Consistent.closesInTime (h : t.Consistent) (hharmless : t.Harmless event) :
    t.ClosesInTime event := by
  cases event with
  | browser event =>
    cases event with
    | socketClose i =>
      rintro ⟨hlt, hopen⟩
      have hget : t.client.sockets[i]? = some t.client.sockets[i] :=
        List.getElem?_eq_getElem (by omega)
      rw [hget] at hopen
      have hstep : t.step (.browser (.socketClose i)) =
          some (t.browser (t.client.onclose i t.client.sockets[i]) (.socketClose i)) := by
        have hstate : t.client.sockets[i].readyState ≠ .closed := fun heq => hopen (by simp [heq])
        simp [WsTraffic.step, WsClient.step, hget, hstate]
      obtain ⟨-, -, -, -, hattempt⟩ := hharmless ⟨i, rfl, hlt⟩ _ hstep
      cases hmanual : t.client.manuallyClosed with
      | true => exact h.current.manual.mp hmanual
      | false =>
        simp only [browser, onclose_of_not_manual i _ hmanual, scheduleReconnect, closed,
          setSocket] at hattempt
        omega
    | _ => trivial
  | _ => trivial

/-- A superseded socket that closes in time does no harm, and nor does it otherwise. -/
lemma Consistent.harmless (h : t.Consistent) (hguard : t.ClosesInTime event) :
    t.Harmless event := by
  rintro ⟨i, hsocket, hlt⟩ t' hstep
  cases event with
  | browser event =>
    obtain ⟨next, hnext, rfl⟩ := Option.map_eq_some_iff.mp hstep
    cases event with
    | socketOpen j =>
      obtain rfl := Option.some.inj hsocket
      obtain ⟨socket, hget, hstate, rfl⟩ := get_of_step hnext
      exact absurd (Or.inl (of_decide_eq_true hstate)) (h.not_alive hget hlt)
    | socketError j =>
      obtain rfl := Option.some.inj hsocket
      obtain ⟨socket, hget, -, rfl⟩ := get_of_step hnext
      rw [h.current.timed.onerror hget]
      exact ⟨rfl, rfl, rfl, rfl, rfl⟩
    | socketClose j =>
      obtain rfl := Option.some.inj hsocket
      obtain ⟨socket, hget, hopen, rfl⟩ := get_of_step hnext
      have hstatus := hguard ⟨hlt, by simpa [hget] using hopen⟩
      have hmanual := h.current.manual.mpr hstatus
      have hpending : t.client.pending = [] := by
        by_contra hne
        exact absurd (hstatus.symm.trans (h.current.pending hne)) (by simp)
      rw [onclose_of_manual j socket hmanual]
      exact ⟨hstatus.symm, (h.current.ws_of_manual hmanual).symm, hpending.symm, rfl, rfl⟩
    | _ => cases hsocket
  | message j seqId =>
    obtain rfl := Option.some.inj hsocket
    simp only [WsTraffic.step] at hstep
    split_ifs at hstep with hopen hmem
    all_goals
      obtain ⟨socket, hget, hstate⟩ := Option.map_eq_some_iff.mp hopen
      exact absurd (Or.inr hstate) (h.not_alive hget hlt)
  | timeout seqId => cases hsocket

/-! ### Whole runs -/

/-- No event of a superseded socket changes the status, the socket, the pending requests or the
reconnect timer, a connected client has the open socket, and each request is settled once at most
and by its own: exactly if every superseded socket closes while the client is disconnected. -/
theorem superseded_harmless_iff {events : List TrafficEvent}
    (h : (Run.exec WsTraffic.step {} events).isSome) :
    (Run.Along WsTraffic.step Harmless {} events ∧
      ∀ t, Run.Visits WsTraffic.step {} events t → t.Sound) ↔
      Run.Along WsTraffic.step ClosesInTime {} events := by
  constructor
  · rintro ⟨hharmless, -⟩
    exact Run.Along.of_invariant
      (fun t event t' ht hh hstep => Consistent.step ht (ht.closesInTime hh) hstep)
      (fun t event ht hh => ht.closesInTime hh) consistent_start hharmless
  · intro hguard
    refine ⟨Run.Along.of_invariant (fun t event t' ht hg hstep => Consistent.step ht hg hstep)
      (fun t event ht hg => ht.harmless hg) consistent_start hguard, ?_⟩
    rintro t ⟨before, after, rfl, hbefore⟩
    have hsteps := (Run.along_append hguard hbefore).1
    exact (Run.invariant_along (fun t event t' ht hg hstep => Consistent.step ht hg hstep)
      consistent_start hsteps hbefore).sound

instance (t : WsTraffic) : (event : TrafficEvent) → Decidable (t.ClosesInTime event)
  | .browser (.socketClose _) => inferInstanceAs (Decidable (_ ∧ _ → _))
  | .browser .connect | .browser (.socketOpen _) | .browser (.socketError _) | .browser .timerFires
  | .browser .sendRequest | .browser .disconnect | .message _ _ | .timeout _ => isTrue trivial

/-- The old socket closes before the client connects again. -/
def closedInTime : List TrafficEvent :=
  [.browser .connect, .browser (.socketOpen 0), .browser .sendRequest, .message 0 1,
    .browser .disconnect, .browser (.socketClose 0), .browser .connect, .browser (.socketOpen 1),
    .browser .sendRequest, .timeout 2]

theorem superseded_harmless_closedInTime :
    Run.Along WsTraffic.step Harmless {} closedInTime ∧
      ∀ t, Run.Visits WsTraffic.step {} closedInTime t → t.Sound :=
  (superseded_harmless_iff (by decide)).mpr (by decide)

/-- The old socket closes after the client has connected again: the new socket opens, and the client
is connected without it. -/
theorem socket_lost_by_old_close :
    ¬ ∀ t, Run.Visits WsTraffic.step {}
      [.browser .connect, .browser (.socketOpen 0), .browser .disconnect, .browser .connect,
        .browser (.socketClose 0), .browser (.socketOpen 1)] t → t.Sound := by
  intro h
  have hlost : (Run.exec WsTraffic.step {}
      [.browser .connect, .browser (.socketOpen 0), .browser .disconnect, .browser .connect,
        .browser (.socketClose 0), .browser (.socketOpen 1)]).map
      (fun t => (t.client.status, t.client.ws)) = some (.connected, none) := by
    decide
  obtain ⟨t, ht, hlast⟩ := Option.map_eq_some_iff.mp hlost
  obtain ⟨hstatus, hnone⟩ := Prod.mk.inj hlast
  obtain ⟨i, hws, -⟩ := (h t ⟨_, [], (List.append_nil _).symm, ht⟩).connected hstatus
  exact absurd (hnone.symm.trans hws) (by simp)

end WsTraffic

end DdzServer
