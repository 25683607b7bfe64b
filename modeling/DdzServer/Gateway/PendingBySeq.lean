import DdzServer.Gateway.JsonCodec
import DdzServer.Lib.Run
import DdzServer.Network.PacketCodec
import DdzServer.Util.KvCodec

/-!
# Requests that wait for their response

In `RunWebSocketProxy` the WebSocket thread sends a request upstream and then notes it in
`pending_by_seq`; the callback of the upstream reader looks a response up there, records how long it
took, and erases the entry. A response that is faster than the note leaves it behind.

The requests of a connection have distinct sequence ids, and the server answers one that has been
sent once.
-/

namespace DdzServer

open UnorderedMap

/-! ### The two threads -/

structure PendingRequestTrace where
  sendMs : ℤ := 0
  h5RequestId : CppString := []
  gatewayTraceId : CppString := []
  deriving DecidableEq

/-- What waits to be written to the browser. -/
inductive OutboundMessage where
  | envelope (envelope : GatewayEnvelope)
  | gatewayError (code : ℕ) (reason message h5RequestId gatewayTraceId : CppString)

/-- Where the WebSocket thread is. -/
inductive SendStep where
  | idle
  /-- the request is read, its packet not sent yet -/
  | prepared (packet : Packet) (trace : PendingRequestTrace)
  /-- the packet is sent, the request not noted yet -/
  | sent (packet : Packet) (trace : PendingRequestTrace)
  deriving DecidableEq

/-- What both threads of a connection see, and a history of its requests. -/
structure WebSocketProxy where
  nowMs : ℤ := 0
  sendStep : SendStep := .idle
  pendingBySeq : UnorderedMap UInt32 PendingRequestTrace := ∅
  outbound : List OutboundMessage := []
  /-- the sequence ids of the requests that were read -/
  requests : List UInt32 := []
  /-- those of the requests that were sent -/
  sentSeqs : List UInt32 := []
  /-- those of the requests whose response was delivered -/
  answered : List UInt32 := []
  /-- the round trip times that were recorded, and for which request -/
  rttSamples : List (UInt32 × ℤ) := []

inductive ProxyEvent where
  | tick (ms : ℕ)
  | request (envelope : GatewayEnvelope) (gatewayTraceId : CppString)
  | sendPacket (err : Option CppString)
  | notePending
  | response (packet : Packet)

namespace WebSocketProxy

/-- The body that is sent upstream. -/
def upstreamBody (envelope : GatewayEnvelope) (gatewayTraceId : CppString) : CppString :=
  let body := envelope.body
  let body :=
    if envelope.h5RequestId = [] then body
    else (if body = [] then body else body ++ str ";") ++ str "h5_request_id=" ++
      envelope.h5RequestId
  (if body = [] then body else body ++ str ";") ++ str "gateway_trace_id=" ++ gatewayTraceId

/-- The envelope of a packet, with the trace ids of its body. -/
def envelopeOf (packet : Packet) : GatewayEnvelope :=
  let kv := parseKvBody packet.body
  { msgId := packet.msgId
    seqId := packet.seqId
    playerId := packet.playerId
    body := packet.body
    h5RequestId := (kv.lookup (str "h5_request_id")).getD []
    gatewayTraceId := (kv.lookup (str "gateway_trace_id")).getD []
    serverTraceId := (kv.lookup (str "server_trace_id")).getD [] }

/-- `RecordUpstreamRttMs`. -/
def recordUpstreamRttMs (p : WebSocketProxy) (seq : UInt32) (latencyMs : ℤ) : WebSocketProxy :=
  if latencyMs < 0 then p else { p with rttSamples := p.rttSamples ++ [(seq, latencyMs)] }

/-- The callback of the upstream reader. -/
def onPacket (p : WebSocketProxy) (packet : Packet) : WebSocketProxy :=
  let envelope := envelopeOf packet
  match p.pendingBySeq.lookup packet.seqId with
  | none => { p with outbound := p.outbound ++ [.envelope envelope] }
  | some trace =>
    let p := p.recordUpstreamRttMs packet.seqId (p.nowMs - trace.sendMs)
    let envelope :=
      if envelope.h5RequestId = [] then { envelope with h5RequestId := trace.h5RequestId }
      else envelope
    let envelope :=
      if envelope.gatewayTraceId = [] then { envelope with gatewayTraceId := trace.gatewayTraceId }
      else envelope
    { p with
      pendingBySeq := Finmap.erase packet.seqId p.pendingBySeq
      outbound := p.outbound ++ [.envelope envelope] }

/-- One event. A request that could not be sent is not noted. -/
def step (p : WebSocketProxy) : ProxyEvent → Option WebSocketProxy
  | .tick ms => some { p with nowMs := p.nowMs + ms }
  | .request envelope gatewayTraceId =>
    if p.sendStep = .idle ∧ envelope.seqId ∉ p.requests then
      some { p with
        requests := envelope.seqId :: p.requests
        sendStep := .prepared
          { msgId := envelope.msgId, seqId := envelope.seqId, playerId := envelope.playerId
            body := upstreamBody envelope gatewayTraceId }
          { sendMs := p.nowMs, h5RequestId := envelope.h5RequestId
            gatewayTraceId := gatewayTraceId } }
    else none
  | .sendPacket err =>
    match p.sendStep, err with
    | .prepared packet trace, none =>
      some { p with sendStep := .sent packet trace, sentSeqs := packet.seqId :: p.sentSeqs }
    | .prepared _ trace, some err =>
      some { p with
        sendStep := .idle
        outbound := p.outbound ++ [.gatewayError 502 (str "upstream_send_failed") err
          trace.h5RequestId trace.gatewayTraceId] }
    | _, _ => none
  | .notePending =>
    match p.sendStep with
    | .sent packet trace =>
      some { p with
        sendStep := .idle
        pendingBySeq := Finmap.insert packet.seqId trace p.pendingBySeq }
    | _ => none
  | .response packet =>
    if packet.seqId ∈ p.sentSeqs ∧ packet.seqId ∉ p.answered then
      some { p.onPacket packet with answered := packet.seqId :: p.answered }
    else none

/-! ### What is left of a request -/

/-- The samples of a request. -/
def samplesOf (p : WebSocketProxy) (seq : UInt32) : ℕ :=
  p.rttSamples.countP fun sample => sample.1 = seq

/-- The sending step of a request has not finished. -/
def Sending (p : WebSocketProxy) (seq : UInt32) : Prop :=
  ∃ packet trace, p.sendStep = .sent packet trace ∧ packet.seqId = seq

/-- Once a response is delivered and its request has been dealt with, the request has left no entry
and one sample. -/
def Correlated (p : WebSocketProxy) : Prop :=
  ∀ seq ∈ p.answered, ¬ p.Sending seq →
    p.pendingBySeq.lookup seq = none ∧ p.samplesOf seq = 1

/-- A request is noted before its response is delivered. -/
def NotedFirst (p : WebSocketProxy) : ProxyEvent → Prop
  | .notePending =>
    match p.sendStep with
    | .sent packet _ => packet.seqId ∉ p.answered
    | _              => True
  | _ => True

instance (p : WebSocketProxy) : (event : ProxyEvent) → Decidable (p.NotedFirst event)
  | .notePending =>
    match h : p.sendStep with
    | .sent packet _ => decidable_of_iff (packet.seqId ∉ p.answered) (by simp [NotedFirst, h])
    | .prepared _ _  => isTrue (by simp [NotedFirst, h])
    | .idle          => isTrue (by simp [NotedFirst, h])
  | .tick _ | .request _ _ | .sendPacket _ | .response _ => isTrue trivial

/-- There is no trace of the request. -/
def Untouched (p : WebSocketProxy) (seq : UInt32) : Prop :=
  p.pendingBySeq.lookup seq = none ∧ p.samplesOf seq = 0

/-- What the history of the requests says about the entries. -/
structure Consistent (p : WebSocketProxy) : Prop where
  sent_sub : p.sentSeqs ⊆ p.requests
  answered_sub : p.answered ⊆ p.sentSeqs
  unread : ∀ seq ∉ p.requests, p.Untouched seq
  prepared : ∀ packet trace, p.sendStep = .prepared packet trace →
    packet.seqId ∈ p.requests ∧ packet.seqId ∉ p.sentSeqs ∧ p.Untouched packet.seqId ∧
      trace.sendMs ≤ p.nowMs
  sent : ∀ packet trace, p.sendStep = .sent packet trace →
    packet.seqId ∈ p.sentSeqs ∧ p.Untouched packet.seqId ∧ trace.sendMs ≤ p.nowMs
  waiting : ∀ seq ∈ p.sentSeqs, seq ∉ p.answered → ¬ p.Sending seq →
    (∃ trace, p.pendingBySeq.lookup seq = some trace ∧ trace.sendMs ≤ p.nowMs) ∧
      p.samplesOf seq = 0

variable {p p' : WebSocketProxy} {event : ProxyEvent} {packet : Packet} {seq : UInt32}
  {trace : PendingRequestTrace}

/-! ### The callback -/

/-- A packet that no entry waits for. -/
lemma onPacket_of_none (h : p.pendingBySeq.lookup packet.seqId = none) :
    p.onPacket packet = { p with outbound := p.outbound ++ [.envelope (envelopeOf packet)] } := by
  simp only [onPacket, h]

/-- The response of a request that was noted: its entry becomes a sample. -/
lemma onPacket_of_some (h : p.pendingBySeq.lookup packet.seqId = some trace)
    (hsend : trace.sendMs ≤ p.nowMs) :
    ∃ outbound, p.onPacket packet =
      { p with
        pendingBySeq := Finmap.erase packet.seqId p.pendingBySeq
        outbound := outbound
        rttSamples := p.rttSamples ++ [(packet.seqId, p.nowMs - trace.sendMs)] } := by
  have hlatency : ¬ p.nowMs - trace.sendMs < 0 := by omega
  simp only [onPacket, h, recordUpstreamRttMs, if_neg hlatency]
  exact ⟨_, rfl⟩

/-- The entries and the samples decide. -/
lemma Untouched.congr (h : p.Untouched seq) (hpending : p'.pendingBySeq = p.pendingBySeq)
    (hsamples : p'.rttSamples = p.rttSamples) : p'.Untouched seq := by
  rw [Untouched, samplesOf, hpending, hsamples]
  exact h

/-- What the delivery of a response does. -/
lemma Consistent.response_cases (h : p.Consistent) (hstep : p.step (.response packet) = some p') :
    packet.seqId ∈ p.sentSeqs ∧ packet.seqId ∉ p.answered ∧
      ((p.Sending packet.seqId ∧ ∃ outbound,
          p' = { p with outbound := outbound, answered := packet.seqId :: p.answered }) ∨
        (¬ p.Sending packet.seqId ∧ p.samplesOf packet.seqId = 0 ∧ ∃ outbound rttMs,
          p' = { p with
            pendingBySeq := Finmap.erase packet.seqId p.pendingBySeq
            outbound := outbound
            answered := packet.seqId :: p.answered
            rttSamples := p.rttSamples ++ [(packet.seqId, rttMs)] })) := by
  simp only [step] at hstep
  split_ifs at hstep with hawaited
  obtain rfl := Option.some.inj hstep
  refine ⟨hawaited.1, hawaited.2, ?_⟩
  by_cases hsending : p.Sending packet.seqId
  · refine Or.inl ⟨hsending, ?_⟩
    obtain ⟨packet', trace, hsent, hseq⟩ := hsending
    have hnone := (h.sent packet' trace hsent).2.1.1
    rw [hseq] at hnone
    rw [onPacket_of_none hnone]
    exact ⟨_, rfl⟩
  · obtain ⟨⟨trace, hsome, hsend⟩, hsamples⟩ := h.waiting _ hawaited.1 hawaited.2 hsending
    obtain ⟨outbound, heq⟩ := onPacket_of_some hsome hsend
    rw [heq]
    exact Or.inr ⟨hsending, hsamples, _, _, rfl⟩

/-! ### One event -/

lemma consistent_start : ({} : WebSocketProxy).Consistent where
  sent_sub := List.Subset.refl _
  answered_sub := List.Subset.refl _
  unread seq _ := ⟨rfl, rfl⟩
  prepared packet trace h := by cases h
  sent packet trace h := by cases h
  waiting seq h := by cases h

lemma Consistent.tick (h : p.Consistent) (ms : ℕ) :
    { p with nowMs := p.nowMs + ms }.Consistent where
  sent_sub := h.sent_sub
  answered_sub := h.answered_sub
  unread := h.unread
  prepared packet trace hprepared := by
    obtain ⟨hread, hsent, huntouched, hsend⟩ := h.prepared packet trace hprepared
    exact ⟨hread, hsent, huntouched, by simp only; omega⟩
  sent packet trace hsent := by
    obtain ⟨hseq, huntouched, hsend⟩ := h.sent packet trace hsent
    exact ⟨hseq, huntouched, by simp only; omega⟩
  waiting seq hsent hanswered hsending := by
    obtain ⟨⟨trace, hsome, hsend⟩, hsamples⟩ := h.waiting seq hsent hanswered hsending
    exact ⟨⟨trace, hsome, by simp only; omega⟩, hsamples⟩

lemma Consistent.request (h : p.Consistent) {envelope : GatewayEnvelope}
    {gatewayTraceId : CppString}
    (hstep : p.step (.request envelope gatewayTraceId) = some p') : p'.Consistent := by
  simp only [step] at hstep
  split_ifs at hstep with hidle
  obtain rfl := Option.some.inj hstep
  have hnew : envelope.seqId ∉ p.sentSeqs := fun hmem => hidle.2 (h.sent_sub hmem)
  constructor
  case sent_sub => exact fun seq hseq => List.mem_cons_of_mem _ (h.sent_sub hseq)
  case answered_sub => exact h.answered_sub
  case unread => exact fun seq hseq => h.unread seq fun hmem => hseq (List.mem_cons_of_mem _ hmem)
  case prepared =>
    intro packet trace hprepared
    obtain ⟨rfl, rfl⟩ := SendStep.prepared.inj hprepared
    exact ⟨List.mem_cons_self, hnew, h.unread _ hidle.2, le_refl _⟩
  case sent =>
    intro packet trace hsent
    cases hsent
  case waiting =>
    intro seq hseq hanswered _
    refine h.waiting seq hseq hanswered ?_
    rintro ⟨packet, trace, hsent, -⟩
    rw [hidle.1] at hsent
    cases hsent

lemma Consistent.sendPacket (h : p.Consistent) {err : Option CppString}
    (hstep : p.step (.sendPacket err) = some p') : p'.Consistent := by
  simp only [step] at hstep
  split at hstep
  next packet trace hprepared =>
    obtain rfl := Option.some.inj hstep
    obtain ⟨hread, hsent, huntouched, hsend⟩ := h.prepared packet trace hprepared
    constructor
    case sent_sub => exact List.cons_subset.mpr ⟨hread, h.sent_sub⟩
    case answered_sub => exact fun seq hseq => List.mem_cons_of_mem _ (h.answered_sub hseq)
    case unread => exact h.unread
    case prepared =>
      intro packet' trace' hprepared'
      cases hprepared'
    case sent =>
      intro packet' trace' hsent'
      obtain ⟨rfl, rfl⟩ := SendStep.sent.inj hsent'
      exact ⟨List.mem_cons_self, huntouched, hsend⟩
    case waiting =>
      intro seq hseq hanswered hsending
      rcases List.mem_cons.mp hseq with rfl | hseq
      · exact absurd ⟨packet, trace, rfl, rfl⟩ hsending
      · refine h.waiting seq hseq hanswered ?_
        rintro ⟨packet', trace', hsent', -⟩
        rw [hprepared] at hsent'
        cases hsent'
  next packet trace err hprepared =>
    obtain rfl := Option.some.inj hstep
    constructor
    case sent_sub => exact h.sent_sub
    case answered_sub => exact h.answered_sub
    case unread => exact h.unread
    case prepared =>
      intro packet' trace' hprepared'
      cases hprepared'
    case sent =>
      intro packet' trace' hsent'
      cases hsent'
    case waiting =>
      intro seq hseq hanswered hsending
      refine h.waiting seq hseq hanswered ?_
      rintro ⟨packet', trace', hsent', -⟩
      rw [hprepared] at hsent'
      cases hsent'
  next => cases hstep

/-- Another request is noted. -/
lemma lookup_notePending (hne : seq ≠ packet.seqId) :
    (Finmap.insert packet.seqId trace p.pendingBySeq).lookup seq = p.pendingBySeq.lookup seq := by
  rw [lookup_insert, if_neg hne]

lemma Consistent.notePending (h : p.Consistent) (hstep : p.step .notePending = some p') :
    p'.Consistent := by
  simp only [step] at hstep
  split at hstep
  next packet trace hsent =>
    obtain rfl := Option.some.inj hstep
    obtain ⟨hseq, huntouched, hsend⟩ := h.sent packet trace hsent
    constructor
    case sent_sub => exact h.sent_sub
    case answered_sub => exact h.answered_sub
    case unread =>
      intro seq hread
      have hne : seq ≠ packet.seqId := by
        rintro rfl
        exact hread (h.sent_sub hseq)
      exact ⟨(lookup_notePending hne).trans (h.unread seq hread).1, (h.unread seq hread).2⟩
    case prepared =>
      intro packet' trace' hprepared'
      cases hprepared'
    case sent =>
      intro packet' trace' hsent'
      cases hsent'
    case waiting =>
      intro seq hseq' hanswered _
      by_cases hne : seq = packet.seqId
      · subst hne
        exact ⟨⟨trace, Finmap.lookup_insert _, hsend⟩, huntouched.2⟩
      · have hsending : ¬ p.Sending seq := by
          rintro ⟨packet', trace', hsent', hseq''⟩
          obtain ⟨rfl, rfl⟩ := SendStep.sent.inj (hsent.symm.trans hsent')
          exact hne hseq''.symm
        rw [lookup_notePending hne]
        exact h.waiting seq hseq' hanswered hsending
  next => cases hstep

/-- A sample counts for its own request. -/
lemma samplesOf_append {rttMs : ℤ}
    (hsamples : p'.rttSamples = p.rttSamples ++ [(packet.seqId, rttMs)]) :
    p'.samplesOf seq = p.samplesOf seq + if packet.seqId = seq then 1 else 0 := by
  rw [samplesOf, hsamples, List.countP_append]
  simp [samplesOf, List.countP_cons]

/-- A response leaves the other requests alone. -/
lemma Untouched.response (huntouched : p.Untouched seq) (hne : seq ≠ packet.seqId)
    (outbound : List OutboundMessage) (answered : List UInt32) (rttMs : ℤ) :
    { p with
      pendingBySeq := Finmap.erase packet.seqId p.pendingBySeq
      outbound := outbound
      answered := answered
      rttSamples := p.rttSamples ++ [(packet.seqId, rttMs)] }.Untouched seq := by
  constructor
  · rw [lookup_erase, if_neg hne]
    exact huntouched.1
  · rw [samplesOf_append rfl, if_neg hne.symm]
    exact huntouched.2

lemma Consistent.response (h : p.Consistent) (hstep : p.step (.response packet) = some p') :
    p'.Consistent := by
  obtain ⟨hsent, -, hcases⟩ := h.response_cases hstep
  rcases hcases with ⟨-, outbound, rfl⟩ | ⟨hsending, -, outbound, rttMs, rfl⟩
  · constructor
    case sent_sub => exact h.sent_sub
    case answered_sub => exact List.cons_subset.mpr ⟨hsent, h.answered_sub⟩
    case unread => exact h.unread
    case prepared => exact h.prepared
    case sent => exact h.sent
    case waiting =>
      intro seq hseq hanswered
      exact h.waiting seq hseq fun hmem => hanswered (List.mem_cons_of_mem _ hmem)
  · constructor
    case sent_sub => exact h.sent_sub
    case answered_sub => exact List.cons_subset.mpr ⟨hsent, h.answered_sub⟩
    case unread =>
      intro seq hread
      refine (h.unread seq hread).response ?_ _ _ _
      rintro rfl
      exact hread (h.sent_sub hsent)
    case prepared =>
      intro packet' trace hprepared
      obtain ⟨hread, hsent', huntouched, hsend⟩ := h.prepared packet' trace hprepared
      refine ⟨hread, hsent', huntouched.response ?_ _ _ _, hsend⟩
      intro heq
      exact hsent' (heq ▸ hsent)
    case sent =>
      intro packet' trace hsent'
      obtain ⟨hseq, huntouched, hsend⟩ := h.sent packet' trace hsent'
      refine ⟨hseq, huntouched.response ?_ _ _ _, hsend⟩
      intro heq
      exact hsending ⟨packet', trace, hsent', heq⟩
    case waiting =>
      intro seq hseq hanswered hsending'
      have hne : seq ≠ packet.seqId := fun heq => hanswered (heq ▸ List.mem_cons_self)
      obtain ⟨⟨trace, hsome, hsend⟩, hsamples⟩ :=
        h.waiting seq hseq (fun hmem => hanswered (List.mem_cons_of_mem _ hmem)) hsending'
      refine ⟨⟨trace, ?_, hsend⟩, ?_⟩
      · rw [lookup_erase, if_neg hne]
        exact hsome
      · rw [samplesOf_append rfl, if_neg (Ne.symm hne)]
        exact hsamples

/-- The history stays true to the entries. -/
lemma Consistent.step (h : p.Consistent) (hstep : p.step event = some p') : p'.Consistent := by
  cases event with
  | tick ms                         => exact Option.some.inj hstep ▸ h.tick ms
  | request envelope gatewayTraceId => exact h.request hstep
  | sendPacket err                  => exact h.sendPacket hstep
  | notePending                     => exact h.notePending hstep
  | response packet                 => exact h.response hstep

/-! ### What one event leaves of the answered requests -/

/-- The step of the sending thread leaves the answered requests as they are. -/
lemma Correlated.congr (hc : p.Correlated) (hanswered : p'.answered = p.answered)
    (hpending : p'.pendingBySeq = p.pendingBySeq) (hsamples : p'.rttSamples = p.rttSamples)
    (hsending : ∀ seq ∈ p.answered, p.Sending seq → p'.Sending seq) : p'.Correlated := by
  intro seq hseq hnot
  rw [samplesOf, hpending, hsamples]
  rw [hanswered] at hseq
  exact hc seq hseq fun hs => hnot (hsending seq hseq hs)

lemma Correlated.request (hc : p.Correlated) {envelope : GatewayEnvelope}
    {gatewayTraceId : CppString}
    (hstep : p.step (.request envelope gatewayTraceId) = some p') : p'.Correlated := by
  simp only [WebSocketProxy.step] at hstep
  split_ifs at hstep with hidle
  obtain rfl := Option.some.inj hstep
  refine hc.congr rfl rfl rfl ?_
  rintro seq - ⟨packet, trace, hsent, -⟩
  rw [hidle.1] at hsent
  cases hsent

lemma Correlated.sendPacket (hc : p.Correlated) {err : Option CppString}
    (hstep : p.step (.sendPacket err) = some p') : p'.Correlated := by
  simp only [WebSocketProxy.step] at hstep
  split at hstep
  next packet trace hprepared =>
    obtain rfl := Option.some.inj hstep
    refine hc.congr rfl rfl rfl ?_
    rintro seq - ⟨packet', trace', hsent, -⟩
    rw [hprepared] at hsent
    cases hsent
  next packet trace err hprepared =>
    obtain rfl := Option.some.inj hstep
    refine hc.congr rfl rfl rfl ?_
    rintro seq - ⟨packet', trace', hsent, -⟩
    rw [hprepared] at hsent
    cases hsent
  next => cases hstep

/-- The entry of a request that is answered already stays. -/
lemma Correlated.notePending_iff (hc : p.Correlated) (hstep : p.step .notePending = some p') :
    p'.Correlated ↔ p.NotedFirst .notePending := by
  simp only [WebSocketProxy.step] at hstep
  split at hstep
  next packet trace hsent =>
    obtain rfl := Option.some.inj hstep
    simp only [NotedFirst, hsent]
    constructor
    · intro hc' hanswered
      have hnone := (hc' packet.seqId hanswered (by rintro ⟨_, _, hidle, -⟩; cases hidle)).1
      rw [Finmap.lookup_insert] at hnone
      cases hnone
    · intro hfirst seq hanswered _
      have hne : seq ≠ packet.seqId := by
        rintro rfl
        exact hfirst hanswered
      have hsending : ¬ p.Sending seq := by
        rintro ⟨packet', trace', hsent', hseq⟩
        obtain ⟨rfl, rfl⟩ := SendStep.sent.inj (hsent.symm.trans hsent')
        exact hne hseq.symm
      rw [lookup_notePending hne]
      exact hc seq hanswered hsending
  next => cases hstep

lemma Correlated.response (h : p.Consistent) (hc : p.Correlated)
    (hstep : p.step (.response packet) = some p') : p'.Correlated := by
  obtain ⟨-, -, hcases⟩ := h.response_cases hstep
  rcases hcases with ⟨hsending, outbound, rfl⟩ | ⟨-, hsamples, outbound, rttMs, rfl⟩
  · intro seq hanswered hsending'
    rcases List.mem_cons.mp hanswered with rfl | hanswered
    · exact absurd hsending hsending'
    · exact hc seq hanswered hsending'
  · intro seq hanswered hsending'
    rw [lookup_erase, samplesOf_append rfl]
    by_cases hne : seq = packet.seqId
    · subst hne
      exact ⟨if_pos rfl, by rw [hsamples, if_pos rfl]⟩
    · rw [if_neg hne, if_neg (Ne.symm hne)]
      exact hc seq ((List.mem_cons.mp hanswered).resolve_left hne) hsending'

lemma Correlated.step_iff (h : p.Consistent) (hc : p.Correlated)
    (hstep : p.step event = some p') : p'.Correlated ↔ p.NotedFirst event := by
  cases event with
  | tick ms =>
    refine iff_of_true (Option.some.inj hstep ▸ hc.congr rfl rfl rfl fun seq _ hs => ?_) trivial
    exact hs
  | request envelope gatewayTraceId => exact iff_of_true (hc.request hstep) trivial
  | sendPacket err                  => exact iff_of_true (hc.sendPacket hstep) trivial
  | notePending                     => exact hc.notePending_iff hstep
  | response packet                 => exact iff_of_true (Correlated.response h hc hstep) trivial

/-! ### Whole runs -/

/-- In every state of a run each request that is answered and dealt with has no entry and one
sample: exactly if no request of the run is noted after its response was delivered. -/
theorem correlated_iff {events : List ProxyEvent}
    (h : (Run.exec WebSocketProxy.step {} events).isSome) :
    (∀ p, Run.Visits WebSocketProxy.step {} events p → p.Correlated) ↔
      Run.Along WebSocketProxy.step NotedFirst {} events :=
  Run.forall_visits_iff_along (I := Consistent) (fun _ _ _ hI _ hstep _ => hI.step hstep)
    (fun _ _ _ hI hc hstep => Correlated.step_iff hI hc hstep) consistent_start
    (fun seq hseq => by cases hseq) h

/-- A request is sent and noted, and its response comes later. -/
def notedFirst : List ProxyEvent :=
  [.request { msgId := 3, seqId := 7 } (str "gw-1-1"), .sendPacket none, .notePending, .tick 5,
    .response { msgId := 4, seqId := 7 }]

theorem correlated_notedFirst :
    (Run.exec WebSocketProxy.step {} notedFirst).isSome ∧
      ∀ p, Run.Visits WebSocketProxy.step {} notedFirst p → p.Correlated :=
  ⟨by decide +kernel, (correlated_iff (by decide +kernel)).mpr (by decide +kernel)⟩

/-- The response overtakes the note: the entry stays, and there is no sample. -/
theorem overtaken_entry_stays :
    ¬ ∀ p, Run.Visits WebSocketProxy.step {}
      [.request { msgId := 3, seqId := 7 } (str "gw-1-1"), .sendPacket none,
        .response { msgId := 4, seqId := 7 }, .notePending] p → p.Correlated := by
  intro h
  have hstays : (Run.exec WebSocketProxy.step {}
      [.request { msgId := 3, seqId := 7 } (str "gw-1-1"), .sendPacket none,
        .response { msgId := 4, seqId := 7 }, .notePending]).map
      (fun p => (p.answered, p.sendStep, p.samplesOf 7)) = some ([7], .idle, 0) := by
    decide +kernel
  obtain ⟨p, hp, hlast⟩ := Option.map_eq_some_iff.mp hstays
  obtain ⟨hanswered, hlast⟩ := Prod.mk.inj hlast
  obtain ⟨hidle, hsamples⟩ := Prod.mk.inj hlast
  have hsending : ¬ p.Sending 7 := by
    rintro ⟨packet, trace, hsent, -⟩
    rw [hidle] at hsent
    cases hsent
  have hone := (h p ⟨_, [], (List.append_nil _).symm, hp⟩ 7 (by simp [hanswered]) hsending).2
  rw [hsamples] at hone
  cases hone

end WebSocketProxy

end DdzServer
