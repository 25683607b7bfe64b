import DdzServer.Gateway.GatewayServer
import DdzServer.Gateway.PendingBySeq
import DdzServer.Gateway.UpstreamTcpClient
import DdzServer.Lib.SlidingWindow

/-!
# A WebSocket session of the gateway

The loop of `RunWebSocketProxy` with all its exits, and the callback of the upstream reader beside
it. The loop writes what waits for the browser, then looks for a frame; a frame is forwarded,
answered by one error envelope, or ends the session. Whatever is pushed when the session ends is
never written.
-/

namespace DdzServer

open SlidingWindow UnorderedMap

/-- The settings of the gateway that a session uses. -/
structure ProxyConfig where
  security : GatewaySecurityConfig := {}
  maxWsMessagesPerSec : ℤ := 20
  heartbeatTimeoutMs : ℤ := 30000
  reconnectBackoffMs : ℤ := 1000
  maxPacketSize : UInt32 := 65536
  messages_pos : 0 < maxWsMessagesPerSec := by decide

/-- What is pushed for the browser. -/
inductive BrowserMessage where
  | welcome (heartbeatTimeoutMs reconnectBackoffMs : ℤ)
  | message (message : OutboundMessage)

/-- `BuildGatewayErrorEnvelope`. -/
def gatewayErrorEnvelope (code : ℕ) (reason message h5RequestId gatewayTraceId : CppString) :
    GatewayEnvelope :=
  { body := buildKvBody
      [(str "code", toStr code), (str "reason", reason), (str "message", message)]
    h5RequestId := h5RequestId
    gatewayTraceId := gatewayTraceId }

/-- The text that waits in `outbound`. -/
def BrowserMessage.text : BrowserMessage → CppString
  | .welcome heartbeatTimeoutMs reconnectBackoffMs =>
    str "\x7b\"type\":\"gateway_welcome\",\"heartbeat_interval_ms\":" ++
      toStr (heartbeatTimeoutMs.tdiv 3) ++ str ",\"reconnect_backoff_ms\":" ++
      toStr reconnectBackoffMs ++ str "\x7d"
  | .message (.envelope envelope)                             => buildEnvelopeJson envelope
  | .message (.gatewayError code reason msg h5 gatewayTraceId) =>
    buildEnvelopeJson (gatewayErrorEnvelope code reason msg h5 gatewayTraceId)

/-- The error envelope, when it is one that answers a frame. -/
def BrowserMessage.frameAnswer : BrowserMessage → Option OutboundMessage
  | .message (.gatewayError code reason msg h5 gatewayTraceId) =>
    if code = 1 then none else some (.gatewayError code reason msg h5 gatewayTraceId)
  | _ => none

/-- The envelope, when it is one that passes a response on. -/
def BrowserMessage.response : BrowserMessage → Option GatewayEnvelope
  | .message (.envelope envelope) => some envelope
  | _                             => none

/-- The message says that the game server is gone. -/
def BrowserMessage.isNotice : BrowserMessage → Bool
  | .message (.gatewayError _ reason _ _ _) => reason = str "upstream_disconnected"
  | _                                       => false

/-- The notice that the game server is gone. -/
def disconnectNotice : OutboundMessage :=
  .gatewayError 1 (str "upstream_disconnected") (str "upstream disconnected") [] []

/-- What becomes of a frame. -/
inductive FrameFate where
  | ipBanned
  | wsRateLimited
  | invalidRequest (err : CppString)
  | upstreamNotReady (envelope : GatewayEnvelope)
  | upstreamSendFailed (envelope : GatewayEnvelope) (gatewayTraceId err : CppString)
  | forwarded (envelope : GatewayEnvelope) (gatewayTraceId : CppString)
  deriving DecidableEq

/-- The error envelope that answers the frame. -/
def FrameFate.answer : FrameFate → Option OutboundMessage
  | .ipBanned => some (.gatewayError 429 (str "ip_banned") (str "too many requests") [] [])
  | .wsRateLimited =>
    some (.gatewayError 429 (str "ws_rate_limited") (str "message rate exceeded") [] [])
  | .invalidRequest err => some (.gatewayError 400 (str "invalid_request") err [] [])
  | .upstreamNotReady envelope =>
    some (.gatewayError 503 (str "upstream_not_ready") (str "upstream not ready")
      envelope.h5RequestId [])
  | .upstreamSendFailed envelope gatewayTraceId err =>
    some (.gatewayError 502 (str "upstream_send_failed") err envelope.h5RequestId gatewayTraceId)
  | .forwarded _ _ => none

/-- The frame was counted by the limiter of the session. -/
def FrameFate.Accepted : FrameFate → Bool
  | .ipBanned | .wsRateLimited => false
  | _                          => true

/-- What the fate says about the frame. -/
def FrameFate.IsTrue (payload : CppString) : FrameFate → Prop
  | .ipBanned | .wsRateLimited         => True
  | .invalidRequest err                => parseEnvelopeJson payload = .error err
  | .upstreamNotReady envelope         => parseEnvelopeJson payload = .ok envelope
  | .upstreamSendFailed envelope _ _   => parseEnvelopeJson payload = .ok envelope
  | .forwarded envelope _              => parseEnvelopeJson payload = .ok envelope

structure FrameRead where
  payload : CppString
  nowMs : ℤ
  fate : FrameFate
  deriving DecidableEq

/-- The packet that a request is sent upstream in. -/
def upstreamPacket (envelope : GatewayEnvelope) (gatewayTraceId : CppString) : Packet :=
  { msgId := envelope.msgId
    seqId := envelope.seqId
    playerId := envelope.playerId
    body := WebSocketProxy.upstreamBody envelope gatewayTraceId }

/-- A request between parsing and sending. -/
structure ParsedFrame where
  payload : CppString
  nowMs : ℤ
  envelope : GatewayEnvelope
  gatewayTraceId : CppString

/-- Where the loop is. -/
inductive LoopStage where
  | flush
  | poll
  | read
  | send (frame : ParsedFrame)
  | note (frame : ParsedFrame)
  | ended

/-- A session, with a history of what was pushed, written, read, and sent or received upstream. -/
structure ProxySession where
  stage : LoopStage := .flush
  upstream : UpstreamTcpClient
  upstreamDisconnectNotified : Bool := false
  inboundWindowMs : List ℤ := []
  pendingBySeq : UnorderedMap UInt32 PendingRequestTrace := ∅
  outbound : List CppString := []
  pushed : List BrowserMessage := []
  written : List CppString := []
  frames : List FrameRead := []
  upstreamBytes : List CppString := []
  received : List Packet := []

/-- What the socket says about bytes to read. -/
inductive Available where
  | failed | nothing | bytes

inductive SessionEvent where
  | write (ok : Bool)
  | poll (available : Available)
  /-- the read of a frame fails, or the peer has closed -/
  | readEnds
  /-- a frame, with the tables as other connections have left them -/
  | frame (payload : CppString) (g : GatewayServer) (askedMs nowMs : ℤ)
      (gatewayTraceId : CppString)
  | sendUpstream (writeErr : Option CppString)
  | note
  /-- the callback of the upstream reader -/
  | packet (packet : Packet)
  | upstreamStops

/-- The checks of a frame before it is parsed: the tables, the window, and the refusal if there is
one. -/
def judgeFrame (config : ProxyConfig) (clientIp : CppString) (g : GatewayServer)
    (window : List ℤ) (askedMs nowMs : ℤ) : GatewayServer × List ℤ × Option FrameFate :=
  let (g, banned) := g.isIpBanned clientIp askedMs
  if banned then (g, window, some .ipBanned)
  else
    let window := window.dropWhile fun t => 1000 ≤ nowMs - t
    if config.maxWsMessagesPerSec ≤ window.length then
      (g.banIp config.security clientIp nowMs, window, some .wsRateLimited)
    else (g, window ++ [nowMs], none)

namespace ProxySession

def push (s : ProxySession) (m : BrowserMessage) : ProxySession :=
  { s with outbound := s.outbound ++ [m.text], pushed := s.pushed ++ [m] }

/-- A frame is dealt with. -/
def record (s : ProxySession) (payload : CppString) (nowMs : ℤ) (fate : FrameFate) :
    ProxySession :=
  { s with frames := s.frames ++ [⟨payload, nowMs, fate⟩] }

/-- A frame is dealt with, and answered if it was not forwarded. -/
def settle (s : ProxySession) (payload : CppString) (nowMs : ℤ) (fate : FrameFate) :
    ProxySession :=
  match fate.answer with
  | none   => s.record payload nowMs fate
  | some m => (s.record payload nowMs fate).push (.message m)

/-- The session when the loop begins. -/
def start (config : ProxyConfig) (connectErr : Option CppString) : ProxySession :=
  let upstream : UpstreamTcpClient := { maxPacketSize := config.maxPacketSize }
  let s : ProxySession := { upstream := upstream }
  let s := s.push (.welcome config.heartbeatTimeoutMs config.reconnectBackoffMs)
  match connectErr with
  | none     => { s with upstream := upstream.connect }
  | some err => s.push (.message (.gatewayError 1 (str "upstream_connect_failed") err [] []))

/-- The notice that the game server is gone is pushed once. -/
def noticeDisconnect (s : ProxySession) : ProxySession :=
  if s.upstream.running ∨ s.upstreamDisconnectNotified then s
  else
    { s with upstreamDisconnectNotified := true }.push (.message disconnectNotice)

/-- The envelope for a response, with the trace ids of its request where it has none. -/
def responseEnvelope (s : ProxySession) (packet : Packet) : GatewayEnvelope :=
  let envelope := WebSocketProxy.envelopeOf packet
  match s.pendingBySeq.lookup packet.seqId with
  | none       => envelope
  | some trace =>
    { envelope with
      h5RequestId :=
        if envelope.h5RequestId = [] then trace.h5RequestId else envelope.h5RequestId
      gatewayTraceId :=
        if envelope.gatewayTraceId = [] then trace.gatewayTraceId else envelope.gatewayTraceId }

/-- One event. -/
def step (config : ProxyConfig) (clientIp : CppString) (s : ProxySession) :
    SessionEvent → Option ProxySession
  | .write ok =>
    match s.stage, s.outbound with
    | .flush, next :: rest =>
      if ok then some { s with outbound := rest, written := s.written ++ [next] }
      else some { s with outbound := rest, stage := .ended }
    | .flush, []           => some { s with stage := .poll }
    | _, _                 => none
  | .poll available =>
    match s.stage, available with
    | .poll, .failed  => some { s with stage := .ended }
    | .poll, .nothing => some { s.noticeDisconnect with stage := .flush }
    | .poll, .bytes   => some { s with stage := .read }
    | _, _            => none
  | .readEnds =>
    match s.stage with
    | .read => some { s with stage := .ended }
    | _     => none
  | .frame payload g askedMs nowMs gatewayTraceId =>
    match s.stage with
    | .read =>
      match judgeFrame config clientIp g s.inboundWindowMs askedMs nowMs with
      | (_, _, some fate)   => some { s.settle payload nowMs fate with stage := .ended }
      | (_, window, none) =>
        let s := { s with inboundWindowMs := window }
        match parseEnvelopeJson payload with
        | .error err => some { s.settle payload nowMs (.invalidRequest err) with stage := .flush }
        | .ok envelope =>
          if s.upstream.running then
            some { s with stage := .send ⟨payload, nowMs, envelope, gatewayTraceId⟩ }
          else
            some { s.settle payload nowMs (.upstreamNotReady envelope) with stage := .flush }
    | _ => none
  | .sendUpstream writeErr =>
    match s.stage with
    | .send f =>
      match s.upstream.sendPacket (upstreamPacket f.envelope f.gatewayTraceId) writeErr with
      | .error err =>
        some { s.settle f.payload f.nowMs (.upstreamSendFailed f.envelope f.gatewayTraceId err) with
          stage := .flush }
      | .ok bytes =>
        some { s.settle f.payload f.nowMs (.forwarded f.envelope f.gatewayTraceId) with
          stage := .note f, upstreamBytes := s.upstreamBytes ++ [bytes] }
    | _ => none
  | .note =>
    match s.stage with
    | .note f =>
      some { s with
        stage := .flush
        pendingBySeq := Finmap.insert f.envelope.seqId
          ⟨f.nowMs, f.envelope.h5RequestId, f.gatewayTraceId⟩ s.pendingBySeq }
    | _ => none
  | .packet packet =>
    some { s.push (.message (.envelope (s.responseEnvelope packet))) with
      pendingBySeq := Finmap.erase packet.seqId s.pendingBySeq
      received := s.received ++ [packet] }
  | .upstreamStops => some { s with upstream := { s.upstream with running := false } }

/-! ### What an event does -/

/-- The frame that is being sent. -/
def sending (s : ProxySession) : Option ParsedFrame :=
  match s.stage with
  | .send f => some f
  | _       => none

/-- How many frames a session may send within a second. -/
def limit (config : ProxyConfig) : ℕ := config.maxWsMessagesPerSec.toNat

/-- What an event does to the session. -/
inductive SessionRule (config : ProxyConfig) (s : ProxySession) : ProxySession → Prop
  | quiet {stage : LoopStage} {upstream : UpstreamTcpClient}
      {pending : UnorderedMap UInt32 PendingRequestTrace}
      (hended : s.stage = .ended → stage = .ended)
      (hsending : ({ s with stage := stage } : ProxySession).sending = s.sending)
      (hsize : upstream.maxPacketSize = s.upstream.maxPacketSize) :
      SessionRule config s
        { s with stage := stage, upstream := upstream, pendingBySeq := pending }
  | written {next : CppString} {rest : List CppString} (hstage : s.stage = .flush)
      (hout : s.outbound = next :: rest) :
      SessionRule config s { s with outbound := rest, written := s.written ++ [next] }
  | lost {next : CppString} {rest : List CppString} (hstage : s.stage = .flush)
      (hout : s.outbound = next :: rest) :
      SessionRule config s { s with outbound := rest, stage := .ended }
  | notice (hstage : s.stage = .poll) :
      SessionRule config s { s.noticeDisconnect with stage := .flush }
  | refused {payload : CppString} {nowMs : ℤ} {fate : FrameFate} (hstage : s.stage = .read)
      (hfate : fate = .ipBanned ∨ fate = .wsRateLimited ∧
        (admitCall (limit config) 1000 nowMs s.inboundWindowMs).2 = false) :
      SessionRule config s { s.settle payload nowMs fate with stage := .ended }
  | answered {payload : CppString} {nowMs : ℤ} {fate : FrameFate} {m : OutboundMessage}
      (hstage : s.stage = .read)
      (hcounted : (admitCall (limit config) 1000 nowMs s.inboundWindowMs).2 = true)
      (haccepted : fate.Accepted = true) (htrue : fate.IsTrue payload)
      (hanswer : fate.answer = some m) :
      SessionRule config s
        { s.settle payload nowMs fate with
          stage := .flush
          inboundWindowMs := (admitCall (limit config) 1000 nowMs s.inboundWindowMs).1 }
  | parsed {f : ParsedFrame} (hstage : s.stage = .read)
      (hcounted : (admitCall (limit config) 1000 f.nowMs s.inboundWindowMs).2 = true)
      (htrue : parseEnvelopeJson f.payload = .ok f.envelope) :
      SessionRule config s
        { s with
          stage := .send f
          inboundWindowMs := (admitCall (limit config) 1000 f.nowMs s.inboundWindowMs).1 }
  | sendFailed {f : ParsedFrame} {err : CppString} (hstage : s.stage = .send f) :
      SessionRule config s
        { s.settle f.payload f.nowMs (.upstreamSendFailed f.envelope f.gatewayTraceId err) with
          stage := .flush }
  | sent {f : ParsedFrame} {bytes : CppString} (hstage : s.stage = .send f)
      (hencode : PacketCodec.encode (upstreamPacket f.envelope f.gatewayTraceId)
        s.upstream.maxPacketSize = .ok bytes) :
      SessionRule config s
        { s.settle f.payload f.nowMs (.forwarded f.envelope f.gatewayTraceId) with
          stage := .note f, upstreamBytes := s.upstreamBytes ++ [bytes] }
  | packet (packet : Packet) :
      SessionRule config s
        { s.push (.message (.envelope (s.responseEnvelope packet))) with
          pendingBySeq := Finmap.erase packet.seqId s.pendingBySeq
          received := s.received ++ [packet] }

variable {config : ProxyConfig} {clientIp : CppString} {s s' : ProxySession}

/-- The checks of a frame are a call of the limiter, for a client that is not banned. -/
lemma judgeFrame_cases (config : ProxyConfig) (clientIp : CppString) (g : GatewayServer)
    (window : List ℤ) (askedMs nowMs : ℤ) :
    (judgeFrame config clientIp g window askedMs nowMs).2.2 = some .ipBanned ∨
      ((judgeFrame config clientIp g window askedMs nowMs).2.2 = some .wsRateLimited ∧
        (admitCall (limit config) 1000 nowMs window).2 = false) ∨
      ((judgeFrame config clientIp g window askedMs nowMs).2 =
          ((admitCall (limit config) 1000 nowMs window).1, none) ∧
        (admitCall (limit config) 1000 nowMs window).2 = true) := by
  have hfull : config.maxWsMessagesPerSec ≤ (prune 1000 nowMs window).length ↔
      limit config ≤ (prune 1000 nowMs window).length := Int.toNat_le.symm
  have hprune : (window.dropWhile fun t => decide (1000 ≤ nowMs - t)) =
      prune 1000 nowMs window := rfl
  simp only [judgeFrame, admitCall]
  rw [hprune]
  by_cases hbanned : (g.isIpBanned clientIp askedMs).2 = true
  · simp [hbanned]
  · by_cases hrate : config.maxWsMessagesPerSec ≤ (prune 1000 nowMs window).length
    · simp [hbanned, hrate, hfull.mp hrate]
    · simp [hbanned, hrate, mt hfull.mpr hrate]

/-- Every event follows the rule. -/
lemma rule_of_step {event : SessionEvent} (h : s.step config clientIp event = some s') :
    SessionRule config s s' := by
  cases event with
  | write ok =>
    simp only [step] at h
    split at h
    next next rest hstage hout =>
      split_ifs at h
      · obtain rfl := Option.some.inj h
        exact .written hstage hout
      · obtain rfl := Option.some.inj h
        exact .lost hstage hout
    next hstage hout =>
      obtain rfl := Option.some.inj h
      exact .quiet (by simp [hstage]) (by simp [sending, hstage]) rfl
    · cases h
  | poll available =>
    simp only [step] at h
    split at h
    next hstage =>
      obtain rfl := Option.some.inj h
      exact .quiet (by simp) (by simp [sending, hstage]) rfl
    next hstage =>
      obtain rfl := Option.some.inj h
      exact .notice hstage
    next hstage =>
      obtain rfl := Option.some.inj h
      exact .quiet (by simp [hstage]) (by simp [sending, hstage]) rfl
    · cases h
  | readEnds =>
    simp only [step] at h
    split at h
    next hstage =>
      obtain rfl := Option.some.inj h
      exact .quiet (by simp) (by simp [sending, hstage]) rfl
    · cases h
  | frame payload g askedMs nowMs gatewayTraceId =>
    simp only [step] at h
    split at h
    next hstage =>
      have hjudge := judgeFrame_cases config clientIp g s.inboundWindowMs askedMs nowMs
      generalize judgeFrame config clientIp g s.inboundWindowMs askedMs nowMs = out at h hjudge
      obtain ⟨g', window, fate⟩ := out
      rcases hjudge with hfate | ⟨hfate, hfull⟩ | ⟨hfate, hcounted⟩
      · obtain rfl : fate = some .ipBanned := hfate
        obtain rfl := Option.some.inj h
        exact .refused hstage (Or.inl rfl)
      · obtain rfl : fate = some .wsRateLimited := hfate
        obtain rfl := Option.some.inj h
        exact .refused hstage (Or.inr ⟨rfl, hfull⟩)
      · obtain ⟨rfl, rfl⟩ := Prod.mk.inj hfate
        dsimp only at h
        split at h
        next err hparse =>
          obtain rfl := Option.some.inj h
          have htrue : FrameFate.IsTrue payload (.invalidRequest err) := hparse
          exact .answered hstage hcounted rfl htrue rfl
        next envelope hparse =>
          split_ifs at h
          · obtain rfl := Option.some.inj h
            exact .parsed (f := ⟨payload, nowMs, envelope, gatewayTraceId⟩) hstage hcounted hparse
          · obtain rfl := Option.some.inj h
            have htrue : FrameFate.IsTrue payload (.upstreamNotReady envelope) := hparse
            exact .answered hstage hcounted rfl htrue rfl
    · cases h
  | sendUpstream writeErr =>
    simp only [step] at h
    split at h
    next f hstage =>
      split at h
      next err hsend =>
        obtain rfl := Option.some.inj h
        exact .sendFailed hstage
      next bytes hsend =>
        obtain rfl := Option.some.inj h
        refine .sent hstage ?_
        unfold UpstreamTcpClient.sendPacket at hsend
        split_ifs at hsend
        split at hsend
        · cases hsend
        next hencode => rw [hencode, Except.ok.inj hsend]
        · cases hsend
    · cases h
  | note =>
    simp only [step] at h
    split at h
    next f hstage =>
      obtain rfl := Option.some.inj h
      exact .quiet (by simp [hstage]) (by simp [sending, hstage]) rfl
    · cases h
  | packet packet =>
    obtain rfl := Option.some.inj h
    exact .packet packet
  | upstreamStops =>
    obtain rfl := Option.some.inj h
    exact .quiet id rfl rfl

/-! ### What is kept along a run -/

/-- A message is written in its turn; the one whose write fails is lost with the session. -/
def InOrder (s : ProxySession) : Prop :=
  ∃ lost : List CppString, lost.length ≤ 1 ∧ (s.stage ≠ .ended → lost = []) ∧
    s.pushed.map BrowserMessage.text = s.written ++ (lost ++ s.outbound)

/-- Every frame that is not forwarded has its answer, and the fates are true. -/
structure Answered (s : ProxySession) : Prop where
  answers : s.pushed.filterMap BrowserMessage.frameAnswer =
    s.frames.filterMap fun f => f.fate.answer
  fates : ∀ f ∈ s.frames, f.fate.IsTrue f.payload
  parsed : ∀ f ∈ s.sending, parseEnvelopeJson f.payload = .ok f.envelope

/-- The packets of the forwarded frames. -/
def forwarded (s : ProxySession) : List Packet :=
  s.frames.filterMap fun f =>
    match f.fate with
    | .forwarded envelope gatewayTraceId => some (upstreamPacket envelope gatewayTraceId)
    | _                                  => none

/-- The response says what the packet says. -/
def Carries (packet : Packet) (envelope : GatewayEnvelope) : Prop :=
  envelope.msgId = packet.msgId ∧ envelope.seqId = packet.seqId ∧
    envelope.playerId = packet.playerId ∧ envelope.body = packet.body

/-- Both directions go through in order. -/
structure Relayed (config : ProxyConfig) (s : ProxySession) : Prop where
  size : s.upstream.maxPacketSize = config.maxPacketSize
  upward : List.Forall₂ (fun packet bytes =>
    PacketCodec.encode packet config.maxPacketSize = .ok bytes) s.forwarded s.upstreamBytes
  downward : List.Forall₂ Carries s.received (s.pushed.filterMap BrowserMessage.response)

/-- The times of the frames that the limiter has accepted. -/
def acceptedTimes (s : ProxySession) : List ℤ :=
  (s.frames.filter fun f => f.fate.Accepted).map FrameRead.nowMs ++
    (s.sending.map ParsedFrame.nowMs).toList

/-- The window is that of a limiter, and a refusal is the last thing that happens. -/
structure Limited (config : ProxyConfig) (s : ProxySession) : Prop where
  accepted : (Limiter.run (limit config) 1000 s.acceptedTimes).accepted = s.acceptedTimes
  window : s.stage ≠ .ended →
    s.inboundWindowMs = (Limiter.run (limit config) 1000 s.acceptedTimes).window
  refused : ∀ f ∈ s.frames, f.fate.Accepted = false →
    s.stage = .ended ∧ s.frames.getLast? = some f ∧
      (∃ before after answer, s.pushed = before ++ .message answer :: after ∧
        f.fate.answer = some answer ∧ s.written.length ≤ before.length) ∧
      (f.fate = .wsRateLimited → (admitCall (limit config) 1000 f.nowMs
        (Limiter.run (limit config) 1000 s.acceptedTimes).window).2 = false)

/-- The notice is pushed once. -/
def NoticedOnce (s : ProxySession) : Prop :=
  s.pushed.countP BrowserMessage.isNotice = if s.upstreamDisconnectNotified then 1 else 0

/-! A frame that is dealt with. -/

@[simp] lemma frames_settle (payload : CppString) (nowMs : ℤ) (fate : FrameFate) :
    (s.settle payload nowMs fate).frames = s.frames ++ [⟨payload, nowMs, fate⟩] := by
  rw [settle]
  cases fate.answer with
  | none => rfl
  | some m => rfl

@[simp] lemma pushed_settle (payload : CppString) (nowMs : ℤ) (fate : FrameFate) :
    (s.settle payload nowMs fate).pushed =
      s.pushed ++ (fate.answer.map BrowserMessage.message).toList := by
  rw [settle]
  cases fate.answer with
  | none => exact (List.append_nil _).symm
  | some m => rfl

@[simp] lemma outbound_settle (payload : CppString) (nowMs : ℤ) (fate : FrameFate) :
    (s.settle payload nowMs fate).outbound =
      s.outbound ++ ((fate.answer.map BrowserMessage.message).toList.map BrowserMessage.text) := by
  rw [settle]
  cases fate.answer with
  | none => exact (List.append_nil _).symm
  | some m => rfl

/-- Nothing else changes. -/
lemma settle_rest (payload : CppString) (nowMs : ℤ) (fate : FrameFate) :
    (s.settle payload nowMs fate).stage = s.stage ∧
      (s.settle payload nowMs fate).upstream = s.upstream ∧
      (s.settle payload nowMs fate).written = s.written ∧
      (s.settle payload nowMs fate).inboundWindowMs = s.inboundWindowMs ∧
      (s.settle payload nowMs fate).upstreamBytes = s.upstreamBytes ∧
      (s.settle payload nowMs fate).received = s.received ∧
      (s.settle payload nowMs fate).upstreamDisconnectNotified = s.upstreamDisconnectNotified := by
  rw [settle]
  cases fate.answer with
  | none => exact ⟨rfl, rfl, rfl, rfl, rfl, rfl, rfl⟩
  | some m => exact ⟨rfl, rfl, rfl, rfl, rfl, rfl, rfl⟩

lemma isNotice_of_ne {code : ℕ} {reason msg h5 gatewayTraceId : CppString}
    (h : reason ≠ str "upstream_disconnected") :
    BrowserMessage.isNotice (.message (.gatewayError code reason msg h5 gatewayTraceId)) = false :=
  decide_eq_false h

/-- What the answer to a frame is. -/
lemma of_answer {fate : FrameFate} {m : OutboundMessage} (h : fate.answer = some m) :
    BrowserMessage.frameAnswer (.message m) = some m ∧
      BrowserMessage.response (.message m) = none ∧
      BrowserMessage.isNotice (.message m) = false := by
  cases fate with
  | forwarded => cases h
  | ipBanned =>
    obtain rfl := Option.some.inj h
    exact ⟨rfl, rfl, isNotice_of_ne (by decide)⟩
  | wsRateLimited =>
    obtain rfl := Option.some.inj h
    exact ⟨rfl, rfl, isNotice_of_ne (by decide)⟩
  | invalidRequest err =>
    obtain rfl := Option.some.inj h
    exact ⟨rfl, rfl, isNotice_of_ne (by decide)⟩
  | upstreamNotReady envelope =>
    obtain rfl := Option.some.inj h
    exact ⟨rfl, rfl, isNotice_of_ne (by decide)⟩
  | upstreamSendFailed envelope gatewayTraceId err =>
    obtain rfl := Option.some.inj h
    exact ⟨rfl, rfl, isNotice_of_ne (by decide)⟩

/-! ### Writing in order -/

lemma InOrder.congr (h : s.InOrder) (hstage : s'.stage ≠ .ended → s.stage ≠ .ended)
    (hpushed : s'.pushed = s.pushed) (hwritten : s'.written = s.written)
    (hout : s'.outbound = s.outbound) : s'.InOrder := by
  obtain ⟨lost, hlen, hlost, heq⟩ := h
  refine ⟨lost, hlen, fun hne => hlost (hstage hne), ?_⟩
  rw [hpushed, hwritten, hout, heq]

/-- Messages are pushed at the end. -/
lemma InOrder.append (h : s.InOrder) (ms : List BrowserMessage)
    (hstage : s'.stage ≠ .ended → s.stage ≠ .ended) (hpushed : s'.pushed = s.pushed ++ ms)
    (hwritten : s'.written = s.written)
    (hout : s'.outbound = s.outbound ++ ms.map BrowserMessage.text) : s'.InOrder := by
  obtain ⟨lost, hlen, hlost, heq⟩ := h
  refine ⟨lost, hlen, fun hne => hlost (hstage hne), ?_⟩
  rw [hpushed, hwritten, hout, List.map_append, heq]
  simp only [List.append_assoc]

lemma InOrder.rule (h : s.InOrder) (hrule : SessionRule config s s') : s'.InOrder := by
  cases hrule with
  | quiet hended => exact h.congr (fun hne heq => hne (hended heq)) rfl rfl rfl
  | @written next rest hstage hout =>
    obtain ⟨lost, hlen, hlost, heq⟩ := h
    obtain rfl := hlost (by simp [hstage])
    exact ⟨[], hlen, fun _ => rfl, by simp [heq, hout]⟩
  | @lost next rest hstage hout =>
    obtain ⟨lost, hlen, hlost, heq⟩ := h
    obtain rfl := hlost (by simp [hstage])
    exact ⟨[next], le_rfl, fun hne => absurd rfl hne, by simp [heq, hout]⟩
  | notice hstage =>
    rw [noticeDisconnect]
    split_ifs
    · exact h.congr (by simp [hstage]) rfl rfl rfl
    · exact h.append [.message disconnectNotice] (by simp [hstage]) rfl rfl rfl
  | refused hstage =>
    exact h.append _ (by simp [hstage]) (pushed_settle _ _ _) (settle_rest _ _ _).2.2.1
      (outbound_settle _ _ _)
  | answered hstage =>
    exact h.append _ (by simp [hstage]) (pushed_settle _ _ _) (settle_rest _ _ _).2.2.1
      (outbound_settle _ _ _)
  | parsed hstage => exact h.congr (by simp [hstage]) rfl rfl rfl
  | sendFailed hstage =>
    exact h.append _ (by simp [hstage]) (pushed_settle _ _ _) (settle_rest _ _ _).2.2.1
      (outbound_settle _ _ _)
  | sent hstage =>
    exact h.append _ (by simp [hstage]) (pushed_settle _ _ _) (settle_rest _ _ _).2.2.1
      (outbound_settle _ _ _)
  | packet packet =>
    exact h.append [.message (.envelope (s.responseEnvelope packet))] id rfl rfl rfl

/-! ### Answers -/

lemma Answered.settle (h : s.Answered) {payload : CppString} {nowMs : ℤ} (fate : FrameFate)
    (htrue : fate.IsTrue payload) (hframes : s'.frames = s.frames ++ [⟨payload, nowMs, fate⟩])
    (hpushed : s'.pushed = s.pushed ++ (fate.answer.map BrowserMessage.message).toList)
    (hsending : s'.sending = none) : s'.Answered := by
  refine ⟨?_, ?_, by simp [hsending]⟩
  · rw [hframes, hpushed, List.filterMap_append, List.filterMap_append, h.answers]
    cases hanswer : fate.answer with
    | none => simp [hanswer]
    | some m => simp [hanswer, (of_answer hanswer).1]
  · rw [hframes]
    intro f hf
    rcases List.mem_append.mp hf with hf | hf
    · exact h.fates f hf
    · obtain rfl := List.mem_singleton.mp hf
      exact htrue

lemma Answered.rule (h : s.Answered) (hrule : SessionRule config s s') : s'.Answered := by
  have hparsed : ∀ {f : ParsedFrame}, s.stage = .send f →
      parseEnvelopeJson f.payload = .ok f.envelope := fun hstage =>
    h.parsed _ (by simp [sending, hstage])
  cases hrule with
  | quiet hended hsending =>
    refine ⟨h.answers, h.fates, fun f hf => h.parsed f ?_⟩
    rwa [← hsending]
  | written hstage => exact ⟨h.answers, h.fates, by simp [sending, hstage]⟩
  | lost hstage => exact ⟨h.answers, h.fates, by simp [sending]⟩
  | notice hstage =>
    rw [noticeDisconnect]
    split_ifs
    · exact ⟨h.answers, h.fates, by simp [sending]⟩
    · refine ⟨?_, h.fates, by simp [sending]⟩
      simp [push, List.filterMap_append, h.answers, BrowserMessage.frameAnswer, disconnectNotice]
  | refused hstage hfate =>
    refine h.settle _ ?_ (frames_settle _ _ _) (pushed_settle _ _ _) rfl
    rcases hfate with rfl | ⟨rfl, -⟩
    · trivial
    · trivial
  | answered hstage hcounted haccepted htrue =>
    exact h.settle _ htrue (frames_settle _ _ _) (pushed_settle _ _ _) rfl
  | parsed hstage hcounted htrue =>
    refine ⟨h.answers, h.fates, fun f hf => ?_⟩
    obtain rfl := Option.some.inj hf
    exact htrue
  | sendFailed hstage =>
    exact h.settle (.upstreamSendFailed _ _ _) (hparsed hstage) (frames_settle _ _ _)
      (pushed_settle _ _ _) rfl
  | sent hstage =>
    exact h.settle (.forwarded _ _) (hparsed hstage) (frames_settle _ _ _)
      (pushed_settle _ _ _) rfl
  | packet packet =>
    refine ⟨?_, h.fates, h.parsed⟩
    simp [push, List.filterMap_append, h.answers, BrowserMessage.frameAnswer]

/-! ### Both directions -/

/-- The responses of a session to which the answer to a frame is added. -/
lemma response_settle (payload : CppString) (nowMs : ℤ) (fate : FrameFate) :
    (s.settle payload nowMs fate).pushed.filterMap BrowserMessage.response =
      s.pushed.filterMap BrowserMessage.response := by
  rw [pushed_settle, List.filterMap_append]
  cases hanswer : fate.answer with
  | none => simp
  | some m => simp [(of_answer hanswer).2.1]

lemma carries_responseEnvelope (s : ProxySession) (packet : Packet) :
    Carries packet (s.responseEnvelope packet) := by
  rw [responseEnvelope]
  cases s.pendingBySeq.lookup packet.seqId with
  | none => exact ⟨rfl, rfl, rfl, rfl⟩
  | some trace => exact ⟨rfl, rfl, rfl, rfl⟩

/-- A frame that is not forwarded. -/
lemma Relayed.settle (h : s.Relayed config) {payload : CppString} {nowMs : ℤ} {fate : FrameFate}
    {m : OutboundMessage} (hanswer : fate.answer = some m)
    (hframes : s'.frames = (s.settle payload nowMs fate).frames)
    (hpushed : s'.pushed = (s.settle payload nowMs fate).pushed)
    (hupstream : s'.upstream = (s.settle payload nowMs fate).upstream)
    (hbytes : s'.upstreamBytes = (s.settle payload nowMs fate).upstreamBytes)
    (hreceived : s'.received = (s.settle payload nowMs fate).received) : s'.Relayed config := by
  obtain ⟨-, hu, -, -, hb, hr, -⟩ := settle_rest (s := s) payload nowMs fate
  rw [hu] at hupstream
  rw [hb] at hbytes
  rw [hr] at hreceived
  refine ⟨hupstream ▸ h.size, ?_, ?_⟩
  · have hforwarded : s'.forwarded = s.forwarded := by
      rw [forwarded, hframes, frames_settle, List.filterMap_append]
      cases fate with
      | forwarded => cases hanswer
      | ipBanned => exact List.append_nil _
      | wsRateLimited => exact List.append_nil _
      | invalidRequest => exact List.append_nil _
      | upstreamNotReady => exact List.append_nil _
      | upstreamSendFailed => exact List.append_nil _
    rw [hforwarded, hbytes]
    exact h.upward
  · rw [hpushed, response_settle, hreceived]
    exact h.downward

lemma Relayed.rule (h : s.Relayed config) (hrule : SessionRule config s s') :
    s'.Relayed config := by
  cases hrule with
  | quiet hended hsending hsize => exact ⟨hsize.trans h.size, h.upward, h.downward⟩
  | written => exact ⟨h.size, h.upward, h.downward⟩
  | lost => exact ⟨h.size, h.upward, h.downward⟩
  | parsed => exact ⟨h.size, h.upward, h.downward⟩
  | notice =>
    rw [noticeDisconnect]
    split_ifs
    · exact ⟨h.size, h.upward, h.downward⟩
    · refine ⟨h.size, h.upward, ?_⟩
      simp only [push, List.filterMap_append, disconnectNotice, BrowserMessage.response,
        List.filterMap_cons, List.filterMap_nil, List.append_nil]
      exact h.downward
  | refused hstage hfate =>
    rcases hfate with rfl | ⟨rfl, -⟩
    · exact h.settle rfl rfl rfl rfl rfl rfl
    · exact h.settle rfl rfl rfl rfl rfl rfl
  | answered hstage hcounted haccepted htrue hanswer => exact h.settle hanswer rfl rfl rfl rfl rfl
  | @sendFailed f err hstage =>
    have hanswer : (FrameFate.upstreamSendFailed f.envelope f.gatewayTraceId err).answer =
        some (.gatewayError 502 (str "upstream_send_failed") err f.envelope.h5RequestId
          f.gatewayTraceId) := rfl
    exact h.settle hanswer rfl rfl rfl rfl rfl
  | @sent f bytes hstage hencode =>
    obtain ⟨-, hupstream, -, -, hbytes, hreceived, -⟩ := settle_rest (s := s) f.payload f.nowMs
      (.forwarded f.envelope f.gatewayTraceId)
    refine ⟨hupstream ▸ h.size, ?_, ?_⟩
    · simp only [forwarded, frames_settle, List.filterMap_append]
      rw [h.size] at hencode
      exact List.rel_append h.upward (.cons hencode .nil)
    · simp only [response_settle, hreceived]
      exact h.downward
  | packet packet =>
    refine ⟨h.size, h.upward, ?_⟩
    simp only [push, List.filterMap_append]
    exact List.rel_append h.downward (.cons (s.carries_responseEnvelope packet) .nil)

/-! ### The notice -/

lemma NoticedOnce.congr (h : s.NoticedOnce) (hpushed : s'.pushed = s.pushed)
    (hflag : s'.upstreamDisconnectNotified = s.upstreamDisconnectNotified) : s'.NoticedOnce := by
  rw [NoticedOnce, hpushed, hflag]
  exact h

lemma NoticedOnce.settle (h : s.NoticedOnce) {payload : CppString} {nowMs : ℤ} {fate : FrameFate}
    (hpushed : s'.pushed = (s.settle payload nowMs fate).pushed)
    (hflag : s'.upstreamDisconnectNotified =
      (s.settle payload nowMs fate).upstreamDisconnectNotified) : s'.NoticedOnce := by
  rw [NoticedOnce, hpushed, hflag, (settle_rest _ _ _).2.2.2.2.2.2, pushed_settle,
    List.countP_append, h]
  cases hanswer : fate.answer with
  | none => simp
  | some m => simp [(of_answer hanswer).2.2]

lemma NoticedOnce.rule (h : s.NoticedOnce) (hrule : SessionRule config s s') :
    s'.NoticedOnce := by
  cases hrule with
  | quiet => exact h.congr rfl rfl
  | written => exact h.congr rfl rfl
  | lost => exact h.congr rfl rfl
  | parsed => exact h.congr rfl rfl
  | notice =>
    rw [noticeDisconnect]
    split_ifs with hknown
    · exact h.congr rfl rfl
    · rw [not_or, Bool.not_eq_true, Bool.not_eq_true] at hknown
      rw [NoticedOnce, hknown.2] at h
      simp only [NoticedOnce, push, List.countP_append, h]
      decide
  | refused => exact h.settle rfl rfl
  | answered => exact h.settle rfl rfl
  | sendFailed => exact h.settle rfl rfl
  | sent => exact h.settle rfl rfl
  | packet packet =>
    rw [NoticedOnce] at h ⊢
    simp only [push, List.countP_append, h]
    rfl

/-! ### The limiter -/

lemma acceptedTimes_congr (hframes : s'.frames = s.frames) (hsending : s'.sending = s.sending) :
    s'.acceptedTimes = s.acceptedTimes := by
  rw [acceptedTimes, hframes, hsending, acceptedTimes]

/-- The answer to a refused frame is behind what is written. -/
lemma Limited.congr (h : s.Limited config) (hframes : s'.frames = s.frames)
    (hsending : s'.sending = s.sending) (hended : s.stage = .ended → s'.stage = .ended)
    (hwindow : s'.inboundWindowMs = s.inboundWindowMs)
    (hpushed : ∃ ms, s'.pushed = s.pushed ++ ms)
    (hwritten : s.stage = .ended → s'.written = s.written) : s'.Limited config := by
  have htimes := acceptedTimes_congr hframes hsending
  refine ⟨?_, fun hlive => ?_, fun f hf hrefused => ?_⟩
  · rw [htimes]
    exact h.accepted
  · rw [htimes, hwindow]
    exact h.window fun heq => hlive (hended heq)
  · rw [hframes] at hf ⊢
    obtain ⟨hstage, hlast, ⟨before, after, answer, heq, hanswer, hlen⟩, hrate⟩ :=
      h.refused f hf hrefused
    obtain ⟨ms, hms⟩ := hpushed
    refine ⟨hended hstage, hlast, ⟨before, after ++ ms, answer, ?_, hanswer, ?_⟩, ?_⟩
    · rw [hms, heq, List.append_assoc, List.cons_append]
    · rwa [hwritten hstage]
    · rwa [htimes]

/-- A session that goes on has refused no frame. -/
lemma Limited.accepted_of_live (h : s.Limited config) (hlive : s.stage ≠ .ended) :
    ∀ f ∈ s.frames, f.fate.Accepted = true := by
  intro f hf
  by_contra hrefused
  exact hlive (h.refused f hf (Bool.not_eq_true _ ▸ hrefused)).1

/-- A frame that the limiter accepts. -/
lemma Limited.accept (h : s.Limited config) (hlive : s.stage ≠ .ended) {nowMs : ℤ}
    (hcounted : (admitCall (limit config) 1000 nowMs s.inboundWindowMs).2 = true)
    (htimes : s'.acceptedTimes = s.acceptedTimes ++ [nowMs])
    (hwindow : s'.inboundWindowMs = (admitCall (limit config) 1000 nowMs s.inboundWindowMs).1)
    (haccepted : ∀ f ∈ s'.frames, f.fate.Accepted = true) : s'.Limited config := by
  rw [h.window hlive] at hcounted hwindow
  have hcall : Limiter.run (limit config) 1000 s'.acceptedTimes =
      { window := s'.inboundWindowMs
        accepted := s.acceptedTimes ++ [nowMs] } := by
    have hout : admitCall (limit config) 1000 nowMs
        (Limiter.run (limit config) 1000 s.acceptedTimes).window = (s'.inboundWindowMs, true) :=
      Prod.ext hwindow.symm hcounted
    rw [htimes, Limiter.run_append, Limiter.call, hout, h.accepted]
    rfl
  refine ⟨?_, fun _ => ?_, fun f hf hrefused => ?_⟩
  · rw [hcall, htimes]
  · rw [hcall]
  · rw [haccepted f hf] at hrefused
    cases hrefused

/-- A frame that was accepted before is dealt with. -/
lemma Limited.finish (h : s.Limited config) (hlive : s.stage ≠ .ended)
    (htimes : s'.acceptedTimes = s.acceptedTimes)
    (hwindow : s'.inboundWindowMs = s.inboundWindowMs)
    (haccepted : ∀ f ∈ s'.frames, f.fate.Accepted = true) : s'.Limited config := by
  refine ⟨?_, fun _ => ?_, fun f hf hrefused => ?_⟩
  · rw [htimes]
    exact h.accepted
  · rw [htimes, hwindow]
    exact h.window hlive
  · rw [haccepted f hf] at hrefused
    cases hrefused

/-- A refused frame ends the session, and its answer stays behind. -/
lemma Limited.refuse (h : s.Limited config) (hlive : s.stage ≠ .ended)
    (hsending : s.sending = none) (horder : s.InOrder) {payload : CppString} {nowMs : ℤ}
    {fate : FrameFate}
    (hfate : fate = .ipBanned ∨ fate = .wsRateLimited ∧
      (admitCall (limit config) 1000 nowMs s.inboundWindowMs).2 = false)
    (hstage : s'.stage = .ended) (hframes : s'.frames = s.frames ++ [⟨payload, nowMs, fate⟩])
    (hpushed : s'.pushed = s.pushed ++ (fate.answer.map BrowserMessage.message).toList)
    (hwritten : s'.written = s.written) : s'.Limited config := by
  have haccepted : fate.Accepted = false := by
    rcases hfate with rfl | ⟨rfl, -⟩
    · rfl
    · rfl
  have htimes : s'.acceptedTimes = s.acceptedTimes := by
    rw [acceptedTimes, acceptedTimes, hsending, hframes]
    simp [sending, hstage, haccepted]
  refine ⟨?_, fun hne => absurd hstage hne, fun f hf hrefused => ?_⟩
  · rw [htimes]
    exact h.accepted
  · rw [hframes] at hf
    have hlast : f = ⟨payload, nowMs, fate⟩ := by
      rcases List.mem_append.mp hf with hf | hf
      · rw [h.accepted_of_live hlive f hf] at hrefused
        cases hrefused
      · exact List.mem_singleton.mp hf
    subst hlast
    obtain ⟨lost, -, hlost, heq⟩ := horder
    obtain rfl := hlost hlive
    have hlen : s.written.length ≤ s.pushed.length := by
      have hlength := congrArg List.length heq
      rw [List.length_map, List.length_append] at hlength
      exact hlength ▸ Nat.le_add_right _ _
    refine ⟨hstage, ?_, ?_, ?_⟩
    · rw [hframes]
      exact List.getLast?_concat
    · rw [hpushed, hwritten]
      rcases hfate with rfl | ⟨rfl, -⟩
      · exact ⟨s.pushed, [], _, rfl, rfl, hlen⟩
      · exact ⟨s.pushed, [], _, rfl, rfl, hlen⟩
    · intro hrate
      rcases hfate with rfl | ⟨-, hfull⟩
      · cases hrate
      · rw [htimes, ← h.window hlive]
        exact hfull

lemma Limited.rule (h : s.Limited config) (horder : s.InOrder)
    (hrule : SessionRule config s s') : s'.Limited config := by
  cases hrule with
  | quiet hended hsending =>
    exact h.congr rfl hsending hended rfl ⟨[], (List.append_nil _).symm⟩ fun _ => rfl
  | written hstage =>
    refine h.congr rfl rfl id rfl ⟨[], (List.append_nil _).symm⟩ fun hended => ?_
    rw [hstage] at hended
    cases hended
  | lost hstage =>
    refine h.congr rfl ?_ (fun _ => rfl) rfl ⟨[], (List.append_nil _).symm⟩ fun _ => rfl
    simp [sending, hstage]
  | notice hstage =>
    have hended : s.stage = .ended → LoopStage.flush = .ended := by simp [hstage]
    rw [noticeDisconnect]
    split_ifs
    · exact h.congr rfl (by simp [sending, hstage]) hended rfl ⟨[], (List.append_nil _).symm⟩
        fun _ => rfl
    · exact h.congr rfl (by simp [sending, hstage]) hended rfl ⟨_, rfl⟩ fun _ => rfl
  | refused hstage hfate =>
    exact h.refuse (by simp [hstage]) (by simp [sending, hstage]) horder hfate rfl
      (frames_settle _ _ _) (pushed_settle _ _ _) (settle_rest _ _ _).2.2.1
  | answered hstage hcounted haccepted =>
    have hlive : s.stage ≠ .ended := by simp [hstage]
    refine h.accept hlive hcounted ?_ rfl ?_
    · rw [acceptedTimes, acceptedTimes]
      simp [sending, hstage, haccepted]
    · intro f hf
      rw [frames_settle] at hf
      rcases List.mem_append.mp hf with hf | hf
      · exact h.accepted_of_live hlive f hf
      · obtain rfl := List.mem_singleton.mp hf
        exact haccepted
  | parsed hstage hcounted =>
    have hlive : s.stage ≠ .ended := by simp [hstage]
    refine h.accept hlive hcounted ?_ rfl (h.accepted_of_live hlive)
    rw [acceptedTimes, acceptedTimes]
    simp [sending, hstage]
  | sendFailed hstage =>
    have hlive : s.stage ≠ .ended := by simp [hstage]
    refine h.finish hlive ?_ (settle_rest _ _ _).2.2.2.1 ?_
    · rw [acceptedTimes, acceptedTimes]
      simp [sending, hstage, FrameFate.Accepted]
    · intro f hf
      rw [frames_settle] at hf
      rcases List.mem_append.mp hf with hf | hf
      · exact h.accepted_of_live hlive f hf
      · obtain rfl := List.mem_singleton.mp hf
        rfl
  | sent hstage =>
    have hlive : s.stage ≠ .ended := by simp [hstage]
    refine h.finish hlive ?_ (settle_rest _ _ _).2.2.2.1 ?_
    · rw [acceptedTimes, acceptedTimes]
      simp [sending, hstage, FrameFate.Accepted]
    · intro f hf
      rw [frames_settle] at hf
      rcases List.mem_append.mp hf with hf | hf
      · exact h.accepted_of_live hlive f hf
      · obtain rfl := List.mem_singleton.mp hf
        rfl
  | packet packet => exact h.congr rfl rfl id rfl ⟨_, rfl⟩ fun _ => rfl

/-! ### A whole session -/

/-- Everything that holds of a session. -/
structure Sound (config : ProxyConfig) (s : ProxySession) : Prop where
  order : s.InOrder
  answered : s.Answered
  relayed : s.Relayed config
  limited : s.Limited config
  noticed : s.NoticedOnce

lemma sound_start (config : ProxyConfig) (connectErr : Option CppString) :
    (start config connectErr).Sound config := by
  cases connectErr with
  | none =>
    refine ⟨⟨[], Nat.zero_le _, fun _ => rfl, rfl⟩, ⟨rfl, ?_, ?_⟩, ⟨rfl, .nil, .nil⟩,
      ⟨rfl, fun _ => rfl, ?_⟩, rfl⟩
    · intro f hf
      cases hf
    · intro f hf
      cases hf
    · intro f hf
      cases hf
  | some err =>
    have hnotice : BrowserMessage.isNotice (.message (.gatewayError 1
        (str "upstream_connect_failed") err [] [])) = false := isNotice_of_ne (by decide)
    refine ⟨⟨[], Nat.zero_le _, fun _ => rfl, rfl⟩, ⟨rfl, ?_, ?_⟩, ⟨rfl, .nil, .nil⟩,
      ⟨rfl, fun _ => rfl, ?_⟩, ?_⟩
    · intro f hf
      cases hf
    · intro f hf
      cases hf
    · intro f hf
      cases hf
    · simp only [NoticedOnce, start, push, List.countP_append, List.countP_singleton, hnotice]
      rfl

lemma Sound.rule (h : s.Sound config) (hrule : SessionRule config s s') : s'.Sound config :=
  ⟨h.order.rule hrule, h.answered.rule hrule, h.relayed.rule hrule,
    h.limited.rule h.order hrule, h.noticed.rule hrule⟩

lemma sound_of_run {connectErr : Option CppString} {events : List SessionEvent}
    (hrun : Run.exec (step config clientIp) (start config connectErr) events = some s) :
    s.Sound config := by
  refine Run.invariant (I := fun s => s.Sound config) (fun s event s' h hstep => ?_)
    (sound_start config connectErr) hrun
  exact h.rule (rule_of_step hstep)

/-- A whole session, whatever happens in it. What was pushed is written in its order, up to one
message that is lost with the connection; the frames that were read are forwarded in their order, as
the packets of the envelopes that they hold, or answered in their order by one error envelope each;
the responses go down in the order in which they came; the browser is told once that the game server
is gone; and no second has more accepted frames than the limit. A frame that is refused is the last
one, its answer is never written, and one that is refused for the rate finds as many frames in the
last second as the limit allows. -/
theorem proxy_session {connectErr : Option CppString} {events : List SessionEvent}
    (hrun : Run.exec (step config clientIp) (start config connectErr) events = some s) :
    (∃ unwritten, s.pushed.map BrowserMessage.text = s.written ++ unwritten ∧
      s.outbound <:+ unwritten ∧ unwritten.length ≤ s.outbound.length + 1 ∧
      (s.stage ≠ .ended → unwritten = s.outbound)) ∧
    (s.pushed.filterMap BrowserMessage.frameAnswer = s.frames.filterMap fun f => f.fate.answer) ∧
    (∀ f ∈ s.frames, f.fate.IsTrue f.payload) ∧
    List.Forall₂ (fun packet bytes => PacketCodec.encode packet config.maxPacketSize = .ok bytes)
      s.forwarded s.upstreamBytes ∧
    List.Forall₂ Carries s.received (s.pushed.filterMap BrowserMessage.response) ∧
    s.pushed.countP BrowserMessage.isNotice ≤ 1 ∧
    (s.acceptedTimes.Pairwise (· ≤ ·) → ∀ t,
      (s.acceptedTimes.filter fun x => t - 1000 < x ∧ x ≤ t).length ≤
        config.maxWsMessagesPerSec) ∧
    ∀ f ∈ s.frames, f.fate.Accepted = false →
      s.stage = .ended ∧ s.frames.getLast? = some f ∧
      (∃ before after answer, s.pushed = before ++ .message answer :: after ∧
        f.fate.answer = some answer ∧ s.written.length ≤ before.length) ∧
      (f.fate = .wsRateLimited → (s.acceptedTimes ++ [f.nowMs]).Pairwise (· ≤ ·) →
        (s.acceptedTimes.filter fun x => f.nowMs - 1000 < x ∧ x ≤ f.nowMs).length =
          config.maxWsMessagesPerSec) := by
  obtain ⟨⟨lost, hlen, hlost, hpushed⟩, hanswered, hrelayed, hlimited, hnoticed⟩ :=
    sound_of_run hrun
  have hlimit : (limit config : ℤ) = config.maxWsMessagesPerSec :=
    Int.toNat_of_nonneg config.messages_pos.le
  refine ⟨⟨lost ++ s.outbound, hpushed, List.suffix_append _ _, ?_, fun hne => ?_⟩,
    hanswered.answers, hanswered.fates, hrelayed.upward, hrelayed.downward, ?_, ?_, ?_⟩
  · rw [List.length_append]
    omega
  · rw [hlost hne, List.nil_append]
  · rw [hnoticed]
    split_ifs
    · exact le_rfl
    · exact Nat.zero_le _
  · intro hsorted t
    rw [← hlimit, Nat.cast_le]
    conv_lhs => rw [← hlimited.accepted]
    exact Limiter.length_inside_le hsorted t
  · intro f hf hrefused
    obtain ⟨hstage, hlast, hanswer, hrate⟩ := hlimited.refused f hf hrefused
    refine ⟨hstage, hlast, hanswer, fun hfate hsorted => ?_⟩
    rw [List.pairwise_append] at hsorted
    have hexact : Limiter.Exact (limit config) 1000 f.nowMs
        (Limiter.run (limit config) 1000 s.acceptedTimes) :=
      Limiter.exact_run hsorted.1 fun x hx =>
        hsorted.2.2 x hx f.nowMs (List.mem_singleton_self f.nowMs)
    have hlength := hexact.refused le_rfl (hrate hfate)
    rw [hlimited.accepted] at hlength
    rw [← hlimit, Nat.cast_inj]
    exact hlength

/-- A frame of the browser. -/
def pingFrame : CppString :=
  str "\x7b\"msg_id\":1,\"seq_id\":7,\"player_id\":0,\"body\":\"\"\x7d"

/-- Two frames within a second, the limit being one. -/
def burst : List SessionEvent :=
  [.write true, .write true, .poll .bytes, .frame pingFrame {} 0 0 (str "g1"), .sendUpstream none,
    .note, .write true, .poll .bytes, .frame pingFrame {} 5 5 (str "g2")]

theorem proxy_session_of_burst :
    let run := Run.exec (step { maxWsMessagesPerSec := 1 } (str "10.0.0.1"))
      (start { maxWsMessagesPerSec := 1 } none) burst
    (run.map fun s => (s.written.length, s.frames.getLast?, s.acceptedTimes)) =
        some (1, some ⟨pingFrame, 5, .wsRateLimited⟩, [0]) ∧
      ∀ s, run = some s → s.stage = .ended ∧
        (s.acceptedTimes.filter fun x => 5 - 1000 < x ∧ x ≤ 5).length = (1 : ℤ) := by
  intro run
  have hend : (run.map fun s => (s.written.length, s.frames.getLast?, s.acceptedTimes)) =
      some (1, some ⟨pingFrame, 5, .wsRateLimited⟩, [0]) := by decide +kernel
  refine ⟨hend, fun s hs => ?_⟩
  rw [hs, Option.map_some, Option.some.injEq, Prod.mk.injEq, Prod.mk.injEq] at hend
  have hlast := List.mem_of_getLast? hend.2.1
  obtain ⟨-, -, -, -, -, -, -, hrefused⟩ := proxy_session hs
  obtain ⟨hstage, -, -, hrate⟩ := hrefused _ hlast rfl
  refine ⟨hstage, hrate rfl ?_⟩
  rw [hend.2.2]
  decide

end ProxySession

end DdzServer
