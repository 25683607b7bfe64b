import DdzServer.Network.TcpConnection
import Mathlib.Data.List.Forall2

/-!
# Packets on the way out

`TcpConnection::SendPacket`. The socket does not block, so a call can fail when part of its packet
has been written.
-/

namespace DdzServer

/-- What one `send` returns: it takes `n + 1` bytes, or the whole request if that is shorter, or it
fails. -/
inductive SendResult where
  | sent (n : ℕ)
  | failed

namespace TcpConnection

/-- The loop around `send`: the bytes that are written of those still to send, and whether all are.
After the last result the socket takes nothing more. -/
def sendLoop : List SendResult → CppString → CppString × Bool
  | _, []                  => ([], true)
  | [], _                  => ([], false)
  | .failed :: _, _        => ([], false)
  | .sent n :: more, bytes =>
    let r := sendLoop more (bytes.drop (n + 1))
    (bytes.take (n + 1) ++ r.1, r.2)

/-- `SendPacket`: what it returns, and the bytes it writes to the socket. -/
def sendPacket (conn : TcpConnection) (packet : Packet) (sends : List SendResult) :
    Bool × CppString :=
  match PacketCodec.encode packet conn.maxPacketSize with
  | .error _    => (false, [])
  | .ok encoded =>
    if !conn.running then (false, [])
    else
      let r := sendLoop sends encoded
      (r.2, r.1)

lemma sendLoop_spec (sends : List SendResult) (bytes : CppString) :
    (sendLoop sends bytes).1 <+: bytes ∧
      ((sendLoop sends bytes).2 = true ↔ (sendLoop sends bytes).1.length = bytes.length) := by
  induction sends generalizing bytes with
  | nil =>
    cases bytes with
    | nil => simp [sendLoop]
    | cons b bytes => simp [sendLoop]
  | cons r more ih =>
    cases bytes with
    | nil => simp [sendLoop]
    | cons b bytes =>
      cases r with
      | failed => simp [sendLoop]
      | sent n =>
        obtain ⟨hfront, hall⟩ := ih ((b :: bytes).drop (n + 1))
        simp only [sendLoop]
        constructor
        · have h := List.prefix_append_right_inj ((b :: bytes).take (n + 1)) |>.mpr hfront
          rwa [List.take_append_drop] at h
        · rw [hall, List.length_append, List.length_take, List.length_drop]
          have hle := hfront.length_le
          rw [List.length_drop] at hle
          omega

/-- The socket takes bytes of the call. -/
def takesBytes : List SendResult → Bool
  | .sent _ :: _ => true
  | _            => false

lemma sendLoop_of_takes_nothing {sends : List SendResult} (h : takesBytes sends = false)
    (bytes : CppString) : (sendLoop sends bytes).1 = [] := by
  cases bytes with
  | nil => cases sends <;> rfl
  | cons b bytes =>
    cases sends with
    | nil => rfl
    | cons r more =>
      cases r with
      | failed => rfl
      | sent n => simp [takesBytes] at h

end TcpConnection

/-! ### The stream of a connection -/

/-- A connection with all the bytes written to its socket and the packets whose `SendPacket`
returned true. -/
structure Outgoing where
  conn : TcpConnection
  written : CppString := []
  accepted : List Packet := []

/-- What can happen to the outgoing side of a connection. -/
inductive SendEvent where
  | sendPacket (packet : Packet) (sends : List SendResult)
  | stop

namespace Outgoing

/-- A connection that `Start` has set running. -/
def opened (maxPacketSize : UInt32) : Outgoing where
  conn := TcpConnection.start { maxPacketSize := maxPacketSize }

def apply (o : Outgoing) : SendEvent → Outgoing
  | .sendPacket packet sends =>
    let r := o.conn.sendPacket packet sends
    { o with
      written := o.written ++ r.2
      accepted := if r.1 then o.accepted ++ [packet] else o.accepted }
  | .stop => { o with conn := o.conn.stop }

def step : Outgoing → SendEvent → Option Outgoing := Run.total apply

/-- The bytes written end in the middle of a packet. -/
def MidPacket (o : Outgoing) : Prop :=
  (PacketCodec.framer o.conn.maxPacketSize).rest o.written ≠ []

/-- The socket takes no bytes of a packet while it holds an unfinished one; and the length of a
packet fits in 32 bits. -/
def Orderly (o : Outgoing) : SendEvent → Prop
  | .sendPacket packet sends =>
    PacketCodec.kHeaderSize.toNat + packet.body.length < 2 ^ 32 ∧
      (o.MidPacket → TcpConnection.takesBytes sends = false)
  | .stop => True

/-- The bytes written decode to the packets whose `SendPacket` returned true: they are their
encodings, and then bytes that are no packet yet. -/
def Framed (o : Outgoing) : Prop :=
  ∃ encodings unfinished,
    List.Forall₂ (PacketCodec.Encodes o.conn.maxPacketSize) o.accepted encodings ∧
    o.written = encodings.flatten ++ unfinished ∧
    PacketCodec.decode o.conn.maxPacketSize o.written =
      { buffer := unfinished, out := o.accepted }

/-- Encodings and the front of one more packet are framed. -/
lemma framed_of_unfinished {o : Outgoing} (encodings : List CppString) (unfinished : CppString)
    (hall : List.Forall₂ (PacketCodec.Encodes o.conn.maxPacketSize) o.accepted encodings)
    (hwritten : o.written = encodings.flatten ++ unfinished)
    (hhead : PacketCodec.head o.conn.maxPacketSize unfinished = .incomplete) : o.Framed := by
  obtain ⟨hframes, hrest⟩ := PacketCodec.frames_encodings hall unfinished
  have hno : ∀ p n, (PacketCodec.framer o.conn.maxPacketSize).head unfinished ≠ .frame p n := by
    simp [PacketCodec.framer, hhead]
  rw [Framer.frames_of_not_frame hno, List.append_nil, ← hwritten] at hframes
  rw [Framer.rest_of_not_frame hno, ← hwritten] at hrest
  have hv : (PacketCodec.framer o.conn.maxPacketSize).Valid o.written := by
    rw [Framer.Valid, hrest]
    simp [PacketCodec.framer, hhead]
  exact ⟨encodings, unfinished, hall, hwritten, by
    rw [PacketCodec.decode_of_valid _ hv, hframes, hrest]⟩

lemma framed_opened (maxPacketSize : UInt32) : (opened maxPacketSize).Framed :=
  framed_of_unfinished [] [] .nil rfl rfl

/-- What one call can do to the stream. -/
lemma sendPacket_cases (conn : TcpConnection) (packet : Packet) (sends : List SendResult) :
    conn.sendPacket packet sends = (false, []) ∨
      ∃ encoded, PacketCodec.encode packet conn.maxPacketSize = .ok encoded ∧
        conn.sendPacket packet sends =
          ((TcpConnection.sendLoop sends encoded).2, (TcpConnection.sendLoop sends encoded).1) := by
  unfold TcpConnection.sendPacket
  cases h : PacketCodec.encode packet conn.maxPacketSize with
  | error err => exact Or.inl rfl
  | ok encoded =>
    cases conn.running with
    | false => exact Or.inl rfl
    | true => exact Or.inr ⟨encoded, rfl, rfl⟩

/-- A call that writes nothing and fails changes nothing. -/
lemma apply_of_nothing {o : Outgoing} {packet : Packet} {sends : List SendResult}
    (h : o.conn.sendPacket packet sends = (false, [])) :
    o.apply (.sendPacket packet sends) = o := by
  simp [apply, h]

lemma framed_apply {o : Outgoing} (h : o.Framed) {e : SendEvent} (he : o.Orderly e) :
    (o.apply e).Framed := by
  cases e with
  | stop => exact h
  | sendPacket packet sends =>
    obtain ⟨hsize, hmid⟩ := he
    rcases sendPacket_cases o.conn packet sends with hnone | ⟨encoded, hok, hsend⟩
    · rwa [apply_of_nothing hnone]
    have hhead := PacketCodec.head_encode hok hsize
    have hpos : 0 < encoded.length := ((PacketCodec.framer o.conn.maxPacketSize).len_bounds hhead).1
    obtain ⟨hfront, hall⟩ := TcpConnection.sendLoop_spec sends encoded
    by_cases hm : o.MidPacket
    · -- the socket takes nothing, so the call fails
      have hnil := TcpConnection.sendLoop_of_takes_nothing (hmid hm) encoded
      have hfalse : (TcpConnection.sendLoop sends encoded).2 = false := by
        rw [← Bool.not_eq_true, hall, hnil, List.length_nil]
        omega
      rwa [apply_of_nothing (by rw [hsend, hnil, hfalse])]
    · obtain ⟨encodings, unfinished, hencs, hwritten, hdec⟩ := h
      have hnil : unfinished = [] := by
        have hv := (PacketCodec.err_decode o.conn.maxPacketSize o.written).mp (by rw [hdec])
        rw [PacketCodec.decode_of_valid _ hv] at hdec
        exact (congrArg PacketCodec.Decoded.buffer hdec).symm.trans (not_not.mp hm)
      rw [hnil, List.append_nil] at hwritten
      cases hr : (TcpConnection.sendLoop sends encoded).2 with
      | true =>
        have hwhole : (TcpConnection.sendLoop sends encoded).1 = encoded :=
          hfront.eq_of_length (hall.mp hr)
        refine framed_of_unfinished (encodings ++ [encoded]) [] ?_ ?_ rfl
        · simp only [apply, hsend, hr, if_true]
          exact List.rel_append hencs (.cons ⟨hok, hsize⟩ .nil)
        · simp [apply, hsend, hwritten, hwhole]
      | false =>
        have hlt : (TcpConnection.sendLoop sends encoded).1.length < encoded.length := by
          refine lt_of_le_of_ne hfront.length_le fun heq => ?_
          rw [hall.mpr heq] at hr
          exact absurd hr (by decide)
        refine framed_of_unfinished encodings _ ?_ ?_
          (Framer.head_of_front (F := PacketCodec.framer o.conn.maxPacketSize) hhead hfront hlt)
        · simpa only [apply, hsend, hr, Bool.false_eq_true, if_false] using hencs
        · simp only [apply, hsend, hwritten]

/-- As long as the socket takes no bytes of another packet after an unfinished one, the stream is
framed. -/
theorem framed_along (maxPacketSize : UInt32) {events : List SendEvent}
    (h : Run.Along step Orderly (opened maxPacketSize) events) {o : Outgoing}
    (ho : Run.Visits step (opened maxPacketSize) events o) : o.Framed := by
  obtain ⟨l₁, l₂, rfl, ht⟩ := ho
  have hstep : ∀ o e o', o.Framed → o.Orderly e → step o e = some o' → o'.Framed := by
    intro o e o' hf he hs
    rw [step, Run.total_eq_some] at hs
    exact hs ▸ framed_apply hf he
  exact Run.invariant_along hstep (framed_opened maxPacketSize) (Run.along_append h ht).1 ht

instance (o : Outgoing) : Decidable o.MidPacket := inferInstanceAs (Decidable (_ ≠ _))

instance (o : Outgoing) (e : SendEvent) : Decidable (o.Orderly e) :=
  match e with
  | .stop => isTrue trivial
  | .sendPacket _ _ => inferInstanceAs (Decidable (_ ∧ (_ → _)))

/-- A packet in two parts and the front of a packet; the next packet finds the socket full. -/
theorem framed_of_three_calls :
    ∃ o, Run.exec step (opened 65536)
        [.sendPacket { msgId := 1, body := str "abc" } [.sent 9, .sent 12],
         .sendPacket { msgId := 2 } [.sent 3, .failed], .sendPacket { msgId := 3 } [.failed]] =
        some o ∧
      o.accepted = [{ msgId := 1, body := str "abc" }] ∧ o.MidPacket ∧ o.Framed := by
  have halong : Run.Along step Orderly (opened 65536)
      [.sendPacket { msgId := 1, body := str "abc" } [.sent 9, .sent 12],
       .sendPacket { msgId := 2 } [.sent 3, .failed], .sendPacket { msgId := 3 } [.failed]] := by
    decide +kernel
  exact ⟨_, rfl, by decide +kernel, by decide +kernel,
    framed_along 65536 halong ⟨_, [], (List.append_nil _).symm, rfl⟩⟩

/-- A call fails after 10 bytes of its packet, and the next call writes a whole packet. -/
theorem second_packet_garbled :
    ∃ o, Run.exec step (opened 65536)
        [.sendPacket { msgId := 1, body := str "abc" } [.sent 9, .failed],
         .sendPacket { msgId := 2 } [.sent 19]] = some o ∧
      o.conn.running = true ∧ o.accepted = [{ msgId := 2 }] ∧
      (PacketCodec.decode 65536 o.written).out ≠ o.accepted ∧ ¬ o.Framed := by
  have hne : ∀ o, Run.exec step (opened 65536)
      [.sendPacket { msgId := 1, body := str "abc" } [.sent 9, .failed],
       .sendPacket { msgId := 2 } [.sent 19]] = some o →
      (PacketCodec.decode o.conn.maxPacketSize o.written).out ≠ o.accepted := by
    rintro _ ⟨⟩
    decide +kernel
  refine ⟨_, rfl, rfl, by decide +kernel, hne _ rfl, ?_⟩
  rintro ⟨encodings, unfinished, -, -, hdec⟩
  exact hne _ rfl (congrArg PacketCodec.Decoded.out hdec)

end Outgoing

end DdzServer
