import DdzServer.Lib.Run
import DdzServer.Network.PacketCodec

/-!
# A connection and its stream

`network/tcp_connection.cpp` and the part of `TcpServer::WorkerLoop` that serves one connection. The
socket is given by the results of its calls, so a list of results is one way in which a stream can
arrive or leave. The heartbeat of the connection is in the model of the server.
-/

namespace DdzServer

structure TcpConnection where
  maxPacketSize : UInt32
  running : Bool := false
  readBuffer : CppString := []

/-- What one `recv` returns while the peer has not closed: 1 to 4096 bytes, or an error. -/
inductive RecvResult where
  | bytes (chunk : { b : CppString // 0 < b.length ∧ b.length ≤ 4096 })
  | wouldBlock
  | failed
deriving DecidableEq

namespace TcpConnection

/-- `Start`, when the socket could be set non-blocking. -/
def start (conn : TcpConnection) : TcpConnection := { conn with running := true }

def stop (conn : TcpConnection) : TcpConnection := { conn with running := false }

/-! ### Reading -/

/-- How the loop around `recv` ends. -/
inductive RecvExit where
  | drained
  | closed
  | failed
deriving DecidableEq

/-- What the loop around `recv` leaves: its exit, the bytes it read, and the results to come. -/
structure RecvLoop where
  exit : RecvExit
  bytes : CppString
  more : List RecvResult

/-- The loop around `recv`. After the last result the peer has closed and `recv` returns 0. -/
def recvLoop (bytes : CppString) : List RecvResult → RecvLoop
  | []                   => ⟨.closed, bytes, []⟩
  | .wouldBlock :: more  => ⟨.drained, bytes, more⟩
  | .failed :: more      => ⟨.failed, bytes, more⟩
  | .bytes chunk :: more =>
    if chunk.1.length < 4096 then ⟨.drained, bytes ++ chunk.1, more⟩
    else recvLoop (bytes ++ chunk.1) more

/-- What `ReadAvailablePackets` reports: the error if it returns false, and its two outputs. -/
structure ReadReply where
  err : Option CppString := none
  outPackets : List Packet := []
  peerClosed : Bool := false

/-- `ReadAvailablePackets`, with the results of `recv` that are left. -/
def readAvailablePackets (conn : TcpConnection) (recvs : List RecvResult) :
    TcpConnection × ReadReply × List RecvResult :=
  if !conn.running then (conn, { err := some (str "connection not running") }, recvs)
  else
    let r := recvLoop [] recvs
    let readBuffer := conn.readBuffer ++ r.bytes
    let conn := { conn with readBuffer := readBuffer }
    match r.exit with
    | .closed => (conn, { peerClosed := true }, r.more)
    | .failed => (conn, { err := some (str "socket recv failed") }, r.more)
    | .drained =>
      if r.bytes = [] ∧ readBuffer = [] then (conn, {}, r.more)
      else
        let d := PacketCodec.decode conn.maxPacketSize readBuffer
        ({ conn with readBuffer := d.buffer }, { err := d.err, outPackets := d.out }, r.more)

/-- One round of `WorkerLoop` for a connection with something to read: the packets it hands to
`on_message_`. A failed read or a closed peer removes the connection. -/
def serve (conn : TcpConnection) (recvs : List RecvResult) :
    TcpConnection × List Packet × List RecvResult :=
  let (conn, reply, more) := conn.readAvailablePackets recvs
  if reply.err.isSome then (conn.stop, [], more)
  else if reply.peerClosed then (conn.stop, [], more)
  else (conn, reply.outPackets, more)

lemma length_more_recvLoop (bytes : CppString) (recvs : List RecvResult) :
    (recvLoop bytes recvs).exit = .closed ∨ (recvLoop bytes recvs).more.length < recvs.length := by
  induction recvs generalizing bytes with
  | nil => exact Or.inl rfl
  | cons r more ih =>
    cases r with
    | wouldBlock => exact Or.inr (Nat.lt_succ_self _)
    | failed => exact Or.inr (Nat.lt_succ_self _)
    | bytes chunk =>
      simp only [recvLoop]
      split_ifs
      · exact Or.inr (Nat.lt_succ_self _)
      · exact (ih _).imp_right fun h => h.trans (Nat.lt_succ_self _)

/-- A round uses up a result or closes the connection. -/
lemma length_more_serve {conn : TcpConnection} (hrun : conn.running = true)
    (recvs : List RecvResult) :
    (conn.serve recvs).1.running = false ∨ (conn.serve recvs).2.2.length < recvs.length := by
  have h := length_more_recvLoop [] recvs
  cases hexit : (recvLoop [] recvs).exit with
  | closed => simp [serve, readAvailablePackets, hrun, hexit, stop]
  | failed => simp [serve, readAvailablePackets, hrun, hexit, stop]
  | drained =>
    refine Or.inr ?_
    simp only [hexit, reduceCtorEq, false_or] at h
    simp only [serve, readAvailablePackets, hrun, Bool.not_true, Bool.false_eq_true, if_false,
      hexit]
    split_ifs
    all_goals exact h

/-- The rounds of `WorkerLoop` until the connection is closed: all packets handed on. -/
def workerLoop (conn : TcpConnection) (recvs : List RecvResult) : List Packet :=
  if _h : conn.running = true then
    (conn.serve recvs).2.1 ++ workerLoop (conn.serve recvs).1 (conn.serve recvs).2.2
  else []
termination_by if conn.running then recvs.length + 1 else 0
decreasing_by
  rcases length_more_serve _h recvs with hstop | hlt
  · simp [_h, hstop]
  · split_ifs <;> omega

/-! ### How a stream is split -/

/-- All bytes of the stream. -/
def stream : List RecvResult → CppString
  | []                   => []
  | .bytes chunk :: more => chunk.1 ++ stream more
  | _ :: more            => stream more

/-- The bytes each call of `ReadAvailablePackets` receives, the last of them being the one that
meets the close; `call` are the bytes of the call so far. -/
def calls (call : CppString) : List RecvResult → List CppString
  | []                   => [call]
  | .bytes chunk :: more =>
    if chunk.1.length < 4096 then (call ++ chunk.1) :: calls [] more
    else calls (call ++ chunk.1) more
  | _ :: more            => call :: calls [] more

/-- The bytes received before the call that meets the close or an invalid length: all that is
decoded and handed on. -/
def receivedBefore (maxPacketSize : UInt32) (received : CppString) : List CppString → CppString
  | []           => received
  | [_]          => received
  | call :: more =>
    if (PacketCodec.framer maxPacketSize).Valid (received ++ call) then
      receivedBefore maxPacketSize (received ++ call) more
    else received

lemma calls_ne_nil (call : CppString) (recvs : List RecvResult) : calls call recvs ≠ [] := by
  induction recvs generalizing call with
  | nil => simp [calls]
  | cons r more ih =>
    cases r with
    | wouldBlock => simp [calls]
    | failed => simp [calls]
    | bytes chunk =>
      simp only [calls]
      split_ifs
      · simp
      · exact ih _

lemma flatten_calls (call : CppString) (recvs : List RecvResult) :
    (calls call recvs).flatten = call ++ stream recvs := by
  induction recvs generalizing call with
  | nil => simp [calls, stream]
  | cons r more ih =>
    cases r with
    | wouldBlock => simp [calls, stream, ih]
    | failed => simp [calls, stream, ih]
    | bytes chunk =>
      simp only [calls, stream]
      split_ifs
      · simp [ih]
      · simp [ih]

lemma receivedBefore_cons (maxPacketSize : UInt32) (received call : CppString)
    {more : List CppString} (h : more ≠ []) :
    receivedBefore maxPacketSize received (call :: more) =
      if (PacketCodec.framer maxPacketSize).Valid (received ++ call) then
        receivedBefore maxPacketSize (received ++ call) more
      else received := by
  rw [receivedBefore]
  exact h

/-- What is received before is the front of the stream. -/
lemma receivedBefore_front (maxPacketSize : UInt32) (received : CppString)
    (pieces : List CppString) :
    receivedBefore maxPacketSize received pieces <+: received ++ pieces.flatten := by
  induction pieces generalizing received with
  | nil => simp [receivedBefore]
  | cons call more ih =>
    cases more with
    | nil => exact List.prefix_append _ _
    | cons next more =>
      rw [receivedBefore_cons _ _ _ (List.cons_ne_nil _ _)]
      split_ifs
      · have h := ih (received ++ call)
        rwa [List.append_assoc, ← List.flatten_cons] at h
      · exact List.prefix_append _ _

/-- The loop around `recv` reads what the first call receives; the calls after it are those of the
results left. -/
lemma calls_eq_recvLoop (bytes : CppString) {recvs : List RecvResult} (hok : .failed ∉ recvs) :
    ((recvLoop bytes recvs).exit = .drained ∧ .failed ∉ (recvLoop bytes recvs).more ∧
        calls bytes recvs = (recvLoop bytes recvs).bytes :: calls [] (recvLoop bytes recvs).more) ∨
      ((recvLoop bytes recvs).exit = .closed ∧
        calls bytes recvs = [(recvLoop bytes recvs).bytes]) := by
  induction recvs generalizing bytes with
  | nil => exact Or.inr ⟨rfl, rfl⟩
  | cons r more ih =>
    rw [List.mem_cons, not_or] at hok
    cases r with
    | wouldBlock => exact Or.inl ⟨rfl, hok.2, rfl⟩
    | failed => exact absurd rfl hok.1
    | bytes chunk =>
      by_cases hshort : chunk.1.length < 4096
      · simp only [recvLoop, calls, hshort, if_true]
        exact Or.inl ⟨trivial, hok.2, trivial⟩
      · simp only [recvLoop, calls, hshort, if_false]
        exact ih _ hok.2

/-- A round whose call drains the socket hands on the packets that are complete by then. -/
lemma serve_drained {conn : TcpConnection} (hrun : conn.running = true) {recvs : List RecvResult}
    (h : (recvLoop [] recvs).exit = .drained) :
    conn.serve recvs =
      let buffer := conn.readBuffer ++ (recvLoop [] recvs).bytes
      if (PacketCodec.framer conn.maxPacketSize).Valid buffer then
        ({ conn with readBuffer := (PacketCodec.framer conn.maxPacketSize).rest buffer },
          (PacketCodec.framer conn.maxPacketSize).frames buffer, (recvLoop [] recvs).more)
      else
        ({ conn with readBuffer := buffer, running := false }, [], (recvLoop [] recvs).more) := by
  simp only [serve, readAvailablePackets, hrun, Bool.not_true, Bool.false_eq_true, if_false, h]
  by_cases hempty : (recvLoop [] recvs).bytes = [] ∧ conn.readBuffer = []
  · simp [hempty, PacketCodec.valid_nil, PacketCodec.frames_nil]
  · have hne : ¬ ((recvLoop [] recvs).bytes = [] ∧
        conn.readBuffer ++ (recvLoop [] recvs).bytes = []) := by
      rw [List.append_eq_nil_iff]
      exact fun hn => hempty ⟨hn.1, hn.2.1⟩
    rw [if_neg hne]
    by_cases hv : (PacketCodec.framer conn.maxPacketSize).Valid
        (conn.readBuffer ++ (recvLoop [] recvs).bytes)
    · simp [PacketCodec.decode_of_valid _ hv, hv]
    · simp [PacketCodec.decode_of_not_valid _ hv, hv, stop]

/-- A round whose call meets the close hands nothing on. -/
lemma serve_closed {conn : TcpConnection} (hrun : conn.running = true) {recvs : List RecvResult}
    (h : (recvLoop [] recvs).exit = .closed) :
    (conn.serve recvs).1.running = false ∧ (conn.serve recvs).2.1 = [] := by
  simp [serve, readAvailablePackets, hrun, h, stop]

lemma workerLoop_of_not_running {conn : TcpConnection} (h : conn.running = false)
    (recvs : List RecvResult) : conn.workerLoop recvs = [] := by
  rw [workerLoop, dif_neg (by simp [h])]

lemma workerLoop_of_running {conn : TcpConnection} (h : conn.running = true)
    (recvs : List RecvResult) :
    conn.workerLoop recvs =
      (conn.serve recvs).2.1 ++ (conn.serve recvs).1.workerLoop (conn.serve recvs).2.2 := by
  rw [workerLoop, dif_pos h]

/-- The packets handed on are those of the bytes received before. -/
lemma frames_receivedBefore (conn : TcpConnection) (received : CppString)
    {recvs : List RecvResult} (hok : .failed ∉ recvs) (hrun : conn.running = true)
    (hbuf : conn.readBuffer = (PacketCodec.framer conn.maxPacketSize).rest received) :
    (PacketCodec.framer conn.maxPacketSize).frames
        (receivedBefore conn.maxPacketSize received (calls [] recvs)) =
      (PacketCodec.framer conn.maxPacketSize).frames received ++ conn.workerLoop recvs := by
  rw [workerLoop_of_running hrun]
  rcases calls_eq_recvLoop [] hok with ⟨hexit, hmore, hcalls⟩ | ⟨hexit, hcalls⟩
  · have hlt := (length_more_recvLoop [] recvs).resolve_left (by simp [hexit])
    have hbefore := receivedBefore_cons conn.maxPacketSize received (recvLoop [] recvs).bytes
      (calls_ne_nil [] (recvLoop [] recvs).more)
    rw [hcalls, hbefore, serve_drained hrun hexit, hbuf]
    simp only [Framer.valid_append_rest]
    by_cases hv : (PacketCodec.framer conn.maxPacketSize).Valid
        (received ++ (recvLoop [] recvs).bytes)
    · rw [if_pos hv, if_pos hv, ← Framer.rest_append, ← List.append_assoc, ← Framer.frames_append]
      exact frames_receivedBefore
        { conn with
          readBuffer := (PacketCodec.framer conn.maxPacketSize).rest
            (received ++ (recvLoop [] recvs).bytes) } _ hmore hrun rfl
    · rw [if_neg hv, if_neg hv, workerLoop_of_not_running rfl]
      simp
  · obtain ⟨hstop, hnone⟩ := serve_closed hrun hexit
    rw [hcalls, receivedBefore, hnone, workerLoop_of_not_running hstop]
    simp
termination_by recvs.length
decreasing_by exact hlt

/-- How many bytes the complete packets at the front of a stream take. -/
def completeBytes (maxPacketSize : UInt32) (s : CppString) : ℕ :=
  (PacketCodec.framer maxPacketSize).taken s

/-- The packets handed on are the complete packets of the stream exactly if all of these were
received before the call that meets the close or an invalid length. -/
theorem delivers_complete_packets_iff (maxPacketSize : UInt32) {recvs : List RecvResult}
    (hok : .failed ∉ recvs) :
    workerLoop (start { maxPacketSize := maxPacketSize }) recvs =
        (PacketCodec.decode maxPacketSize (stream recvs)).out ↔
      completeBytes maxPacketSize (stream recvs) ≤
        (receivedBefore maxPacketSize [] (calls [] recvs)).length := by
  have hframes := frames_receivedBefore (start { maxPacketSize := maxPacketSize }) [] hok rfl
    PacketCodec.frames_nil.2.symm
  change (PacketCodec.framer maxPacketSize).frames (receivedBefore maxPacketSize [] _) =
    (PacketCodec.framer maxPacketSize).frames [] ++ _ at hframes
  rw [PacketCodec.frames_nil.1, List.nil_append] at hframes
  obtain ⟨t, ht⟩ := receivedBefore_front maxPacketSize [] (calls [] recvs)
  rw [flatten_calls, List.nil_append, List.nil_append] at ht
  rw [← hframes, PacketCodec.out_decode, completeBytes, ← ht, eq_comm]
  exact Framer.frames_append_eq_iff

/-- A packet in two results, read by two calls before the close. -/
theorem delivers_a_packet_in_two_results :
    workerLoop (start { maxPacketSize := 65536 })
        [.bytes ⟨[0, 0], by decide⟩,
         .bytes ⟨[0, 20, 0, 0, 0, 1, 0, 0, 0, 2, 0, 0, 0, 0, 0, 0, 0, 3], by decide⟩] =
      [{ msgId := 1, seqId := 2, playerId := 3 }] := by
  refine ((delivers_complete_packets_iff 65536 (by decide)).mpr (by decide +kernel)).trans ?_
  decide +kernel

/-- A result that fills the buffer is not decoded when the close follows it. -/
lemma workerLoop_full_result {conn : TcpConnection} (hrun : conn.running = true)
    {chunk : { b : CppString // 0 < b.length ∧ b.length ≤ 4096 }} (hfull : chunk.1.length = 4096) :
    conn.workerLoop [.bytes chunk] = [] := by
  have hclosed : (recvLoop [] [.bytes chunk]).exit = .closed := by simp [recvLoop, hfull]
  obtain ⟨hstop, hnone⟩ := serve_closed hrun hclosed
  rw [workerLoop_of_running hrun, hnone, workerLoop_of_not_running hstop]
  rfl

/-- A packet as long as the buffer of `recv` is lost when the close follows it. -/
lemma full_packet_lost {body : CppString} (hbody : body.length = 4076) :
    ∃ chunk, chunk.1 = PacketCodec.encoding { msgId := 1, body := body } 4096 ∧
      workerLoop (start { maxPacketSize := 65536 }) [.bytes chunk] = [] ∧
      (PacketCodec.decode 65536 (stream [.bytes chunk])).out = [{ msgId := 1, body := body }] := by
  have hlen : (PacketCodec.encoding { msgId := 1, body := body } 4096).length = 4096 := by
    rw [PacketCodec.length_encoding, hbody]
  refine ⟨⟨_, by rw [hlen]; decide, hlen.le⟩, rfl, workerLoop_full_result rfl hlen, ?_⟩
  have henc : PacketCodec.Encodes 65536 { msgId := 1, body := body }
      (PacketCodec.encoding { msgId := 1, body := body } 4096) := by
    simp [PacketCodec.Encodes, PacketCodec.encode, PacketCodec.kHeaderSize, hbody]
  have hframes := (PacketCodec.frames_encodings (.cons henc .nil) []).1
  rw [PacketCodec.out_decode]
  simpa [stream, PacketCodec.frames_nil] using hframes

/-- A packet of 4096 bytes is lost when the close is there by the next `recv`, and a packet of 20
bytes when the result that has it also has the next, invalid length. -/
theorem segmentation_loses_packets :
    (∃ chunk, chunk.1 = PacketCodec.encoding { msgId := 1, body := List.replicate 4076 0 } 4096 ∧
      workerLoop (start { maxPacketSize := 65536 }) [.bytes chunk] = [] ∧
      (PacketCodec.decode 65536 (stream [.bytes chunk])).out =
        [{ msgId := 1, body := List.replicate 4076 0 }]) ∧
    ∃ chunk, chunk.1 = PacketCodec.encoding { msgId := 1 } 20 ++ List.replicate 20 0 ∧
      workerLoop (start { maxPacketSize := 65536 }) [.bytes chunk] = [] ∧
      (PacketCodec.decode 65536 (stream [.bytes chunk])).out = [{ msgId := 1 }] :=
  ⟨full_packet_lost List.length_replicate,
    ⟨_, by decide, by decide⟩, rfl, by decide +kernel, by decide +kernel⟩

end TcpConnection

end DdzServer
