import DdzServer.Network.PacketCodec

/-!
# The gateway's connection to the game server

`gateway/upstream_tcp_client.cpp`, and `QueryUpstreamPacket`, which sends one request on a
connection of its own. The socket is given by the results of its calls.
-/

namespace DdzServer

/-- What one `read_some` returns: up to 4096 bytes, none of them when the peer has closed. -/
inductive ReadSome where
  | bytes (chunk : { b : CppString // b.length ≤ 4096 })
  | failed
  deriving DecidableEq

structure UpstreamTcpClient where
  maxPacketSize : UInt32
  running : Bool := false
  readBuffer : CppString := []

/-- What `QueryUpstreamPacket` returns; the latency is not read by the code modelled here. -/
structure UpstreamSyncResult where
  response : Option Packet := none
  err : CppString := []
  deriving DecidableEq

namespace UpstreamTcpClient

/-- `Connect`, when the socket could be connected. -/
def connect (client : UpstreamTcpClient) : UpstreamTcpClient :=
  { client with running := true, readBuffer := [] }

/-- `SendPacket`: the bytes that are written, or the error. `writeErr` is that of the socket. -/
def sendPacket (client : UpstreamTcpClient) (packet : Packet) (writeErr : Option CppString) :
    Except CppString CppString :=
  if !client.running then .error (str "upstream not running")
  else
    match PacketCodec.encode packet client.maxPacketSize, writeErr with
    | .error err, _      => .error err
    | .ok bytes, none    => .ok bytes
    | .ok _, some err    => .error (str "write upstream failed: " ++ err)

/-- One round of `ReadLoop`: the packets that the callback gets. -/
def readRound (client : UpstreamTcpClient) : ReadSome → UpstreamTcpClient × List Packet
  | .failed      => ({ client with running := false }, [])
  | .bytes chunk =>
    if chunk.1 = [] then ({ client with running := false }, [])
    else
      let d := PacketCodec.decode client.maxPacketSize (client.readBuffer ++ chunk.1)
      if d.err.isSome then ({ client with readBuffer := d.buffer, running := false }, [])
      else ({ client with readBuffer := d.buffer }, d.out)

/-- `ReadLoop` over the results there are so far. -/
def readLoop (client : UpstreamTcpClient) : List ReadSome → UpstreamTcpClient × List Packet
  | []      => (client, [])
  | r :: rs =>
    if client.running then
      let (client, packets) := client.readRound r
      let (client, later) := client.readLoop rs
      (client, packets ++ later)
    else (client, [])

/-- The packets that the callback has got from a new connection. -/
def delivered (client : UpstreamTcpClient) (rs : List ReadSome) : List Packet :=
  (client.connect.readLoop rs).2

/-- The wait of `QueryUpstreamPacket`: each turn of its loop sees the clock and the queue of the
packets delivered by then. `none` means that it has not ended. -/
def awaitResponse (seqId : UInt32) (deadlineMs : ℤ) :
    List (ℤ × List Packet) → Option UpstreamSyncResult
  | []                    => none
  | (nowMs, queue) :: more =>
    if deadlineMs ≤ nowMs then some { err := str "upstream timeout" }
    else
      match queue.find? fun packet => packet.seqId = seqId with
      | some packet => some { response := some packet }
      | none        => awaitResponse seqId deadlineMs more

/-- `QueryUpstreamPacket` with a connection; a turn of the loop comes after some results of
`read_some`. -/
def queryUpstreamPacket (client : UpstreamTcpClient) (req : Packet) (writeErr : Option CppString)
    (rs : List ReadSome) (beginMs timeoutMs : ℤ) (turns : List (ℤ × ℕ)) :
    Option UpstreamSyncResult :=
  match client.connect.sendPacket req writeErr with
  | .error err => some { err := err }
  | .ok _      =>
    awaitResponse req.seqId (beginMs + timeoutMs)
      (turns.map fun turn => (turn.1, client.delivered (rs.take turn.2)))

/-! ### What is delivered -/

/-- The bytes that are decoded: those before a result that ends the loop. -/
def decoded (maxPacketSize : UInt32) (received : CppString) : List ReadSome → CppString
  | []                   => received
  | .failed :: _         => received
  | .bytes chunk :: more =>
    if chunk.1 ≠ [] ∧ (PacketCodec.framer maxPacketSize).Valid (received ++ chunk.1) then
      decoded maxPacketSize (received ++ chunk.1) more
    else received

/-- No result ends the loop. -/
def Continues (maxPacketSize : UInt32) (received : CppString) : List ReadSome → Prop
  | []                   => True
  | .failed :: _         => False
  | .bytes chunk :: more =>
    (chunk.1 ≠ [] ∧ (PacketCodec.framer maxPacketSize).Valid (received ++ chunk.1)) ∧
      Continues maxPacketSize (received ++ chunk.1) more

variable {maxPacketSize : UInt32} {client : UpstreamTcpClient} {received : CppString}

lemma readLoop_of_not_running (h : client.running = false) (rs : List ReadSome) :
    client.readLoop rs = (client, []) := by
  cases rs with
  | nil => rfl
  | cons r rs => simp [readLoop, h]

lemma readLoop_cons (h : client.running = true) (r : ReadSome) (rs : List ReadSome) :
    client.readLoop (r :: rs) =
      (((client.readRound r).1.readLoop rs).1,
        (client.readRound r).2 ++ ((client.readRound r).1.readLoop rs).2) := by
  simp only [readLoop, h, if_true]

/-- A round that the loop survives. -/
lemma readRound_of_valid {chunk : { b : CppString // b.length ≤ 4096 }} (hne : chunk.1 ≠ [])
    (hvalid : (PacketCodec.framer client.maxPacketSize).Valid (client.readBuffer ++ chunk.1)) :
    client.readRound (.bytes chunk) =
      ({ client with
          readBuffer :=
            (PacketCodec.framer client.maxPacketSize).rest (client.readBuffer ++ chunk.1) },
        (PacketCodec.framer client.maxPacketSize).frames (client.readBuffer ++ chunk.1)) := by
  simp [readRound, hne, PacketCodec.decode_of_valid _ hvalid]

/-- A round that ends the loop delivers nothing. -/
lemma readRound_of_not_valid (client : UpstreamTcpClient)
    (chunk : { b : CppString // b.length ≤ 4096 })
    (h : ¬ (chunk.1 ≠ [] ∧
      (PacketCodec.framer client.maxPacketSize).Valid (client.readBuffer ++ chunk.1))) :
    (client.readRound (.bytes chunk)).1.running = false ∧
      (client.readRound (.bytes chunk)).2 = [] := by
  by_cases hne : chunk.1 = []
  · simp [readRound, hne]
  · have hinvalid := fun hvalid => h ⟨hne, hvalid⟩
    simp [readRound, hne, PacketCodec.decode_of_not_valid _ hinvalid]

/-- The packets delivered are the complete ones of the bytes that are decoded. -/
lemma readLoop_spec (client : UpstreamTcpClient) (received : CppString) (rs : List ReadSome)
    (hrun : client.running = true)
    (hbuf : client.readBuffer = (PacketCodec.framer client.maxPacketSize).rest received) :
    (PacketCodec.framer client.maxPacketSize).frames
        (decoded client.maxPacketSize received rs) =
        (PacketCodec.framer client.maxPacketSize).frames received ++ (client.readLoop rs).2 ∧
      ((client.readLoop rs).1.running = true ↔ Continues client.maxPacketSize received rs) := by
  induction rs generalizing client received with
  | nil => simp [decoded, readLoop, Continues, hrun]
  | cons r rs ih =>
    rw [readLoop_cons hrun]
    cases r with
    | failed =>
      rw [show client.readRound .failed = ({ client with running := false }, []) from rfl,
        readLoop_of_not_running rfl]
      simp [decoded, Continues]
    | bytes chunk =>
      have hvalid_iff : (PacketCodec.framer client.maxPacketSize).Valid
          (client.readBuffer ++ chunk.1) ↔
          (PacketCodec.framer client.maxPacketSize).Valid (received ++ chunk.1) := by
        rw [hbuf, Framer.valid_append_rest]
      by_cases hgoes : chunk.1 ≠ [] ∧
          (PacketCodec.framer client.maxPacketSize).Valid (received ++ chunk.1)
      · rw [readRound_of_valid hgoes.1 (hvalid_iff.mpr hgoes.2)]
        dsimp only
        have hrest : (PacketCodec.framer client.maxPacketSize).rest (client.readBuffer ++ chunk.1) =
            (PacketCodec.framer client.maxPacketSize).rest (received ++ chunk.1) := by
          rw [hbuf, ← Framer.rest_append]
        obtain ⟨hframes, hgoing⟩ := ih { client with
          readBuffer := (PacketCodec.framer client.maxPacketSize).rest
            (client.readBuffer ++ chunk.1) } (received ++ chunk.1) hrun hrest
        refine ⟨?_, ?_⟩
        · rw [decoded, if_pos hgoes, hframes, Framer.frames_append, hbuf, List.append_assoc]
        · rw [hgoing, Continues]
          exact (and_iff_right hgoes).symm
      · obtain ⟨hstop, hnone⟩ := readRound_of_not_valid client chunk
          fun hboth => hgoes ⟨hboth.1, hvalid_iff.mp hboth.2⟩
        rw [readLoop_of_not_running hstop, hnone, decoded, if_neg hgoes, Continues]
        simp [hgoes, hstop]

/-- All bytes of the results. -/
def stream : List ReadSome → CppString
  | []                   => []
  | .bytes chunk :: more => chunk.1 ++ stream more
  | .failed :: more      => stream more

/-- The results are bytes: the connection is neither closed nor broken. -/
def AllBytes (rs : List ReadSome) : Prop := ∀ r ∈ rs, ∃ chunk, r = .bytes chunk ∧ chunk.1 ≠ []

/-- A loop that nothing ends decodes all bytes. -/
lemma decoded_of_continues {rs : List ReadSome} (h : Continues maxPacketSize received rs) :
    decoded maxPacketSize received rs = received ++ stream rs := by
  induction rs generalizing received with
  | nil => simp [decoded, stream]
  | cons r rs ih =>
    cases r with
    | failed => exact absurd h (by simp [Continues])
    | bytes chunk =>
      obtain ⟨hgoes, hmore⟩ := h
      rw [decoded, if_pos hgoes, ih hmore, stream, List.append_assoc]

/-- Bytes of a valid stream do not end the loop. -/
lemma continues_of_valid {rs : List ReadSome} (hbytes : AllBytes rs) {t : CppString}
    (hvalid : (PacketCodec.framer maxPacketSize).Valid (received ++ stream rs ++ t)) :
    Continues maxPacketSize received rs := by
  induction rs generalizing received with
  | nil => trivial
  | cons r rs ih =>
    obtain ⟨⟨chunk, rfl, hne⟩, hmore⟩ := List.forall_mem_cons.mp hbytes
    have heq : received ++ stream (.bytes chunk :: rs) ++ t =
        received ++ chunk.1 ++ stream rs ++ t := by
      simp only [stream, List.append_assoc]
    rw [heq] at hvalid
    refine ⟨⟨hne, ?_⟩, ih hmore hvalid⟩
    rw [List.append_assoc (received ++ chunk.1)] at hvalid
    exact hvalid.of_append

lemma valid_encodings {packets : List Packet} {encodings : List CppString}
    (h : List.Forall₂ (PacketCodec.Encodes maxPacketSize) packets encodings) :
    (PacketCodec.framer maxPacketSize).Valid encodings.flatten ∧
      (PacketCodec.framer maxPacketSize).frames encodings.flatten = packets := by
  obtain ⟨hframes, hrest⟩ := PacketCodec.frames_encodings h []
  rw [List.append_nil] at hframes hrest
  rw [PacketCodec.frames_nil.2] at hrest
  rw [PacketCodec.frames_nil.1, List.append_nil] at hframes
  refine ⟨?_, hframes⟩
  simp [Framer.Valid, hrest, PacketCodec.head_nil]

lemma delivered_eq (client : UpstreamTcpClient) (rs : List ReadSome) :
    client.delivered rs = (PacketCodec.framer client.maxPacketSize).frames
        (decoded client.maxPacketSize [] rs) ∧
      ((client.connect.readLoop rs).1.running = true ↔ Continues client.maxPacketSize [] rs) := by
  obtain ⟨hframes, hrunning⟩ := readLoop_spec client.connect [] rs rfl
    PacketCodec.frames_nil.2.symm
  rw [PacketCodec.frames_nil.1, List.nil_append] at hframes
  exact ⟨hframes.symm, hrunning⟩

/-- What has been delivered stays at the front. -/
lemma readLoop_append (client : UpstreamTcpClient) (rs rs' : List ReadSome) :
    (client.readLoop (rs ++ rs')).2 =
      (client.readLoop rs).2 ++ ((client.readLoop rs).1.readLoop rs').2 := by
  induction rs generalizing client with
  | nil => rfl
  | cons r rs ih =>
    cases hrun : client.running with
    | false =>
      rw [List.cons_append, readLoop_of_not_running hrun, readLoop_of_not_running hrun]
      exact congrArg Prod.snd (readLoop_of_not_running hrun rs').symm
    | true =>
      rw [List.cons_append, readLoop_cons hrun, readLoop_cons hrun]
      simp only [ih, List.append_assoc]

lemma delivered_take (client : UpstreamTcpClient) (rs : List ReadSome) (n : ℕ) :
    client.delivered (rs.take n) <+: client.delivered rs := by
  refine ⟨((client.connect.readLoop (rs.take n)).1.readLoop (rs.drop n)).2, ?_⟩
  rw [delivered, delivered, ← readLoop_append, List.take_append_drop]

/-! ### The answer to a request -/

/-- A queue that grows at its end keeps the first packet of an id. -/
lemma find_of_front {queue packets : List Packet} (hfront : queue <+: packets) {seqId : UInt32}
    {packet : Packet} (h : queue.find? (fun q => q.seqId = seqId) = some packet) :
    packets.find? (fun q => q.seqId = seqId) = some packet := by
  obtain ⟨later, rfl⟩ := hfront
  rw [List.find?_append, h]
  rfl

/-- No look before the deadline finds a packet of the id. -/
def FindsNone (seqId : UInt32) (deadlineMs : ℤ) (turns : List (ℤ × List Packet)) : Prop :=
  ∀ turn ∈ turns, turn.1 < deadlineMs → turn.2.find? (fun packet => packet.seqId = seqId) = none

/-- How the wait ends, the clock not going back: with a packet that some look has found in time, at
the deadline, or not yet. -/
lemma awaitResponse_spec (seqId : UInt32) (deadlineMs : ℤ) {turns : List (ℤ × List Packet)}
    (hclock : (turns.map Prod.fst).Pairwise (· ≤ ·)) :
    (∃ turn ∈ turns, turn.1 < deadlineMs ∧ ∃ packet,
        turn.2.find? (fun packet => packet.seqId = seqId) = some packet ∧
          awaitResponse seqId deadlineMs turns = some { response := some packet }) ∨
      (awaitResponse seqId deadlineMs turns = some { err := str "upstream timeout" } ∧
        (∃ turn ∈ turns, deadlineMs ≤ turn.1) ∧ FindsNone seqId deadlineMs turns) ∨
      (awaitResponse seqId deadlineMs turns = none ∧
        (∀ turn ∈ turns, turn.1 < deadlineMs) ∧ FindsNone seqId deadlineMs turns) := by
  induction turns with
  | nil => exact Or.inr (Or.inr ⟨rfl, by simp, by simp [FindsNone]⟩)
  | cons turn turns ih =>
    obtain ⟨nowMs, queue⟩ := turn
    rw [List.map_cons, List.pairwise_cons] at hclock
    by_cases hlate : deadlineMs ≤ nowMs
    · have hend : awaitResponse seqId deadlineMs ((nowMs, queue) :: turns) =
          some { err := str "upstream timeout" } := by rw [awaitResponse, if_pos hlate]
      refine Or.inr (Or.inl ⟨hend, ⟨_, List.mem_cons_self, hlate⟩, ?_⟩)
      intro turn hturn hearly
      exfalso
      rcases List.mem_cons.mp hturn with rfl | hturn
      · exact absurd hearly (not_lt.mpr hlate)
      · have hle := hclock.1 turn.1 (List.mem_map_of_mem hturn)
        exact absurd hearly (not_lt.mpr (hlate.trans hle))
    · have hearly := not_le.mp hlate
      cases hfind : queue.find? (fun packet => packet.seqId = seqId) with
      | some packet =>
        refine Or.inl ⟨_, List.mem_cons_self, hearly, packet, hfind, ?_⟩
        rw [awaitResponse, if_neg hlate, hfind]
      | none =>
        have hstep : awaitResponse seqId deadlineMs ((nowMs, queue) :: turns) =
            awaitResponse seqId deadlineMs turns := by
          rw [awaitResponse, if_neg hlate, hfind]
        have hnone : FindsNone seqId deadlineMs turns →
            FindsNone seqId deadlineMs ((nowMs, queue) :: turns) :=
          fun hmore => List.forall_mem_cons.mpr ⟨fun _ => hfind, hmore⟩
        rw [hstep]
        rcases ih hclock.2 with ⟨turn, hturn, hfound⟩ | ⟨hresult, ⟨turn, hturn, hend⟩, hmore⟩ |
          ⟨hresult, hall, hmore⟩
        · exact Or.inl ⟨turn, List.mem_cons_of_mem _ hturn, hfound⟩
        · exact Or.inr (Or.inl
            ⟨hresult, ⟨turn, List.mem_cons_of_mem _ hturn, hend⟩, hnone hmore⟩)
        · exact Or.inr (Or.inr ⟨hresult, List.forall_mem_cons.mpr ⟨hearly, hall⟩, hnone hmore⟩)

/-- No look before the deadline sees an answer to the request among the delivered packets. -/
def SeesNone (client : UpstreamTcpClient) (rs : List ReadSome) (seqId : UInt32) (deadlineMs : ℤ)
    (turns : List (ℤ × ℕ)) : Prop :=
  ∀ turn ∈ turns, turn.1 < deadlineMs →
    ∀ packet ∈ client.delivered (rs.take turn.2), packet.seqId ≠ seqId

/-- What a query returns after some looks at its queue; `packets` are those the server sends. -/
structure Answered (client : UpstreamTcpClient) (packets : List Packet) (rs : List ReadSome)
    (seqId : UInt32) (deadlineMs : ℤ) (turns : List (ℤ × ℕ))
    (result : Option UpstreamSyncResult) : Prop where
  response : ∀ packet, result = some { response := some packet } ↔
    packets.find? (fun q => q.seqId = seqId) = some packet ∧
      ∃ turn ∈ turns, turn.1 < deadlineMs ∧ packet ∈ client.delivered (rs.take turn.2)
  timeout : result = some { err := str "upstream timeout" } ↔
    (∃ turn ∈ turns, deadlineMs ≤ turn.1) ∧ client.SeesNone rs seqId deadlineMs turns
  waits : result = none ↔
    (∀ turn ∈ turns, turn.1 < deadlineMs) ∧ client.SeesNone rs seqId deadlineMs turns

/-- The looks of a query, with the packets each of them sees. -/
def looks (client : UpstreamTcpClient) (rs : List ReadSome) (turns : List (ℤ × ℕ)) :
    List (ℤ × List Packet) :=
  turns.map fun turn => (turn.1, client.delivered (rs.take turn.2))

lemma findsNone_looks {rs : List ReadSome} {seqId : UInt32} {deadlineMs : ℤ}
    {turns : List (ℤ × ℕ)} :
    FindsNone seqId deadlineMs (client.looks rs turns) ↔
      client.SeesNone rs seqId deadlineMs turns := by
  simp only [FindsNone, SeesNone, looks, List.forall_mem_map, List.find?_eq_none,
    decide_eq_true_eq, ne_eq]

/-- The packets of the queue are at the front of those that are sent, so the first one with the id
is the same in both. -/
lemma answered_awaitResponse {packets : List Packet} {rs : List ReadSome}
    (hfront : client.delivered rs <+: packets) (seqId : UInt32) (deadlineMs : ℤ)
    {turns : List (ℤ × ℕ)} (hclock : (turns.map Prod.fst).Pairwise (· ≤ ·)) :
    client.Answered packets rs seqId deadlineMs turns
      (awaitResponse seqId deadlineMs (client.looks rs turns)) := by
  have hclock' : ((client.looks rs turns).map Prod.fst).Pairwise (· ≤ ·) := by
    simpa [looks, List.map_map, Function.comp_def] using hclock
  have hlate : (∃ look ∈ client.looks rs turns, deadlineMs ≤ look.1) ↔
      ∃ turn ∈ turns, deadlineMs ≤ turn.1 := by
    simp [looks]
  have hearly : (∀ look ∈ client.looks rs turns, look.1 < deadlineMs) ↔
      ∀ turn ∈ turns, turn.1 < deadlineMs := by
    rw [looks, List.forall_mem_map]
  have hunseen : ∀ packet, client.SeesNone rs seqId deadlineMs turns →
      ¬ (packets.find? (fun q => q.seqId = seqId) = some packet ∧
        ∃ turn ∈ turns, turn.1 < deadlineMs ∧ packet ∈ client.delivered (rs.take turn.2)) := by
    rintro packet hnone ⟨hfind, turn, hturn, hintime, hmem⟩
    exact hnone turn hturn hintime packet hmem (by simpa using List.find?_some hfind)
  have hspec := awaitResponse_spec seqId deadlineMs hclock'
  rw [hlate, hearly, findsNone_looks] at hspec
  rcases hspec with ⟨look, hlook, hintime, packet, hfind, heq⟩ | ⟨heq, hend, hnone⟩ |
    ⟨heq, hall, hnone⟩
  · obtain ⟨turn, hturn, rfl⟩ := List.mem_map.mp hlook
    have hfirst := find_of_front ((client.delivered_take rs turn.2).trans hfront) hfind
    have hseen : ¬ client.SeesNone rs seqId deadlineMs turns := fun hnone =>
      hunseen packet hnone ⟨hfirst, turn, hturn, hintime, List.mem_of_find?_eq_some hfind⟩
    refine ⟨fun other => ?_, ?_, ?_⟩
    · rw [heq, hfirst]
      simp only [Option.some.injEq, UpstreamSyncResult.mk.injEq, and_true]
      exact ⟨fun h => ⟨h, turn, hturn, hintime, h ▸ List.mem_of_find?_eq_some hfind⟩, And.left⟩
    · rw [heq]
      exact iff_of_false (by simp) fun h => hseen h.2
    · rw [heq]
      exact iff_of_false (by simp) fun h => hseen h.2
  · refine ⟨fun packet => ?_, iff_of_true heq ⟨hend, hnone⟩, ?_⟩
    · rw [heq]
      exact iff_of_false (by simp) (hunseen packet hnone)
    · rw [heq]
      obtain ⟨turn, hturn, hle⟩ := hend
      exact iff_of_false (by simp) fun h => absurd (h.1 turn hturn) (not_lt.mpr hle)
  · refine ⟨fun packet => ?_, ?_, iff_of_true heq ⟨hall, hnone⟩⟩
    · rw [heq]
      exact iff_of_false (by simp) (hunseen packet hnone)
    · rw [heq]
      refine iff_of_false (by simp) ?_
      rintro ⟨⟨turn, hturn, hle⟩, -⟩
      exact absurd (hall turn hturn) (not_lt.mpr hle)

/-- However the bytes of the server's packets are cut, the reader delivers the packets in their
order, each as soon as it is complete. A query that is written gets the first packet with its id if
some look before the deadline finds it; otherwise it ends with a timeout at the first look from the
deadline on. -/
theorem upstream_exchange (client : UpstreamTcpClient) {packets : List Packet}
    {encodings : List CppString}
    (hencodes : List.Forall₂ (PacketCodec.Encodes client.maxPacketSize) packets encodings)
    {rs : List ReadSome} (hbytes : AllBytes rs) (hstream : stream rs <+: encodings.flatten) :
    client.delivered rs = (PacketCodec.decode client.maxPacketSize (stream rs)).out ∧
      client.delivered rs <+: packets ∧
      (stream rs = encodings.flatten → client.delivered rs = packets) ∧
      (client.connect.readLoop rs).1.running = true ∧
      ∀ (req : Packet) (beginMs timeoutMs : ℤ) (turns : List (ℤ × ℕ)),
        (turns.map Prod.fst).Pairwise (· ≤ ·) →
        (client.connect.sendPacket req none).isOk = true →
        client.Answered packets rs req.seqId (beginMs + timeoutMs) turns
          (client.queryUpstreamPacket req none rs beginMs timeoutMs turns) := by
  obtain ⟨hvalid, hframes⟩ := valid_encodings hencodes
  obtain ⟨later, hlater⟩ := hstream
  have hcontinues : Continues client.maxPacketSize [] rs := by
    refine continues_of_valid hbytes (t := later) ?_
    rwa [List.nil_append, hlater]
  obtain ⟨hdelivered, hrunning⟩ := client.delivered_eq rs
  rw [decoded_of_continues hcontinues, List.nil_append] at hdelivered
  have hfront : client.delivered rs <+: packets := by
    rw [← hframes, ← hlater, Framer.frames_append, hdelivered]
    exact List.prefix_append _ _
  refine ⟨?_, hfront, fun hall => ?_, hrunning.mpr hcontinues, ?_⟩
  · rw [hdelivered, PacketCodec.out_decode]
  · rw [hdelivered, hall, hframes]
  · intro req beginMs timeoutMs turns hclock hsent
    rw [queryUpstreamPacket]
    cases hsend : client.connect.sendPacket req none with
    | error err =>
      rw [hsend] at hsent
      cases hsent
    | ok bytes => exact answered_awaitResponse hfront req.seqId (beginMs + timeoutMs) hclock

/-- The answer to the request 7 arrives in two pieces. -/
theorem upstream_exchange_in_two_pieces :
    let reply : Packet := { msgId := 2, seqId := 7, playerId := 1, body := str "code=0" }
    let bytes := PacketCodec.encoding reply 26
    let rs : List ReadSome :=
      [.bytes ⟨bytes.take 9, by decide +kernel⟩, .bytes ⟨bytes.drop 9, by decide +kernel⟩]
    ({ maxPacketSize := 65536 } : UpstreamTcpClient).delivered rs = [reply] ∧
      ({ maxPacketSize := 65536 } : UpstreamTcpClient).queryUpstreamPacket
        { msgId := 1, seqId := 7 } none rs 0 3000 [(0, 0), (5, 1), (9, 2)] =
          some { response := some reply } := by
  intro reply bytes rs
  have hencodes : List.Forall₂ (PacketCodec.Encodes 65536) [reply] [bytes] :=
    .cons ⟨by decide +kernel, by decide +kernel⟩ .nil
  have hbytes : AllBytes rs := by
    intro r hr
    rcases List.mem_cons.mp hr with rfl | hr
    · exact ⟨_, rfl, by decide +kernel⟩
    · obtain rfl := List.mem_singleton.mp hr
      exact ⟨_, rfl, by decide +kernel⟩
  have hstream : stream rs = [bytes].flatten := by decide +kernel
  obtain ⟨-, -, hall, -, hquery⟩ := upstream_exchange { maxPacketSize := 65536 } hencodes hbytes
    ⟨[], by rw [List.append_nil, hstream]⟩
  have hanswered := hquery { msgId := 1, seqId := 7 } 0 3000 [(0, 0), (5, 1), (9, 2)]
    (by decide) (by decide +kernel)
  refine ⟨hall hstream, (hanswered.response reply).mpr ⟨by decide +kernel, (9, 2), ?_⟩⟩
  exact ⟨by simp, by decide, by decide +kernel⟩

end UpstreamTcpClient

end DdzServer
