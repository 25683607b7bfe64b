import DdzServer.Lib.Framing
import DdzServer.Util.CppString
import Mathlib.Data.List.GetD

/-!
# The packet codec

`network/packet_codec.cpp`: a packet on the wire is a header of 20 bytes, big endian, and the body.
The decoder takes the complete packets from the front of a buffer and leaves the rest in it.
-/

namespace DdzServer

structure Packet where
  msgId : UInt32 := 0
  seqId : UInt32 := 0
  playerId : Int64 := 0
  body : CppString := []
deriving DecidableEq

/-! ### Integers, big endian -/

def writeU32BE (value : UInt32) : CppString :=
  [(value >>> 24 &&& 0xFF).toUInt8, (value >>> 16 &&& 0xFF).toUInt8,
   (value >>> 8 &&& 0xFF).toUInt8, (value &&& 0xFF).toUInt8]

def writeU64BE (value : UInt64) : CppString :=
  [(value >>> 56 &&& 0xFF).toUInt8, (value >>> 48 &&& 0xFF).toUInt8,
   (value >>> 40 &&& 0xFF).toUInt8, (value >>> 32 &&& 0xFF).toUInt8,
   (value >>> 24 &&& 0xFF).toUInt8, (value >>> 16 &&& 0xFF).toUInt8,
   (value >>> 8 &&& 0xFF).toUInt8, (value &&& 0xFF).toUInt8]

/-- `ReadU32BE` of the bytes from `src` on; it is only called where there are four. -/
def readU32BE (src : CppString) : UInt32 :=
  (src.getD 0 0).toUInt32 <<< 24 ||| (src.getD 1 0).toUInt32 <<< 16 |||
    (src.getD 2 0).toUInt32 <<< 8 ||| (src.getD 3 0).toUInt32

/-- `ReadU64BE`, in the same way. -/
def readU64BE (src : CppString) : UInt64 :=
  (src.getD 0 0).toUInt64 <<< 56 ||| (src.getD 1 0).toUInt64 <<< 48 |||
    (src.getD 2 0).toUInt64 <<< 40 ||| (src.getD 3 0).toUInt64 <<< 32 |||
    (src.getD 4 0).toUInt64 <<< 24 ||| (src.getD 5 0).toUInt64 <<< 16 |||
    (src.getD 6 0).toUInt64 <<< 8 ||| (src.getD 7 0).toUInt64

/-- The byte of a word from the bit `k` on, put back in its place. -/
def byteInPlace {w : ℕ} (b : BitVec w) (k : ℕ) : BitVec w :=
  ((b >>> k &&& 255#w).setWidth 8).setWidth w <<< k

lemma getLsbD_byteInPlace {w : ℕ} (b : BitVec w) (k i : ℕ) (hk : k + 8 ≤ w) :
    (byteInPlace b k).getLsbD i = (decide (k ≤ i ∧ i < k + 8) && b.getLsbD i) := by
  have h255 : (255#w).getLsbD (i - k) = (decide (i - k < w) && decide (i - k < 8)) := by
    rw [BitVec.getLsbD_ofNat, show 255 = 2 ^ 8 - 1 from rfl, Nat.testBit_two_pow_sub_one]
  simp only [byteInPlace, BitVec.getLsbD_shiftLeft, BitVec.getLsbD_setWidth, BitVec.getLsbD_and,
    h255, BitVec.getLsbD_ushiftRight]
  by_cases hki : k ≤ i
  · rw [Nat.add_sub_cancel' hki]
    by_cases hi : i < k + 8
    · have hw : i < w := by omega
      have h8 : i - k < 8 := by omega
      have hkw : i - k < w := by omega
      have hlt : ¬ i < k := by omega
      simp [hw, h8, hkw, hlt, hki, hi]
    · have h8 : ¬ i - k < 8 := by omega
      simp [h8, hi]
  · have hlt : i < k := by omega
    simp [hlt, hki]

/-- The lowest byte needs no shift. -/
lemma byteInPlace_zero {w : ℕ} (b : BitVec w) :
    ((b &&& 255#w).setWidth 8).setWidth w = byteInPlace b 0 := by
  rw [byteInPlace, BitVec.ushiftRight_zero, BitVec.shiftLeft_zero]

lemma getLsbD_foldl_byteInPlace {w : ℕ} (b : BitVec w) {shifts : List ℕ}
    (hshifts : ∀ k ∈ shifts, k + 8 ≤ w) (acc : BitVec w) (i : ℕ) :
    (shifts.foldl (fun acc k => acc ||| byteInPlace b k) acc).getLsbD i =
      (acc.getLsbD i || (shifts.any fun k => decide (k ≤ i ∧ i < k + 8)) && b.getLsbD i) := by
  induction shifts generalizing acc with
  | nil => simp
  | cons k shifts ih =>
    obtain ⟨hk, hshifts⟩ := List.forall_mem_cons.mp hshifts
    rw [List.foldl_cons, ih hshifts, BitVec.getLsbD_or, getLsbD_byteInPlace b k i hk,
      List.any_cons, Bool.and_or_distrib_right, Bool.or_assoc]

/-- A word is made of its bytes. -/
lemma or_bytesInPlace {w : ℕ} (b : BitVec w) (shifts : List ℕ)
    (hshifts : ∀ k ∈ shifts, k + 8 ≤ w)
    (hcover : ∀ i < w, ∃ k ∈ shifts, k ≤ i ∧ i < k + 8) :
    shifts.foldl (fun acc k => acc ||| byteInPlace b k) 0#w = b := by
  apply BitVec.eq_of_getLsbD_eq
  intro i hi
  obtain ⟨k, hk, hin⟩ := hcover i hi
  have hany : (shifts.any fun k => decide (k ≤ i ∧ i < k + 8)) = true :=
    List.any_eq_true.mpr ⟨k, hk, decide_eq_true hin⟩
  rw [getLsbD_foldl_byteInPlace b hshifts, hany, BitVec.getLsbD_zero, Bool.false_or,
    Bool.true_and]

lemma readU32BE_writeU32BE (v : UInt32) (t : CppString) : readU32BE (writeU32BE v ++ t) = v := by
  simp only [readU32BE, writeU32BE, List.cons_append, List.getD_cons_zero, List.getD_cons_succ]
  rw [← UInt32.toBitVec_inj]
  have hbytes := or_bytesInPlace v.toBitVec [24, 16, 8, 0] (by decide) (by decide)
  simp only [List.foldl_cons, List.foldl_nil, BitVec.zero_or] at hbytes
  refine Eq.trans ?_ hbytes
  rw [← byteInPlace_zero]
  rfl

lemma readU64BE_writeU64BE (v : UInt64) (t : CppString) : readU64BE (writeU64BE v ++ t) = v := by
  simp only [readU64BE, writeU64BE, List.cons_append, List.getD_cons_zero, List.getD_cons_succ]
  rw [← UInt64.toBitVec_inj]
  have hbytes := or_bytesInPlace v.toBitVec [56, 48, 40, 32, 24, 16, 8, 0] (by decide)
    (by decide)
  simp only [List.foldl_cons, List.foldl_nil, BitVec.zero_or] at hbytes
  refine Eq.trans ?_ hbytes
  rw [← byteInPlace_zero]
  rfl

@[simp] lemma length_writeU32BE (v : UInt32) : (writeU32BE v).length = 4 := rfl

@[simp] lemma length_writeU64BE (v : UInt64) : (writeU64BE v).length = 8 := rfl

/-- Reading looks at the first bytes only. -/
lemma readU32BE_append {s : CppString} (h : 4 ≤ s.length) (t : CppString) :
    readU32BE (s ++ t) = readU32BE s := by
  simp (disch := omega) only [readU32BE, List.getD_append]

lemma readU64BE_append {s : CppString} (h : 8 ≤ s.length) (t : CppString) :
    readU64BE (s ++ t) = readU64BE s := by
  simp (disch := omega) only [readU64BE, List.getD_append]

/-! ### Packets -/

namespace PacketCodec

def kHeaderSize : UInt32 := 20

@[simp] lemma toNat_kHeaderSize : kHeaderSize.toNat = 20 := rfl

/-- The bytes of a packet. -/
def encoding (packet : Packet) (packetLen : UInt32) : CppString :=
  writeU32BE packetLen ++ (writeU32BE packet.msgId ++ (writeU32BE packet.seqId ++
    (writeU64BE packet.playerId.toUInt64 ++ packet.body)))

/-- `Encode`. The length is computed with 32 bits. -/
def encode (packet : Packet) (maxPacketSize : UInt32) : Except CppString CppString :=
  let packetLen := UInt32.ofNat (kHeaderSize.toNat + packet.body.length)
  if packetLen < kHeaderSize ∨ maxPacketSize < packetLen then
    .error (str "packet size out of range")
  else .ok (encoding packet packetLen)

/-- The packet of the length `packetLen` at the front of `base`. -/
def readPacket (base : CppString) (packetLen : UInt32) : Packet where
  msgId := readU32BE (base.drop 4)
  seqId := readU32BE (base.drop 8)
  playerId := (readU64BE (base.drop 12)).toInt64
  body := (base.drop kHeaderSize.toNat).take (packetLen - kHeaderSize).toNat

/-- What `Decode` leaves: the buffer, the packets, and the error if it returns false. -/
structure Decoded where
  buffer : CppString
  out : List Packet
  err : Option CppString := none
deriving DecidableEq

/-- The loop of `Decode`; `base` is the buffer from the offset on. -/
def decodeLoop (maxPacketSize : UInt32) (base : CppString) (out : List Packet) : Decoded :=
  if base.length < kHeaderSize.toNat then { buffer := base, out := out }
  else
    let packetLen := readU32BE base
    if _h : packetLen < kHeaderSize ∨ maxPacketSize < packetLen then
      { buffer := base, out := out, err := some (str "invalid packet length") }
    else if base.length < packetLen.toNat then { buffer := base, out := out }
    else decodeLoop maxPacketSize (base.drop packetLen.toNat) (out ++ [readPacket base packetLen])
termination_by base.length
decreasing_by
  have h20 : kHeaderSize.toNat ≤ (readU32BE base).toNat :=
    UInt32.le_iff_toNat_le.mp (UInt32.not_lt.mp (not_or.mp _h).1)
  rw [toNat_kHeaderSize] at *
  simp only [List.length_drop]
  omega

/-- `Decode`. A failed call leaves the buffer as it was. -/
def decode (maxPacketSize : UInt32) (buffer : CppString) : Decoded :=
  let r := decodeLoop maxPacketSize buffer []
  if r.err.isSome then { r with buffer := buffer } else r

/-- Pieces appended to a buffer, with a call of `Decode` after each; `none` if a call fails. -/
def decodePieces (maxPacketSize : UInt32) :
    CppString → List CppString → Option (List Packet × CppString)
  | buffer, []            => some ([], buffer)
  | buffer, piece :: more =>
    let r := decode maxPacketSize (buffer ++ piece)
    if r.err.isSome then none
    else (decodePieces maxPacketSize r.buffer more).map fun q => (r.out ++ q.1, q.2)

/-! ### The codec as a framer -/

def head (maxPacketSize : UInt32) (s : CppString) : FrameHead Packet :=
  if s.length < kHeaderSize.toNat then .incomplete
  else if readU32BE s < kHeaderSize ∨ maxPacketSize < readU32BE s then .invalid
  else if s.length < (readU32BE s).toNat then .incomplete
  else .frame (readPacket s (readU32BE s)) (readU32BE s).toNat

variable {maxPacketSize : UInt32} {s t : CppString} {p : Packet} {n : ℕ}

/-- A buffer with a packet at its front. -/
lemma head_eq_frame :
    head maxPacketSize s = .frame p n ↔
      (kHeaderSize.toNat ≤ s.length ∧ kHeaderSize ≤ readU32BE s ∧ readU32BE s ≤ maxPacketSize ∧
        (readU32BE s).toNat ≤ s.length) ∧
      p = readPacket s (readU32BE s) ∧ n = (readU32BE s).toNat := by
  unfold head
  split_ifs with h20 hlen hfit
  · exact iff_of_false (by simp) fun h => absurd h.1.1 (Nat.not_le.mpr h20)
  · refine iff_of_false (by simp) fun h => ?_
    rcases hlen with hlt | hgt
    · exact absurd h.1.2.1 (UInt32.not_le.mpr hlt)
    · exact absurd h.1.2.2.1 (UInt32.not_le.mpr hgt)
  · exact iff_of_false (by simp) fun h => absurd h.1.2.2.2 (Nat.not_le.mpr hfit)
  · rw [not_or, UInt32.not_lt, UInt32.not_lt] at hlen
    simp only [FrameHead.frame.injEq, Nat.not_lt.mp h20, Nat.not_lt.mp hfit, hlen, and_self,
      true_and]
    exact and_congr eq_comm eq_comm

lemma head_eq_invalid :
    head maxPacketSize s = .invalid ↔
      kHeaderSize.toNat ≤ s.length ∧ (readU32BE s < kHeaderSize ∨ maxPacketSize < readU32BE s) := by
  unfold head
  split_ifs with h20 hlen hfit
  · exact iff_of_false (by simp) fun h => absurd h.1 (Nat.not_le.mpr h20)
  · exact iff_of_true rfl ⟨Nat.not_lt.mp h20, hlen⟩
  · exact iff_of_false (by simp) fun h => hlen h.2
  · exact iff_of_false (by simp) fun h => hlen h.2

/-- Reading a packet looks at its own bytes only. -/
lemma readPacket_append {packetLen : UInt32} (h20 : kHeaderSize.toNat ≤ s.length)
    (hlen : kHeaderSize ≤ packetLen) (hfit : packetLen.toNat ≤ s.length) (t : CppString) :
    readPacket (s ++ t) packetLen = readPacket s packetLen := by
  have hle : 20 ≤ packetLen.toNat := UInt32.le_iff_toNat_le.mp hlen
  have hsub : (packetLen - kHeaderSize).toNat = packetLen.toNat - 20 :=
    UInt32.toNat_sub_of_le _ _ hlen
  rw [toNat_kHeaderSize] at h20
  unfold readPacket
  rw [hsub, toNat_kHeaderSize]
  simp (disch := (try simp only [List.length_drop]); omega) only [List.drop_append_of_le_length,
    readU32BE_append, readU64BE_append, List.take_append_of_le_length]

/-- The packet codec as a framer of byte streams. -/
def framer (maxPacketSize : UInt32) : Framer UInt8 Packet where
  head := head maxPacketSize
  len_bounds h := by
    obtain ⟨⟨-, hlen, -, hfit⟩, -, rfl⟩ := head_eq_frame.mp h
    have hle : 20 ≤ _ := UInt32.le_iff_toNat_le.mp hlen
    exact ⟨by omega, hfit⟩
  frame_take {s p n} h := by
    obtain ⟨⟨h20, hlen, hmax, hfit⟩, rfl, rfl⟩ := head_eq_frame.mp h
    have hle : 20 ≤ (readU32BE s).toNat := UInt32.le_iff_toNat_le.mp hlen
    have hread : readU32BE (s.take (readU32BE s).toNat) = readU32BE s := by
      have happ := readU32BE_append (s := s.take (readU32BE s).toNat)
        (by rw [List.length_take_of_le hfit]; omega) (s.drop (readU32BE s).toNat)
      rw [List.take_append_drop] at happ
      exact happ.symm
    refine head_eq_frame.mpr ?_
    rw [hread, List.length_take_of_le hfit]
    refine ⟨⟨hle, hlen, hmax, le_refl _⟩, ?_, rfl⟩
    have happ := readPacket_append (s := s.take (readU32BE s).toNat)
      (by rwa [List.length_take_of_le hfit]) hlen (List.length_take_of_le hfit).ge
      (s.drop (readU32BE s).toNat)
    rw [List.take_append_drop] at happ
    exact happ
  frame_append {s p n} h t := by
    obtain ⟨⟨h20, hlen, hmax, hfit⟩, rfl, rfl⟩ := head_eq_frame.mp h
    have h4 : 4 ≤ s.length := le_trans (by decide) h20
    refine head_eq_frame.mpr ?_
    rw [readU32BE_append h4, List.length_append, readPacket_append h20 hlen hfit]
    exact ⟨⟨by omega, hlen, hmax, by omega⟩, rfl, rfl⟩
  invalid_append {s} h t := by
    obtain ⟨h20, hlen⟩ := head_eq_invalid.mp h
    have h4 : 4 ≤ s.length := le_trans (by decide) h20
    refine head_eq_invalid.mpr ?_
    rw [readU32BE_append h4, List.length_append]
    exact ⟨by omega, hlen⟩

variable (maxPacketSize)

/-- The loop collects the frames and stops at the rest. -/
lemma decodeLoop_eq (s : CppString) (out : List Packet) :
    decodeLoop maxPacketSize s out =
      { buffer := (framer maxPacketSize).rest s
        out := out ++ (framer maxPacketSize).frames s
        err := if (framer maxPacketSize).Valid s then none
          else some (str "invalid packet length") } := by
  induction s using (framer maxPacketSize).scan_induction generalizing out with
  | frame s p n hs ih =>
    obtain ⟨⟨h20, hlen, hmax, hfit⟩, rfl, rfl⟩ := head_eq_frame.mp hs
    have hok : ¬ (readU32BE s < kHeaderSize ∨ maxPacketSize < readU32BE s) :=
      not_or.mpr ⟨UInt32.not_lt.mpr hlen, UInt32.not_lt.mpr hmax⟩
    rw [decodeLoop, if_neg (Nat.not_lt.mpr h20), dif_neg hok, if_neg (Nat.not_lt.mpr hfit), ih,
      Framer.rest_frame hs, Framer.frames_frame hs, List.append_assoc, List.singleton_append]
    simp only [Framer.valid_frame hs]
  | stop s hs =>
    rw [decodeLoop, Framer.rest_of_not_frame hs, Framer.frames_of_not_frame hs, List.append_nil]
    have hv : (framer maxPacketSize).Valid s ↔ head maxPacketSize s ≠ .invalid :=
      Framer.valid_of_not_frame hs
    change ∀ p n, head maxPacketSize s ≠ .frame p n at hs
    unfold head at hs hv
    split_ifs at hs hv ⊢ with h20 hlen hfit
    all_goals simp_all

lemma decode_of_valid {s : CppString} (h : (framer maxPacketSize).Valid s) :
    decode maxPacketSize s =
      { buffer := (framer maxPacketSize).rest s, out := (framer maxPacketSize).frames s } := by
  simp [decode, decodeLoop_eq, h]

lemma decode_of_not_valid {s : CppString} (h : ¬ (framer maxPacketSize).Valid s) :
    decode maxPacketSize s =
      { buffer := s, out := (framer maxPacketSize).frames s
        err := some (str "invalid packet length") } := by
  simp [decode, decodeLoop_eq, h]

/-- The packets before the first invalid length, whether the call succeeds or not. -/
lemma out_decode (s : CppString) :
    (decode maxPacketSize s).out = (framer maxPacketSize).frames s := by
  by_cases h : (framer maxPacketSize).Valid s
  · rw [decode_of_valid maxPacketSize h]
  · rw [decode_of_not_valid maxPacketSize h]

/-- A call succeeds when it meets no invalid length. -/
lemma err_decode (s : CppString) :
    (decode maxPacketSize s).err = none ↔ (framer maxPacketSize).Valid s := by
  by_cases h : (framer maxPacketSize).Valid s
  · simp [decode_of_valid maxPacketSize h, h]
  · simp [decode_of_not_valid maxPacketSize h, h]

lemma decodePieces_eq_feed (pieces : List CppString) (buffer : CppString) :
    decodePieces maxPacketSize buffer pieces = (framer maxPacketSize).feed buffer pieces := by
  induction pieces generalizing buffer with
  | nil => rfl
  | cons piece more ih =>
    by_cases h : (framer maxPacketSize).Valid (buffer ++ piece)
    · simp [decodePieces, Framer.feed, decode_of_valid maxPacketSize h, h, ih]
    · simp [decodePieces, Framer.feed, decode_of_not_valid maxPacketSize h, h]

/-! ### Round trip -/

variable {maxPacketSize}

lemma length_encoding (packet : Packet) (packetLen : UInt32) :
    (encoding packet packetLen).length = 20 + packet.body.length := by
  simp only [encoding, List.length_append, length_writeU32BE, length_writeU64BE]
  omega

/-- The encoding of a packet that `Encode` accepts is a frame, whatever follows it. -/
lemma head_encode {packet : Packet} {bytes : CppString}
    (h : encode packet maxPacketSize = .ok bytes)
    (hsize : kHeaderSize.toNat + packet.body.length < 2 ^ 32) :
    head maxPacketSize bytes = .frame packet bytes.length := by
  simp only [encode] at h
  split_ifs at h with hlen
  rw [not_or, UInt32.not_lt, UInt32.not_lt] at hlen
  obtain rfl := Except.ok.inj h
  generalize hL : UInt32.ofNat (kHeaderSize.toNat + packet.body.length) = packetLen at *
  have hnat : packetLen.toNat = 20 + packet.body.length := by
    rw [← hL, UInt32.toNat_ofNat_of_lt' hsize, toNat_kHeaderSize]
  have hread : readU32BE (encoding packet packetLen) = packetLen := readU32BE_writeU32BE _ _
  have hbody : (packetLen - kHeaderSize).toNat = packet.body.length := by
    rw [UInt32.toNat_sub_of_le _ _ hlen.1, hnat, toNat_kHeaderSize, Nat.add_sub_cancel_left]
  refine head_eq_frame.mpr ?_
  rw [hread, length_encoding, hnat]
  refine ⟨⟨Nat.le_add_right _ _, hlen.1, hlen.2, le_refl _⟩, ?_, rfl⟩
  have h4 : (encoding packet packetLen).drop 4 = writeU32BE packet.msgId ++
    (writeU32BE packet.seqId ++ (writeU64BE packet.playerId.toUInt64 ++ packet.body)) := rfl
  have h8 : (encoding packet packetLen).drop 8 =
    writeU32BE packet.seqId ++ (writeU64BE packet.playerId.toUInt64 ++ packet.body) := rfl
  have h12 : (encoding packet packetLen).drop 12 =
    writeU64BE packet.playerId.toUInt64 ++ packet.body := rfl
  have h20 : (encoding packet packetLen).drop kHeaderSize.toNat = packet.body := rfl
  simp only [readPacket, h4, h8, h12, h20, hbody, readU32BE_writeU32BE, readU64BE_writeU64BE,
    List.take_length, Int64.toInt64_toUInt64]

/-- The bytes are the encoding of the packet, and the length fits in 32 bits. -/
def Encodes (maxPacketSize : UInt32) (packet : Packet) (bytes : CppString) : Prop :=
  encode packet maxPacketSize = .ok bytes ∧ kHeaderSize.toNat + packet.body.length < 2 ^ 32

/-- The encodings of packets at the front of a stream are its first frames. -/
lemma frames_encodings {packets : List Packet} {encodings : List CppString}
    (h : List.Forall₂ (Encodes maxPacketSize) packets encodings) (t : CppString) :
    (framer maxPacketSize).frames (encodings.flatten ++ t) =
        packets ++ (framer maxPacketSize).frames t ∧
      (framer maxPacketSize).rest (encodings.flatten ++ t) = (framer maxPacketSize).rest t := by
  induction h with
  | nil => exact ⟨rfl, rfl⟩
  | @cons packet bytes packets encodings hp _ ih =>
    have hhead : (framer maxPacketSize).head (bytes ++ (encodings.flatten ++ t)) =
        .frame packet bytes.length :=
      (framer maxPacketSize).frame_append (head_encode hp.1 hp.2) _
    rw [List.flatten_cons, List.append_assoc, Framer.frames_frame hhead, Framer.rest_frame hhead,
      List.drop_left, ih.1, ih.2]
    exact ⟨rfl, rfl⟩

/-- What a successful call leaves is shorter than a header or than the packet it starts. -/
lemma length_rest_lt (h : (framer maxPacketSize).Valid s) :
    ((framer maxPacketSize).rest s).length < max kHeaderSize.toNat maxPacketSize.toNat := by
  have hframe := Framer.head_rest_ne_frame (F := framer maxPacketSize) s
  unfold Framer.Valid at h
  generalize (framer maxPacketSize).rest s = r at h hframe
  change head maxPacketSize r ≠ _ at h
  change ∀ p n, head maxPacketSize r ≠ _ at hframe
  unfold head at h hframe
  split_ifs at h hframe with h20 hlen hfit
  · exact lt_max_of_lt_left h20
  · exact absurd rfl h
  · rw [not_or, UInt32.not_lt, UInt32.not_lt] at hlen
    exact lt_max_of_lt_right (lt_of_lt_of_le hfit (UInt32.le_iff_toNat_le.mp hlen.2))
  · exact absurd rfl (hframe _ _)

lemma head_nil : (framer maxPacketSize).head [] = .incomplete := rfl

lemma frames_nil : (framer maxPacketSize).frames [] = [] ∧ (framer maxPacketSize).rest [] = [] := by
  have h : ∀ p n, (framer maxPacketSize).head [] ≠ .frame p n := by simp [head_nil]
  exact ⟨Framer.frames_of_not_frame h, Framer.rest_of_not_frame h⟩

lemma valid_nil : (framer maxPacketSize).Valid [] := by
  simp [Framer.Valid, frames_nil.2, head_nil]

/-- Decoding in pieces is decoding at once. -/
lemma decodePieces_eq (pieces : List CppString) :
    decodePieces maxPacketSize [] pieces =
      if (framer maxPacketSize).Valid pieces.flatten then
        some ((framer maxPacketSize).frames pieces.flatten,
          (framer maxPacketSize).rest pieces.flatten)
      else none := by
  rw [decodePieces_eq_feed, Framer.feed_eq pieces frames_nil.2 valid_nil, List.nil_append]

/-- Encoded packets are decoded again, a stream may come in any pieces, and what stays in the
buffer is less than a packet. -/
theorem stream_codec (maxPacketSize : UInt32) :
    (∀ packets encodings, List.Forall₂ (Encodes maxPacketSize) packets encodings →
      decode maxPacketSize encodings.flatten = { buffer := [], out := packets }) ∧
    (∀ s pieces, pieces.flatten = s →
      ((decode maxPacketSize s).err = none →
        decodePieces maxPacketSize [] pieces =
          some ((decode maxPacketSize s).out, (decode maxPacketSize s).buffer)) ∧
      ((decode maxPacketSize s).err ≠ none → decodePieces maxPacketSize [] pieces = none)) ∧
    ∀ s, (decode maxPacketSize s).err = none →
      (decode maxPacketSize s).buffer.length < max kHeaderSize.toNat maxPacketSize.toNat := by
  refine ⟨fun packets encodings h => ?_, fun s pieces hs => ⟨fun h => ?_, fun h => ?_⟩,
    fun s h => ?_⟩
  · obtain ⟨hframes, hrest⟩ := frames_encodings h []
    rw [List.append_nil] at hframes hrest
    have hv : (framer maxPacketSize).Valid encodings.flatten := by
      rw [Framer.Valid, hrest]
      exact valid_nil
    rw [decode_of_valid _ hv, hframes, hrest, frames_nil.1, frames_nil.2, List.append_nil]
  · rw [err_decode] at h
    rw [decodePieces_eq, hs, if_pos h, decode_of_valid _ h]
  · rw [ne_eq, err_decode] at h
    rw [decodePieces_eq, hs, if_neg h]
  · rw [err_decode] at h
    rw [decode_of_valid _ h]
    exact length_rest_lt h

/-- Two packets in one stream, and the same stream cut inside a header. -/
theorem stream_codec_of_two_packets :
    let p : Packet := { msgId := 1, seqId := 11, playerId := 111, body := str "abc" }
    let q : Packet := { msgId := 2, seqId := 22, playerId := -222, body := [] }
    let s := encoding p 23 ++ encoding q 20
    decode 65536 s = { buffer := [], out := [p, q] } ∧
      decodePieces 65536 [] [s.take 2, s.drop 2] = some ([p, q], []) ∧
      (decode 65536 (s.take 30)).buffer.length < 65536 := by
  intro p q s
  have hs : decode 65536 s = { buffer := [], out := [p, q] } := by
    refine (congrArg _ (by simp [s])).trans
      ((stream_codec 65536).1 [p, q] [encoding p 23, encoding q 20] ?_)
    exact .cons ⟨rfl, by decide⟩ (.cons ⟨rfl, by decide⟩ .nil)
  refine ⟨hs, ?_, ?_⟩
  · rw [((stream_codec 65536).2.1 s [s.take 2, s.drop 2] (by simp)).1 (by rw [hs]), hs]
  · exact (stream_codec 65536).2.2 (s.take 30) (by decide +kernel)

end PacketCodec

end DdzServer
