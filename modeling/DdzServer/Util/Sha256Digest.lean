import DdzServer.Lib.SecureHash
import DdzServer.Util.Sha256

/-!
# `Sha256` computes SHA-256

Every part of `common/util/sha256.cpp` against its part of the standard: the functions, the
constants, the padding, the message schedule, the rounds and the blocks.
-/

namespace DdzServer.Sha256

open SecureHash (bitsOfBytes)

/-! ### Rounds -/

/-- The words as the standard has them. -/
def Words.toVariables (s : Words) : SecureHash.Variables where
  a := s.a.toBitVec
  b := s.b.toBitVec
  c := s.c.toBitVec
  d := s.d.toBitVec
  e := s.e.toBitVec
  f := s.f.toBitVec
  g := s.g.toBitVec
  h := s.hh.toBitVec

lemma toVariables_round (w : List UInt32) (s : Words) (i : ℕ) :
    (round w s i).toVariables =
      SecureHash.round (kTable.getD i 0).toBitVec (w.getD i 0).toBitVec s.toVariables := rfl

/-! ### Constants -/

/-- The first 64 primes. -/
def firstPrimes : List ℕ :=
  [2, 3, 5, 7, 11, 13, 17, 19, 23, 29, 31, 37, 41, 43, 47, 53, 59, 61, 67, 71, 73, 79, 83, 89, 97,
    101, 103, 107, 109, 113, 127, 131, 137, 139, 149, 151, 157, 163, 167, 173, 179, 181, 191, 193,
    197, 199, 211, 223, 227, 229, 233, 239, 241, 251, 257, 263, 269, 271, 277, 281, 283, 293, 307,
    311]

lemma nth_prime {t : ℕ} (ht : t < 64) : Nat.nth Nat.Prime t = firstPrimes.getD t 0 := by
  have hall : ∀ t < 64, Nat.Prime (firstPrimes.getD t 0) ∧
      Nat.count Nat.Prime (firstPrimes.getD t 0) = t := by
    decide +kernel
  obtain ⟨hprime, hcount⟩ := hall t ht
  rw [← Nat.nth_count hprime, hcount]

/-- The table has the fractions of the cube roots. -/
lemma roundConstant_eq {t : ℕ} (ht : t < 64) :
    SecureHash.roundConstant t = (kTable.getD t 0).toBitVec := by
  have hall : ∀ t < 64, ∃ m < 8,
      (m * 2 ^ 32 + (kTable.getD t 0).toNat) ^ 3 ≤ firstPrimes.getD t 0 * (2 ^ 32) ^ 3 ∧
        firstPrimes.getD t 0 * (2 ^ 32) ^ 3 < (m * 2 ^ 32 + (kTable.getD t 0).toNat + 1) ^ 3 := by
    decide +kernel
  obtain ⟨m, -, hle, hlt⟩ := hall t ht
  rw [SecureHash.roundConstant, nth_prime ht, SecureHash.fraction32_root (by decide) hle hlt]
  exact BitVec.eq_of_toNat_eq (by simp)

/-- The initial hash value has the fractions of the square roots. -/
lemma toVariables_initial : initial.toVariables = SecureHash.initialHash := by
  let words : List UInt32 := [initial.a, initial.b, initial.c, initial.d, initial.e, initial.f,
    initial.g, initial.hh]
  have hall : ∀ j < 8, ∃ m < 8,
      (m * 2 ^ 32 + (words.getD j 0).toNat) ^ 2 ≤ firstPrimes.getD j 0 * (2 ^ 32) ^ 2 ∧
        firstPrimes.getD j 0 * (2 ^ 32) ^ 2 < (m * 2 ^ 32 + (words.getD j 0).toNat + 1) ^ 2 := by
    decide +kernel
  have hword : ∀ j < 8, SecureHash.initialWord j = (words.getD j 0).toBitVec := by
    intro j hj
    obtain ⟨m, -, hle, hlt⟩ := hall j hj
    rw [SecureHash.initialWord, nth_prime (by omega),
      SecureHash.fraction32_root (by decide) hle hlt]
    exact BitVec.eq_of_toNat_eq (by simp)
  rw [SecureHash.initialHash, hword 0 (by decide), hword 1 (by decide), hword 2 (by decide),
    hword 3 (by decide), hword 4 (by decide), hword 5 (by decide), hword 6 (by decide),
    hword 7 (by decide)]
  rfl

/-! ### The message schedule -/

/-- A byte put behind a number. -/
lemma shiftLeft_or_byte (n : ℕ) (b : UInt8) : n <<< 8 ||| b.toNat = n * 2 ^ 8 + b.toNat := by
  rw [← Nat.shiftLeft_add_eq_or_of_lt b.toNat_lt, Nat.shiftLeft_eq]

/-- Four bytes as a word. -/
lemma toNat_word (b₀ b₁ b₂ b₃ : UInt8) :
    ((b₀.toUInt32 <<< 24) ||| (b₁.toUInt32 <<< 16) ||| (b₂.toUInt32 <<< 8) ||| b₃.toUInt32).toNat =
      ((b₀.toNat * 2 ^ 8 + b₁.toNat) * 2 ^ 8 + b₂.toNat) * 2 ^ 8 + b₃.toNat := by
  have hshift : ∀ (b : UInt8) {k : UInt32}, k.toNat ≤ 24 →
      (b.toUInt32 <<< k).toNat = b.toNat <<< k.toNat := by
    intro b k hk
    have hb := b.toNat_lt
    have hle : b.toNat * 2 ^ k.toNat ≤ b.toNat * 2 ^ 24 :=
      Nat.mul_le_mul_left _ (Nat.pow_le_pow_right (by decide) hk)
    rw [UInt32.toNat_shiftLeft, Nat.mod_eq_of_lt (show k.toNat < 32 by omega), UInt8.toNat_toUInt32,
      Nat.shiftLeft_eq]
    exact Nat.mod_eq_of_lt (by omega)
  rw [UInt32.toNat_or, UInt32.toNat_or, UInt32.toNat_or, hshift b₀ (by decide),
    hshift b₁ (by decide), hshift b₂ (by decide), UInt8.toNat_toUInt32, ← shiftLeft_or_byte,
    ← shiftLeft_or_byte, ← shiftLeft_or_byte]
  simp only [Nat.shiftLeft_or_distrib, ← Nat.shiftLeft_add]
  rfl

/-- The bits of four bytes denote their word. -/
lemma blockWord_zero (b₀ b₁ b₂ b₃ : UInt8) (rest : CppString) :
    SecureHash.blockWord (bitsOfBytes (b₀ :: b₁ :: b₂ :: b₃ :: rest)) 0 =
      ((b₀.toUInt32 <<< 24) ||| (b₁.toUInt32 <<< 16) ||| (b₂.toUInt32 <<< 8) |||
        b₃.toUInt32).toBitVec := by
  have htake :
      (bitsOfBytes (b₀ :: b₁ :: b₂ :: b₃ :: rest)).take 32 = bitsOfBytes [b₀, b₁, b₂, b₃] :=
    (SecureHash.bitsOfBytes_take _ 4).symm
  have hnumber : SecureHash.ofBits (bitsOfBytes [b₀, b₁, b₂, b₃]) =
      ((b₀.toNat * 2 ^ 8 + b₁.toNat) * 2 ^ 8 + b₂.toNat) * 2 ^ 8 + b₃.toNat := by
    simp only [SecureHash.bitsOfBytes_cons, SecureHash.bitsOfBytes_nil, List.append_nil,
      SecureHash.ofBits_append, SecureHash.ofBits_bits, List.length_append, SecureHash.length_bits]
    ring
  rw [SecureHash.blockWord, Nat.mul_zero, List.drop_zero, htake, hnumber, ← toNat_word]
  exact BitVec.ofNat_toNat 32 _ |>.trans (BitVec.setWidth_eq _)

/-- What has no four bytes has no word. -/
lemma length_lt_four {block : CppString}
    (h : ∀ b₀ b₁ b₂ b₃ rest, block = b₀ :: b₁ :: b₂ :: b₃ :: rest → False) : block.length < 4 := by
  obtain _ | ⟨b₀, _ | ⟨b₁, _ | ⟨b₂, _ | ⟨b₃, rest⟩⟩⟩⟩ := block
  · decide
  · simp
  · simp
  · simp
  · exact (h b₀ b₁ b₂ b₃ rest rfl).elim

/-- The words of a block are read as the standard reads them. -/
lemma toBitVec_blockWords (block : CppString) (j : ℕ) (hj : 4 * (j + 1) ≤ block.length) :
    ((blockWords block).getD j 0).toBitVec = SecureHash.blockWord (bitsOfBytes block) j := by
  induction block using blockWords.induct generalizing j with
  | case1 b₀ b₁ b₂ b₃ rest ih =>
    rw [blockWords]
    cases j with
    | zero => exact (blockWord_zero b₀ b₁ b₂ b₃ rest).symm
    | succ j =>
      have hdrop : (bitsOfBytes (b₀ :: b₁ :: b₂ :: b₃ :: rest)).drop (32 * (j + 1)) =
          (bitsOfBytes rest).drop (32 * j) := by
        rw [Nat.mul_succ, Nat.add_comm, ← List.drop_drop]
        exact congrArg _ (SecureHash.bitsOfBytes_drop (b₀ :: b₁ :: b₂ :: b₃ :: rest) 4).symm
      rw [List.getD_cons_succ, ih j (by simp only [List.length_cons] at hj; omega),
        SecureHash.blockWord, SecureHash.blockWord, hdrop]
  | case2 block hshort =>
    have hlt := length_lt_four hshort
    omega

lemma length_blockWords (block : CppString) :
    (blockWords block).length = block.length / 4 := by
  induction block using blockWords.induct with
  | case1 b₀ b₁ b₂ b₃ rest ih =>
    rw [blockWords]
    simp only [List.length_cons, ih]
    omega
  | case2 block hshort =>
    have hlt := length_lt_four hshort
    rw [blockWords.eq_2 block hshort, List.length_nil]
    omega

/-- The schedule is extended one word at a time. -/
lemma extend_foldl {block : CppString} (hblock : block.length = 64) (n : ℕ) :
    ((List.range' 16 n).foldl extend (blockWords block)).length = 16 + n ∧
      ∀ t < 16 + n, (((List.range' 16 n).foldl extend (blockWords block)).getD t 0).toBitVec =
        SecureHash.schedule (bitsOfBytes block) t := by
  induction n with
  | zero =>
    refine ⟨by rw [List.range'_zero, List.foldl_nil, length_blockWords, hblock], fun t ht => ?_⟩
    rw [List.range'_zero, List.foldl_nil, toBitVec_blockWords block t (by omega),
      SecureHash.schedule, if_pos (by omega)]
  | succ n ih =>
    obtain ⟨hlength, hwords⟩ := ih
    rw [List.range'_concat, Nat.one_mul, List.foldl_append, List.foldl_cons, List.foldl_nil]
    generalize (List.range' 16 n).foldl extend (blockWords block) = w at hlength hwords
    refine ⟨by rw [extend, List.length_append, hlength]; rfl, fun t ht => ?_⟩
    rw [extend]
    rcases Nat.lt_or_ge t (16 + n) with hlt | hge
    · rw [List.getD_append _ _ _ _ (by omega)]
      exact hwords t hlt
    · obtain rfl : t = 16 + n := by omega
      have hnot : ¬ 16 + n < 16 := by omega
      rw [List.getD_append_right _ _ _ _ (by omega), hlength, Nat.sub_self, List.getD_cons_zero,
        SecureHash.schedule, if_neg hnot, ← hwords (16 + n - 2) (by omega),
        ← hwords (16 + n - 7) (by omega), ← hwords (16 + n - 15) (by omega),
        ← hwords (16 + n - 16) (by omega)]
      rfl

/-! ### Blocks -/

lemma toVariables_rounds {block : CppString} (hblock : block.length = 64) (s : Words) {n : ℕ}
    (hn : n ≤ 64) :
    ((List.range n).foldl (round (schedule block)) s).toVariables =
      SecureHash.rounds (bitsOfBytes block) s.toVariables n := by
  induction n with
  | zero => rfl
  | succ n ih =>
    have hword := (extend_foldl hblock 48).2 n (by omega)
    rw [List.range_succ, List.foldl_append, List.foldl_cons, List.foldl_nil, toVariables_round,
      ih (by omega), SecureHash.rounds, roundConstant_eq (by omega), ← hword]
    rfl

lemma toVariables_compress {block : CppString} (hblock : block.length = 64) (h : Words) :
    (compress h block).toVariables =
      SecureHash.add (SecureHash.rounds (bitsOfBytes block) h.toVariables 64) h.toVariables := by
  rw [← toVariables_rounds hblock h le_rfl, SecureHash.add_comm]
  rfl

lemma blocks_concat (msg : CppString) (n : ℕ) :
    blocks (n + 1) msg = blocks n msg ++ [(msg.drop (64 * n)).take 64] := by
  induction n generalizing msg with
  | zero => rfl
  | succ n ih =>
    rw [blocks, ih, blocks, List.cons_append, List.drop_drop, Nat.mul_succ, Nat.add_comm]

/-- A block of the standard has the bits of 64 bytes. -/
lemma block_bitsOfBytes (msg : CppString) (n : ℕ) :
    SecureHash.block (bitsOfBytes msg) n = bitsOfBytes ((msg.drop (64 * n)).take 64) := by
  rw [SecureHash.block, SecureHash.bitsOfBytes_take, SecureHash.bitsOfBytes_drop, ← Nat.mul_assoc]

/-- The blocks are hashed one after the other. -/
lemma toVariables_blocks (msg : CppString) (n : ℕ) (hn : 64 * n ≤ msg.length) :
    ((blocks n msg).foldl compress initial).toVariables =
      SecureHash.hashValue (bitsOfBytes msg) n := by
  induction n with
  | zero => exact toVariables_initial
  | succ n ih =>
    have hblock : ((msg.drop (64 * n)).take 64).length = 64 := by
      rw [List.length_take, List.length_drop]
      omega
    rw [blocks_concat, List.foldl_append, List.foldl_cons, List.foldl_nil,
      toVariables_compress hblock, ih (by omega), SecureHash.hashValue, block_bitsOfBytes]

/-! ### Padding -/

/-- The number of zero bytes. -/
def zeroBytes (length : ℕ) : ℕ := (119 - length % 64) % 64

/-- The loop stops after the least number of zero bytes. -/
lemma padZeros_eq {msg : CppString} {fuel k : ℕ} (hk : k < 64) (hfuel : k < fuel)
    (h : (msg.length + k) % 64 = 56) : padZeros fuel msg = msg ++ List.replicate k 0 := by
  induction fuel generalizing msg k with
  | zero => omega
  | succ fuel ih =>
    rw [padZeros]
    cases k with
    | zero => rw [if_neg (by omega), List.replicate_zero, List.append_nil]
    | succ k =>
      have hnext : ((msg ++ [0]).length + k) % 64 = 56 := by
        rw [List.length_append, List.length_singleton]
        omega
      rw [if_pos (by omega), ih (by omega) (by omega) hnext, List.append_assoc]
      rfl

/-- With any fuel from 64 on, the loop has ended. -/
lemma padZeros_message (data : CppString) {fuel : ℕ} (hfuel : 64 ≤ fuel) :
    padZeros fuel (data ++ [0x80]) =
      (data ++ [0x80]) ++ List.replicate (zeroBytes data.length) 0 := by
  have hk : zeroBytes data.length < 64 := Nat.mod_lt _ (by decide)
  refine padZeros_eq hk (by omega) ?_
  rw [List.length_append, List.length_singleton, zeroBytes]
  omega

/-- The eight bytes of a length are its 64 bits. -/
lemma bitsOfBytes_length (n : ℕ) :
    bitsOfBytes ([7, 6, 5, 4, 3, 2, 1, 0].map fun i : ℕ => UInt8.ofNat (n / 2 ^ (i * 8))) =
      SecureHash.bits (BitVec.ofNat 64 n) := by
  have hsplit : SecureHash.bits (BitVec.ofNat 64 n) =
      SecureHash.bits (BitVec.ofNat (8 + 8 + 8 + 8 + 8 + 8 + 8 + 8) n) := rfl
  rw [hsplit]
  simp only [SecureHash.bits_ofNat_add, Nat.div_div_eq_div_mul, ← pow_add, List.append_assoc]
  simp only [List.map_cons, List.map_nil, SecureHash.bitsOfBytes_cons, SecureHash.bitsOfBytes_nil,
    List.append_nil, Nat.zero_mul, pow_zero, Nat.div_one]
  rfl

lemma bitsOfBytes_pad {data : CppString} (h : data.length < 2 ^ 61) :
    bitsOfBytes (pad data) = SecureHash.pad (bitsOfBytes data) := by
  have hlength : data.length * 8 % 2 ^ 64 = (bitsOfBytes data).length := by
    rw [SecureHash.length_bitsOfBytes]
    omega
  have hzeros : SecureHash.zeroBits (bitsOfBytes data).length = 7 + 8 * zeroBytes data.length := by
    have hk : zeroBytes data.length < 64 := Nat.mod_lt _ (by decide)
    refine SecureHash.zeroBits_eq (by omega) ?_
    rw [SecureHash.length_bitsOfBytes, zeroBytes]
    omega
  have hone : bitsOfBytes [0x80] = true :: List.replicate 7 false := by decide +kernel
  rw [pad, padZeros_message data le_rfl, SecureHash.bitsOfBytes_append, bitsOfBytes_length,
    SecureHash.bitsOfBytes_append, SecureHash.bitsOfBytes_append, hone,
    SecureHash.bitsOfBytes_replicate_zero, hlength, SecureHash.pad, hzeros, List.replicate_add]
  simp only [List.append_assoc, List.cons_append]

/-! ### The digest -/

lemma bitsOfBytes_wordBytes (x : UInt32) :
    bitsOfBytes (wordBytes x) = SecureHash.bits x.toBitVec := by
  have hsplit : SecureHash.bits x.toBitVec =
      SecureHash.bits (BitVec.ofNat (8 + 8 + 8 + 8) x.toNat) := by
    rw [← UInt32.toNat_toBitVec, BitVec.ofNat_toNat, BitVec.setWidth_eq]
  have hbyte : ∀ k : ℕ, ∀ y : UInt32, y.toNat = x.toNat / 2 ^ k →
      y.toUInt8.toBitVec = BitVec.ofNat 8 (x.toNat / 2 ^ k) := by
    intro k y hy
    rw [← hy]
    rfl
  rw [hsplit]
  simp only [SecureHash.bits_ofNat_add, Nat.div_div_eq_div_mul, ← pow_add, List.append_assoc]
  rw [wordBytes, SecureHash.bitsOfBytes_cons, SecureHash.bitsOfBytes_cons,
    SecureHash.bitsOfBytes_cons, SecureHash.bitsOfBytes_cons, SecureHash.bitsOfBytes_nil,
    List.append_nil, hbyte 24 _ (by simp [Nat.shiftRight_eq_div_pow]),
    hbyte 16 _ (by simp [Nat.shiftRight_eq_div_pow]),
    hbyte 8 _ (by simp [Nat.shiftRight_eq_div_pow])]
  rfl

/-- The two digits of a byte. -/
lemma hexDigit_byte (b : UInt8) :
    UInt8.ofNat (SecureHash.hexDigit
        (SecureHash.ofBits ((SecureHash.bits b.toBitVec).take 4))).toNat = hexDigit (b / 16) ∧
      UInt8.ofNat (SecureHash.hexDigit
        (SecureHash.ofBits ((SecureHash.bits b.toBitVec).drop 4))).toNat = hexDigit (b % 16) := by
  have hall : ∀ n < 256,
      UInt8.ofNat (SecureHash.hexDigit
          (SecureHash.ofBits ((SecureHash.bits (UInt8.ofNat n).toBitVec).take 4))).toNat =
        hexDigit (UInt8.ofNat n / 16) ∧
      UInt8.ofNat (SecureHash.hexDigit
          (SecureHash.ofBits ((SecureHash.bits (UInt8.ofNat n).toBitVec).drop 4))).toNat =
        hexDigit (UInt8.ofNat n % 16) := by
    decide +kernel
  have hb := hall b.toNat b.toNat_lt
  rwa [UInt8.ofNat_toNat] at hb

lemma hexDigits_bitsOfBytes (bytes : CppString) :
    str (String.ofList (SecureHash.hexDigits (bitsOfBytes bytes))) =
      bytes.flatMap fun b => [hexDigit (b / 16), hexDigit (b % 16)] := by
  induction bytes with
  | nil => rfl
  | cons b bytes ih =>
    obtain ⟨hhigh, hlow⟩ := hexDigit_byte b
    have hdigits : SecureHash.hexDigits (SecureHash.bits b.toBitVec ++ bitsOfBytes bytes) =
        SecureHash.hexDigit (SecureHash.ofBits ((SecureHash.bits b.toBitVec).take 4)) ::
          SecureHash.hexDigit (SecureHash.ofBits ((SecureHash.bits b.toBitVec).drop 4)) ::
            SecureHash.hexDigits (bitsOfBytes bytes) := rfl
    simp only [str, String.toList_ofList] at ih ⊢
    rw [SecureHash.bitsOfBytes_cons, hdigits, List.map_cons, List.map_cons, hhigh, hlow, ih,
      List.flatMap_cons, List.cons_append, List.cons_append, List.nil_append]

/-- The bytes of the digest are the bits of the words. -/
lemma bitsOfBytes_words (l : List UInt32) :
    bitsOfBytes (l.flatMap wordBytes) = (l.map UInt32.toBitVec).flatMap SecureHash.bits := by
  induction l with
  | nil => rfl
  | cons x l ih =>
    rw [List.flatMap_cons, SecureHash.bitsOfBytes_append, bitsOfBytes_wordBytes, ih, List.map_cons,
      List.flatMap_cons]

lemma bitsOfBytes_sha256 {data : CppString} (h : data.length < 2 ^ 61) :
    bitsOfBytes (sha256 data) = SecureHash.sha256 (bitsOfBytes data) := by
  have hcount : (pad data).length / 64 = (SecureHash.pad (bitsOfBytes data)).length / 512 := by
    rw [← bitsOfBytes_pad h, SecureHash.length_bitsOfBytes]
    omega
  have hwords := toVariables_blocks (pad data) ((pad data).length / 64) (Nat.mul_div_le _ _)
  rw [SecureHash.sha256, ← hcount, ← bitsOfBytes_pad h, ← hwords]
  exact bitsOfBytes_words _

/-- The loop ends, whatever fuel from 64 on it is given, at 56 bytes of a block, the digest is the
one of the standard, and its hexadecimal form has the 64 digits and no dot. -/
theorem sha256_fips (data : CppString) (h : data.length < 2 ^ 61) :
    bitsOfBytes (sha256 data) = SecureHash.sha256 (bitsOfBytes data) ∧
      (∀ fuel, 64 ≤ fuel → padZeros fuel (data ++ [0x80]) = padZeros 64 (data ++ [0x80])) ∧
      (padZeros 64 (data ++ [0x80])).length % 64 = 56 ∧
      (pad data).length % 64 = 0 ∧
      bitsOfBytes (pad data) = SecureHash.pad (bitsOfBytes data) ∧
      sha256Hex data =
        str (String.ofList (SecureHash.hexDigits (SecureHash.sha256 (bitsOfBytes data)))) ∧
      (sha256Hex data).length = 64 ∧
      (46 : UInt8) ∉ sha256Hex data := by
  have hloop : (padZeros 64 (data ++ [0x80])).length % 64 = 56 := by
    rw [padZeros_message data le_rfl, List.length_append, List.length_append, List.length_replicate,
      List.length_singleton, zeroBytes]
    omega
  refine ⟨bitsOfBytes_sha256 h, ?_, hloop, ?_, bitsOfBytes_pad h, ?_, length_sha256Hex data, ?_⟩
  · intro fuel hfuel
    rw [padZeros_message data hfuel, padZeros_message data le_rfl]
  · rw [pad, List.length_append, List.length_map]
    simp only [List.length_cons, List.length_nil]
    omega
  · rw [← bitsOfBytes_sha256 h, hexDigits_bitsOfBytes]
    rfl
  · intro hdot
    rcases bounds_of_mem_sha256Hex hdot with ⟨hle, -⟩ | ⟨hle, -⟩
    · exact absurd hle (by decide)
    · exact absurd hle (by decide)

/-- The digest of "abc". -/
theorem sha256_fips_abc :
    bitsOfBytes (sha256 (str "abc")) = SecureHash.sha256 (bitsOfBytes (str "abc")) ∧
      (pad (str "abc")).length % 64 = 0 :=
  have h := sha256_fips (str "abc") (by decide +kernel)
  ⟨h.1, h.2.2.2.1⟩

end DdzServer.Sha256
