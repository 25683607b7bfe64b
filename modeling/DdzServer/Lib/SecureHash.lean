import Mathlib.Analysis.SpecialFunctions.Pow.Real
import Mathlib.Data.BitVec
import Mathlib.Data.Nat.Prime.Nth

/-!
# The secure hash SHA-256

The algorithm of FIPS 180-4. Messages are strings of bits, the words have 32 bits, and the constants
are what the standard derives them from: fractional parts of roots of the first primes.
-/

namespace SecureHash

/-- Words of 32 bits, added modulo `2 ^ 32`. -/
abbrev Word := BitVec 32

/-! ### Strings of bits -/

/-- The bits of a word, the most significant one first. -/
def bits {n : ℕ} (x : BitVec n) : List Bool := (List.range n).map x.getMsbD

/-- The bits of bytes. -/
def bitsOfBytes (bytes : List UInt8) : List Bool := bytes.flatMap fun b => bits b.toBitVec

/-- The number that bits denote. -/
def ofBits (l : List Bool) : ℕ := l.foldl (fun n b => 2 * n + b.toNat) 0

/-! ### Functions (4.1.2) -/

def rotr (n : ℕ) (x : Word) : Word := (x >>> n) ||| (x <<< (32 - n))

def shr (n : ℕ) (x : Word) : Word := x >>> n

def ch (x y z : Word) : Word := (x &&& y) ^^^ (~~~x &&& z)

def maj (x y z : Word) : Word := (x &&& y) ^^^ (x &&& z) ^^^ (y &&& z)

def bigSigma0 (x : Word) : Word := rotr 2 x ^^^ rotr 13 x ^^^ rotr 22 x

def bigSigma1 (x : Word) : Word := rotr 6 x ^^^ rotr 11 x ^^^ rotr 25 x

def smallSigma0 (x : Word) : Word := rotr 7 x ^^^ rotr 18 x ^^^ shr 3 x

def smallSigma1 (x : Word) : Word := rotr 17 x ^^^ rotr 19 x ^^^ shr 10 x

/-! ### Constants (4.2.2 and 5.3.3) -/

/-- The first 32 bits of the fractional part. -/
noncomputable def fraction32 (x : ℝ) : Word := BitVec.ofInt 32 ⌊Int.fract x * 2 ^ 32⌋

/-- The constants of the rounds, from the cube roots of the first 64 primes. -/
noncomputable def roundConstant (t : ℕ) : Word :=
  fraction32 ((Nat.nth Nat.Prime t : ℝ) ^ (1 / (3 : ℕ) : ℝ))

/-- The words of the initial hash value, from the square roots of the first 8 primes. -/
noncomputable def initialWord (j : ℕ) : Word :=
  fraction32 ((Nat.nth Nat.Prime j : ℝ) ^ (1 / (2 : ℕ) : ℝ))

/-! ### Preprocessing (5.1.1 and 5.2.1) -/

lemma exists_zeroBits (length : ℕ) : ∃ k, (length + 1 + k) % 512 = 448 :=
  ⟨447 + 511 * length, by omega⟩

/-- The least number of zero bits. -/
def zeroBits (length : ℕ) : ℕ := Nat.find (exists_zeroBits length)

/-- A message followed by a one, zeros, and its length in 64 bits. -/
def pad (message : List Bool) : List Bool :=
  message ++ true :: (List.replicate (zeroBits message.length) false ++
    bits (BitVec.ofNat 64 message.length))

/-- A block of 512 bits. -/
def block (padded : List Bool) (i : ℕ) : List Bool := (padded.drop (512 * i)).take 512

/-- A word of a block. -/
def blockWord (block : List Bool) (j : ℕ) : Word :=
  BitVec.ofNat 32 (ofBits ((block.drop (32 * j)).take 32))

/-! ### Hash computation (6.2.2) -/

/-- The working variables, and the words of a hash value. -/
structure Variables where
  a : Word
  b : Word
  c : Word
  d : Word
  e : Word
  f : Word
  g : Word
  h : Word

/-- The message schedule. -/
def schedule (block : List Bool) (t : ℕ) : Word :=
  if t < 16 then blockWord block t
  else
    smallSigma1 (schedule block (t - 2)) + schedule block (t - 7) +
      smallSigma0 (schedule block (t - 15)) + schedule block (t - 16)

/-- A round with the constant `k` and the word `w`. -/
def round (k w : Word) (v : Variables) : Variables :=
  let t1 := v.h + bigSigma1 v.e + ch v.e v.f v.g + k + w
  let t2 := bigSigma0 v.a + maj v.a v.b v.c
  { a := t1 + t2, b := v.a, c := v.b, d := v.c, e := v.d + t1, f := v.e, g := v.f, h := v.g }

/-- The working variables after `t` rounds. -/
noncomputable def rounds (block : List Bool) (v : Variables) : ℕ → Variables
  | 0     => v
  | t + 1 => round (roundConstant t) (schedule block t) (rounds block v t)

def add (v w : Variables) : Variables where
  a := v.a + w.a
  b := v.b + w.b
  c := v.c + w.c
  d := v.d + w.d
  e := v.e + w.e
  f := v.f + w.f
  g := v.g + w.g
  h := v.h + w.h

noncomputable def initialHash : Variables where
  a := initialWord 0
  b := initialWord 1
  c := initialWord 2
  d := initialWord 3
  e := initialWord 4
  f := initialWord 5
  g := initialWord 6
  h := initialWord 7

/-- The hash value after `i` blocks. -/
noncomputable def hashValue (padded : List Bool) : ℕ → Variables
  | 0     => initialHash
  | i + 1 => add (rounds (block padded i) (hashValue padded i) 64) (hashValue padded i)

/-- The words of a hash value, one after the other. -/
def Variables.digest (v : Variables) : List Bool :=
  [v.a, v.b, v.c, v.d, v.e, v.f, v.g, v.h].flatMap bits

/-- The message digest. -/
noncomputable def sha256 (message : List Bool) : List Bool :=
  (hashValue (pad message) ((pad message).length / 512)).digest

/-! ### Hexadecimal digits -/

def hexDigit (n : ℕ) : Char := "0123456789abcdef".toList.getD n '0'

/-- The hexadecimal digits of bits, four for each. -/
def hexDigits : List Bool → List Char
  | a :: b :: c :: d :: l => hexDigit (ofBits [a, b, c, d]) :: hexDigits l
  | _                     => []

/-! ### Bytes -/

@[simp] lemma length_bits {n : ℕ} (x : BitVec n) : (bits x).length = n := by simp [bits]

@[simp] lemma bitsOfBytes_nil : bitsOfBytes [] = [] := rfl

lemma bitsOfBytes_cons (b : UInt8) (bytes : List UInt8) :
    bitsOfBytes (b :: bytes) = bits b.toBitVec ++ bitsOfBytes bytes := List.flatMap_cons

lemma bitsOfBytes_append (s t : List UInt8) :
    bitsOfBytes (s ++ t) = bitsOfBytes s ++ bitsOfBytes t := List.flatMap_append

lemma length_bitsOfBytes (bytes : List UInt8) : (bitsOfBytes bytes).length = 8 * bytes.length := by
  induction bytes with
  | nil => rfl
  | cons b bytes ih =>
    rw [bitsOfBytes_cons, List.length_append, length_bits, ih, List.length_cons]
    omega

lemma bitsOfBytes_drop (bytes : List UInt8) (n : ℕ) :
    bitsOfBytes (bytes.drop n) = (bitsOfBytes bytes).drop (8 * n) := by
  induction bytes generalizing n with
  | nil => simp
  | cons b bytes ih =>
    cases n with
    | zero => rfl
    | succ n =>
      rw [List.drop_succ_cons, ih, bitsOfBytes_cons, Nat.mul_succ, Nat.add_comm,
        ← List.drop_drop, List.drop_left' (length_bits _)]

lemma bitsOfBytes_take (bytes : List UInt8) (n : ℕ) :
    bitsOfBytes (bytes.take n) = (bitsOfBytes bytes).take (8 * n) := by
  induction bytes generalizing n with
  | nil => simp
  | cons b bytes ih =>
    cases n with
    | zero => rfl
    | succ n =>
      have hfirst : (bits b.toBitVec).take (8 * (n + 1)) = bits b.toBitVec :=
        List.take_of_length_le (by rw [length_bits]; omega)
      rw [List.take_succ_cons, bitsOfBytes_cons, ih, bitsOfBytes_cons, List.take_append,
        length_bits, hfirst, show 8 * (n + 1) - 8 = 8 * n by omega]

lemma bitsOfBytes_replicate_zero (n : ℕ) :
    bitsOfBytes (List.replicate n 0) = List.replicate (8 * n) false := by
  induction n with
  | zero => rfl
  | succ n ih =>
    rw [List.replicate_succ, bitsOfBytes_cons, ih, Nat.mul_succ, Nat.add_comm,
      List.replicate_add]
    rfl

lemma ofBits_append (s t : List Bool) : ofBits (s ++ t) = ofBits s * 2 ^ t.length + ofBits t := by
  have hfrom : ∀ (l : List Bool) (n : ℕ),
      l.foldl (fun n b => 2 * n + b.toNat) n = n * 2 ^ l.length + ofBits l := by
    intro l
    induction l with
    | nil => simp [ofBits]
    | cons b l ih =>
      intro n
      rw [ofBits, List.foldl_cons, List.foldl_cons, ih, ih, List.length_cons, pow_succ]
      ring
  rw [ofBits, List.foldl_append, hfrom]
  rfl

lemma ofBits_bits (b : UInt8) : ofBits (bits b.toBitVec) = b.toNat := by
  have hall : ∀ n < 256, ofBits (bits (UInt8.ofNat n).toBitVec) = n := by decide +kernel
  have hb := hall b.toNat b.toNat_lt
  rwa [UInt8.ofNat_toNat] at hb

lemma getMsbD_ofNat {w i : ℕ} (n : ℕ) (hi : i < w) :
    (BitVec.ofNat w n).getMsbD i = n.testBit (w - 1 - i) := by
  rw [BitVec.getMsbD_eq_getLsbD, BitVec.getLsbD_ofNat, decide_eq_true hi,
    decide_eq_true (show w - 1 - i < w by omega), Bool.true_and, Bool.true_and]

/-- The bits of a number, the last `k` apart. -/
lemma bits_ofNat_add (m k n : ℕ) :
    bits (BitVec.ofNat (m + k) n) =
      bits (BitVec.ofNat m (n / 2 ^ k)) ++ bits (BitVec.ofNat k n) := by
  simp only [bits, List.range_add, List.map_append, List.map_map]
  congr 1
  · refine List.map_congr_left fun i hi => ?_
    have hi := List.mem_range.mp hi
    rw [getMsbD_ofNat _ (by omega), getMsbD_ofNat _ hi, Nat.testBit_div_two_pow]
    congr 1
    omega
  · refine List.map_congr_left fun i hi => ?_
    have hi := List.mem_range.mp hi
    rw [Function.comp_apply, getMsbD_ofNat _ (by omega), getMsbD_ofNat _ hi]
    congr 1
    omega

/-! ### Padding -/

/-- The least solution is the one below 512. -/
lemma zeroBits_eq {length k : ℕ} (hk : k < 512) (h : (length + 1 + k) % 512 = 448) :
    zeroBits length = k := by
  refine (Nat.find_eq_iff _).mpr ⟨h, fun n hn => ?_⟩
  omega

/-! ### Words -/

lemma add_comm (v w : Variables) : add v w = add w v := by
  simp only [add, BitVec.add_comm]

/-! ### Roots -/

/-- The fraction of a number between two neighbours. -/
lemma fraction32_of_floor {y : ℝ} {x : ℤ} (hle : x ≤ y * 2 ^ 32) (hlt : y * 2 ^ 32 < x + 1) :
    fraction32 y = BitVec.ofInt 32 x := by
  have hfloor : ⌊Int.fract y * 2 ^ 32⌋ = x - ⌊y⌋ * 2 ^ 32 := by
    have hsplit : Int.fract y * 2 ^ 32 = y * 2 ^ 32 - ((⌊y⌋ * 2 ^ 32 : ℤ) : ℝ) := by
      rw [Int.fract, sub_mul]
      norm_num
    rw [hsplit, Int.floor_sub_intCast, Int.floor_eq_iff.mpr ⟨hle, hlt⟩]
  have hmod : (x - ⌊y⌋ * 2 ^ 32) % 2 ^ 32 = x % 2 ^ 32 := by omega
  rw [fraction32, hfloor]
  apply BitVec.eq_of_toNat_eq
  rw [BitVec.toNat_ofInt, BitVec.toNat_ofInt]
  exact congrArg Int.toNat hmod

/-- The fraction of a root, from the powers around it. -/
lemma fraction32_root {r n m w : ℕ} (hr : r ≠ 0) (hle : (m * 2 ^ 32 + w) ^ r ≤ n * (2 ^ 32) ^ r)
    (hlt : n * (2 ^ 32) ^ r < (m * 2 ^ 32 + w + 1) ^ r) :
    fraction32 ((n : ℝ) ^ (1 / r : ℝ)) = BitVec.ofNat 32 w := by
  have hroot : ((n : ℝ) ^ (1 / r : ℝ) * 2 ^ 32) ^ r = n * (2 ^ 32) ^ r := by
    rw [mul_pow, one_div, Real.rpow_inv_natCast_pow (Nat.cast_nonneg n) hr]
  have hnonneg : 0 ≤ (n : ℝ) ^ (1 / r : ℝ) * 2 ^ 32 := by positivity
  have hbelow : ((m * 2 ^ 32 + w : ℕ) : ℝ) ≤ (n : ℝ) ^ (1 / r : ℝ) * 2 ^ 32 := by
    rw [← pow_le_pow_iff_left₀ (Nat.cast_nonneg _) hnonneg hr, hroot]
    exact_mod_cast hle
  have habove : (n : ℝ) ^ (1 / r : ℝ) * 2 ^ 32 < ((m * 2 ^ 32 + w : ℕ) : ℝ) + 1 := by
    rw [← pow_lt_pow_iff_left₀ hnonneg (by positivity) hr, hroot]
    exact_mod_cast hlt
  rw [fraction32_of_floor (x := ((m * 2 ^ 32 + w : ℕ) : ℤ)) (by exact_mod_cast hbelow)
    (by exact_mod_cast habove)]
  apply BitVec.eq_of_toNat_eq
  simp
  omega

end SecureHash
