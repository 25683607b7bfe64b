import DdzServer.Util.CppString

/-!
# SHA-256 as `common/util/sha256.cpp` computes it
-/

namespace DdzServer.Sha256

/-- `kTable`: the round constants. -/
def kTable : List UInt32 := [
  0x428a2f98, 0x71374491, 0xb5c0fbcf, 0xe9b5dba5, 0x3956c25b, 0x59f111f1, 0x923f82a4, 0xab1c5ed5,
  0xd807aa98, 0x12835b01, 0x243185be, 0x550c7dc3, 0x72be5d74, 0x80deb1fe, 0x9bdc06a7, 0xc19bf174,
  0xe49b69c1, 0xefbe4786, 0x0fc19dc6, 0x240ca1cc, 0x2de92c6f, 0x4a7484aa, 0x5cb0a9dc, 0x76f988da,
  0x983e5152, 0xa831c66d, 0xb00327c8, 0xbf597fc7, 0xc6e00bf3, 0xd5a79147, 0x06ca6351, 0x14292967,
  0x27b70a85, 0x2e1b2138, 0x4d2c6dfc, 0x53380d13, 0x650a7354, 0x766a0abb, 0x81c2c92e, 0x92722c85,
  0xa2bfe8a1, 0xa81a664b, 0xc24b8b70, 0xc76c51a3, 0xd192e819, 0xd6990624, 0xf40e3585, 0x106aa070,
  0x19a4c116, 0x1e376c08, 0x2748774c, 0x34b0bcb5, 0x391c0cb3, 0x4ed8aa4a, 0x5b9cca4f, 0x682e6ff3,
  0x748f82ee, 0x78a5636f, 0x84c87814, 0x8cc70208, 0x90befffa, 0xa4506ceb, 0xbef9a3f7, 0xc67178f2]

def rotR (x n : UInt32) : UInt32 := (x >>> n) ||| (x <<< (32 - n))

def ch (x y z : UInt32) : UInt32 := (x &&& y) ^^^ (~~~x &&& z)

def maj (x y z : UInt32) : UInt32 := (x &&& y) ^^^ (x &&& z) ^^^ (y &&& z)

def bigSigma0 (x : UInt32) : UInt32 := rotR x 2 ^^^ rotR x 13 ^^^ rotR x 22

def bigSigma1 (x : UInt32) : UInt32 := rotR x 6 ^^^ rotR x 11 ^^^ rotR x 25

def smallSigma0 (x : UInt32) : UInt32 := rotR x 7 ^^^ rotR x 18 ^^^ (x >>> 3)

def smallSigma1 (x : UInt32) : UInt32 := rotR x 17 ^^^ rotR x 19 ^^^ (x >>> 10)

/-- The eight working variables. -/
structure Words where
  a : UInt32
  b : UInt32
  c : UInt32
  d : UInt32
  e : UInt32
  f : UInt32
  g : UInt32
  hh : UInt32

/-- The initial hash value. -/
def initial : Words :=
  ⟨0x6a09e667, 0xbb67ae85, 0x3c6ef372, 0xa54ff53a, 0x510e527f, 0x9b05688c, 0x1f83d9ab, 0x5be0cd19⟩

/-- The loop that appends zero bytes until the length is 56 modulo 64. It runs at most 63 times,
so `fuel = 64` is enough. -/
def padZeros : ℕ → CppString → CppString
  | 0,        msg => msg
  | fuel + 1, msg => if msg.length % 64 ≠ 56 then padZeros fuel (msg ++ [0]) else msg

/-- The padded message: the bit length is appended as a 64-bit big-endian number. -/
def pad (data : CppString) : CppString :=
  let bitLen := data.length * 8 % 2 ^ 64
  padZeros 64 (data ++ [0x80]) ++
    [7, 6, 5, 4, 3, 2, 1, 0].map fun i : ℕ => UInt8.ofNat (bitLen / 2 ^ (i * 8))

/-- The sixteen big-endian words of a block. -/
def blockWords : CppString → List UInt32
  | b₀ :: b₁ :: b₂ :: b₃ :: rest =>
    ((b₀.toUInt32 <<< 24) ||| (b₁.toUInt32 <<< 16) ||| (b₂.toUInt32 <<< 8) ||| b₃.toUInt32) ::
      blockWords rest
  | _ => []

/-- Append `w[i]` to the message schedule. -/
def extend (w : List UInt32) (i : ℕ) : List UInt32 :=
  w ++ [smallSigma1 (w.getD (i - 2) 0) + w.getD (i - 7) 0 + smallSigma0 (w.getD (i - 15) 0)
    + w.getD (i - 16) 0]

def schedule (block : CppString) : List UInt32 :=
  (List.range' 16 48).foldl extend (blockWords block)

def round (w : List UInt32) (s : Words) (i : ℕ) : Words :=
  let t1 := s.hh + bigSigma1 s.e + ch s.e s.f s.g + kTable.getD i 0 + w.getD i 0
  let t2 := bigSigma0 s.a + maj s.a s.b s.c
  ⟨t1 + t2, s.a, s.b, s.c, s.d + t1, s.e, s.f, s.g⟩

/-- Add one block to the hash. -/
def compress (h : Words) (block : CppString) : Words :=
  let r := (List.range 64).foldl (round (schedule block)) h
  ⟨h.a + r.a, h.b + r.b, h.c + r.c, h.d + r.d, h.e + r.e, h.f + r.f, h.g + r.g, h.hh + r.hh⟩

/-- The consecutive blocks of 64 bytes. -/
def blocks : ℕ → CppString → List CppString
  | 0,     _   => []
  | n + 1, msg => msg.take 64 :: blocks n (msg.drop 64)

def wordBytes (x : UInt32) : CppString :=
  [(x >>> 24).toUInt8, (x >>> 16).toUInt8, (x >>> 8).toUInt8, x.toUInt8]

/-- `Sha256`. -/
def sha256 (data : CppString) : CppString :=
  let msg := pad data
  let h := (blocks (msg.length / 64) msg).foldl compress initial
  [h.a, h.b, h.c, h.d, h.e, h.f, h.g, h.hh].flatMap wordBytes

/-- A lower-case hexadecimal digit. -/
def hexDigit (n : UInt8) : UInt8 := if n < 10 then 48 + n else 87 + n

/-- `Sha256Hex`. -/
def sha256Hex (data : CppString) : CppString :=
  (sha256 data).flatMap fun b => [hexDigit (b / 16), hexDigit (b % 16)]

example : sha256Hex (str "abc") =
    str "ba7816bf8f01cfea414140de5dae2223b00361a396177a9cb410ff61f20015ad" := by
  decide +kernel

lemma length_sha256Hex (data : CppString) : (sha256Hex data).length = 64 := by
  have hhex : ∀ bytes : CppString,
      (bytes.flatMap fun b => [hexDigit (b / 16), hexDigit (b % 16)]).length =
        2 * bytes.length := by
    intro bytes
    induction bytes with
    | nil => rfl
    | cons b bytes ih =>
      rw [List.flatMap_cons, List.length_append, ih, List.length_cons]
      simp only [List.length_cons, List.length_nil]
      omega
  rw [sha256Hex, hhex, sha256]
  rfl

lemma hexDigit_bounds {n : UInt8} (h : n < 16) :
    48 ≤ hexDigit n ∧ hexDigit n ≤ 57 ∨ 97 ≤ hexDigit n ∧ hexDigit n ≤ 102 := by
  unfold hexDigit
  simp only [UInt8.lt_iff_toNat_lt, UInt8.le_iff_toNat_le] at h ⊢
  split_ifs with hn
  · left
    simp at h hn ⊢
    omega
  · right
    simp at h hn ⊢
    omega

/-- The bytes of a digest are lower-case hexadecimal digits. -/
lemma bounds_of_mem_sha256Hex {data : CppString} {b : UInt8} (h : b ∈ sha256Hex data) :
    48 ≤ b ∧ b ≤ 57 ∨ 97 ≤ b ∧ b ≤ 102 := by
  have hlow : ∀ c : UInt8, c % 16 < 16 := fun c => by
    rw [UInt8.lt_iff_toNat_lt]
    simp
    omega
  have hhigh : ∀ c : UInt8, c / 16 < 16 := fun c => by
    have hc := c.toNat_lt
    rw [UInt8.lt_iff_toNat_lt]
    simp
    omega
  obtain ⟨c, -, hb⟩ := List.mem_flatMap.mp h
  rcases List.mem_cons.mp hb with rfl | hb
  · exact hexDigit_bounds (hhigh c)
  · obtain rfl := List.mem_singleton.mp hb
    exact hexDigit_bounds (hlow c)

end DdzServer.Sha256
