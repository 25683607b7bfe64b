import DdzServer.Util.CppString
import Mathlib.Data.Nat.Digits.Lemmas

/-!
# Decimal text

`std::to_string` and `std::stoll` are inverse to each other on the numbers of 64 bits.
-/

namespace DdzServer

lemma isDigit_ofNat {d : ℕ} (h : d < 10) : isDigit (UInt8.ofNat (48 + d)) = true := by
  interval_cases d <;> rfl

lemma toNat_ofNat_digit {d : ℕ} (h : d < 10) : (UInt8.ofNat (48 + d)).toNat - 48 = d := by
  interval_cases d <;> rfl

/-- No digit is white space, a sign, or a separator of the server. -/
lemma digit_bounds {b : UInt8} (h : isDigit b = true) : 48 ≤ b.toNat ∧ b.toNat ≤ 57 := by
  simp only [isDigit, Bool.and_eq_true, decide_eq_true_eq] at h
  exact ⟨UInt8.le_iff_toNat_le.mp h.1, UInt8.le_iff_toNat_le.mp h.2⟩

lemma isSpace_eq_false {b : UInt8} (h : 33 ≤ b.toNat) : isSpace b = false := by
  have hne : b ≠ 32 := by
    rintro rfl
    simp at h
  have hlt : ¬ b ≤ 13 := by
    rw [UInt8.le_iff_toNat_le]
    simp
    omega
  simp [isSpace, hne, hlt]

lemma isDigit_of_mem_decimal {n : ℕ} {b : UInt8} (h : b ∈ decimal n) : isDigit b = true := by
  unfold decimal at h
  split_ifs at h
  · obtain rfl : b = 48 := by simpa [str] using h
    rfl
  · obtain ⟨d, hd, rfl⟩ := List.mem_map.mp h
    exact isDigit_ofNat (Nat.digits_lt_base (by norm_num) (List.mem_reverse.mp hd))

lemma decimal_ne_nil (n : ℕ) : decimal n ≠ [] := by
  unfold decimal
  split_ifs with hn
  · simp [str]
  · simpa using Nat.digits_ne_nil_iff_ne_zero.mpr hn

/-- The digits of a number denote the number. -/
lemma ofDecimal_decimal (n : ℕ) : ofDecimal (decimal n) = n := by
  have hdigits : ∀ ds : List ℕ, (∀ d ∈ ds, d < 10) →
      ofDecimal (ds.reverse.map fun d => UInt8.ofNat (48 + d)) = Nat.ofDigits 10 ds := by
    intro ds hds
    induction ds with
    | nil => rfl
    | cons d ds ih =>
      obtain ⟨hd, hds⟩ := List.forall_mem_cons.mp hds
      rw [Nat.ofDigits_cons, ← ih hds]
      simp only [ofDecimal, List.reverse_cons, List.map_append, List.foldl_append, List.map_cons,
        List.map_nil, List.foldl_cons, List.foldl_nil, toNat_ofNat_digit hd]
      exact add_comm _ _
  unfold decimal
  split_ifs with hn
  · rw [hn]
    rfl
  · rw [hdigits _ fun d hd => Nat.digits_lt_base (by norm_num) hd, Nat.ofDigits_digits]

lemma takeWhile_isDigit {ds : CppString} (h : ∀ b ∈ ds, isDigit b = true) :
    ds.takeWhile isDigit = ds := by
  induction ds with
  | nil => rfl
  | cons b ds ih =>
    obtain ⟨hb, hds⟩ := List.forall_mem_cons.mp h
    rw [List.takeWhile_cons, if_pos hb, ih hds]

lemma dropWhile_isSpace_cons {b : UInt8} (h : 33 ≤ b.toNat) (rest : CppString) :
    (b :: rest).dropWhile isSpace = b :: rest := by
  rw [List.dropWhile_cons, isSpace_eq_false h]
  rfl

/-- The integer that a whole text denotes: a sign, if any, and digits. -/
inductive Denotes : CppString → ℤ → Prop
  | digits {ds : CppString} (hne : ds ≠ []) (hdigits : ∀ b ∈ ds, isDigit b = true) :
      Denotes ds (ofDecimal ds)
  | plus {ds : CppString} (hne : ds ≠ []) (hdigits : ∀ b ∈ ds, isDigit b = true) :
      Denotes (43 :: ds) (ofDecimal ds)
  | minus {ds : CppString} (hne : ds ≠ []) (hdigits : ∀ b ∈ ds, isDigit b = true) :
      Denotes (45 :: ds) (-(ofDecimal ds : ℤ))

/-- A number is denoted by its own text. -/
lemma denotes_toStr (n : ℤ) : Denotes (toStr n) n := by
  have hdigits : ∀ b ∈ decimal n.natAbs, isDigit b = true := fun b => isDigit_of_mem_decimal
  have hvalue := ofDecimal_decimal n.natAbs
  by_cases hneg : n < 0
  · have hminus := Denotes.minus (decimal_ne_nil n.natAbs) hdigits
    rw [hvalue, show -(n.natAbs : ℤ) = n by omega] at hminus
    rw [toStr, if_pos hneg]
    exact hminus
  · have hplain := Denotes.digits (decimal_ne_nil n.natAbs) hdigits
    rw [hvalue, show (n.natAbs : ℤ) = n by omega] at hplain
    rw [toStr, if_neg hneg]
    exact hplain

section

variable {lo hi n : ℤ} {text : CppString}

/-- What is read lies in the range. -/
lemma parseInteger_bounds {len : ℕ} (h : parseInteger lo hi text = some (n, len)) :
    lo ≤ n ∧ n ≤ hi := by
  simp only [parseInteger] at h
  split_ifs at h with hneg hnone hnone
  all_goals
    obtain ⟨rfl, -⟩ := Prod.mk.inj (Option.some.inj h)
    simp only [not_or, not_lt] at hnone
    exact hnone.2

/-- A text that denotes a number is read as this number, and all of it is read, unless the number
is out of range. -/
lemma parseInteger_of_denotes (h : Denotes text n) :
    parseInteger lo hi text = if n < lo ∨ hi < n then none else some (n, text.length) := by
  cases h with
  | @digits ds hne hdigits =>
    obtain ⟨b, rest, rfl⟩ := List.exists_cons_of_ne_nil hne
    have hb := digit_bounds (hdigits b List.mem_cons_self)
    unfold parseInteger
    rw [dropWhile_isSpace_cons (by omega)]
    dsimp only
    -- the first digit is no sign
    split
    next heq =>
      obtain rfl := (List.cons.inj heq).1
      simp at hb
    next heq =>
      obtain rfl := (List.cons.inj heq).1
      simp at hb
    next =>
      rw [takeWhile_isDigit hdigits]
      simp
  | plus hne hdigits =>
    unfold parseInteger
    rw [dropWhile_isSpace_cons (by decide)]
    simp [takeWhile_isDigit hdigits, hne, add_comm]
  | minus hne hdigits =>
    unfold parseInteger
    rw [dropWhile_isSpace_cons (by decide)]
    simp [takeWhile_isDigit hdigits, hne, add_comm]

/-- Reading the text of a number in the range gives the number, and all of the text is read. -/
lemma parseInteger_toStr (hlo : lo ≤ n) (hhi : n ≤ hi) :
    parseInteger lo hi (toStr n) = some (n, (toStr n).length) := by
  rw [parseInteger_of_denotes (denotes_toStr n), if_neg (by omega)]

/-- A text denotes one number at most. -/
lemma Denotes.unique {n' : ℤ} (h : Denotes text n) (h' : Denotes text n') : n = n' := by
  have hread : parseInteger n n text = some (n, text.length) := by
    rw [parseInteger_of_denotes h, if_neg (by omega)]
  rw [parseInteger_of_denotes h'] at hread
  split_ifs at hread
  exact (Prod.mk.inj (Option.some.inj hread)).1.symm

end

/-- A number of 64 bits is read back from its text. -/
theorem parseI64Strict_toStr {n : ℤ} (hlo : -(2 ^ 63) ≤ n) (hhi : n ≤ 2 ^ 63 - 1) :
    parseI64Strict (toStr n) = some n := by
  rw [parseI64Strict, stoll, parseInteger_toStr hlo hhi]
  exact if_pos rfl

/-- A number that is read has 64 bits. -/
lemma parseI64Strict_bounds {text : CppString} {n : ℤ} (h : parseI64Strict text = some n) :
    -(2 ^ 63) ≤ n ∧ n ≤ 2 ^ 63 - 1 := by
  simp only [parseI64Strict] at h
  split at h
  next v idx hread =>
    split_ifs at h
    obtain rfl := Option.some.inj h
    exact parseInteger_bounds hread
  next => cases h

/-- The text of a number has digits and a minus sign, nothing else. -/
lemma not_mem_toStr {b : UInt8} (hminus : b ≠ 45) (hdigit : isDigit b = false) (n : ℤ) :
    b ∉ toStr n := by
  have hdecimal : b ∉ decimal n.natAbs := fun h => by
    rw [isDigit_of_mem_decimal h] at hdigit
    cases hdigit
  unfold toStr
  split_ifs
  · simp [str, hminus, hdecimal]
  · exact hdecimal

lemma mem_toStr {n : ℤ} {b : UInt8} (h : b ∈ toStr n) : b = 45 ∨ isDigit b = true := by
  by_contra hne
  rw [not_or, Bool.not_eq_true] at hne
  exact not_mem_toStr hne.1 hne.2 n h

lemma toStr_ne_nil (n : ℤ) : toStr n ≠ [] := by
  unfold toStr
  split_ifs
  · simp [str]
  · exact decimal_ne_nil _

lemma head_decimal {n : ℕ} (h : (decimal n).head? = some 48) : (decimal n).length = 1 := by
  unfold decimal at h ⊢
  split_ifs at h ⊢ with hn
  · rfl
  · -- the first digit is the last of `Nat.digits`, which is not zero
    exfalso
    have hne : Nat.digits 10 n ≠ [] := Nat.digits_ne_nil_iff_ne_zero.mpr hn
    rw [List.head?_map, List.head?_reverse, List.getLast?_eq_some_getLast hne, Option.map_some,
      Option.some.injEq] at h
    have hlt := Nat.digits_lt_base (by norm_num) (List.getLast_mem hne)
    have hzero := Nat.getLast_digit_ne_zero 10 hn
    have hvalue := toNat_ofNat_digit hlt
    rw [h] at hvalue
    exact hzero hvalue.symm

/-! ### 32 bits -/

lemma toInt32_bounds (v : ℤ) : -(2 ^ 31) ≤ toInt32 v ∧ toInt32 v < 2 ^ 31 := by
  have hle := Int.le_bmod (x := v) (m := 2 ^ 32) (by norm_num)
  have hlt := Int.bmod_lt (x := v) (m := 2 ^ 32) (by norm_num)
  rw [toInt32]
  omega

lemma toInt32_of_bounds {v : ℤ} (hlo : -(2 ^ 31) ≤ v) (hhi : v < 2 ^ 31) : toInt32 v = v :=
  Int.bmod_eq_of_le (by omega) (by omega)

end DdzServer
