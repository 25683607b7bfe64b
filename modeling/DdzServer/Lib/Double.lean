import Mathlib.Algebra.Order.Floor.Semifield
import Mathlib.Data.Int.Log
import Mathlib.Data.Rat.Floor

/-!
# Double precision

Rational numbers rounded to 53 bits, ties to even. Integers up to `2 ^ 53` are represented exactly.
-/

namespace Double

/-- The nearest integer, the even one of two. -/
def roundHalfEven (q : ℚ) : ℤ :=
  if 1 < 2 * (q - q.floor) ∨ 2 * (q - q.floor) = 1 ∧ q.floor % 2 = 1 then q.floor + 1 else q.floor

/-- The exponent of the last bit of a number; the subnormal ones share the lowest. -/
def lastBit (q : ℚ) : ℤ := max (Int.log 2 |q| - 52) (-1074)

/-- The double that is nearest to a rational, as long as that is a finite one. -/
def round (q : ℚ) : ℚ := roundHalfEven (q / 2 ^ lastBit q) * 2 ^ lastBit q

/-- Whether a rational is rounded to a finite double. -/
def IsFinite (q : ℚ) : Prop := |round q| < 2 ^ 1024

instance (q : ℚ) : Decidable (IsFinite q) := inferInstanceAs (Decidable (_ < _))

lemma roundHalfEven_intCast (n : ℤ) : roundHalfEven n = n := by
  have hfloor : (n : ℚ).floor = n := Rat.floor_intCast n
  rw [roundHalfEven, hfloor, sub_self, mul_zero, if_neg]
  norm_num

/-- What has no bits below the last one is exact. -/
lemma round_of_eq {q : ℚ} {m : ℤ} (h : q = m * 2 ^ lastBit q) : round q = q := by
  have hpow : (2 : ℚ) ^ lastBit q ≠ 0 := zpow_ne_zero _ two_ne_zero
  rw [round, (div_eq_iff hpow).mpr h, roundHalfEven_intCast, ← h]

/-- Integers up to `2 ^ 53` are exact. -/
theorem round_intCast {n : ℤ} (h : |n| ≤ 2 ^ 53) : round n = n := by
  by_cases hzero : n = 0
  · rw [hzero, Int.cast_zero]
    exact round_of_eq (m := 0) (by simp)
  have habs : 0 < |(n : ℚ)| := by
    rw [abs_pos]
    exact_mod_cast hzero
  by_cases hmax : |n| = 2 ^ 53
  · -- the last bit of `2 ^ 53` stands for 2
    have hlog : Int.log 2 |(n : ℚ)| = 53 := by
      have hq : |(n : ℚ)| = ((2 : ℕ) : ℚ) ^ (53 : ℤ) := by
        rw [← Int.cast_abs, hmax]
        norm_num
      rw [hq]
      exact Int.log_zpow (by decide) 53
    have hbit : lastBit n = 1 := by
      rw [lastBit, hlog]
      decide
    have heven : n = n / 2 * 2 := by
      rcases abs_choice n with hn | hn <;> omega
    refine round_of_eq (m := n / 2) ?_
    rw [hbit, zpow_one]
    exact_mod_cast heven
  · have hlog : Int.log 2 |(n : ℚ)| < 53 := by
      refine (Int.lt_zpow_iff_log_lt (by decide) habs).mp ?_
      have hlt : |n| < 2 ^ 53 := lt_of_le_of_ne h hmax
      rw [← Int.cast_abs]
      exact_mod_cast hlt
    have hbit : lastBit n ≤ 0 := by
      rw [lastBit]
      exact max_le (by omega) (by decide)
    obtain ⟨k, hk⟩ := Int.exists_eq_neg_ofNat hbit
    refine round_of_eq (m := n * 2 ^ k) ?_
    rw [hk, zpow_neg, zpow_natCast, Int.cast_mul, Int.cast_pow, Int.cast_ofNat]
    rw [mul_assoc, mul_inv_cancel₀ (pow_ne_zero _ two_ne_zero), mul_one]

lemma isFinite_intCast {n : ℤ} (h : |n| ≤ 2 ^ 53) : IsFinite n := by
  have hle : |(n : ℚ)| ≤ 2 ^ 53 := by
    rw [← Int.cast_abs]
    exact_mod_cast h
  rw [IsFinite, round_intCast h]
  exact hle.trans_lt (pow_lt_pow_right₀ (by norm_num) (by norm_num))

/-- Rounding does not go below the power of two that leads a number. -/
lemma zpow_log_le_round {q : ℚ} (hq : 0 < q) (hlog : -1022 ≤ Int.log 2 q) :
    (2 : ℚ) ^ Int.log 2 q ≤ round q := by
  have hbit : lastBit q = Int.log 2 q - 52 := by
    rw [lastBit, abs_of_pos hq]
    exact max_eq_left (by omega)
  have hpow : (0 : ℚ) < 2 ^ lastBit q := zpow_pos two_pos _
  have hsplit : (2 : ℚ) ^ Int.log 2 q = 2 ^ (52 : ℤ) * 2 ^ lastBit q := by
    rw [← zpow_add₀ two_ne_zero, hbit]
    congr 1
    omega
  have hle : ((2 ^ 52 : ℤ) : ℚ) ≤ q / 2 ^ lastBit q := by
    rw [le_div_iff₀ hpow]
    have hlead : ((2 : ℕ) : ℚ) ^ Int.log 2 q ≤ q := Int.zpow_log_le_self (by decide) hq
    rw [Nat.cast_ofNat, hsplit] at hlead
    exact_mod_cast hlead
  have hround : (2 ^ 52 : ℤ) ≤ roundHalfEven (q / 2 ^ lastBit q) := by
    have hfloor : (2 ^ 52 : ℤ) ≤ (q / 2 ^ lastBit q).floor := Rat.le_floor_iff.mpr hle
    rw [roundHalfEven]
    split_ifs <;> omega
  rw [round, hsplit]
  have hcast : (2 : ℚ) ^ (52 : ℤ) ≤ (roundHalfEven (q / 2 ^ lastBit q) : ℚ) := by
    exact_mod_cast hround
  exact mul_le_mul_of_nonneg_right hcast hpow.le

/-- What is at least two stays so. -/
lemma two_le_round {q : ℚ} (hq : 2 ≤ q) : 2 ≤ round q := by
  have hpos : 0 < q := two_pos.trans_le hq
  have hlog : 1 ≤ Int.log 2 q := by
    refine (Int.zpow_le_iff_le_log (by decide) hpos).mp ?_
    exact_mod_cast hq
  calc (2 : ℚ) = 2 ^ (1 : ℤ) := (zpow_one 2).symm
    _ ≤ 2 ^ Int.log 2 q := zpow_le_zpow_right₀ one_le_two hlog
    _ ≤ round q := zpow_log_le_round hpos (by omega)

end Double
