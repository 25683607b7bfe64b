import DdzServer.Client.Json
import DdzServer.Client.ObjectText
import DdzServer.Lib.Double
import Mathlib.Data.List.TakeWhile

/-!
# Numbers from strings

`Number` of a string, as ECMAScript defines it, and `Math.trunc`. The number of a decimal text up to
`2 ^ 53` is the number that was written.
-/

namespace DdzServer

namespace JsString

open Json

/-- White space and line ends, which `Number` leaves out on both sides. -/
def isSpace (u : UInt16) : Bool :=
  (9 ≤ u && u ≤ 13) || u == 32 || u == 0xA0 || u == 0x1680 || (0x2000 ≤ u && u ≤ 0x200A) ||
    u == 0x2028 || u == 0x2029 || u == 0x202F || u == 0x205F || u == 0x3000 || u == 0xFEFF

def trim (text : JsString) : JsString :=
  ((text.dropWhile isSpace).reverse.dropWhile isSpace).reverse

/-- The base of a literal such as `0x1F`, and what follows it. -/
def radixLiteral : JsString → Option (ℕ × JsString)
  | 48 :: u :: digits =>
    if u = 120 ∨ u = 88 then some (16, digits)
    else if u = 111 ∨ u = 79 then some (8, digits)
    else if u = 98 ∨ u = 66 then some (2, digits)
    else none
  | _ => none

/-- The number that digits denote in a base. -/
def ofRadix (base : ℕ) (digits : JsString) : Option ℕ :=
  if digits = [] then none
  else
    digits.foldlM (fun n u =>
      (hexValue u).bind fun d => if d < base then some (n * base + d) else none) 0

/-- A decimal literal with an optional sign, fraction and exponent. -/
def decimalLiteral (text : JsString) : Option ℚ :=
  let sign := text.head?
  let body := if sign = some 43 ∨ sign = some 45 then text.tail else text
  let whole := body.takeWhile Json.isDigit
  let rest := body.dropWhile Json.isDigit
  let fraction := if rest.head? = some 46 then rest.tail.takeWhile Json.isDigit else []
  let rest := if rest.head? = some 46 then rest.tail.dropWhile Json.isDigit else rest
  if whole = [] ∧ fraction = [] then none
  else
    match parseExponent rest with
    | some (exponent, []) =>
      let value : ℚ := Json.ofDecimal (whole ++ fraction) * 10 ^ (exponent - fraction.length)
      some (if sign = some 45 then -value else value)
    | _ => none

/-- `Number` of a string; `none` where the result is not finite. -/
def toNumber (text : JsString) : Option ℚ :=
  if trim text = [] then some 0
  else
    let value : Option ℚ :=
      match radixLiteral (trim text) with
      | some (base, digits) => (ofRadix base digits).map fun n => n
      | none                => decimalLiteral (trim text)
    value.bind fun q => if Double.IsFinite q then some (Double.round q) else none

/-- `Math.trunc`. -/
def trunc (q : ℚ) : ℤ := if q < 0 then q.ceil else q.floor

lemma trunc_intCast (n : ℤ) : trunc n = n := by
  rw [trunc, Rat.ceil_intCast, Rat.floor_intCast, ite_self]

/-! ### Texts of numbers -/

/-- ASCII bytes as code units. -/
def ofAscii (bytes : CppString) : JsString := bytes.map UInt8.toUInt16

lemma ofAscii_toStr_ne_nil (n : ℤ) : ofAscii (toStr n) ≠ [] := by
  simp [ofAscii, toStr_ne_nil]

lemma isSpace_toUInt16 {b : UInt8} (h : b = 45 ∨ DdzServer.isDigit b = true) :
    isSpace b.toUInt16 = false := by
  have hall : ∀ n < 256, UInt8.ofNat n = 45 ∨ DdzServer.isDigit (UInt8.ofNat n) = true →
      isSpace (UInt8.ofNat n).toUInt16 = false := by decide +kernel
  have hb := hall b.toNat (UInt8.toNat_lt b)
  rw [UInt8.ofNat_toNat] at hb
  exact hb h

lemma dropWhile_isSpace {text : JsString} (h : ∀ u ∈ text, isSpace u = false) :
    text.dropWhile isSpace = text := by
  cases text with
  | nil => rfl
  | cons u text => rw [List.dropWhile_cons, h u List.mem_cons_self, if_neg Bool.false_ne_true]

/-- Digits and a sign have nothing to leave out. -/
lemma trim_ofAscii {bytes : CppString} (h : ∀ b ∈ bytes, b = 45 ∨ DdzServer.isDigit b = true) :
    trim (ofAscii bytes) = ofAscii bytes := by
  have hclean : ∀ u ∈ ofAscii bytes, isSpace u = false := by
    intro u hu
    obtain ⟨b, hb, rfl⟩ := List.mem_map.mp hu
    exact isSpace_toUInt16 (h b hb)
  have hreverse : ∀ u ∈ (ofAscii bytes).reverse, isSpace u = false := fun u hu =>
    hclean u (List.mem_reverse.mp hu)
  rw [trim, dropWhile_isSpace hclean, dropWhile_isSpace hreverse, List.reverse_reverse]

/-- A base is announced by a letter. -/
lemma radixLiteral_ofAscii {bytes : CppString}
    (h : ∀ b ∈ bytes, b = 45 ∨ DdzServer.isDigit b = true) :
    radixLiteral (ofAscii bytes) = none := by
  unfold radixLiteral
  split
  next u digits heq =>
    obtain ⟨b, rest, rfl, -, hrest⟩ := List.map_eq_cons_iff.mp heq
    obtain ⟨c, rest', rfl, rfl, -⟩ := List.map_eq_cons_iff.mp hrest
    have hlt : c.toUInt16.toNat < 58 := by
      rw [UInt8.toNat_toUInt16]
      rcases h c (List.mem_cons_of_mem _ List.mem_cons_self) with rfl | hdigit
      · decide
      · have hbounds := digit_bounds hdigit
        omega
    have hne : ∀ v : UInt16, 58 ≤ v.toNat → c.toUInt16 ≠ v := by
      rintro v hv rfl
      omega
    rw [if_neg, if_neg, if_neg]
    all_goals
      rintro (hletter | hletter)
      all_goals exact hne _ (by decide) hletter
  next => rfl

/-- Digits alone are a literal. -/
lemma decimalLiteral_digits {sign ds : CppString} (hsign : sign = [] ∨ sign = [45]) (hne : ds ≠ [])
    (hdigits : ∀ b ∈ ds, DdzServer.isDigit b = true) :
    decimalLiteral (ofAscii (sign ++ ds)) =
      some (if sign = [] then (DdzServer.ofDecimal ds : ℚ) else -(DdzServer.ofDecimal ds : ℚ)) := by
  have hall : ∀ u ∈ ofAscii ds, Json.isDigit u = true := by
    intro u hu
    obtain ⟨b, hb, rfl⟩ := List.mem_map.mp hu
    rw [ObjectText.isDigit_toUInt16]
    exact hdigits b hb
  have htake : (ofAscii ds).takeWhile Json.isDigit = ofAscii ds :=
    List.takeWhile_eq_self_iff.mpr hall
  have hdrop : (ofAscii ds).dropWhile Json.isDigit = [] :=
    List.dropWhile_eq_nil_iff.mpr hall
  have hexponent : parseExponent [] = some (0, []) := rfl
  have hsplit : ∀ text : JsString,
      (if text.head? = some 43 ∨ text.head? = some 45 then text.tail else text) =
        ofAscii ds →
      decimalLiteral text = some
        (if text.head? = some 45 then -(DdzServer.ofDecimal ds : ℚ)
          else (DdzServer.ofDecimal ds : ℚ)) := by
    intro text hbody
    simp only [decimalLiteral, hbody, htake, hdrop]
    simp [hexponent, ofAscii, hne, ObjectText.ofDecimal_toUInt16]
  rcases hsign with rfl | rfl
  · obtain ⟨b, rest, rfl⟩ := List.exists_cons_of_ne_nil hne
    have hb := digit_bounds (hdigits b List.mem_cons_self)
    have hhead : ∀ u : UInt16, u.toNat < 48 →
        (ofAscii (b :: rest)).head? ≠ some u := by
      intro u hu heq
      rw [ofAscii, List.map_cons, List.head?_cons, Option.some.injEq] at heq
      rw [← heq, UInt8.toNat_toUInt16] at hu
      omega
    have hplus := hhead 43 (by decide)
    have hminus := hhead 45 (by decide)
    rw [List.nil_append, hsplit _ (if_neg (not_or.mpr ⟨hplus, hminus⟩)), if_neg hminus, if_pos rfl]
  · rw [hsplit _ (if_pos (Or.inr rfl)), if_neg (List.cons_ne_nil _ _)]
    exact congrArg some (if_pos rfl)

/-- A text of digits is the rounded number that they denote. -/
lemma toNumber_digits {ds : CppString} (hne : ds ≠ [])
    (hdigits : ∀ b ∈ ds, DdzServer.isDigit b = true) :
    toNumber (ofAscii ds) =
      if Double.IsFinite (DdzServer.ofDecimal ds) then some (Double.round (DdzServer.ofDecimal ds))
      else none := by
  have hread := decimalLiteral_digits (Or.inl rfl) hne hdigits
  rw [List.nil_append, if_pos rfl] at hread
  have hall : ∀ b ∈ ds, b = 45 ∨ DdzServer.isDigit b = true := fun b hb => Or.inr (hdigits b hb)
  have htext : ofAscii ds ≠ [] := by simpa [ofAscii] using hne
  rw [toNumber, trim_ofAscii hall, if_neg htext, radixLiteral_ofAscii hall]
  dsimp only
  rw [hread, Option.bind_some]

/-- Up to `2 ^ 53` a number is read back from its text. -/
theorem toNumber_toStr {n : ℤ} (h : |n| ≤ 2 ^ 53) :
    toNumber (ofAscii (toStr n)) = some (n : ℚ) := by
  have hliteral : decimalLiteral (ofAscii (toStr n)) = some (n : ℚ) := by
    have hdigits : ∀ b ∈ decimal n.natAbs, DdzServer.isDigit b = true :=
      fun _ => isDigit_of_mem_decimal
    have hcast : ((n.natAbs : ℕ) : ℚ) = ((n.natAbs : ℤ) : ℚ) := (Int.cast_natCast _).symm
    by_cases hneg : n < 0
    · have hvalue : (n.natAbs : ℤ) = -n := by omega
      have hread := decimalLiteral_digits (Or.inr rfl) (decimal_ne_nil n.natAbs) hdigits
      rw [ofDecimal_decimal, if_neg (List.cons_ne_nil _ _), hcast, hvalue, Int.cast_neg,
        neg_neg] at hread
      rw [toStr, if_pos hneg]
      exact hread
    · have hvalue : (n.natAbs : ℤ) = n := by omega
      have hread := decimalLiteral_digits (Or.inl rfl) (decimal_ne_nil n.natAbs) hdigits
      rw [List.nil_append, ofDecimal_decimal, if_pos rfl, hcast, hvalue] at hread
      rw [toStr, if_neg hneg, hread]
  have hall : ∀ b ∈ toStr n, b = 45 ∨ DdzServer.isDigit b = true := fun _ => mem_toStr
  rw [toNumber, trim_ofAscii hall, if_neg (ofAscii_toStr_ne_nil n), radixLiteral_ofAscii hall]
  dsimp only
  rw [hliteral, Option.bind_some, if_pos (Double.isFinite_intCast h), Double.round_intCast h]

end JsString

end DdzServer
