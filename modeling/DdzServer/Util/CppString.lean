import Mathlib.Data.Nat.Digits.Defs
import Mathlib.Tactic.Common

/-!
# Byte strings

`std::string` is a list of bytes. This file has the literals and the conversions between numbers
and decimal text that the server takes from the C++ standard library.
-/

namespace DdzServer

/-- `std::string`: any sequence of bytes. -/
abbrev CppString := List UInt8

/-- A string literal of the source; all of them are ASCII. -/
def str (s : String) : CppString := s.toList.map fun c => UInt8.ofNat c.toNat

/-- The decimal digits of a natural number, most significant first. -/
def decimal (n : ℕ) : CppString :=
  if n = 0 then str "0" else (Nat.digits 10 n).reverse.map fun d => UInt8.ofNat (48 + d)

/-- `std::to_string` of an integer. -/
def toStr (n : ℤ) : CppString :=
  if n < 0 then str "-" ++ decimal n.natAbs else decimal n.natAbs

/-- `isspace` in the C locale. -/
def isSpace (b : UInt8) : Bool := b == 32 || (9 ≤ b && b ≤ 13)

/-- `isdigit` in the C locale. -/
def isDigit (b : UInt8) : Bool := 48 ≤ b && b ≤ 57

/-- The number that decimal digits denote. -/
def ofDecimal (ds : CppString) : ℕ := ds.foldl (fun n d => 10 * n + (d.toNat - 48)) 0

/-- The integer a text starts with, and how many bytes of the text were read: leading white space,
a sign and digits. `none` where the standard function throws, that is when there is no digit or the
value lies outside `lo..hi`. -/
def parseInteger (lo hi : ℤ) (s : CppString) : Option (ℤ × ℕ) :=
  let rest := s.dropWhile isSpace
  let spaces := s.length - rest.length
  let (neg, body) : Bool × CppString :=
    match rest with
    | 45 :: r => (true, r)
    | 43 :: r => (false, r)
    | r       => (false, r)
  let digits := body.takeWhile isDigit
  let value : ℤ := if neg then -(ofDecimal digits : ℤ) else ofDecimal digits
  if digits = [] ∨ value < lo ∨ hi < value then
    none
  else
    some (value, spaces + (rest.length - body.length) + digits.length)

/-- `std::stoll`. -/
def stoll : CppString → Option (ℤ × ℕ) := parseInteger (-(2 ^ 63)) (2 ^ 63 - 1)

/-- `std::stoi`. -/
def stoi : CppString → Option (ℤ × ℕ) := parseInteger (-(2 ^ 31)) (2 ^ 31 - 1)

/-- `static_cast<int32_t>` of a 64-bit number. -/
def toInt32 (v : ℤ) : ℤ := v.bmod (2 ^ 32)

/-- `ParseI64Strict`: the whole text has to be read. -/
def parseI64Strict (text : CppString) : Option ℤ :=
  match stoll text with
  | some (v, idx) => if idx = text.length then some v else none
  | none          => none

/-- Numbers joined by commas, as in `JoinNumberList`. -/
def joinNumberList (values : List ℤ) : CppString :=
  List.intercalate (str ",") (values.map toStr)

end DdzServer
