import DdzServer.Client.JsString

/-!
# JSON in the browser

`JSON.stringify` for flat objects of strings and numbers, and `JSON.parse`, as ECMAScript defines
them on code units. A number is known by its value where that is a safe integer, so that no
rounding is involved.
-/

namespace DdzServer

/-- A number of the browser: a safe integer, or any other number. -/
inductive JsNumber where
  | integer (n : ℤ)
  | other
deriving DecidableEq

/-- `Number.isSafeInteger`. -/
def IsSafeInteger (n : ℤ) : Prop := -(2 ^ 53 - 1) ≤ n ∧ n ≤ 2 ^ 53 - 1

instance (n : ℤ) : Decidable (IsSafeInteger n) := inferInstanceAs (Decidable (_ ∧ _))

inductive JsValue where
  | null
  | bool (b : Bool)
  | number (n : JsNumber)
  | string (s : JsString)
  | array (items : List JsValue)
  | object (members : List (JsString × JsValue))

namespace Json

open JsString

/-- A string literal of the source; all of them are ASCII. -/
def jsStr (s : String) : JsString := ofText s.toList

/-! ### Writing -/

/-- The escapes of two code units. -/
def shortEscape : UInt16 → Option UInt16
  | 8  => some 98
  | 9  => some 116
  | 10 => some 110
  | 12 => some 102
  | 13 => some 114
  | 34 => some 34
  | 92 => some 92
  | _  => none

def hexDigit (n : ℕ) : UInt16 := UInt16.ofNat (if n < 10 then 48 + n else 87 + n)

/-- The escape of six code units. -/
def unicodeEscape (u : UInt16) : JsString :=
  [92, 117, hexDigit (u.toNat / 4096), hexDigit (u.toNat / 256 % 16), hexDigit (u.toNat / 16 % 16),
   hexDigit (u.toNat % 16)]

/-- What a code unit that is not part of a pair is written as. -/
def quoteUnit (u : UInt16) : JsString :=
  match shortEscape u with
  | some esc => [92, esc]
  | none     => if u < 32 || isHigh u || isLow u then unicodeEscape u else [u]

def quoteUnits : JsString → JsString
  | []             => []
  | [u]            => quoteUnit u
  | u :: l :: rest =>
    if isHigh u && isLow l then u :: l :: quoteUnits rest
    else quoteUnit u ++ quoteUnits (l :: rest)

/-- `QuoteJSONString`. -/
def quote (s : JsString) : JsString := 34 :: (quoteUnits s ++ [34])

/-- A property value that is written: a string, or a number that is a safe integer. -/
inductive Scalar where
  | number (n : ℤ)
  | string (s : JsString)

def stringifyScalar : Scalar → JsString
  | .number n => (toStr n).map UInt8.toUInt16
  | .string s => quote s

/-- `JSON.stringify` of an object with these properties, undefined ones left out. -/
def stringifyObject (members : List (JsString × Scalar)) : JsString :=
  jsStr "\x7b" ++ List.intercalate (jsStr ",")
    (members.map fun m => quote m.1 ++ jsStr ":" ++ stringifyScalar m.2) ++ jsStr "\x7d"

/-! ### Reading -/

def isWs (u : UInt16) : Bool := u == 32 || u == 9 || u == 10 || u == 13

def skipWs (text : JsString) : JsString := text.dropWhile isWs

def isDigit (u : UInt16) : Bool := 48 ≤ u && u ≤ 57

/-- The number that decimal digits denote. -/
def ofDecimal (ds : JsString) : ℕ := ds.foldl (fun n d => 10 * n + (d.toNat - 48)) 0

/-- The number that a hexadecimal digit denotes. -/
def hexValue (u : UInt16) : Option ℕ :=
  if 48 ≤ u ∧ u ≤ 57 then some (u.toNat - 48)
  else if 97 ≤ u ∧ u ≤ 102 then some (u.toNat - 87)
  else if 65 ≤ u ∧ u ≤ 70 then some (u.toNat - 55)
  else none

def unescape : UInt16 → Option UInt16
  | 34  => some 34
  | 92  => some 92
  | 47  => some 47
  | 98  => some 8
  | 102 => some 12
  | 110 => some 10
  | 114 => some 13
  | 116 => some 9
  | _   => none

/-- A string behind its opening quote, and the text after it. -/
def parseStringTail : JsString → Option (JsString × JsString)
  | []                      => none
  | 92 :: 117 :: a :: b :: c :: d :: text =>
    match hexValue a, hexValue b, hexValue c, hexValue d with
    | some a, some b, some c, some d =>
      (parseStringTail text).map fun r =>
        (UInt16.ofNat (((a * 16 + b) * 16 + c) * 16 + d) :: r.1, r.2)
    | _, _, _, _ => none
  | 92 :: esc :: text =>
    match unescape esc with
    | some u => (parseStringTail text).map fun r => (u :: r.1, r.2)
    | none   => none
  | u :: text =>
    if u = 34 then some ([], text)
    else if u < 32 ∨ u = 92 then none
    else (parseStringTail text).map fun r => (u :: r.1, r.2)

/-- A safe integer is known by its value. -/
def ofInt (n : ℤ) : JsNumber := if IsSafeInteger n then .integer n else .other

/-- The number `± mantissa * 10 ^ exponent`. -/
def ofParts (neg : Bool) (mantissa : ℕ) (exponent : ℤ) : JsNumber :=
  let m : ℤ := if neg then -mantissa else mantissa
  if 0 ≤ exponent then ofInt (m * 10 ^ exponent.toNat)
  else if m % 10 ^ (-exponent).toNat = 0 then ofInt (m / 10 ^ (-exponent).toNat)
  else .other

/-- The digits at the front of a text, at least one, and the text after them. -/
def parseDigits (text : JsString) : Option (JsString × JsString) :=
  if text.takeWhile isDigit = [] then none
  else some (text.takeWhile isDigit, text.dropWhile isDigit)

def parseFraction (text : JsString) : Option (JsString × JsString) :=
  if text.head? = some 46 then parseDigits text.tail else some ([], text)

def parseExponent (text : JsString) : Option (ℤ × JsString) :=
  if text.head? = some 101 ∨ text.head? = some 69 then
    let sign := text.tail.head?
    (parseDigits (if sign = some 43 ∨ sign = some 45 then text.tail.tail else text.tail)).map
      fun r => (if sign = some 45 then -(ofDecimal r.1 : ℤ) else ofDecimal r.1, r.2)
  else some (0, text)

def parseNumber (text : JsString) : Option (JsNumber × JsString) := do
  let neg := text.head? = some 45
  let (whole, text) ← parseDigits (if neg then text.tail else text)
  -- no digit may follow a leading zero
  if whole.head? = some 48 ∧ whole.length ≠ 1 then none
  let (fraction, text) ← parseFraction text
  let (exponent, text) ← parseExponent text
  return (ofParts neg (ofDecimal (whole ++ fraction)) (exponent - fraction.length), text)

/-- Items between commas, up to the closing code unit; there are at most `fuel`. -/
def parseItems {α : Type} (item : JsString → Option (α × JsString)) (close : UInt16) :
    ℕ → JsString → Option (List α × JsString)
  | 0, _           => none
  | fuel + 1, text => do
    let (a, text) ← item text
    if (skipWs text).head? = some close then some ([a], (skipWs text).tail)
    else if (skipWs text).head? = some 44 then
      let (as, text) ← parseItems item close fuel (skipWs text).tail
      some (a :: as, text)
    else none

def parseMember {α : Type} (value : JsString → Option (α × JsString)) (text : JsString) :
    Option ((JsString × α) × JsString) := do
  if (skipWs text).head? = some 34 then
    let (key, text) ← parseStringTail (skipWs text).tail
    if (skipWs text).head? = some 58 then
      let (v, text) ← value (skipWs text).tail
      some ((key, v), text)
    else none
  else none

/-- One of the names `true`, `false` and `null`. -/
def parseName (name : JsString) (v : JsValue) (text : JsString) : Option (JsValue × JsString) :=
  if text.take name.length = name then some (v, text.drop name.length) else none

/-- A value and the text after it. Each level of nesting takes a code unit, so `fuel` is enough when
the text is no longer than it. -/
def parseValue : ℕ → JsString → Option (JsValue × JsString)
  | 0, _           => none
  | fuel + 1, text =>
    let text := skipWs text
    match text.head? with
    | none => none
    | some 123 =>
      if (skipWs text.tail).head? = some 125 then some (.object [], (skipWs text.tail).tail)
      else
        (parseItems (parseMember (parseValue fuel)) 125 text.length text.tail).map fun r =>
          (.object r.1, r.2)
    | some 91 =>
      if (skipWs text.tail).head? = some 93 then some (.array [], (skipWs text.tail).tail)
      else
        (parseItems (parseValue fuel) 93 text.length text.tail).map fun r => (.array r.1, r.2)
    | some 34  => (parseStringTail text.tail).map fun r => (.string r.1, r.2)
    | some 116 => parseName (jsStr "true") (.bool true) text
    | some 102 => parseName (jsStr "false") (.bool false) text
    | some 110 => parseName (jsStr "null") .null text
    | some _   => (parseNumber text).map fun r => (.number r.1, r.2)

/-- `JSON.parse`; `none` where it throws. -/
def parse (text : JsString) : Option JsValue :=
  match parseValue text.length text with
  | some (v, rest) => if skipWs rest = [] then some v else none
  | none           => none

end Json

end DdzServer
