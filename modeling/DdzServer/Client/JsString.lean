import DdzServer.Util.CppString
import Mathlib.Tactic.Linarith

/-!
# Strings of the browser

A string of the browser is a sequence of 16-bit code units. A WebSocket sends it as UTF-8, with a
replacement character for each half of a pair that stands alone, and takes from the wire only what
is UTF-8.
-/

namespace DdzServer

abbrev JsString := List UInt16

namespace JsString

/-- The first half of a pair of code units. -/
def isHigh (u : UInt16) : Bool := 0xD800 ≤ u && u ≤ 0xDBFF

/-- The second half of a pair of code units. -/
def isLow (u : UInt16) : Bool := 0xDC00 ≤ u && u ≤ 0xDFFF

/-- The code units of a character. -/
def ofChar (c : Char) : JsString :=
  if c.toNat < 0x10000 then [UInt16.ofNat c.toNat]
  else
    [UInt16.ofNat (0xD800 + (c.toNat - 0x10000) / 0x400),
     UInt16.ofNat (0xDC00 + (c.toNat - 0x10000) % 0x400)]

/-- The code units of a text. -/
def ofText (text : List Char) : JsString := text.flatMap ofChar

/-- The character of a pair of code units. -/
def pairChar (high low : UInt16) : Char :=
  Char.ofNat (0x10000 + (high.toNat - 0xD800) * 0x400 + (low.toNat - 0xDC00))

/-- The character of a code unit that is not part of a pair. -/
def singleChar (u : UInt16) : Char :=
  if isHigh u || isLow u then '\uFFFD' else Char.ofNat u.toNat

/-- The text of code units, as it is sent. -/
def toText : JsString → List Char
  | []             => []
  | [u]            => [singleChar u]
  | u :: l :: rest =>
    if isHigh u && isLow l then pairChar u l :: toText rest
    else singleChar u :: toText (l :: rest)

/-! ### Characters as code units -/

/-- A character is one code unit that is no half of a pair, or a pair. -/
lemma ofChar_cases (c : Char) :
    (∃ u, ofChar c = [u] ∧ u.toNat = c.toNat ∧ isHigh u = false ∧ isLow u = false) ∨
      ∃ u l, ofChar c = [u, l] ∧ 0x10000 ≤ c.toNat ∧ isHigh u = true ∧ isLow l = true ∧
        pairChar u l = c := by
  have hvalid : c.toNat < 0xD800 ∨ 0xDFFF < c.toNat ∧ c.toNat < 0x110000 := c.valid
  unfold ofChar
  split_ifs with hlt
  · refine Or.inl ⟨_, rfl, ?_⟩
    have hnat : (UInt16.ofNat c.toNat).toNat = c.toNat := UInt16.toNat_ofNat_of_lt' hlt
    refine ⟨hnat, ?_, ?_⟩
    · simp only [isHigh, Bool.and_eq_false_iff, decide_eq_false_iff_not, UInt16.le_iff_toNat_le,
        hnat]
      simp only [UInt16.reduceToNat]
      omega
    · simp only [isLow, Bool.and_eq_false_iff, decide_eq_false_iff_not, UInt16.le_iff_toNat_le,
        hnat]
      simp only [UInt16.reduceToNat]
      omega
  · have hhigh : (UInt16.ofNat (0xD800 + (c.toNat - 0x10000) / 0x400)).toNat =
        0xD800 + (c.toNat - 0x10000) / 0x400 := UInt16.toNat_ofNat_of_lt' (by
      change _ < 65536
      omega)
    have hlow : (UInt16.ofNat (0xDC00 + (c.toNat - 0x10000) % 0x400)).toNat =
        0xDC00 + (c.toNat - 0x10000) % 0x400 := UInt16.toNat_ofNat_of_lt' (by
      change _ < 65536
      omega)
    refine Or.inr ⟨_, _, rfl, by omega, ?_, ?_, ?_⟩
    · simp only [isHigh, Bool.and_eq_true, decide_eq_true_eq, UInt16.le_iff_toNat_le, hhigh]
      simp only [UInt16.reduceToNat]
      omega
    · simp only [isLow, Bool.and_eq_true, decide_eq_true_eq, UInt16.le_iff_toNat_le, hlow]
      simp only [UInt16.reduceToNat]
      omega
    · have hvalue : 0x10000 + (0xD800 + (c.toNat - 0x10000) / 0x400 - 0xD800) * 0x400 +
          (0xDC00 + (c.toNat - 0x10000) % 0x400 - 0xDC00) = c.toNat := by omega
      rw [pairChar, hhigh, hlow, hvalue]
      exact Char.ofNat_toNat c

lemma toText_cons_of_not_high {u : UInt16} (h : isHigh u = false) (rest : JsString) :
    toText (u :: rest) = singleChar u :: toText rest := by
  cases rest with
  | nil => rfl
  | cons l rest => rw [toText, h, Bool.false_and, if_neg Bool.false_ne_true]

/-- A text is sent as it is. -/
lemma toText_ofText (text : List Char) : toText (ofText text) = text := by
  induction text with
  | nil => rfl
  | cons c text ih =>
    have hcons : ofText (c :: text) = ofChar c ++ ofText text := rfl
    rw [hcons]
    rcases ofChar_cases c with ⟨u, hu, hnat, hhigh, hlow⟩ | ⟨u, l, hu, -, hhigh, hlow, hpair⟩
    · rw [hu, List.cons_append, List.nil_append, toText_cons_of_not_high hhigh, ih, singleChar,
        hhigh, hlow, hnat, Bool.or_self, if_neg Bool.false_ne_true, Char.ofNat_toNat]
    · rw [hu, List.cons_append, List.cons_append, List.nil_append, toText, hhigh, hlow,
        Bool.and_self, if_pos rfl, hpair, ih]

end JsString

/-! ### On the wire -/

/-- The bytes of a text. -/
def utf8 (text : List Char) : CppString := text.flatMap String.utf8EncodeChar

/-- The text of bytes, if they are UTF-8. -/
def ofUtf8 (bytes : CppString) : Option (List Char) :=
  (ByteArray.utf8Decode? bytes.toByteArray).map Array.toList

lemma ofUtf8_utf8 (text : List Char) : ofUtf8 (utf8 text) = some text := by
  have h : (utf8 text).toByteArray = text.utf8Encode := rfl
  simp [ofUtf8, h]

/-- A character is one byte, its number, or only bytes from 128 on. -/
lemma utf8EncodeChar_cases (c : Char) :
    (c.toNat < 128 ∧ String.utf8EncodeChar c = [UInt8.ofNat c.toNat]) ∨
      (128 ≤ c.toNat ∧ ∀ b ∈ String.utf8EncodeChar c, 128 ≤ b.toNat) := by
  have hvalid : c.toNat < 0x110000 := by
    rcases c.valid with h | h
    · exact lt_trans h (by decide)
    · exact h.2
  have hval : c.val.toNat = c.toNat := rfl
  unfold String.utf8EncodeChar
  rw [hval]
  dsimp only
  split_ifs with h₁ h₂ h₃
  · exact Or.inl ⟨by omega, rfl⟩
  all_goals
    refine Or.inr ⟨by omega, ?_⟩
    simp only [List.mem_cons, List.not_mem_nil, or_false, forall_eq_or_imp, forall_eq,
      UInt8.toNat_ofNat']
    omega

end DdzServer
