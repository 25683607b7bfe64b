import DdzServer.Client.Envelope

/-!
# The escapes of a string

Gateway and browser write a string in the same way, but for a control character without an escape
of two characters: the browser writes it as `\u` and its number, the gateway as it is. The browser
reads only strings without such a character.
-/

namespace DdzServer

namespace ObjectText

open JsString Json

/-- The control characters that have no escape of two characters. -/
def IsRareControl (c : Char) : Prop := c.toNat < 32 ∧ c.toNat ∉ [8, 9, 10, 12, 13]

instance (c : Char) : Decidable (IsRareControl c) := inferInstanceAs (Decidable (_ ∧ _))

/-- The second character of an escape of two characters. -/
def escapeLetter (c : Char) : Option Char :=
  match c.toNat with
  | 8  => some 'b'
  | 9  => some 't'
  | 10 => some 'n'
  | 12 => some 'f'
  | 13 => some 'r'
  | 34 => some '"'
  | 92 => some '\\'
  | _  => none

/-- What the gateway writes for a character. -/
def gatewayEscape (c : Char) : List Char :=
  match escapeLetter c with
  | some letter => ['\\', letter]
  | none        => [c]

def hexChar (n : ℕ) : Char := Char.ofNat (if n < 10 then 48 + n else 87 + n)

/-- What the browser writes for a character. -/
def browserEscape (c : Char) : List Char :=
  if IsRareControl c then ['\\', 'u', '0', '0', hexChar (c.toNat / 16), hexChar (c.toNat % 16)]
  else gatewayEscape c

lemma escapeLetter_of_le {c : Char} (h : 128 ≤ c.toNat) : escapeLetter c = none := by
  unfold escapeLetter
  split
  all_goals first | omega | rfl

lemma not_isRareControl_of_le {c : Char} (h : 128 ≤ c.toNat) : ¬ IsRareControl c :=
  fun hc => absurd hc.1 (by omega)

lemma gatewayEscape_of_le {c : Char} (h : 128 ≤ c.toNat) : gatewayEscape c = [c] := by
  rw [gatewayEscape, escapeLetter_of_le h]

lemma browserEscape_of_not_rare {c : Char} (h : ¬ IsRareControl c) :
    browserEscape c = gatewayEscape c := if_neg h

/-- A property of the characters below 128 is a property of their numbers. -/
lemma char_of_lt {P : Char → Prop} {k : ℕ} (h : ∀ n < k, P (Char.ofNat n)) {c : Char}
    (hc : c.toNat < k) : P c := by
  have h := h c.toNat hc
  rwa [Char.ofNat_toNat] at h

/-! ### The browser writes -/

lemma quoteUnits_cons_of_not_high {u : UInt16} (h : isHigh u = false) (rest : JsString) :
    quoteUnits (u :: rest) = quoteUnit u ++ quoteUnits rest := by
  cases rest with
  | nil => exact (List.append_nil _).symm
  | cons l rest => rw [quoteUnits, h, Bool.false_and, if_neg Bool.false_ne_true]

/-- A code unit of the characters below 128. -/
lemma quoteUnit_of_lt {c : Char} (h : c.toNat < 128) :
    ofChar c = [UInt16.ofNat c.toNat] ∧
      quoteUnit (UInt16.ofNat c.toNat) = ofText (browserEscape c) := by
  refine char_of_lt (P := fun c => ofChar c = [UInt16.ofNat c.toNat] ∧
    quoteUnit (UInt16.ofNat c.toNat) = ofText (browserEscape c)) (k := 128) ?_ h
  decide +kernel

lemma shortEscape_of_le {u : UInt16} (h : 128 ≤ u.toNat) : shortEscape u = none := by
  unfold shortEscape
  split
  all_goals first | rfl | simp at h

/-- A text is written with the escapes of its characters. -/
lemma quoteUnits_ofText (s : List Char) :
    quoteUnits (ofText s) = ofText (s.flatMap browserEscape) := by
  induction s with
  | nil => rfl
  | cons c s ih =>
    have hcons : ofText (c :: s) = ofChar c ++ ofText s := rfl
    have hright : ofText ((c :: s).flatMap browserEscape) =
        ofText (browserEscape c) ++ ofText (s.flatMap browserEscape) := by
      simp [ofText]
    rw [hcons, hright, ← ih]
    by_cases hlt : c.toNat < 128
    · obtain ⟨hchar, hquote⟩ := quoteUnit_of_lt hlt
      have hhigh : isHigh (UInt16.ofNat c.toNat) = false :=
        char_of_lt (P := fun c => isHigh (UInt16.ofNat c.toNat) = false) (k := 128)
          (by decide +kernel) hlt
      rw [hchar, List.cons_append, List.nil_append, quoteUnits_cons_of_not_high hhigh, hquote]
    · rw [Nat.not_lt] at hlt
      rw [browserEscape_of_not_rare (not_isRareControl_of_le hlt), gatewayEscape_of_le hlt]
      have hsingle : ofText [c] = ofChar c := List.append_nil _
      rw [hsingle]
      rcases ofChar_cases c with ⟨u, hu, hnat, hhigh, hlow⟩ | ⟨u, l, hu, -, hhigh, hlow, -⟩
      · have hnot : ¬ u < 32 := by
          rw [UInt16.lt_iff_toNat_lt, hnat]
          simp only [UInt16.reduceToNat]
          omega
        rw [hu, List.cons_append, List.nil_append, quoteUnits_cons_of_not_high hhigh, quoteUnit,
          shortEscape_of_le (hnat ▸ hlt)]
        simp [hnot, hhigh, hlow]
      · rw [hu, List.cons_append, List.cons_append, List.nil_append, quoteUnits, hhigh, hlow,
          Bool.and_self, if_pos rfl]
        rfl

/-! ### The browser reads -/

lemma parseStringTail_quote (rest : JsString) : parseStringTail (34 :: rest) = some ([], rest) := by
  simp [parseStringTail]

lemma parseStringTail_escape {esc u : UInt16} (hesc : esc ≠ 117) (h : unescape esc = some u)
    (rest : JsString) :
    parseStringTail (92 :: esc :: rest) = (parseStringTail rest).map fun r => (u :: r.1, r.2) := by
  rw [parseStringTail]
  · simp only [h]
  · rintro a b c d text heq -
    exact absurd heq hesc

lemma parseStringTail_plain {u : UInt16} (hquote : u ≠ 34) (hbackslash : u ≠ 92) (hle : ¬ u < 32)
    (rest : JsString) :
    parseStringTail (u :: rest) = (parseStringTail rest).map fun r => (u :: r.1, r.2) := by
  rw [parseStringTail]
  · rw [if_neg hquote, if_neg (by simp [hbackslash, hle])]
  · rintro a b c d text heq -
    exact absurd heq hbackslash
  · rintro esc text heq -
    exact absurd heq hbackslash

lemma parseStringTail_control {u : UInt16} (hlt : u < 32) (rest : JsString) :
    parseStringTail (u :: rest) = none := by
  have hne : u ≠ 34 ∧ u ≠ 92 := by
    constructor
    · rintro rfl
      exact absurd hlt (by decide)
    · rintro rfl
      exact absurd hlt (by decide)
  rw [parseStringTail]
  · rw [if_neg hne.1, if_pos (Or.inl hlt)]
  · rintro a b c d text heq -
    exact absurd heq hne.2
  · rintro esc text heq -
    exact absurd heq hne.2

lemma parseStringTail_of_le {u : UInt16} (h : 128 ≤ u.toNat) (rest : JsString) :
    parseStringTail (u :: rest) = (parseStringTail rest).map fun r => (u :: r.1, r.2) := by
  refine parseStringTail_plain ?_ ?_ ?_ rest
  · rintro rfl
    exact absurd h (by decide)
  · rintro rfl
    exact absurd h (by decide)
  · rw [UInt16.lt_iff_toNat_lt]
    simp only [UInt16.reduceToNat]
    omega

/-- What the gateway writes for a character, given its escape letter, as the browser sees it. -/
def Written (c : Char) : Option Char → Prop
  | some letter =>
    ofText (gatewayEscape c) = [92, UInt16.ofNat letter.toNat] ∧
      UInt16.ofNat letter.toNat ≠ 117 ∧
      unescape (UInt16.ofNat letter.toNat) = some (UInt16.ofNat c.toNat) ∧ ¬ IsRareControl c
  | none =>
    ofText (gatewayEscape c) = [UInt16.ofNat c.toNat] ∧
      UInt16.ofNat c.toNat ≠ 34 ∧ UInt16.ofNat c.toNat ≠ 92 ∧
      (UInt16.ofNat c.toNat < 32 ↔ IsRareControl c)

instance (c : Char) (letter : Option Char) : Decidable (Written c letter) :=
  match letter with
  | some _ => inferInstanceAs (Decidable (_ ∧ _))
  | none   => inferInstanceAs (Decidable (_ ∧ _))

lemma written_of_lt {c : Char} (h : c.toNat < 128) : Written c (escapeLetter c) := by
  refine char_of_lt (P := fun c => Written c (escapeLetter c)) (k := 128) ?_ h
  decide +kernel

/-- The browser reads a character as itself, unless it is a rare control character. -/
lemma parseStringTail_gatewayEscape (c : Char) (rest : JsString) :
    parseStringTail (ofText (gatewayEscape c) ++ rest) =
      if IsRareControl c then none
      else (parseStringTail rest).map fun r => (ofChar c ++ r.1, r.2) := by
  by_cases hlt : c.toNat < 128
  · have hwritten := written_of_lt hlt
    rw [(quoteUnit_of_lt hlt).1]
    cases hesc : escapeLetter c with
    | some letter =>
      rw [hesc] at hwritten
      obtain ⟨htext, hu, hun, hrare⟩ := hwritten
      rw [htext, if_neg hrare, List.cons_append, List.cons_append, List.nil_append,
        parseStringTail_escape hu hun]
      rfl
    | none =>
      rw [hesc] at hwritten
      obtain ⟨htext, hquote, hbackslash, hcontrol⟩ := hwritten
      rw [htext, List.cons_append, List.nil_append]
      split_ifs with hrare
      · exact parseStringTail_control (hcontrol.mpr hrare) rest
      · exact parseStringTail_plain hquote hbackslash (hcontrol.not.mpr hrare) rest
  · rw [Nat.not_lt] at hlt
    rw [gatewayEscape_of_le hlt, if_neg (not_isRareControl_of_le hlt),
      show ofText [c] = ofChar c from List.append_nil _]
    rcases ofChar_cases c with ⟨u, hu, hnat, -, -⟩ | ⟨u, l, hu, -, hhigh, hlow, -⟩
    · rw [hu, List.cons_append, List.nil_append, parseStringTail_of_le (hnat ▸ hlt)]
      rfl
    · simp only [isHigh, isLow, Bool.and_eq_true, decide_eq_true_eq, UInt16.le_iff_toNat_le,
        UInt16.reduceToNat] at hhigh hlow
      rw [hu, List.cons_append, List.cons_append, List.nil_append,
        parseStringTail_of_le (by omega), parseStringTail_of_le (by omega), Option.map_map]
      rfl

/-- The strings without a rare control character. -/
def Clean (s : List Char) : Prop := ∀ c ∈ s, ¬ IsRareControl c

instance (s : List Char) : Decidable (Clean s) := List.decidableBAll _ s

lemma clean_cons {c : Char} {s : List Char} : Clean (c :: s) ↔ ¬ IsRareControl c ∧ Clean s :=
  List.forall_mem_cons

/-- The browser reads what the gateway writes for a text if it is clean. -/
lemma parseStringTail_text (s : List Char) (rest : JsString) :
    parseStringTail (ofText (s.flatMap gatewayEscape) ++ 34 :: rest) =
      if Clean s then some (ofText s, rest) else none := by
  induction s with
  | nil => exact parseStringTail_quote rest
  | cons c s ih =>
    have htext : ofText ((c :: s).flatMap gatewayEscape) =
        ofText (gatewayEscape c) ++ ofText (s.flatMap gatewayEscape) := by
      simp [ofText]
    rw [htext, List.append_assoc, parseStringTail_gatewayEscape, ih]
    simp only [clean_cons]
    by_cases hc : IsRareControl c
    · simp [hc]
    · by_cases hs : Clean s
      · simp [hc, hs, ofText]
      · simp [hc, hs]

end ObjectText

end DdzServer
