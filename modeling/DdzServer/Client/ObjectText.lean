import DdzServer.Client.Escape
import DdzServer.Util.DecimalText

/-!
# The text of a flat object

Gateway and browser write the same text for an object, but for the escapes of strings. The browser
reads the text with the gateway's escapes if all strings are clean.
-/

namespace DdzServer

namespace ObjectText

open JsString Json

/-- The characters of ASCII bytes. -/
def asciiChars (bytes : CppString) : List Char := bytes.map fun b => Char.ofNat b.toNat

/-- A string of any characters, or a number. -/
inductive TextValue where
  | number (n : ℤ)
  | string (s : List Char)

/-- A member of a flat object, with a key that needs no escape. -/
structure TextMember where
  key : List Char
  value : TextValue
  key_clean : Clean key
  key_plain : key.flatMap gatewayEscape = key

section

variable (escape : Char → List Char)

def valueChars : TextValue → List Char
  | .number n => asciiChars (toStr n)
  | .string s => '"' :: (s.flatMap escape ++ ['"'])

def memberChars (m : TextMember) : List Char :=
  '"' :: (m.key ++ '"' :: ':' :: valueChars escape m.value)

/-- The text of an object, for either way to escape. -/
def objectChars (members : List TextMember) : List Char :=
  '\x7b' :: (List.intercalate [','] (members.map (memberChars escape)) ++ ['\x7d'])

end

/-- The strings of a value are clean. -/
def TextValue.Clean : TextValue → Prop
  | .number _ => True
  | .string s => ObjectText.Clean s

instance (v : TextValue) : Decidable v.Clean :=
  match v with
  | .number _ => inferInstanceAs (Decidable True)
  | .string s => inferInstanceAs (Decidable (ObjectText.Clean s))

def AllClean (members : List TextMember) : Prop := ∀ m ∈ members, m.value.Clean

instance (members : List TextMember) : Decidable (AllClean members) :=
  List.decidableBAll _ members

lemma allClean_cons {m : TextMember} {members : List TextMember} :
    AllClean (m :: members) ↔ m.value.Clean ∧ AllClean members := List.forall_mem_cons

/-- Clean characters have the same escapes on both sides. -/
lemma flatMap_browserEscape {s : List Char} (h : Clean s) :
    s.flatMap browserEscape = s.flatMap gatewayEscape := by
  induction s with
  | nil => rfl
  | cons c s ih =>
    obtain ⟨hc, hs⟩ := clean_cons.mp h
    rw [List.flatMap_cons, List.flatMap_cons, browserEscape_of_not_rare hc, ih hs]

lemma valueChars_browser {v : TextValue} (h : v.Clean) :
    valueChars browserEscape v = valueChars gatewayEscape v := by
  cases v with
  | number n => rfl
  | string s => rw [valueChars, valueChars, flatMap_browserEscape h]

lemma memberChars_browser {m : TextMember} (h : m.value.Clean) :
    memberChars browserEscape m = memberChars gatewayEscape m := by
  rw [memberChars, memberChars, valueChars_browser h]

lemma objectChars_browser {members : List TextMember} (h : AllClean members) :
    objectChars browserEscape members = objectChars gatewayEscape members := by
  have hmembers : members.map (memberChars browserEscape) =
      members.map (memberChars gatewayEscape) :=
    List.map_congr_left fun m hm => memberChars_browser (h m hm)
  rw [objectChars, objectChars, hmembers]

/-! ### The browser writes -/

lemma ofText_append (s t : List Char) : ofText (s ++ t) = ofText s ++ ofText t :=
  List.flatMap_append

lemma ofText_cons_of_lt {c : Char} (h : c.toNat < 128) (s : List Char) :
    ofText (c :: s) = UInt16.ofNat c.toNat :: ofText s := by
  have hcons : ofText (c :: s) = ofChar c ++ ofText s := rfl
  rw [hcons, (quoteUnit_of_lt h).1, List.singleton_append]

lemma toNat_ofNat_ascii {n : ℕ} (h : n < 128) : (Char.ofNat n).toNat = n := by
  have hall : ∀ n < 128, (Char.ofNat n).toNat = n := by decide +kernel
  exact hall n h

lemma ofText_asciiChars {bytes : CppString} (h : ∀ b ∈ bytes, b.toNat < 128) :
    ofText (asciiChars bytes) = bytes.map UInt8.toUInt16 := by
  induction bytes with
  | nil => rfl
  | cons b bytes ih =>
    obtain ⟨hb, hbytes⟩ := List.forall_mem_cons.mp h
    have hcons : asciiChars (b :: bytes) = Char.ofNat b.toNat :: asciiChars bytes := rfl
    have hunit : UInt16.ofNat b.toNat = b.toUInt16 := by
      apply UInt16.toNat_inj.mp
      simp
    have hnat := toNat_ofNat_ascii hb
    rw [hcons, ofText_cons_of_lt (by rwa [hnat]), hnat, hunit, ih hbytes, List.map_cons]

lemma toNat_lt_of_mem_toStr {n : ℤ} {b : UInt8} (h : b ∈ toStr n) : b.toNat < 128 := by
  rcases mem_toStr h with rfl | hdigit
  · decide
  · have hb := digit_bounds hdigit
    omega

lemma ofText_number (n : ℤ) : ofText (asciiChars (toStr n)) = (toStr n).map UInt8.toUInt16 :=
  ofText_asciiChars fun _ => toNat_lt_of_mem_toStr

def TextValue.scalar : TextValue → Scalar
  | .number n => .number n
  | .string s => .string (ofText s)

lemma quote_ofText (s : List Char) :
    quote (ofText s) = ofText ('"' :: (s.flatMap browserEscape ++ ['"'])) := by
  rw [quote, quoteUnits_ofText, ofText_cons_of_lt (by decide), ofText_append]
  rfl

lemma stringifyScalar_scalar (v : TextValue) :
    stringifyScalar v.scalar = ofText (valueChars browserEscape v) := by
  cases v with
  | number n => exact (ofText_number n).symm
  | string s => exact quote_ofText s

/-- Key, colon and value. -/
lemma ofText_memberChars (m : TextMember) :
    ofText (memberChars browserEscape m) =
      quote (ofText m.key) ++ jsStr ":" ++ stringifyScalar m.value.scalar := by
  rw [quote_ofText, flatMap_browserEscape m.key_clean, m.key_plain, stringifyScalar_scalar,
    memberChars, jsStr, ← ofText_append, ← ofText_append]
  simp

lemma ofText_intercalate (sep : List Char) (texts : List (List Char)) :
    ofText (List.intercalate sep texts) = List.intercalate (ofText sep) (texts.map ofText) := by
  induction texts with
  | nil => rfl
  | cons first texts ih =>
    cases texts with
    | nil => simp
    | cons next texts =>
      simp only [List.map_cons] at ih
      simp only [List.map_cons, List.intercalate_cons_cons, ofText_append, ih]

/-- The browser writes the text with its own escapes. -/
lemma stringifyObject_members (members : List TextMember) :
    stringifyObject (members.map fun m => (ofText m.key, m.value.scalar)) =
      ofText (objectChars browserEscape members) := by
  have hmembers : (members.map (memberChars browserEscape)).map ofText =
      members.map fun m =>
        quote (ofText m.key) ++ jsStr ":" ++ stringifyScalar m.value.scalar := by
    rw [List.map_map]
    exact List.map_congr_left fun m _ => ofText_memberChars m
  rw [objectChars, ← List.singleton_append, ofText_append, ofText_append, ofText_intercalate,
    hmembers, stringifyObject, List.map_map]
  simp [jsStr, Function.comp_def]

/-! ### The browser reads -/

/-- What follows a value in an object. -/
def Ends (rest : JsString) : Prop := rest.head? = some 44 ∨ rest.head? = some 125

lemma Ends.head {rest : JsString} (h : Ends rest) {u : UInt16} (hu : rest.head? = some u) :
    u = 44 ∨ u = 125 := by
  rw [Ends, hu] at h
  simpa using h

lemma isDigit_toUInt16 (b : UInt8) : Json.isDigit b.toUInt16 = DdzServer.isDigit b := by
  simp [Json.isDigit, DdzServer.isDigit, UInt16.le_iff_toNat_le, UInt8.le_iff_toNat_le]

lemma ofDecimal_toUInt16 (ds : CppString) :
    Json.ofDecimal (ds.map UInt8.toUInt16) = DdzServer.ofDecimal ds := by
  simp [Json.ofDecimal, DdzServer.ofDecimal, List.foldl_map]

/-- Digits are read up to the end of the value. -/
lemma parseDigits_append {ds : CppString} (hne : ds ≠ [])
    (hdigits : ∀ b ∈ ds, DdzServer.isDigit b = true) {rest : JsString} (hrest : Ends rest) :
    parseDigits (ds.map UInt8.toUInt16 ++ rest) = some (ds.map UInt8.toUInt16, rest) := by
  have hall : ∀ u ∈ ds.map UInt8.toUInt16, Json.isDigit u = true := by
    intro u hu
    obtain ⟨b, hb, rfl⟩ := List.mem_map.mp hu
    rw [isDigit_toUInt16]
    exact hdigits b hb
  have hstop : rest.takeWhile Json.isDigit = [] ∧ rest.dropWhile Json.isDigit = rest := by
    cases rest with
    | nil => exact ⟨rfl, rfl⟩
    | cons u rest =>
      have hu : Json.isDigit u = false := by
        rcases hrest.head List.head?_cons with rfl | rfl
        · rfl
        · rfl
      simp [hu]
  unfold parseDigits
  rw [List.takeWhile_append_of_pos hall, List.dropWhile_append_of_pos hall, hstop.1, hstop.2,
    List.append_nil, if_neg (by simpa using hne)]

/-- The text of a number is read as the number. -/
lemma parseNumber_toStr (n : ℤ) {rest : JsString} (hrest : Ends rest) :
    parseNumber ((toStr n).map UInt8.toUInt16 ++ rest) = some (ofInt n, rest) := by
  have hfraction : parseFraction rest = some ([], rest) := by
    refine if_neg fun h => ?_
    rcases hrest.head h with h | h
    · exact absurd h (by decide)
    · exact absurd h (by decide)
  have hexponent : parseExponent rest = some (0, rest) := by
    refine if_neg ?_
    rintro (h | h)
    · rcases hrest.head h with h | h
      · exact absurd h (by decide)
      · exact absurd h (by decide)
    · rcases hrest.head h with h | h
      · exact absurd h (by decide)
      · exact absurd h (by decide)
  have hdigits : parseDigits ((decimal n.natAbs).map UInt8.toUInt16 ++ rest) =
      some ((decimal n.natAbs).map UInt8.toUInt16, rest) :=
    parseDigits_append (decimal_ne_nil _) (fun _ => isDigit_of_mem_decimal) hrest
  have hzero : ¬ (((decimal n.natAbs).map UInt8.toUInt16).head? = some 48 ∧
      ((decimal n.natAbs).map UInt8.toUInt16).length ≠ 1) := by
    rintro ⟨hhead, hlength⟩
    rw [List.head?_map, Option.map_eq_some_iff] at hhead
    obtain ⟨b, hb, h48⟩ := hhead
    have hb48 : b = 48 := by
      apply UInt8.toNat_inj.mp
      rw [← UInt8.toNat_toUInt16, h48]
      rfl
    rw [List.length_map] at hlength
    exact hlength (head_decimal (hb48 ▸ hb))
  have hvalue : DdzServer.ofDecimal (decimal n.natAbs) = n.natAbs := ofDecimal_decimal _
  by_cases hneg : n < 0
  · have htext : (toStr n).map UInt8.toUInt16 ++ rest =
        45 :: ((decimal n.natAbs).map UInt8.toUInt16 ++ rest) := by
      rw [toStr, if_pos hneg]
      rfl
    have hparts : ofParts true n.natAbs 0 = ofInt n := by
      simp [ofParts, abs_of_neg hneg]
    simp only [htext, parseNumber, List.head?_cons, decide_true, if_true, List.tail_cons, hdigits,
      Option.bind_eq_bind, Option.bind_some, if_neg hzero, hfraction, hexponent, List.append_nil,
      ofDecimal_toUInt16, hvalue, List.length_nil, Nat.cast_zero, sub_zero, hparts]
    rfl
  · have hhead : ((decimal n.natAbs).map UInt8.toUInt16 ++ rest).head? ≠ some 45 := by
      obtain ⟨b, ds, hds⟩ := List.exists_cons_of_ne_nil (decimal_ne_nil n.natAbs)
      have hb := digit_bounds (isDigit_of_mem_decimal (hds ▸ List.mem_cons_self))
      rw [hds, List.map_cons, List.cons_append, List.head?_cons, ne_eq, Option.some.injEq]
      intro h45
      rw [← UInt8.toNat_toUInt16, h45] at hb
      exact absurd hb.1 (by decide)
    have htext : (toStr n).map UInt8.toUInt16 ++ rest =
        (decimal n.natAbs).map UInt8.toUInt16 ++ rest := by
      rw [toStr, if_neg hneg]
    have hparts : ofParts false n.natAbs 0 = ofInt n := by
      simp [ofParts, abs_of_nonneg (not_lt.mp hneg)]
    simp only [htext, parseNumber, hhead, decide_false, hdigits, if_false, Option.bind_eq_bind,
      Option.bind_some, if_neg hzero, hfraction, hexponent, List.append_nil,
      ofDecimal_toUInt16, hvalue, List.length_nil, Nat.cast_zero, sub_zero, hparts]
    rfl

/-- The value as the browser has it. -/
def TextValue.received : TextValue → JsValue
  | .number n => .number (ofInt n)
  | .string s => .string (ofText s)

lemma skipWs_cons {u : UInt16} (h : isWs u = false) (rest : JsString) :
    Json.skipWs (u :: rest) = u :: rest := by
  rw [Json.skipWs, List.dropWhile_cons, h]
  rfl

lemma Ends.skipWs {rest : JsString} (h : Ends rest) : Json.skipWs rest = rest := by
  cases rest with
  | nil => rfl
  | cons u rest =>
    refine skipWs_cons ?_ rest
    rcases h.head List.head?_cons with rfl | rfl
    · rfl
    · rfl

/-- The first code unit of a number. -/
lemma head_toStr (n : ℤ) : ∃ u rest, (toStr n).map UInt8.toUInt16 = u :: rest ∧
    45 ≤ u.toNat ∧ u.toNat ≤ 57 := by
  obtain ⟨b, bytes, hbytes⟩ := List.exists_cons_of_ne_nil (toStr_ne_nil n)
  refine ⟨b.toUInt16, bytes.map UInt8.toUInt16, by rw [hbytes]; rfl, ?_⟩
  rw [UInt8.toNat_toUInt16]
  rcases mem_toStr (hbytes ▸ List.mem_cons_self : b ∈ toStr n) with rfl | hdigit
  · decide
  · have hb := digit_bounds hdigit
    omega

/-- A value is read up to the comma or the brace after it. -/
lemma parseValue_text (v : TextValue) (fuel : ℕ) {rest : JsString} (hrest : Ends rest) :
    parseValue (fuel + 1) (ofText (valueChars gatewayEscape v) ++ rest) =
      if v.Clean then some (v.received, rest) else none := by
  cases v with
  | number n =>
    have hnumber := parseNumber_toStr n hrest
    obtain ⟨u, more, htext, hlo, hhi⟩ := head_toStr n
    have hws : isWs u = false := by
      have hne : ∀ k : UInt16, k.toNat < 45 → (u == k) = false := by
        intro k hk
        rw [beq_eq_false_iff_ne]
        rintro rfl
        omega
      simp [isWs, hne]
    rw [valueChars, ofText_number]
    rw [htext, List.cons_append] at hnumber ⊢
    rw [if_pos (show (TextValue.number n).Clean from trivial), parseValue, skipWs_cons hws,
      List.head?_cons]
    split
    next h => cases h
    next h => cases Option.some.inj h; simp at hhi
    next h => cases Option.some.inj h; simp at hhi
    next h => cases Option.some.inj h; simp at hlo
    next h => cases Option.some.inj h; simp at hhi
    next h => cases Option.some.inj h; simp at hhi
    next h => cases Option.some.inj h; simp at hhi
    next =>
      rw [hnumber]
      rfl
  | string s =>
    have htext : ofText (valueChars gatewayEscape (.string s)) ++ rest =
        34 :: (ofText (s.flatMap gatewayEscape) ++ 34 :: rest) := by
      rw [valueChars, ofText_cons_of_lt (by decide), ofText_append, List.cons_append,
        List.append_assoc]
      rfl
    rw [htext, parseValue, skipWs_cons (by decide)]
    simp only [List.head?_cons, List.tail_cons, parseStringTail_text]
    change _ = if Clean s then _ else _
    split_ifs with hs
    · rfl
    · rfl

/-- The member as the browser has it. -/
def TextMember.received (m : TextMember) : JsString × JsValue := (ofText m.key, m.value.received)

lemma ofText_memberChars_gateway (m : TextMember) :
    ofText (memberChars gatewayEscape m) =
      34 :: (ofText (m.key.flatMap gatewayEscape) ++
        34 :: 58 :: ofText (valueChars gatewayEscape m.value)) := by
  rw [m.key_plain, memberChars, ofText_cons_of_lt (by decide), ofText_append,
    ofText_cons_of_lt (by decide), ofText_cons_of_lt (by decide)]
  rfl

lemma parseMember_text (m : TextMember) (fuel : ℕ) {rest : JsString} (hrest : Ends rest) :
    parseMember (parseValue (fuel + 1)) (ofText (memberChars gatewayEscape m) ++ rest) =
      if m.value.Clean then some (m.received, rest) else none := by
  have htext : ofText (memberChars gatewayEscape m) ++ rest =
      34 :: (ofText (m.key.flatMap gatewayEscape) ++
        34 :: 58 :: (ofText (valueChars gatewayEscape m.value) ++ rest)) := by
    rw [ofText_memberChars_gateway]
    simp
  have hcolon : ∀ more : JsString, Json.skipWs (58 :: more) = 58 :: more :=
    skipWs_cons (by decide)
  rw [htext]
  simp only [parseMember, skipWs_cons (show isWs 34 = false from rfl), List.head?_cons, if_true,
    List.tail_cons, parseStringTail_text, if_pos m.key_clean, Option.bind_eq_bind, Option.bind_some,
    hcolon, parseValue_text _ _ hrest]
  split_ifs with hclean
  · rfl
  · rfl

/-- Members between commas are read if all are clean. -/
lemma parseItems_text (m : TextMember) (members : List TextMember) (fuel : ℕ) (rest : JsString)
    {k : ℕ} (hk : members.length < k) :
    parseItems (parseMember (parseValue (fuel + 1))) 125 k
        (ofText (List.intercalate [','] ((m :: members).map (memberChars gatewayEscape))) ++
          125 :: rest) =
      if AllClean (m :: members) then some ((m :: members).map TextMember.received, rest)
      else none := by
  induction members generalizing m k with
  | nil =>
    obtain ⟨k, rfl⟩ : ∃ j, k = j + 1 := ⟨k - 1, by omega⟩
    have hparse := parseMember_text m fuel (show Ends (125 :: rest) from Or.inr rfl)
    have hbrace : Json.skipWs (125 :: rest) = 125 :: rest := skipWs_cons (by decide) rest
    rw [List.map_cons, List.map_nil, List.intercalate_singleton, parseItems, hparse]
    by_cases hclean : m.value.Clean
    · simp [hclean, hbrace, AllClean]
    · simp [hclean, allClean_cons]
  | cons next members ih =>
    obtain ⟨k, rfl⟩ : ∃ j, k = j + 1 := ⟨k - 1, by omega⟩
    have htext : ofText (List.intercalate [',']
          ((m :: next :: members).map (memberChars gatewayEscape))) ++ 125 :: rest =
        ofText (memberChars gatewayEscape m) ++
          44 :: (ofText (List.intercalate [','] ((next :: members).map
            (memberChars gatewayEscape))) ++ 125 :: rest) := by
      rw [List.map_cons, List.map_cons, List.intercalate_cons_cons, ofText_append, ofText_append,
        List.append_assoc, List.append_assoc]
      rfl
    have ih := ih next (k := k) (by simpa using hk)
    generalize ofText (List.intercalate [','] ((next :: members).map
      (memberChars gatewayEscape))) ++ 125 :: rest = more at htext ih
    have hparse := parseMember_text m fuel (show Ends (44 :: more) from Or.inl rfl)
    have hcomma : Json.skipWs (44 :: more) = 44 :: more := skipWs_cons (by decide) more
    rw [htext, parseItems, hparse]
    by_cases hclean : m.value.Clean
    · by_cases hmore : AllClean (next :: members)
      · simp [hclean, hcomma, ih, hmore, allClean_cons (m := m)]
      · simp [hclean, hcomma, ih, hmore, allClean_cons (m := m)]
    · simp [hclean, allClean_cons (m := m)]

lemma length_le_length_ofText (s : List Char) : s.length ≤ (ofText s).length := by
  induction s with
  | nil => exact le_refl 0
  | cons c s ih =>
    have hcons : ofText (c :: s) = ofChar c ++ ofText s := rfl
    have hpos : 1 ≤ (ofChar c).length := by
      unfold ofChar
      split_ifs
      · exact le_refl 1
      · exact Nat.le_succ 1
    rw [hcons, List.length_append, List.length_cons]
    omega

/-- Each member takes characters of the text. -/
lemma length_le_length_intercalate (members : List TextMember) :
    members.length ≤
      (List.intercalate [','] (members.map (memberChars gatewayEscape))).length := by
  have hpos : ∀ m : TextMember, 1 ≤ (memberChars gatewayEscape m).length := by
    intro m
    rw [memberChars, List.length_cons]
    exact Nat.le_add_left 1 _
  induction members with
  | nil => exact Nat.zero_le _
  | cons m members ih =>
    cases members with
    | nil =>
      rw [List.map_cons, List.map_nil, List.intercalate_singleton]
      exact hpos m
    | cons next members =>
      rw [List.map_cons, List.map_cons, List.intercalate_cons_cons, ← List.map_cons,
        List.length_append, List.length_append, List.length_cons]
      have := hpos m
      omega

/-- An object with the gateway's escapes is read by the browser if all strings are clean. -/
theorem parse_objectChars (m : TextMember) (members : List TextMember) :
    parse (ofText (objectChars gatewayEscape (m :: members))) =
      if AllClean (m :: members) then some (.object ((m :: members).map TextMember.received))
      else none := by
  have htext : ofText (objectChars gatewayEscape (m :: members)) =
      123 :: (ofText (List.intercalate [','] ((m :: members).map (memberChars gatewayEscape))) ++
        [125]) := by
    rw [objectChars, ofText_cons_of_lt (by decide), ofText_append]
    rfl
  have hlength : members.length + 1 ≤ (ofText (List.intercalate [',']
      ((m :: members).map (memberChars gatewayEscape)))).length :=
    (length_le_length_intercalate (m :: members)).trans (length_le_length_ofText _)
  obtain ⟨more, hmore⟩ : ∃ more, ofText (List.intercalate [',']
      ((m :: members).map (memberChars gatewayEscape))) ++ [125] = 34 :: more := by
    cases members with
    | nil =>
      rw [List.map_cons, List.map_nil, List.intercalate_singleton, ofText_memberChars_gateway]
      exact ⟨_, rfl⟩
    | cons next members =>
      rw [List.map_cons, List.map_cons, List.intercalate_cons_cons, ofText_append, ofText_append,
        ofText_memberChars_gateway]
      exact ⟨_, rfl⟩
  obtain ⟨fuel, hfuel⟩ : ∃ fuel, (ofText (objectChars gatewayEscape (m :: members))).length =
      fuel + 2 := by
    rw [htext, List.length_cons, List.length_append]
    exact ⟨_, rfl⟩
  have hitems := parseItems_text m members fuel [] (k := fuel + 2) (by
    rw [htext, List.length_cons, List.length_append, List.length_singleton] at hfuel
    omega)
  have hquote : ∀ more : JsString, Json.skipWs (34 :: more) = 34 :: more :=
    skipWs_cons (by decide)
  have hvalue : parseValue (fuel + 2) (123 :: 34 :: more) =
      (parseItems (parseMember (parseValue (fuel + 1))) 125 (34 :: more).length.succ
        (34 :: more)).map fun r => (.object r.1, r.2) := by
    rw [parseValue, skipWs_cons (by decide)]
    simp only [List.head?_cons, List.tail_cons, hquote]
    rw [if_neg (by decide)]
    rfl
  rw [parse, hfuel]
  rw [htext, hmore] at hfuel ⊢
  rw [List.length_cons] at hfuel
  rw [hmore] at hitems
  rw [hvalue, Nat.succ_eq_add_one, hfuel, hitems]
  by_cases hclean : AllClean (m :: members)
  · rw [if_pos hclean, if_pos hclean]
    rfl
  · rw [if_neg hclean, if_neg hclean]
    rfl

end ObjectText

end DdzServer
