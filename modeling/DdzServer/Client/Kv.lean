import DdzServer.Client.Number
import DdzServer.Gateway.BrowserEnvelopes
import DdzServer.Util.KvCodec

/-!
# Bodies in the browser

`net/kv.ts`: the browser's reading of `key=value;key=value` bodies, numbers and lists of numbers.
What the server writes in ASCII is read back.
-/

namespace DdzServer

open JsString

/-- The properties of the object that `parseKv` returns. -/
abbrev KvObject := UnorderedMap JsString JsString

/-- One segment of a body: skipped without a key, and split at the first `=` otherwise. -/
def addSegment (out : KvObject) (segment : JsString) : KvObject :=
  match segment.dropWhile (· != 61) with
  | []         => out
  | _ :: value =>
    if segment.takeWhile (· != 61) = [] then out
    else Finmap.insert (segment.takeWhile (· != 61)) value out

def parseKv (body : JsString) : KvObject := (body.splitOn 59).foldl addSegment ∅

/-- A property of the object, undefined where it has none. -/
def KvObject.get (kv : KvObject) (name : String) : Option JsString := kv.lookup (Json.jsStr name)

def parseI64 (value : Option JsString) (fallback : ℤ) : ℤ :=
  match value with
  | none       => fallback
  | some value => ((toNumber value).map trunc).getD fallback

def parseCsvNumberList (value : Option JsString) : List ℤ :=
  match value with
  | none       => []
  | some value =>
    (value.splitOn 44).filterMap fun part =>
      if part = [] then none else (toNumber part).map trunc

/-- One pair of `parseCardCountList`: skipped without text before the colon. -/
def parseCardCount (pair : JsString) : Option (ℤ × ℤ) :=
  match pair.dropWhile (· != 58) with
  | []              => none
  | _ :: cardCount =>
    if pair.takeWhile (· != 58) = [] then none
    else
      match toNumber (pair.takeWhile (· != 58)), toNumber cardCount with
      | some playerId, some cardCount => some (trunc playerId, trunc cardCount)
      | _,             _              => none

def parseCardCountList (value : Option JsString) : List (ℤ × ℤ) :=
  match value with
  | none       => []
  | some value => (value.splitOn 44).filterMap parseCardCount

/-- The string that the browser has for a body; `none` if the body is not UTF-8. -/
def receivedBody (body : CppString) : Option JsString := (ofUtf8 body).map ofText

/-! ### ASCII bodies -/

lemma receivedBody_ascii {body : CppString} (h : ∀ b ∈ body, b.toNat < 128) :
    receivedBody body = some (ofAscii body) := by
  have htext := ofUtf8_utf8 (ObjectText.asciiChars body)
  rw [utf8_asciiChars h] at htext
  rw [receivedBody, htext, Option.map_some, ObjectText.ofText_asciiChars h, ofAscii]

lemma toUInt16_injective : Function.Injective UInt8.toUInt16 := by
  intro a b h
  apply UInt8.toNat_inj.mp
  rw [← UInt8.toNat_toUInt16, h, UInt8.toNat_toUInt16]

lemma ofAscii_injective : Function.Injective ofAscii :=
  List.map_injective_iff.mpr toUInt16_injective

lemma toUInt16_mem_ofAscii {b : UInt8} {bytes : CppString} :
    b.toUInt16 ∈ ofAscii bytes ↔ b ∈ bytes :=
  List.mem_map_of_injective toUInt16_injective

lemma ofAscii_append (s t : CppString) : ofAscii (s ++ t) = ofAscii s ++ ofAscii t :=
  List.map_append

lemma ofAscii_intercalate (sep : CppString) (texts : List CppString) :
    ofAscii (List.intercalate sep texts) =
      List.intercalate (ofAscii sep) (texts.map ofAscii) := by
  induction texts with
  | nil => rfl
  | cons first texts ih =>
    cases texts with
    | nil => simp
    | cons next texts =>
      simp only [List.map_cons] at ih
      simp only [List.map_cons, List.intercalate_cons_cons, ofAscii_append, ih]

lemma addSegment_item {key : CppString} (hne : key ≠ []) (hkey : 61 ∉ key) (value : CppString)
    (out : KvObject) :
    addSegment out (ofAscii (key ++ str "=" ++ value)) =
      Finmap.insert (ofAscii key) (ofAscii value) out := by
  have hall : ∀ u ∈ ofAscii key, (u != 61) = true := by
    intro u hu
    rw [bne_iff_ne]
    rintro rfl
    exact hkey ((toUInt16_mem_ofAscii (b := 61)).mp hu)
  have htext : ofAscii (key ++ str "=" ++ value) = ofAscii key ++ 61 :: ofAscii value := by
    rw [List.append_assoc, ofAscii_append, ofAscii_append]
    rfl
  have hdrop : (ofAscii key ++ 61 :: ofAscii value).dropWhile (· != 61) = 61 :: ofAscii value := by
    rw [List.dropWhile_append_of_pos hall]
    rfl
  have htake : (ofAscii key ++ 61 :: ofAscii value).takeWhile (· != 61) = ofAscii key := by
    rw [List.takeWhile_append_of_pos hall]
    exact List.append_nil _
  have hkeyne : ofAscii key ≠ [] := by simpa [ofAscii] using hne
  simp only [addSegment, htext, hdrop, htake, if_neg hkeyne]

namespace KvFields

/-- The browser reads the fields of a body back. -/
theorem lookup_parseKv (F : KvFields) (hkeys : ∀ f ∈ F.fields, f.1 ≠ []) (k : CppString) :
    (parseKv (ofAscii F.body)).lookup (ofAscii k) =
      ((parseKvBody F.body).lookup k).map ofAscii := by
  have hparse : parseKv (ofAscii F.body) =
      F.fields.foldl (fun out f => Finmap.insert (ofAscii f.1) (ofAscii f.2) out) ∅ := by
    by_cases hnil : F.fields = []
    · rw [body, hnil]
      rfl
    · have hclean : ∀ segment ∈ F.fields.map fun kv => ofAscii (kv.1 ++ str "=" ++ kv.2),
          (59 : UInt16) ∉ segment := by
        intro segment hsegment
        obtain ⟨f, hf, rfl⟩ := List.mem_map.mp hsegment
        rw [show (59 : UInt16) = (59 : UInt8).toUInt16 from rfl, toUInt16_mem_ofAscii]
        simp [str, (F.key_clean f hf).1, F.value_clean f hf]
      have hbody : ofAscii F.body = List.intercalate [59]
          (F.fields.map fun kv => ofAscii (kv.1 ++ str "=" ++ kv.2)) := by
        rw [body, buildKvBody, ofAscii_intercalate, List.map_map]
        rfl
      rw [parseKv, hbody, List.splitOn_intercalate 59 hclean (by simpa using hnil), List.foldl_map]
      exact List.foldl_ext _ _ _ fun out f hf =>
        addSegment_item (hkeys f hf) (F.key_clean f hf).2 f.2 out
  have hnodup : ((F.fields.map fun f => (ofAscii f.1, ofAscii f.2)).map Prod.fst).Nodup := by
    have hkeys : (F.fields.map fun f => (ofAscii f.1, ofAscii f.2)).map Prod.fst =
        (F.fields.map Prod.fst).map ofAscii := by
      rw [List.map_map, List.map_map]
      rfl
    rw [hkeys]
    exact F.nodup_keys.map ofAscii_injective
  have hfold : F.fields.foldl (fun out f => Finmap.insert (ofAscii f.1) (ofAscii f.2) out) ∅ =
      (F.fields.map fun f => (ofAscii f.1, ofAscii f.2)).foldl
        (fun out f => Finmap.insert f.1 f.2 out) (∅ : KvObject) := by
    rw [List.foldl_map]
  refine Option.ext fun value => ?_
  rw [hparse, hfold, UnorderedMap.lookup_foldl_insert_pairs hnodup, Option.map_eq_some_iff]
  simp only [lookup_parseKvBody, Finmap.lookup_empty, reduceCtorEq, and_false, or_false,
    List.mem_map, Prod.mk.injEq]
  constructor
  · rintro ⟨f, hf, hk, hv⟩
    obtain rfl := ofAscii_injective hk
    exact ⟨f.2, hf, hv⟩
  · rintro ⟨v, hf, hv⟩
    exact ⟨(k, v), hf, rfl, hv⟩

end KvFields

/-! ### Numbers of a body -/

lemma parseI64_toStr {n : ℤ} (h : |n| ≤ 2 ^ 53) (fallback : ℤ) :
    parseI64 (some (ofAscii (toStr n))) fallback = n := by
  have hread : toNumber (ofAscii (toStr n)) = some (n : ℚ) := toNumber_toStr h
  rw [parseI64, hread, Option.map_some, trunc_intCast, Option.getD_some]

/-- A list of numbers is read back. -/
lemma parseCsvNumberList_join {values : List ℤ} (h : ∀ n ∈ values, |n| ≤ 2 ^ 53) :
    parseCsvNumberList (some (ofAscii (joinNumberList values))) = values := by
  have hread : ∀ n ∈ values,
      (if ofAscii (toStr n) = [] then none else (toNumber (ofAscii (toStr n))).map trunc) =
        some n := by
    intro n hn
    have hnumber : toNumber (ofAscii (toStr n)) = some (n : ℚ) := toNumber_toStr (h n hn)
    rw [if_neg (ofAscii_toStr_ne_nil n), hnumber, Option.map_some, trunc_intCast]
  by_cases hnil : values = []
  · rw [hnil]
    rfl
  · have hclean : ∀ part ∈ (values.map toStr).map ofAscii, (44 : UInt16) ∉ part := by
      intro part hpart
      obtain ⟨text, htext, rfl⟩ := List.mem_map.mp hpart
      obtain ⟨n, -, rfl⟩ := List.mem_map.mp htext
      rw [show (44 : UInt16) = (44 : UInt8).toUInt16 from rfl, toUInt16_mem_ofAscii]
      exact not_mem_toStr (by decide) (by decide) n
    have hbody : ofAscii (joinNumberList values) =
        List.intercalate [44] ((values.map toStr).map ofAscii) := ofAscii_intercalate _ _
    rw [parseCsvNumberList, hbody, List.splitOn_intercalate 44 hclean (by simpa using hnil),
      List.map_map, List.filterMap_map]
    exact (List.filterMap_congr hread).trans List.filterMap_some

/-! ### Plain texts -/

/-- A text that a body can carry to the browser. -/
def IsPlain (text : CppString) : Prop := ∀ b ∈ text, b.toNat < 128 ∧ b ≠ 59

instance (text : CppString) : Decidable (IsPlain text) :=
  inferInstanceAs (Decidable (∀ b ∈ text, _))

lemma isPlain_append {s t : CppString} (hs : IsPlain s) (ht : IsPlain t) : IsPlain (s ++ t) := by
  intro b hb
  exact (List.mem_append.mp hb).elim (hs b) (ht b)

lemma forall_mem_intercalate {P : UInt8 → Prop} {sep : CppString} {texts : List CppString}
    (hsep : ∀ b ∈ sep, P b) (htexts : ∀ text ∈ texts, ∀ b ∈ text, P b) :
    ∀ b ∈ List.intercalate sep texts, P b := by
  induction texts with
  | nil =>
    intro b hb
    cases hb
  | cons first texts ih =>
    obtain ⟨hfirst, htexts⟩ := List.forall_mem_cons.mp htexts
    cases texts with
    | nil => simpa using hfirst
    | cons next texts =>
      intro b hb
      rw [List.intercalate_cons_cons] at hb
      rcases List.mem_append.mp hb with hb | hb
      · exact (List.mem_append.mp hb).elim (hfirst b) (hsep b)
      · exact ih htexts b hb

lemma isPlain_toStr (n : ℤ) : IsPlain (toStr n) := by
  intro b hb
  refine ⟨ObjectText.toNat_lt_of_mem_toStr hb, ?_⟩
  rintro rfl
  exact not_mem_toStr (by decide) (by decide) n hb

lemma isPlain_joinNumberList (values : List ℤ) : IsPlain (joinNumberList values) := by
  have hsep : IsPlain (str ",") := by decide +kernel
  refine forall_mem_intercalate hsep fun text htext => ?_
  obtain ⟨n, -, rfl⟩ := List.mem_map.mp htext
  exact isPlain_toStr n

/-- Fields that a body carries to the browser. -/
structure IsCarried (fields : List (CppString × CppString)) : Prop where
  nodup_keys : (fields.map Prod.fst).Nodup
  keys : ∀ f ∈ fields, f.1 ≠ [] ∧ IsPlain f.1 ∧ 61 ∉ f.1
  values : ∀ f ∈ fields, IsPlain f.2

namespace IsCarried

variable {fields : List (CppString × CppString)}

/-- The fields of a body. -/
def kvFields (h : IsCarried fields) : KvFields where
  fields := fields
  nodup_keys := h.nodup_keys
  key_clean f hf := ⟨fun hmem => ((h.keys f hf).2.1 59 hmem).2 rfl, (h.keys f hf).2.2⟩
  value_clean f hf hmem := (h.values f hf 59 hmem).2 rfl

lemma receivedBody_body (h : IsCarried fields) :
    receivedBody (buildKvBody fields) = some (ofAscii (buildKvBody fields)) := by
  have hsep : ∀ b ∈ str ";", b.toNat < 128 := by decide +kernel
  have heq : ∀ b ∈ str "=", b.toNat < 128 := by decide +kernel
  refine receivedBody_ascii (forall_mem_intercalate hsep fun text htext b hb => ?_)
  obtain ⟨f, hf, rfl⟩ := List.mem_map.mp htext
  rcases List.mem_append.mp hb with hb | hb
  · exact (List.mem_append.mp hb).elim (fun hb => ((h.keys f hf).2.1 b hb).1) (heq b)
  · exact (h.values f hf b hb).1

/-- A field that was sent. -/
lemma get_of_mem (h : IsCarried fields) {name : String} {value : CppString}
    (hname : Json.jsStr name = ofAscii (str name)) (hmem : (str name, value) ∈ fields) :
    (parseKv (ofAscii (buildKvBody fields))).get name = some (ofAscii value) := by
  have hlookup := (h.kvFields.lookup_parseKvBody (str name) value).mpr hmem
  have hread := h.kvFields.lookup_parseKv (fun f hf => (h.keys f hf).1) (str name)
  rw [hlookup, Option.map_some] at hread
  rw [KvObject.get, hname]
  exact hread

/-- A field that was not sent. -/
lemma get_of_not_mem (h : IsCarried fields) {name : String}
    (hname : Json.jsStr name = ofAscii (str name)) (hmem : str name ∉ fields.map Prod.fst) :
    (parseKv (ofAscii (buildKvBody fields))).get name = none := by
  have hlookup := (h.kvFields.lookup_parseKvBody_eq_none (str name)).mpr hmem
  have hread := h.kvFields.lookup_parseKv (fun f hf => (h.keys f hf).1) (str name)
  rw [hlookup, Option.map_none] at hread
  rw [KvObject.get, hname]
  exact hread

end IsCarried

end DdzServer
