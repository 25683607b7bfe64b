import DdzServer.Gateway.JsonCodec

/-!
# Envelopes are read back from their text

What the scanner makes of a written object: the members, in any number and with any strings. The
envelope round trip is the case of the members of an envelope.
-/

namespace DdzServer

namespace JsonObjectParser

/-- The escape of a byte is undone, or the byte needs none. -/
lemma escapeByte_cases (ch : UInt8) :
    (∃ esc, escapeByte ch = [92, esc] ∧ unescape esc = some ch) ∨
      (escapeByte ch = [ch] ∧ ch ≠ 34 ∧ ch ≠ 92) := by
  unfold escapeByte
  split
  · exact Or.inl ⟨34, rfl, rfl⟩
  · exact Or.inl ⟨92, rfl, rfl⟩
  · exact Or.inl ⟨98, rfl, rfl⟩
  · exact Or.inl ⟨102, rfl, rfl⟩
  · exact Or.inl ⟨110, rfl, rfl⟩
  · exact Or.inl ⟨114, rfl, rfl⟩
  · exact Or.inl ⟨116, rfl, rfl⟩
  next hquote hbackslash _ _ _ _ _ => exact Or.inr ⟨rfl, hquote, hbackslash⟩

lemma parseStringLoop_quote (value rest : CppString) :
    parseStringLoop value (34 :: rest) = .ok (value, rest) := by
  rw [parseStringLoop.eq_def]
  exact if_pos rfl

lemma parseStringLoop_escape {esc b : UInt8} (h : unescape esc = some b) (value rest : CppString) :
    parseStringLoop value (92 :: esc :: rest) = parseStringLoop (value ++ [b]) rest := by
  simp [parseStringLoop, h]

lemma parseStringLoop_plain {ch : UInt8} (hquote : ch ≠ 34) (hbackslash : ch ≠ 92)
    (value rest : CppString) :
    parseStringLoop value (ch :: rest) = parseStringLoop (value ++ [ch]) rest := by
  rw [parseStringLoop.eq_def]
  simp only [if_neg hquote, if_neg hbackslash]

/-- Escaped bytes are read as the bytes. -/
lemma parseStringLoop_escapeJson (s value rest : CppString) :
    parseStringLoop value (escapeJson s ++ rest) = parseStringLoop (value ++ s) rest := by
  induction s generalizing value with
  | nil =>
    rw [List.append_nil]
    rfl
  | cons ch s ih =>
    have hcons : escapeJson (ch :: s) = escapeByte ch ++ escapeJson s := rfl
    rw [hcons, List.append_assoc, List.append_cons value]
    rcases escapeByte_cases ch with ⟨esc, hesc, hun⟩ | ⟨hesc, hquote, hbackslash⟩
    · rw [hesc, List.cons_append, List.cons_append, List.nil_append, parseStringLoop_escape hun, ih]
    · rw [hesc, List.cons_append, List.nil_append, parseStringLoop_plain hquote hbackslash, ih]

lemma parseString_escapeJson (s rest : CppString) :
    parseString (34 :: (escapeJson s ++ 34 :: rest)) = .ok (s, rest) := by
  rw [parseString, if_pos List.head?_cons, List.tail_cons, parseStringLoop_escapeJson,
    List.nil_append, parseStringLoop_quote]

lemma skipWs_cons {ch : UInt8} (h : isSpace ch = false) (text : CppString) :
    skipWs (ch :: text) = ch :: text := by
  rw [skipWs, List.dropWhile_cons, h]
  rfl

/-- A raw token is read up to the comma or the brace after it. -/
lemma parseRawToken_append {token rest : CppString} (hne : token ≠ [])
    (htoken : ∀ b ∈ token, isTokenByte b = true)
    (hrest : ∀ b, rest.head? = some b → isTokenByte b = false) :
    parseRawToken (token ++ rest) = .ok (token, rest) := by
  have hstop : rest.takeWhile isTokenByte = [] ∧ rest.dropWhile isTokenByte = rest := by
    cases rest with
    | nil => exact ⟨rfl, rfl⟩
    | cons b rest => simp [hrest b rfl]
  unfold parseRawToken
  rw [List.takeWhile_append_of_pos htoken, List.dropWhile_append_of_pos htoken, hstop.1, hstop.2,
    List.append_nil, if_neg hne]

end JsonObjectParser

/-! ### Written objects -/

/-- A member as a writer writes it: a key without escapes, and a string or a token that the scanner
does not cut. -/
structure JsonMember where
  key : CppString
  value : JsonValue
  key_plain : escapeJson key = key
  token_plain : value.isString = false → value.value ≠ [] ∧
    ∀ b ∈ value.value, JsonObjectParser.isTokenByte b = true ∧ b ≠ 34

namespace JsonMember

def valueText (m : JsonMember) : CppString :=
  if m.value.isString then 34 :: (escapeJson m.value.value ++ [34]) else m.value.value

def text (m : JsonMember) : CppString := 34 :: (m.key ++ 34 :: 58 :: m.valueText)

/-- The text of an object. -/
def objectText (members : List JsonMember) : CppString :=
  123 :: (List.intercalate [44] (members.map text) ++ [125])

/-- The fields the members set. -/
def fields (members : List JsonMember) (out : UnorderedMap CppString JsonValue) :
    UnorderedMap CppString JsonValue :=
  members.foldl (fun out m => Finmap.insert m.key m.value out) out

open JsonObjectParser

/-- What follows a value in an object. -/
def Ends (rest : CppString) : Prop := rest.head? = some 44 ∨ rest.head? = some 125

lemma Ends.not_token {rest : CppString} (h : Ends rest) (b : UInt8) (hb : rest.head? = some b) :
    isTokenByte b = false := by
  rcases h with h | h
  · obtain rfl := Option.some.inj (h.symm.trans hb)
    rfl
  · obtain rfl := Option.some.inj (h.symm.trans hb)
    rfl

lemma Ends.skipWs {rest : CppString} (h : Ends rest) : skipWs rest = rest := by
  cases rest with
  | nil => rfl
  | cons b rest =>
    refine skipWs_cons ?_ rest
    rcases h with h | h
    · obtain rfl := Option.some.inj h
      rfl
    · obtain rfl := Option.some.inj h
      rfl

lemma parseValue_valueText (m : JsonMember) {rest : CppString} (hrest : Ends rest) :
    parseValue (skipWs (m.valueText ++ rest)) = .ok (m.value, rest) := by
  obtain ⟨key, ⟨isString, value⟩, hkey, htoken⟩ := m
  cases isString with
  | true =>
    have htext : valueText ⟨key, ⟨true, value⟩, hkey, htoken⟩ ++ rest =
        34 :: (escapeJson value ++ 34 :: rest) := by
      simp [valueText]
    rw [htext, skipWs_cons (by decide), parseValue, if_pos List.head?_cons, parseString_escapeJson]
    rfl
  | false =>
    obtain ⟨hne, hbytes⟩ := htoken rfl
    change value ≠ [] at hne
    change ∀ b ∈ value, _ at hbytes
    have htext : valueText ⟨key, ⟨false, value⟩, hkey, htoken⟩ ++ rest = value ++ rest := rfl
    have hraw := parseRawToken_append hne (fun b hb => (hbytes b hb).1) hrest.not_token
    obtain ⟨b, more, rfl⟩ := List.exists_cons_of_ne_nil hne
    obtain ⟨hb, hquote⟩ := hbytes b List.mem_cons_self
    have hspace : isSpace b = false := by
      simp only [isTokenByte, Bool.and_eq_true, Bool.not_eq_true'] at hb
      exact hb.2
    rw [htext, List.cons_append, skipWs_cons hspace, parseValue, if_neg (by simp [hquote]),
      ← List.cons_append, hraw]
    rfl

/-- A written member is read back, with the text after it. -/
lemma parseMember_text (m : JsonMember) {rest : CppString} (hrest : Ends rest) :
    parseMember (m.text ++ rest) = .ok ((m.key, m.value), rest) := by
  have htext : m.text ++ rest = 34 :: (escapeJson m.key ++ 34 :: 58 :: (m.valueText ++ rest)) := by
    simp [text, m.key_plain]
  have hcolon : skipWs (58 :: (m.valueText ++ rest)) = 58 :: (m.valueText ++ rest) :=
    skipWs_cons (by decide) _
  simp only [htext, parseMember, parseString_escapeJson, bind, Except.bind, hcolon, List.head?_cons,
    if_true, List.tail_cons, parseValue_valueText m hrest, pure, Except.pure, hrest.skipWs]

lemma text_ne_nil (m : JsonMember) (rest : CppString) : m.text ++ rest ≠ [] := by simp [text]

lemma skipWs_text (m : JsonMember) (rest : CppString) : skipWs (m.text ++ rest) = m.text ++ rest :=
  skipWs_cons (by decide) _

lemma skipWs_members (m : JsonMember) (members : List JsonMember) :
    skipWs (List.intercalate [44] ((m :: members).map text) ++ [125]) =
      List.intercalate [44] ((m :: members).map text) ++ [125] := by
  cases members with
  | nil =>
    rw [List.map_cons, List.map_nil, List.intercalate_singleton]
    exact m.skipWs_text [125]
  | cons next members =>
    rw [List.map_cons, List.map_cons, List.intercalate_cons_cons, List.append_assoc,
      List.append_assoc]
    exact m.skipWs_text _

/-- The loop reads all members. -/
lemma parseMembers_text (m : JsonMember) (members : List JsonMember)
    (out : UnorderedMap CppString JsonValue) :
    parseMembers (List.intercalate [44] ((m :: members).map text) ++ [125]) out =
      .ok (fields (m :: members) out) := by
  induction members generalizing m out with
  | nil =>
    have hparse := m.parseMember_text (show Ends [125] from Or.inr rfl)
    rw [List.map_cons, List.map_nil, List.intercalate_singleton, parseMembers,
      if_neg (m.text_ne_nil _)]
    split
    next err herr => simp [hparse] at herr
    next member rest hok =>
      obtain ⟨rfl, rfl⟩ := Prod.mk.inj (Except.ok.inj (hparse.symm.trans hok))
      rfl
  | cons next members ih =>
    have htext : List.intercalate [44] ((m :: next :: members).map text) ++ [125] =
        m.text ++ 44 :: (List.intercalate [44] ((next :: members).map text) ++ [125]) := by
      simp [List.intercalate_cons_cons]
    generalize hmore : List.intercalate [44] ((next :: members).map text) ++ [125] = more at htext
    have hparse := m.parseMember_text (show Ends (44 :: more) from Or.inl rfl)
    rw [htext, parseMembers, if_neg (m.text_ne_nil _)]
    split
    next err herr => simp [hparse] at herr
    next member rest hok =>
      obtain ⟨rfl, rfl⟩ := Prod.mk.inj (Except.ok.inj (hparse.symm.trans hok))
      have hskip : skipWs more = more := by
        rw [← hmore]
        exact skipWs_members next members
      simp only [List.head?_cons, if_true, List.tail_cons, hskip]
      rw [← hmore]
      exact ih next _

/-- A written object is read back. -/
theorem parse_objectText (m : JsonMember) (members : List JsonMember) :
    parse (objectText (m :: members)) = .ok (fields (m :: members) ∅) := by
  have hhead : (List.intercalate [44] ((m :: members).map text) ++ [125]).head? ≠ some 125 := by
    cases members with
    | nil => simp [text]
    | cons next members => simp [text, List.intercalate_cons_cons]
  rw [parse, objectText, skipWs_cons (by decide), if_pos List.head?_cons, List.tail_cons,
    skipWs_members, if_neg hhead, parseMembers_text]

end JsonMember

/-! ### Numbers -/

/-- The text of a number is one token. -/
lemma isTokenByte_of_mem_toStr {n : ℤ} {b : UInt8} (h : b ∈ toStr n) :
    JsonObjectParser.isTokenByte b = true ∧ b ≠ 34 := by
  rcases mem_toStr h with rfl | hdigit
  · decide
  · obtain ⟨hlo, hhi⟩ := digit_bounds hdigit
    have hspace := isSpace_eq_false (by omega : 33 ≤ b.toNat)
    have h44 : b ≠ 44 := by
      rintro rfl
      simp at hlo
    have h125 : b ≠ 125 := by
      rintro rfl
      simp at hhi
    refine ⟨by simp [JsonObjectParser.isTokenByte, h44, h125, hspace], ?_⟩
    rintro rfl
    simp at hlo

/-- A number of 32 bits is read back from its text. -/
lemma parseU32Strict_toStr (n : UInt32) : parseU32Strict (toStr n.toNat) = some n := by
  have hlt : n.toNat < 2 ^ 32 := n.toNat_lt
  have hparse : stoull (toStr n.toNat) = some ((n.toNat : ℤ), (toStr n.toNat).length) := by
    rw [stoull, parseInteger_toStr (by omega) (by omega), Option.map_some,
      Int.emod_eq_of_lt (by omega) (by omega)]
  rw [parseU32Strict, hparse]
  simp only [ne_eq, not_true_eq_false, false_or]
  rw [if_neg (by omega), Int.toNat_natCast, UInt32.ofNat_toNat]

lemma parseI64Strict_toInt (n : Int64) : parseI64Strict (toStr n.toInt) = some n.toInt :=
  parseI64Strict_toStr n.le_toInt (Int.le_sub_one_of_lt n.toInt_lt)

/-! ### Envelopes -/

namespace JsonMember

def ofString (key value : CppString) (hkey : escapeJson key = key) : JsonMember where
  key := key
  value := { isString := true, value := value }
  key_plain := hkey
  token_plain h := by cases h

def ofNumber (key : CppString) (n : ℤ) (hkey : escapeJson key = key) : JsonMember where
  key := key
  value := { isString := false, value := toStr n }
  key_plain := hkey
  token_plain _ := ⟨toStr_ne_nil n, fun _ => isTokenByte_of_mem_toStr⟩

/-- A member that may be left out. -/
def ofOptional (key : CppString) (value : Option CppString) (hkey : escapeJson key = key) :
    List JsonMember :=
  (value.map fun v => ofString key v hkey).toList

/-- The members every envelope has. -/
def required (msgId seqId : UInt32) (playerId : Int64) (body : CppString) : List JsonMember :=
  [ofNumber (str "msg_id") msgId.toNat (by decide +kernel),
   ofNumber (str "seq_id") seqId.toNat (by decide +kernel),
   ofNumber (str "player_id") playerId.toInt (by decide +kernel),
   ofString (str "body") body (by decide +kernel)]

/-- The members of an envelope, with the optional ones that are there. -/
def ofEnvelope (msgId seqId : UInt32) (playerId : Int64) (body : CppString)
    (h5 gateway server : Option CppString) : List JsonMember :=
  required msgId seqId playerId body ++
    (ofOptional (str "h5_request_id") h5 (by decide +kernel) ++
      ofOptional (str "gateway_trace_id") gateway (by decide +kernel) ++
      ofOptional (str "server_trace_id") server (by decide +kernel))

end JsonMember

/-- An empty string counts as missing. -/
def nonEmpty (value : CppString) : Option CppString := if value = [] then none else some value

lemma getD_nonEmpty (value : CppString) : (nonEmpty value).getD [] = value := by
  unfold nonEmpty
  split_ifs with h
  · exact h.symm
  · rfl

lemma intercalate_cons_eq {sep first : CppString} (more : List CppString) :
    List.intercalate sep (first :: more) = first ++ more.flatMap (sep ++ ·) := by
  induction more generalizing first with
  | nil => simp
  | cons next more ih => simp [List.intercalate_cons_cons, ih]

/-- Texts with separators between them, in two parts. -/
lemma intercalate_append {sep : CppString} {texts : List CppString} (h : texts ≠ [])
    (more : List CppString) :
    List.intercalate sep (texts ++ more) =
      List.intercalate sep texts ++ more.flatMap (sep ++ ·) := by
  obtain ⟨first, texts, rfl⟩ := List.exists_cons_of_ne_nil h
  simp [intercalate_cons_eq]

lemma optionalMember_eq (name value : CppString) (hname : escapeJson name = name) :
    optionalMember name value =
      ((JsonMember.ofOptional name (nonEmpty value) hname).map JsonMember.text).flatMap
        ([44] ++ ·) := by
  unfold optionalMember nonEmpty
  split_ifs
  · rfl
  · simp [JsonMember.ofOptional, JsonMember.ofString, JsonMember.text, JsonMember.valueText, str]

/-- The writer writes the members of the envelope. -/
lemma buildEnvelopeJson_eq (e : GatewayEnvelope) :
    buildEnvelopeJson e = JsonMember.objectText (JsonMember.ofEnvelope e.msgId e.seqId e.playerId
      e.body (nonEmpty e.h5RequestId) (nonEmpty e.gatewayTraceId) (nonEmpty e.serverTraceId)) := by
  have hrequired : List.intercalate [44] ((JsonMember.required e.msgId e.seqId e.playerId
      e.body).map JsonMember.text) =
      str "\"msg_id\":" ++ toStr e.msgId.toNat ++ str "," ++ str "\"seq_id\":" ++
        toStr e.seqId.toNat ++ str "," ++ str "\"player_id\":" ++ toStr e.playerId.toInt ++
        str "," ++ str "\"body\":\"" ++ escapeJson e.body ++ str "\"" := by
    simp [JsonMember.required, JsonMember.ofNumber, JsonMember.ofString, JsonMember.text,
      JsonMember.valueText, str, List.intercalate_cons_cons]
  rw [JsonMember.objectText, JsonMember.ofEnvelope, List.map_append,
    intercalate_append (by simp [JsonMember.required]), hrequired]
  simp only [buildEnvelopeJson, List.map_append, List.flatMap_append,
    optionalMember_eq (str "h5_request_id") _ (by decide +kernel),
    optionalMember_eq (str "gateway_trace_id") _ (by decide +kernel),
    optionalMember_eq (str "server_trace_id") _ (by decide +kernel), List.append_assoc]
  rfl

/-! ### What is read back -/

namespace JsonMember

/-- An optional member at the end sets its field if it is there. -/
lemma lookup_fields_append_ofOptional (members : List JsonMember) (key : CppString)
    (value : Option CppString) (hkey : escapeJson key = key)
    (out : UnorderedMap CppString JsonValue) (a : CppString) :
    (fields (members ++ ofOptional key value hkey) out).lookup a =
      if a = key ∧ value.isSome then value.map fun v => { isString := true, value := v }
      else (fields members out).lookup a := by
  rw [fields, List.foldl_append]
  cases value with
  | none => simp [ofOptional, fields]
  | some v =>
    simp only [ofOptional, Option.map_some, Option.toList_some, List.foldl_cons, List.foldl_nil,
      Option.isSome_some, and_true]
    exact UnorderedMap.lookup_insert _ _ _ _

/-- The fields of an envelope are those of its members. -/
lemma lookup_fields_ofEnvelope (msgId seqId : UInt32) (playerId : Int64) (body : CppString)
    (h5 gateway server : Option CppString) :
    let out := fields (ofEnvelope msgId seqId playerId body h5 gateway server) ∅
    (out.lookup (str "msg_id") = some { value := toStr msgId.toNat } ∧
      out.lookup (str "seq_id") = some { value := toStr seqId.toNat } ∧
      out.lookup (str "player_id") = some { value := toStr playerId.toInt } ∧
      out.lookup (str "body") = some { isString := true, value := body }) ∧
    out.lookup (str "h5_request_id") = h5.map (fun v => { isString := true, value := v }) ∧
    out.lookup (str "gateway_trace_id") = gateway.map (fun v => { isString := true, value := v }) ∧
    out.lookup (str "server_trace_id") = server.map fun v => { isString := true, value := v } := by
  have hkeys : [str "msg_id", str "seq_id", str "player_id", str "body", str "h5_request_id",
      str "gateway_trace_id", str "server_trace_id"].Nodup := by decide +kernel
  have hrequired : ∀ a, (fields (required msgId seqId playerId body) ∅).lookup a =
      if a = str "body" then some { isString := true, value := body }
      else if a = str "player_id" then some { value := toStr playerId.toInt }
      else if a = str "seq_id" then some { value := toStr seqId.toNat }
      else if a = str "msg_id" then some { value := toStr msgId.toNat } else none := by
    intro a
    simp [fields, required, ofNumber, ofString, UnorderedMap.lookup_insert]
  intro out
  have hout : ∀ a, out.lookup a =
      if a = str "server_trace_id" ∧ server.isSome then
        server.map fun v => { isString := true, value := v }
      else if a = str "gateway_trace_id" ∧ gateway.isSome then
        gateway.map fun v => { isString := true, value := v }
      else if a = str "h5_request_id" ∧ h5.isSome then
        h5.map fun v => { isString := true, value := v }
      else (fields (required msgId seqId playerId body) ∅).lookup a := by
    intro a
    simp only [out, ofEnvelope, ← List.append_assoc, lookup_fields_append_ofOptional]
  simp only [List.nodup_cons, List.mem_cons, List.not_mem_nil, or_false, not_or, not_false_eq_true,
    List.nodup_nil, and_true] at hkeys
  simp only [hout, hrequired]
  generalize str "msg_id" = k₁, str "seq_id" = k₂, str "player_id" = k₃, str "body" = k₄,
    str "h5_request_id" = k₅, str "gateway_trace_id" = k₆, str "server_trace_id" = k₇ at hkeys ⊢
  obtain ⟨⟨h₁₂, h₁₃, h₁₄, h₁₅, h₁₆, h₁₇⟩, ⟨h₂₃, h₂₄, h₂₅, h₂₆, h₂₇⟩, ⟨h₃₄, h₃₅, h₃₆, h₃₇⟩,
    ⟨h₄₅, h₄₆, h₄₇⟩, ⟨h₅₆, h₅₇⟩, h₆₇⟩ := hkeys
  refine ⟨⟨?_, ?_, ?_, ?_⟩, ?_, ?_, ?_⟩
  · simp only [h₁₂, h₁₃, h₁₄, h₁₅, h₁₆, h₁₇, false_and, if_false, if_true]
  · simp only [h₂₃, h₂₄, h₂₅, h₂₆, h₂₇, false_and, if_false, if_true]
  · simp only [h₃₄, h₃₅, h₃₆, h₃₇, false_and, if_false, if_true]
  · simp only [h₄₅, h₄₆, h₄₇, false_and, if_false, if_true]
  · cases h5 <;> simp [h₅₆, h₅₇, Ne.symm h₁₅, Ne.symm h₂₅, Ne.symm h₃₅, Ne.symm h₄₅]
  · cases gateway <;>
      simp [h₆₇, Ne.symm h₁₆, Ne.symm h₂₆, Ne.symm h₃₆, Ne.symm h₄₆, Ne.symm h₅₆]
  · cases server <;>
      simp [Ne.symm h₁₇, Ne.symm h₂₇, Ne.symm h₃₇, Ne.symm h₄₇, Ne.symm h₅₇, Ne.symm h₆₇]

end JsonMember

lemma optionalString_eq {fields : UnorderedMap CppString JsonValue} {key : CppString}
    {o : Option CppString}
    (h : fields.lookup key = o.map fun v => { isString := true, value := v }) :
    optionalString fields key = o.getD [] := by
  rw [optionalString, h]
  cases o with
  | none => rfl
  | some v => rfl

/-- An envelope is read back from its members, a missing string as the empty one. -/
theorem parseEnvelopeJson_objectText (msgId seqId : UInt32) (playerId : Int64) (body : CppString)
    (h5 gateway server : Option CppString) :
    parseEnvelopeJson (JsonMember.objectText
        (JsonMember.ofEnvelope msgId seqId playerId body h5 gateway server)) =
      .ok { msgId := msgId, seqId := seqId, playerId := playerId, body := body
            h5RequestId := h5.getD [], gatewayTraceId := gateway.getD []
            serverTraceId := server.getD [] } := by
  obtain ⟨⟨hmsg, hseq, hpid, hbody⟩, hh5, hgateway, hserver⟩ :=
    JsonMember.lookup_fields_ofEnvelope msgId seqId playerId body h5 gateway server
  have hparse : JsonObjectParser.parse (JsonMember.objectText
      (JsonMember.ofEnvelope msgId seqId playerId body h5 gateway server)) =
      .ok (JsonMember.fields
        (JsonMember.ofEnvelope msgId seqId playerId body h5 gateway server) ∅) :=
    JsonMember.parse_objectText _ _
  simp only [parseEnvelopeJson, hparse, bind, Except.bind, envelopeOfFields, hmsg, hseq, hpid,
    hbody, parseU32Strict_toStr, parseI64Strict_toInt, Bool.not_true, Bool.false_eq_true, if_false,
    optionalString_eq hh5, optionalString_eq hgateway, optionalString_eq hserver,
    Int64.ofInt_toInt]

/-- Any envelope, with any bytes in its strings, is read back from its text. -/
theorem parseEnvelopeJson_buildEnvelopeJson (e : GatewayEnvelope) :
    parseEnvelopeJson (buildEnvelopeJson e) = .ok e := by
  rw [buildEnvelopeJson_eq, parseEnvelopeJson_objectText]
  simp only [getD_nonEmpty]

end DdzServer
