import DdzServer.Client.ObjectText
import DdzServer.Gateway.EnvelopeText

/-!
# Gateway and browser

What each side makes of the envelopes of the other: they agree if no string has a control character
that the gateway does not escape.
-/

namespace DdzServer

open ObjectText

/-! ### The gateway's text -/

lemma utf8_append (s t : List Char) : utf8 (s ++ t) = utf8 s ++ utf8 t := List.flatMap_append

lemma utf8_cons_of_lt {c : Char} (h : c.toNat < 128) (s : List Char) :
    utf8 (c :: s) = UInt8.ofNat c.toNat :: utf8 s := by
  have hcons : utf8 (c :: s) = String.utf8EncodeChar c ++ utf8 s := rfl
  rcases utf8EncodeChar_cases c with ⟨-, hchar⟩ | ⟨hle, -⟩
  · rw [hcons, hchar, List.singleton_append]
  · omega

lemma utf8_asciiChars {bytes : CppString} (h : ∀ b ∈ bytes, b.toNat < 128) :
    utf8 (asciiChars bytes) = bytes := by
  induction bytes with
  | nil => rfl
  | cons b bytes ih =>
    obtain ⟨hb, hbytes⟩ := List.forall_mem_cons.mp h
    have hcons : asciiChars (b :: bytes) = Char.ofNat b.toNat :: asciiChars bytes := rfl
    have hnat := toNat_ofNat_ascii hb
    rw [hcons, utf8_cons_of_lt (by rwa [hnat]), hnat, ih hbytes, UInt8.ofNat_toNat]

lemma utf8_intercalate (sep : List Char) (texts : List (List Char)) :
    utf8 (List.intercalate sep texts) = List.intercalate (utf8 sep) (texts.map utf8) := by
  induction texts with
  | nil => rfl
  | cons first texts ih =>
    cases texts with
    | nil => simp
    | cons next texts =>
      simp only [List.map_cons] at ih
      simp only [List.map_cons, List.intercalate_cons_cons, utf8_append, ih]

lemma escapeJson_append (s t : CppString) : escapeJson (s ++ t) = escapeJson s ++ escapeJson t :=
  List.flatMap_append

/-- Bytes of longer characters are not escaped. -/
lemma escapeJson_of_le {bytes : CppString} (h : ∀ b ∈ bytes, 128 ≤ b.toNat) :
    escapeJson bytes = bytes := by
  induction bytes with
  | nil => rfl
  | cons b bytes ih =>
    obtain ⟨hb, hbytes⟩ := List.forall_mem_cons.mp h
    have hcons : escapeJson (b :: bytes) = escapeByte b ++ escapeJson bytes := rfl
    have hbyte : escapeByte b = [b] := by
      unfold escapeByte
      split
      all_goals first | rfl | simp at hb
    rw [hcons, hbyte, ih hbytes, List.singleton_append]

lemma escapeJson_utf8EncodeChar (c : Char) :
    escapeJson (String.utf8EncodeChar c) = utf8 (gatewayEscape c) := by
  rcases utf8EncodeChar_cases c with ⟨hlt, -⟩ | ⟨hle, hbytes⟩
  · refine char_of_lt (P := fun c => escapeJson (String.utf8EncodeChar c) = utf8 (gatewayEscape c))
      (k := 128) ?_ hlt
    decide +kernel
  · rw [escapeJson_of_le hbytes, gatewayEscape_of_le hle]
    exact (List.append_nil _).symm

/-- The gateway escapes the bytes of a text character by character. -/
lemma escapeJson_utf8 (s : List Char) : escapeJson (utf8 s) = utf8 (s.flatMap gatewayEscape) := by
  induction s with
  | nil => rfl
  | cons c s ih =>
    have hcons : utf8 (c :: s) = String.utf8EncodeChar c ++ utf8 s := rfl
    rw [hcons, escapeJson_append, escapeJson_utf8EncodeChar, ih, List.flatMap_cons, utf8_append]

/-- The member as the gateway has it. -/
def ObjectText.TextMember.toJson (m : TextMember) : JsonMember :=
  have hkey : escapeJson (utf8 m.key) = utf8 m.key := by rw [escapeJson_utf8, m.key_plain]
  match m.value with
  | .number n => JsonMember.ofNumber (utf8 m.key) n hkey
  | .string s => JsonMember.ofString (utf8 m.key) (utf8 s) hkey

lemma utf8_number (n : ℤ) : utf8 (asciiChars (toStr n)) = toStr n :=
  utf8_asciiChars fun _ => toNat_lt_of_mem_toStr

/-- The member's text is the one the gateway writes. -/
lemma utf8_memberChars (m : TextMember) : utf8 (memberChars gatewayEscape m) = m.toJson.text := by
  obtain ⟨key, value, hclean, hplain⟩ := m
  have htext : utf8 (memberChars gatewayEscape ⟨key, value, hclean, hplain⟩) =
      34 :: (utf8 key ++ 34 :: 58 :: utf8 (valueChars gatewayEscape value)) := by
    rw [memberChars, utf8_cons_of_lt (by decide), utf8_append, utf8_cons_of_lt (by decide),
      utf8_cons_of_lt (by decide)]
    rfl
  rw [htext]
  cases value with
  | number n =>
    rw [valueChars, utf8_number]
    rfl
  | string s =>
    rw [valueChars, utf8_cons_of_lt (by decide), utf8_append, ← escapeJson_utf8]
    rfl

lemma utf8_objectChars (members : List TextMember) :
    utf8 (objectChars gatewayEscape members) =
      JsonMember.objectText (members.map TextMember.toJson) := by
  have hmembers : (members.map (memberChars gatewayEscape)).map utf8 =
      (members.map TextMember.toJson).map JsonMember.text := by
    rw [List.map_map, List.map_map]
    exact List.map_congr_left fun m _ => utf8_memberChars m
  rw [objectChars, utf8_cons_of_lt (by decide), utf8_append, utf8_intercalate, hmembers]
  rfl

/-! ### The gateway reads the browser's text -/

namespace JsonObjectParser

lemma parseStringLoop_browserEscape (c : Char) (value rest : CppString) :
    parseStringLoop value (utf8 (browserEscape c) ++ rest) =
      if IsRareControl c then .error (str "unsupported escape sequence")
      else parseStringLoop (value ++ String.utf8EncodeChar c) rest := by
  split_ifs with hrare
  · have htext : utf8 (browserEscape c) ++ rest =
        92 :: 117 :: (utf8 ['0', '0', hexChar (c.toNat / 16), hexChar (c.toNat % 16)] ++ rest) := by
      rw [browserEscape, if_pos hrare, utf8_cons_of_lt (by decide), utf8_cons_of_lt (by decide)]
      rfl
    rw [htext]
    rfl
  · rw [browserEscape_of_not_rare hrare, ← escapeJson_utf8EncodeChar, parseStringLoop_escapeJson]

/-- The gateway reads what the browser writes for a text if it is clean. -/
lemma parseStringLoop_text (s : List Char) (value rest : CppString) :
    parseStringLoop value (utf8 (s.flatMap browserEscape) ++ 34 :: rest) =
      if Clean s then .ok (value ++ utf8 s, rest)
      else .error (str "unsupported escape sequence") := by
  induction s generalizing value with
  | nil =>
    rw [if_pos (by decide), show utf8 [] = [] from rfl, List.append_nil]
    exact parseStringLoop_quote value rest
  | cons c s ih =>
    have hcons : utf8 (c :: s) = String.utf8EncodeChar c ++ utf8 s := rfl
    rw [List.flatMap_cons, utf8_append, List.append_assoc, parseStringLoop_browserEscape, ih, hcons]
    simp only [clean_cons]
    by_cases hc : IsRareControl c
    · rw [if_pos hc, if_neg (fun h => h.1 hc)]
    · by_cases hs : Clean s
      · rw [if_neg hc, if_pos hs, if_pos ⟨hc, hs⟩, List.append_assoc]
      · rw [if_neg hc, if_neg hs, if_neg (fun h => hs h.2)]

/-- A member with an unclean string is refused. -/
lemma parseMember_unclean {m : TextMember} (h : ¬ m.value.Clean) (rest : CppString) :
    parseMember (utf8 (memberChars browserEscape m) ++ rest) =
      .error (str "unsupported escape sequence") := by
  obtain ⟨key, value, hclean, hplain⟩ := m
  cases value with
  | number n => exact absurd trivial h
  | string s =>
    have hs : ¬ Clean s := h
    have htext : utf8 (memberChars browserEscape ⟨key, .string s, hclean, hplain⟩) ++ rest =
        34 :: (escapeJson (utf8 key) ++
          34 :: 58 :: 34 :: (utf8 (s.flatMap browserEscape) ++ 34 :: rest)) := by
      rw [escapeJson_utf8, hplain, memberChars, valueChars, utf8_cons_of_lt (by decide),
        utf8_append, utf8_cons_of_lt (by decide), utf8_cons_of_lt (by decide),
        utf8_cons_of_lt (by decide), utf8_append]
      simp [utf8, String.utf8EncodeChar]
    have hcolon : ∀ more : CppString, skipWs (58 :: more) = 58 :: more := skipWs_cons (by decide)
    have hquote : ∀ more : CppString, skipWs (34 :: more) = 34 :: more := skipWs_cons (by decide)
    have hvalue : ∀ more : CppString, parseValue (34 :: more) =
        (parseString (34 :: more)).map fun r => ({ isString := true, value := r.1 }, r.2) :=
      fun _ => if_pos List.head?_cons
    have hstring : parseString (34 :: (utf8 (s.flatMap browserEscape) ++ 34 :: rest)) =
        .error (str "unsupported escape sequence") := by
      rw [parseString, if_pos List.head?_cons, List.tail_cons, parseStringLoop_text, if_neg hs]
    simp only [htext, parseMember, parseString_escapeJson, bind, Except.bind, hcolon,
      List.head?_cons, if_true, List.tail_cons, hquote, hvalue, hstring, Except.map]

/-- Members begin with the quote of a key. -/
lemma exists_members_eq (m : TextMember) (members : List TextMember) :
    ∃ more, List.intercalate [44] (((m :: members).map (memberChars browserEscape)).map utf8) ++
      [125] = 34 :: more := by
  have hm : ∃ more, utf8 (memberChars browserEscape m) = 34 :: more := by
    rw [memberChars, utf8_cons_of_lt (by decide)]
    exact ⟨_, rfl⟩
  obtain ⟨more, hm⟩ := hm
  cases members with
  | nil =>
    rw [List.map_cons, List.map_nil, List.map_cons, List.map_nil, List.intercalate_singleton, hm]
    exact ⟨_, rfl⟩
  | cons next members =>
    rw [List.map_cons, List.map_cons, List.map_cons, List.map_cons, List.intercalate_cons_cons, hm]
    exact ⟨_, rfl⟩

/-- The loop stops at the first member with an unclean string. -/
lemma parseMembers_unclean (m : TextMember) (members : List TextMember)
    (h : ¬ AllClean (m :: members)) (out : UnorderedMap CppString JsonValue) :
    parseMembers (List.intercalate [44] (((m :: members).map (memberChars browserEscape)).map utf8)
      ++ [125]) out = .error (str "unsupported escape sequence") := by
  induction members generalizing m out with
  | nil =>
    have hm : ¬ m.value.Clean := fun hm => h (allClean_cons.mpr ⟨hm, List.forall_mem_nil _⟩)
    have hparse := parseMember_unclean hm [125]
    rw [List.map_cons, List.map_nil, List.map_cons, List.map_nil, List.intercalate_singleton,
      parseMembers, if_neg (by simp)]
    split
    next err herr =>
      obtain rfl := Except.error.inj (herr.symm.trans hparse)
      rfl
    next hok => simp [hparse] at hok
  | cons next members ih =>
    have htext : List.intercalate [44]
          (((m :: next :: members).map (memberChars browserEscape)).map utf8) ++ [125] =
        utf8 (memberChars browserEscape m) ++ 44 :: (List.intercalate [44]
          (((next :: members).map (memberChars browserEscape)).map utf8) ++ [125]) := by
      simp [List.intercalate_cons_cons]
    have hne : ∀ rest, utf8 (memberChars browserEscape m) ++ 44 :: rest ≠ [] := by simp
    have hskip : skipWs (List.intercalate [44]
          (((next :: members).map (memberChars browserEscape)).map utf8) ++ [125]) =
        List.intercalate [44]
          (((next :: members).map (memberChars browserEscape)).map utf8) ++ [125] := by
      obtain ⟨more, hmore⟩ := exists_members_eq next members
      rw [hmore]
      exact skipWs_cons (by decide) more
    have ih := ih next
    generalize List.intercalate [44] (((next :: members).map
      (memberChars browserEscape)).map utf8) ++ [125] = more at htext hskip ih
    rw [htext, parseMembers, if_neg (hne more)]
    by_cases hm : m.value.Clean
    · have hmore : ¬ AllClean (next :: members) := fun hmore => h (allClean_cons.mpr ⟨hm, hmore⟩)
      have hparse : parseMember (utf8 (memberChars browserEscape m) ++ 44 :: more) =
          .ok ((m.toJson.key, m.toJson.value), 44 :: more) := by
        rw [memberChars_browser hm, utf8_memberChars]
        exact JsonMember.parseMember_text _ (Or.inl rfl)
      split
      next err herr => simp [hparse] at herr
      next member rest hok =>
        obtain ⟨rfl, rfl⟩ := Prod.mk.inj (Except.ok.inj (hparse.symm.trans hok))
        simp only [List.head?_cons, if_true, List.tail_cons, hskip]
        exact ih hmore _
    · have hparse := parseMember_unclean hm (44 :: more)
      split
      next err herr =>
        obtain rfl := Except.error.inj (herr.symm.trans hparse)
        rfl
      next hok => simp [hparse] at hok

/-- The gateway reads the browser's text if all strings are clean. -/
theorem parse_objectChars (m : TextMember) (members : List TextMember) :
    parse (utf8 (objectChars browserEscape (m :: members))) =
      if AllClean (m :: members) then
        .ok (JsonMember.fields ((m :: members).map TextMember.toJson) ∅)
      else .error (str "unsupported escape sequence") := by
  split_ifs with hclean
  · rw [objectChars_browser hclean, utf8_objectChars]
    exact JsonMember.parse_objectText _ _
  · have htext : utf8 (objectChars browserEscape (m :: members)) = 123 ::
        (List.intercalate [44] (((m :: members).map (memberChars browserEscape)).map utf8) ++
          [125]) := by
      rw [objectChars, utf8_cons_of_lt (by decide), utf8_append, utf8_intercalate]
      rfl
    have hparse := parseMembers_unclean m members hclean ∅
    obtain ⟨more, hmore⟩ := exists_members_eq m members
    rw [hmore] at htext hparse
    rw [htext, parse, skipWs_cons (by decide), if_pos List.head?_cons, List.tail_cons,
      skipWs_cons (by decide), if_neg (by simp), hparse]

end JsonObjectParser

/-! ### Envelopes -/

/-- An envelope that both sides can hold: its strings are any texts, and its numbers are those of
the gateway that the browser holds exactly. -/
structure TextEnvelope where
  msgId : UInt32
  seqId : UInt32
  playerId : ℤ
  body : List Char
  h5RequestId : Option (List Char) := none
  gatewayTraceId : Option (List Char) := none
  serverTraceId : Option (List Char) := none
  isSafeInteger_playerId : IsSafeInteger playerId

namespace TextEnvelope

variable (e : TextEnvelope)

/-- The envelope of the browser. -/
def toClient : Client.Envelope where
  msgId := e.msgId.toNat
  seqId := e.seqId.toNat
  playerId := e.playerId
  body := JsString.ofText e.body
  h5RequestId := e.h5RequestId.map JsString.ofText
  gatewayTraceId := e.gatewayTraceId.map JsString.ofText
  serverTraceId := e.serverTraceId.map JsString.ofText

/-- The envelope of the gateway; a missing string is empty. -/
def toGateway : GatewayEnvelope where
  msgId := e.msgId
  seqId := e.seqId
  playerId := Int64.ofInt e.playerId
  body := utf8 e.body
  h5RequestId := utf8 (e.h5RequestId.getD [])
  gatewayTraceId := utf8 (e.gatewayTraceId.getD [])
  serverTraceId := utf8 (e.serverTraceId.getD [])

/-- A string that is there and not empty. -/
def present (s : Option (List Char)) : Option (List Char) := s.filter (· ≠ [])

/-- The envelope as the browser has it when it comes from the gateway. -/
def received : Client.ReceivedEnvelope where
  msgId := .integer e.msgId.toNat
  seqId := .integer e.seqId.toNat
  playerId := .integer e.playerId
  body := JsString.ofText e.body
  h5RequestId := (present e.h5RequestId).map fun s => .string (JsString.ofText s)
  gatewayTraceId := (present e.gatewayTraceId).map fun s => .string (JsString.ofText s)
  serverTraceId := (present e.serverTraceId).map fun s => .string (JsString.ofText s)

/-- The text the gateway gets from the browser. -/
def fromBrowser : CppString := utf8 (JsString.toText (Client.toEnvelopeText e.toClient))

/-- What the browser gets from the gateway. -/
def atBrowser : Option Client.ReceivedEnvelope :=
  (ofUtf8 (buildEnvelopeJson e.toGateway)).bind fun text =>
    Client.parseEnvelopeText (JsString.ofText text)

/-- No string of the envelope has a control character without a short escape. -/
def Clean : Prop :=
  ObjectText.Clean e.body ∧ (∀ s ∈ e.h5RequestId, ObjectText.Clean s) ∧
    (∀ s ∈ e.gatewayTraceId, ObjectText.Clean s) ∧ ∀ s ∈ e.serverTraceId, ObjectText.Clean s

/-! ### Their members -/

def IsAscii (s : List Char) : Prop := ∀ c ∈ s, c.toNat < 128

instance (s : List Char) : Decidable (IsAscii s) := List.decidableBAll _ s

/-- The names of the members need no escape on either side. -/
def IsPlain (name : String) : Prop :=
  IsAscii name.toList ∧ ObjectText.Clean name.toList ∧
    name.toList.flatMap gatewayEscape = name.toList ∧ escapeJson (str name) = str name

instance (name : String) : Decidable (IsPlain name) := inferInstanceAs (Decidable (_ ∧ _))

def member (name : String) (value : TextValue) (h : IsPlain name) : TextMember :=
  ⟨name.toList, value, h.2.1, h.2.2.1⟩

def optionalMember (name : String) (value : Option (List Char)) (h : IsPlain name) :
    List TextMember :=
  (value.map fun s => member name (.string s) h).toList

/-- The members of an envelope, with the optional ones that are there. -/
def members (h5 gateway server : Option (List Char)) : List TextMember :=
  member "msg_id" (.number e.msgId.toNat) (by decide +kernel) ::
    member "seq_id" (.number e.seqId.toNat) (by decide +kernel) ::
    member "player_id" (.number e.playerId) (by decide +kernel) ::
    member "body" (.string e.body) (by decide +kernel) ::
    (optionalMember "h5_request_id" h5 (by decide +kernel) ++
      optionalMember "gateway_trace_id" gateway (by decide +kernel) ++
      optionalMember "server_trace_id" server (by decide +kernel))

lemma toEnvelopeText_toClient :
    Client.toEnvelopeText e.toClient = JsString.ofText (objectChars browserEscape
      (e.members e.h5RequestId e.gatewayTraceId e.serverTraceId)) := by
  rw [← stringifyObject_members, Client.toEnvelopeText]
  have hoptional : ∀ (name : String) (value : Option (List Char)) (h : IsPlain name),
      (optionalMember name value h).map (fun m => (JsString.ofText m.key, m.value.scalar)) =
      Client.optionalProperty name (value.map JsString.ofText) := by
    intro name value h
    cases value with
    | none => rfl
    | some s => rfl
  simp only [members, List.map_cons, List.map_append, hoptional]
  rfl

lemma utf8_toList_eq_str {name : String} (h : IsAscii name.toList) :
    utf8 name.toList = str name := by
  unfold str
  generalize name.toList = cs at h
  induction cs with
  | nil => rfl
  | cons c cs ih =>
    obtain ⟨hc, hcs⟩ := List.forall_mem_cons.mp h
    rw [utf8_cons_of_lt hc, ih hcs, List.map_cons]

lemma toJson_number {name : String} (h : IsPlain name) (n : ℤ) :
    (member name (.number n) h).toJson = JsonMember.ofNumber (str name) n h.2.2.2 := by
  simp [TextMember.toJson, member, utf8_toList_eq_str h.1]

lemma toJson_string {name : String} (h : IsPlain name) (s : List Char) :
    (member name (.string s) h).toJson =
      JsonMember.ofString (str name) (utf8 s) h.2.2.2 := by
  simp [TextMember.toJson, member, utf8_toList_eq_str h.1]

lemma map_toJson_optional {name : String} (h : IsPlain name) (value : Option (List Char)) :
    (optionalMember name value h).map TextMember.toJson =
      JsonMember.ofOptional (str name) (value.map utf8) h.2.2.2 := by
  cases value with
  | none => rfl
  | some s => exact congrArg (fun m => [m]) (toJson_string h s)

lemma toInt_playerId : (Int64.ofInt e.playerId).toInt = e.playerId := by
  have hsafe := e.isSafeInteger_playerId
  unfold IsSafeInteger at hsafe
  exact Int64.toInt_ofInt_of_le (by omega) (by omega)

/-- The members are those of the gateway's envelope. -/
lemma map_toJson_members (h5 gateway server : Option (List Char)) :
    (e.members h5 gateway server).map TextMember.toJson =
      JsonMember.ofEnvelope e.msgId e.seqId (Int64.ofInt e.playerId) (utf8 e.body) (h5.map utf8)
        (gateway.map utf8) (server.map utf8) := by
  simp only [members, List.map_cons, List.map_append, toJson_number, toJson_string,
    map_toJson_optional, JsonMember.ofEnvelope, JsonMember.required, toInt_playerId,
    List.cons_append, List.nil_append, List.append_assoc]

/-- A string counts as missing for the gateway if it is empty. -/
lemma nonEmpty_utf8 (s : Option (List Char)) : nonEmpty (utf8 (s.getD [])) =
    (present s).map utf8 := by
  cases s with
  | none => rfl
  | some s =>
    cases s with
    | nil => rfl
    | cons c s =>
      have hne : utf8 (c :: s) ≠ [] := by simp [utf8]
      exact if_neg hne

lemma buildEnvelopeJson_toGateway :
    buildEnvelopeJson e.toGateway = utf8 (objectChars gatewayEscape
      (e.members (present e.h5RequestId) (present e.gatewayTraceId)
        (present e.serverTraceId))) := by
  rw [buildEnvelopeJson_eq, utf8_objectChars, map_toJson_members]
  simp only [toGateway, nonEmpty_utf8]

/-- The strings of the members are those of the envelope. -/
lemma allClean_members (h5 gateway server : Option (List Char)) :
    AllClean (e.members h5 gateway server) ↔
      ObjectText.Clean e.body ∧ (∀ s ∈ h5, ObjectText.Clean s) ∧
        (∀ s ∈ gateway, ObjectText.Clean s) ∧ ∀ s ∈ server, ObjectText.Clean s := by
  have hoptional : ∀ (name : String) (value : Option (List Char)) (h : IsPlain name),
      (∀ m ∈ optionalMember name value h, m.value.Clean) ↔ ∀ s ∈ value, ObjectText.Clean s := by
    intro name value h
    cases value with
    | none => simp [optionalMember]
    | some s => simp [optionalMember, member, TextValue.Clean]
  simp only [AllClean, members, List.forall_mem_cons, List.forall_mem_append, hoptional, and_assoc]
  simp only [member, TextValue.Clean, true_and]

lemma allClean_present :
    AllClean (e.members (present e.h5RequestId) (present e.gatewayTraceId)
      (present e.serverTraceId)) ↔ e.Clean := by
  have hpresent : ∀ o : Option (List Char),
      (∀ s ∈ present o, ObjectText.Clean s) ↔ ∀ s ∈ o, ObjectText.Clean s := by
    intro o
    cases o with
    | none => exact Iff.rfl
    | some s =>
      cases s with
      | nil => simp [present, ObjectText.Clean]
      | cons c s => exact Iff.rfl
  rw [allClean_members, hpresent, hpresent, hpresent]
  rfl

/-! ### Agreement -/

/-- The gateway reads the browser's envelope if its strings are clean. -/
lemma parseEnvelopeJson_fromBrowser :
    parseEnvelopeJson e.fromBrowser =
      if AllClean (e.members e.h5RequestId e.gatewayTraceId e.serverTraceId) then .ok e.toGateway
      else .error (str "unsupported escape sequence") := by
  have htext : e.fromBrowser = utf8 (objectChars browserEscape
      (e.members e.h5RequestId e.gatewayTraceId e.serverTraceId)) := by
    rw [fromBrowser, toEnvelopeText_toClient, JsString.toText_ofText]
  rw [htext]
  split_ifs with hclean
  · have hgetD : ∀ o : Option (List Char), (o.map utf8).getD [] = utf8 (o.getD []) := by
      intro o
      cases o with
      | none => rfl
      | some s => rfl
    rw [objectChars_browser hclean, utf8_objectChars, map_toJson_members,
      parseEnvelopeJson_objectText, hgetD, hgetD, hgetD]
    rfl
  · have hparse : JsonObjectParser.parse (utf8 (objectChars browserEscape
        (e.members e.h5RequestId e.gatewayTraceId e.serverTraceId))) = _ :=
      JsonObjectParser.parse_objectChars _ _
    rw [parseEnvelopeJson, hparse]
    exact congrArg (· >>= envelopeOfFields) (if_neg hclean)

lemma jsStr_inj {a b : String} : Json.jsStr a = Json.jsStr b ↔ a = b := by
  constructor
  · intro h
    have h := congrArg JsString.toText h
    rw [Json.jsStr, Json.jsStr, JsString.toText_ofText, JsString.toText_ofText] at h
    exact String.toList_inj.mp h
  · rintro rfl
    rfl

/-- The last member with a name gives the property. -/
lemma property_append_member (members : List TextMember) (name key : String) (v : TextValue)
    (h : IsPlain key) :
    Client.property (.object ((members ++ [member key v h]).map TextMember.received)) name =
      if key = name then some v.received
      else Client.property (.object (members.map TextMember.received)) name := by
  have hkey : (member key v h).received.1 = Json.jsStr name ↔ key = name := jsStr_inj
  simp only [Client.property, List.map_append, List.map_cons, List.map_nil, List.reverse_append,
    List.reverse_cons, List.reverse_nil, List.nil_append, List.cons_append, List.find?_cons]
  by_cases hname : key = name
  · rw [if_pos hname, decide_eq_true (hkey.mpr hname)]
    rfl
  · rw [if_neg hname, decide_eq_false (hkey.not.mpr hname)]

lemma property_append_optional (members : List TextMember) (name key : String)
    (value : Option (List Char)) (h : IsPlain key) :
    Client.property (.object ((members ++ optionalMember key value h).map TextMember.received))
        name =
      if key = name ∧ value.isSome then value.map fun s => .string (JsString.ofText s)
      else Client.property (.object (members.map TextMember.received)) name := by
  cases value with
  | none => simp [optionalMember]
  | some s =>
    simp only [Option.isSome_some, and_true]
    exact property_append_member members name key (.string s) h

/-- The properties of an envelope are those of its members. -/
lemma property_members (name : String) (h5 gateway server : Option (List Char)) :
    Client.property (.object ((e.members h5 gateway server).map TextMember.received)) name =
      if "server_trace_id" = name ∧ server.isSome then
        server.map fun s => .string (JsString.ofText s)
      else if "gateway_trace_id" = name ∧ gateway.isSome then
        gateway.map fun s => .string (JsString.ofText s)
      else if "h5_request_id" = name ∧ h5.isSome then
        h5.map fun s => .string (JsString.ofText s)
      else if "body" = name then some (.string (JsString.ofText e.body))
      else if "player_id" = name then some (.number (Json.ofInt e.playerId))
      else if "seq_id" = name then some (.number (Json.ofInt e.seqId.toNat))
      else if "msg_id" = name then some (.number (Json.ofInt e.msgId.toNat))
      else none := by
  have hmembers : e.members h5 gateway server =
      [] ++ [member "msg_id" (.number e.msgId.toNat) (by decide +kernel)] ++
        [member "seq_id" (.number e.seqId.toNat) (by decide +kernel)] ++
        [member "player_id" (.number e.playerId) (by decide +kernel)] ++
        [member "body" (.string e.body) (by decide +kernel)] ++
        optionalMember "h5_request_id" h5 (by decide +kernel) ++
        optionalMember "gateway_trace_id" gateway (by decide +kernel) ++
        optionalMember "server_trace_id" server (by decide +kernel) := by
    simp [members]
  rw [hmembers, property_append_optional, property_append_optional, property_append_optional,
    property_append_member, property_append_member, property_append_member,
    property_append_member]
  rfl

/-- The browser's envelope from the members. -/
lemma parseEnvelopeText_members (h5 gateway server : Option (List Char)) :
    Client.parseEnvelopeText (JsString.ofText (objectChars gatewayEscape
        (e.members h5 gateway server))) =
      if AllClean (e.members h5 gateway server) then
        some {
          msgId := .integer e.msgId.toNat, seqId := .integer e.seqId.toNat
          playerId := .integer e.playerId, body := JsString.ofText e.body
          h5RequestId := h5.map fun s => .string (JsString.ofText s)
          gatewayTraceId := gateway.map fun s => .string (JsString.ofText s)
          serverTraceId := server.map fun s => .string (JsString.ofText s) }
      else none := by
  have hparse : Json.parse (JsString.ofText (objectChars gatewayEscape
      (e.members h5 gateway server))) =
      if AllClean (e.members h5 gateway server) then
        some (.object ((e.members h5 gateway server).map TextMember.received))
      else none := ObjectText.parse_objectChars _ _
  rw [Client.parseEnvelopeText, hparse]
  by_cases hclean : AllClean (e.members h5 gateway server)
  · have hproperty := fun name => e.property_members name h5 gateway server
    have hsafe : ∀ n : UInt32, Json.ofInt n.toNat = .integer n.toNat := by
      intro n
      have hlt := n.toNat_lt
      exact if_pos ⟨by omega, by omega⟩
    have hplayer : Json.ofInt e.playerId = .integer e.playerId := if_pos e.isSafeInteger_playerId
    rw [if_pos hclean, if_pos hclean]
    have hoptional : ∀ o : Option (List Char),
        (if o.isSome = true then o.map fun s => JsValue.string (JsString.ofText s) else none) =
          o.map fun s => .string (JsString.ofText s) := by
      intro o
      cases o with
      | none => rfl
      | some s => rfl
    simp only [hproperty, hsafe, hplayer, String.reduceEq, false_and, true_and, if_false, if_true,
      hoptional]
  · rw [if_neg hclean, if_neg hclean]

/-- The browser reads the gateway's envelope if its strings are clean. -/
lemma atBrowser_eq :
    e.atBrowser =
      if AllClean (e.members (present e.h5RequestId) (present e.gatewayTraceId)
        (present e.serverTraceId)) then some e.received else none := by
  rw [atBrowser, buildEnvelopeJson_toGateway, ofUtf8_utf8, Option.bind_some,
    parseEnvelopeText_members]
  rfl

/-- Gateway and browser have the envelope from each other exactly when no string has a control
character without a short escape; else neither has it. -/
theorem both_directions_iff (e : TextEnvelope) :
    (parseEnvelopeJson e.fromBrowser = .ok e.toGateway ↔ e.Clean) ∧
      (e.atBrowser = some e.received ↔ e.Clean) := by
  constructor
  · have hmembers : AllClean (e.members e.h5RequestId e.gatewayTraceId e.serverTraceId) ↔
        e.Clean := e.allClean_members _ _ _
    rw [parseEnvelopeJson_fromBrowser]
    constructor
    · intro h
      by_contra hclean
      rw [if_neg (hmembers.not.mpr hclean)] at h
      cases h
    · intro hclean
      exact if_pos (hmembers.mpr hclean)
  · rw [atBrowser_eq]
    constructor
    · intro h
      by_contra hclean
      rw [if_neg (e.allClean_present.not.mpr hclean)] at h
      cases h
    · intro hclean
      exact if_pos (e.allClean_present.mpr hclean)

/-- A body that is the control character U+0001. -/
def startOfHeading : TextEnvelope where
  msgId := 1
  seqId := 1
  playerId := 0
  body := [Char.ofNat 1]
  isSafeInteger_playerId := by decide

/-- The browser's escape for it is refused by the gateway, and the gateway's text for it by the
browser. -/
theorem control_character_lost :
    parseEnvelopeJson startOfHeading.fromBrowser = .error (str "unsupported escape sequence") ∧
      startOfHeading.atBrowser = none := by
  constructor
  · rw [parseEnvelopeJson_fromBrowser]
    exact if_neg (by decide)
  · rw [atBrowser_eq]
    exact if_neg (by decide)

end TextEnvelope

end DdzServer
