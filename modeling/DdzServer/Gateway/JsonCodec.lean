import DdzServer.Lib.UnorderedMap
import DdzServer.Util.DecimalText

/-!
# The envelopes between gateway and browser

`gateway/json_codec.cpp`: a scanner for flat JSON objects, the reader of envelopes on top of it, and
the writer. The scanner works on what is left of the text.
-/

namespace DdzServer

/-- A value of an object: a string without its escapes, or any other token as it stands. -/
structure JsonValue where
  isString : Bool := false
  value : CppString := []
deriving DecidableEq

namespace JsonObjectParser

def skipWs (text : CppString) : CppString := text.dropWhile isSpace

/-- The byte an escape stands for, in `ParseString`. -/
def unescape : UInt8 → Option UInt8
  | 34  => some 34
  | 92  => some 92
  | 47  => some 47
  | 98  => some 8
  | 102 => some 12
  | 110 => some 10
  | 114 => some 13
  | 116 => some 9
  | _   => none

/-- The loop of `ParseString`, behind the opening quote: the string and the text after it. -/
def parseStringLoop (value : CppString) : CppString → Except CppString (CppString × CppString)
  | []         => .error (str "unterminated string")
  | ch :: text =>
    if ch = 34 then .ok (value, text)
    else if ch = 92 then
      match text with
      | []          => .error (str "invalid escape")
      | esc :: text =>
        match unescape esc with
        | some b => parseStringLoop (value ++ [b]) text
        | none   => .error (str "unsupported escape sequence")
    else parseStringLoop (value ++ [ch]) text

def parseString (text : CppString) : Except CppString (CppString × CppString) :=
  if text.head? = some 34 then parseStringLoop [] text.tail
  else .error (str "expected string")

/-- The bytes a raw token consists of. -/
def isTokenByte (ch : UInt8) : Bool := ch != 44 && ch != 125 && !isSpace ch

def parseRawToken (text : CppString) : Except CppString (CppString × CppString) :=
  if text.takeWhile isTokenByte = [] then .error (str "empty token")
  else .ok (text.takeWhile isTokenByte, text.dropWhile isTokenByte)

def parseValue (text : CppString) : Except CppString (JsonValue × CppString) :=
  if text.head? = some 34 then
    (parseString text).map fun r => ({ isString := true, value := r.1 }, r.2)
  else
    (parseRawToken text).map fun r => ({ isString := false, value := r.1 }, r.2)

/-- One round of the loop of `Parse` up to the white space after the value. -/
def parseMember (text : CppString) : Except CppString ((CppString × JsonValue) × CppString) := do
  let (key, text) ← parseString text
  if (skipWs text).head? = some 58 then
    let (value, text) ← parseValue (skipWs (skipWs text).tail)
    return ((key, value), skipWs text)
  else .error (str "missing ':'")

lemma length_skipWs_le (text : CppString) : (skipWs text).length ≤ text.length :=
  (List.dropWhile_suffix _).length_le

lemma length_parseStringLoop_lt {value text v rest : CppString}
    (h : parseStringLoop value text = .ok (v, rest)) : rest.length < text.length := by
  fun_induction parseStringLoop value text with
  | case1 => cases h
  | case2 value text =>
    cases h
    exact Nat.lt_succ_self _
  | case3 => cases h
  | case4 value esc text b hb h34 ih =>
    have := ih h
    simp only [List.length_cons]
    omega
  | case5 => cases h
  | case6 value ch text h34 h92 ih =>
    have := ih h
    simp only [List.length_cons]
    omega

lemma length_parseString_lt {text v rest : CppString} (h : parseString text = .ok (v, rest)) :
    rest.length < text.length := by
  unfold parseString at h
  split_ifs at h
  have hlt := length_parseStringLoop_lt h
  rw [List.length_tail] at hlt
  omega

lemma length_parseValue_le {text rest : CppString} {value : JsonValue}
    (h : parseValue text = .ok (value, rest)) : rest.length ≤ text.length := by
  unfold parseValue at h
  split_ifs at h with hquote
  · cases hs : parseString text with
    | error err => simp [hs, Except.map] at h
    | ok r =>
      obtain ⟨v, rest'⟩ := r
      simp only [hs, Except.map, Except.ok.injEq, Prod.mk.injEq] at h
      exact h.2 ▸ (length_parseString_lt hs).le
  · unfold parseRawToken at h
    split_ifs at h
    · simp [Except.map] at h
    · simp only [Except.map, Except.ok.injEq, Prod.mk.injEq] at h
      exact h.2 ▸ (List.dropWhile_suffix _).length_le

/-- A member takes at least the quotes of its key. -/
lemma length_parseMember_lt {text rest : CppString} {member : CppString × JsonValue}
    (h : parseMember text = .ok (member, rest)) : rest.length < text.length := by
  unfold parseMember at h
  cases hs : parseString text with
  | error err => simp [hs, bind, Except.bind] at h
  | ok r =>
    obtain ⟨key, text'⟩ := r
    simp only [hs, bind, Except.bind] at h
    split_ifs at h
    cases hv : parseValue (skipWs (skipWs text').tail) with
    | error err => simp [hv] at h
    | ok q =>
      obtain ⟨value, text''⟩ := q
      simp only [hv, pure, Except.pure, Except.ok.injEq, Prod.mk.injEq] at h
      have hlt := length_parseString_lt hs
      have hle := length_parseValue_le hv
      have h₁ := length_skipWs_le (skipWs text').tail
      have h₂ := length_skipWs_le text'
      have h₃ := length_skipWs_le text''
      rw [List.length_tail] at h₁
      rw [← h.2]
      omega

/-- The loop of `Parse`. -/
def parseMembers (text : CppString) (out : UnorderedMap CppString JsonValue) :
    Except CppString (UnorderedMap CppString JsonValue) :=
  if text = [] then .error (str "unexpected end of json")
  else
    match _h : parseMember text with
    | .error err           => .error err
    | .ok (member, rest) =>
      let out := Finmap.insert member.1 member.2 out
      if rest.head? = some 44 then parseMembers (skipWs rest.tail) out
      else if rest.head? = some 125 then
        if skipWs rest.tail = [] then .ok out
        else .error (str "unexpected trailing characters")
      else .error (str "missing ',' or '\x7d'")
termination_by text.length
decreasing_by
  have hlt := length_parseMember_lt _h
  have hle := length_skipWs_le rest.tail
  rw [List.length_tail] at hle
  omega

/-- `Parse`. -/
def parse (text : CppString) : Except CppString (UnorderedMap CppString JsonValue) :=
  if (skipWs text).head? = some 123 then
    if (skipWs (skipWs text).tail).head? = some 125 then .ok ∅
    else parseMembers (skipWs (skipWs text).tail) ∅
  else .error (str "json must start with '\x7b'")

end JsonObjectParser

/-! ### Numbers -/

/-- `std::stoull`: a minus sign is read and wraps. -/
def stoull (text : CppString) : Option (ℤ × ℕ) :=
  (parseInteger (-(2 ^ 64 - 1)) (2 ^ 64 - 1) text).map fun r => (r.1 % 2 ^ 64, r.2)

/-- `ParseU32Strict`. -/
def parseU32Strict (text : CppString) : Option UInt32 :=
  match stoull text with
  | some (v, idx) =>
    if idx ≠ text.length ∨ 0xFFFFFFFF < v then none else some (UInt32.ofNat v.toNat)
  | none => none

/-! ### Envelopes -/

structure GatewayEnvelope where
  msgId : UInt32 := 0
  seqId : UInt32 := 0
  playerId : Int64 := 0
  body : CppString := []
  h5RequestId : CppString := []
  gatewayTraceId : CppString := []
  serverTraceId : CppString := []
deriving DecidableEq

/-- A field that may be missing, or be no string. -/
def optionalString (fields : UnorderedMap CppString JsonValue) (key : CppString) : CppString :=
  match fields.lookup key with
  | some v => if v.isString then v.value else []
  | none   => []

/-- `ParseEnvelopeJson`, behind the scanner. -/
def envelopeOfFields (fields : UnorderedMap CppString JsonValue) :
    Except CppString GatewayEnvelope :=
  match fields.lookup (str "msg_id"), fields.lookup (str "seq_id"),
    fields.lookup (str "player_id"), fields.lookup (str "body") with
  | some msg, some seq, some pid, some body =>
    match parseU32Strict msg.value, parseU32Strict seq.value, parseI64Strict pid.value with
    | some msgId, some seqId, some playerId =>
      if !body.isString then .error (str "body must be string")
      else
        .ok { msgId := msgId, seqId := seqId, playerId := Int64.ofInt playerId, body := body.value
              h5RequestId := optionalString fields (str "h5_request_id")
              gatewayTraceId := optionalString fields (str "gateway_trace_id")
              serverTraceId := optionalString fields (str "server_trace_id") }
    | _, _, _ => .error (str "invalid number field")
  | _, _, _, _ => .error (str "missing required fields")

/-- `ParseEnvelopeJson`. -/
def parseEnvelopeJson (text : CppString) : Except CppString GatewayEnvelope :=
  JsonObjectParser.parse text >>= envelopeOfFields

/-- What `EscapeJson` writes for a byte. -/
def escapeByte : UInt8 → CppString
  | 34 => [92, 34]
  | 92 => [92, 92]
  | 8  => [92, 98]
  | 12 => [92, 102]
  | 10 => [92, 110]
  | 13 => [92, 114]
  | 9  => [92, 116]
  | ch => [ch]

/-- `EscapeJson`. -/
def escapeJson (text : CppString) : CppString := text.flatMap escapeByte

/-- A member that is written only if it is not empty. -/
def optionalMember (name value : CppString) : CppString :=
  if value = [] then [] else str ",\"" ++ name ++ str "\":\"" ++ escapeJson value ++ str "\""

/-- `BuildEnvelopeJson`. -/
def buildEnvelopeJson (envelope : GatewayEnvelope) : CppString :=
  str "\x7b" ++ str "\"msg_id\":" ++ toStr envelope.msgId.toNat ++ str "," ++
    str "\"seq_id\":" ++ toStr envelope.seqId.toNat ++ str "," ++
    str "\"player_id\":" ++ toStr envelope.playerId.toInt ++ str "," ++
    str "\"body\":\"" ++ escapeJson envelope.body ++ str "\"" ++
    optionalMember (str "h5_request_id") envelope.h5RequestId ++
    optionalMember (str "gateway_trace_id") envelope.gatewayTraceId ++
    optionalMember (str "server_trace_id") envelope.serverTraceId ++ str "\x7d"

end DdzServer
