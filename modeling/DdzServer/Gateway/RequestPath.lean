import DdzServer.Client.GameService
import DdzServer.Gateway.ProxySession
import DdzServer.Gateway.SessionRefresh
import DdzServer.Network.TcpConnection
import DdzServer.Server.ActionText
import DdzServer.Server.Requests

/-!
# From the user to the handlers

A request of a user is written by the browser, checked and sent on by the gateway, cut into pieces
by TCP, and read by the server. It arrives as it was meant if its texts have neither a semicolon nor
a control character that the gateway does not know; otherwise it is refused or taken for another.
-/

namespace DdzServer

open ObjectText

namespace ClientRequest

/-- What the server is asked for. -/
def meant (playerId : ℤ) : ClientRequest → ServerRequest
  | .login loginTicket nickname => .login (utf8 loginTicket) (some (utf8 nickname))
  | .heartbeat _                => .heartbeat
  | .startMatch mode            => .match mode
  | .cancelMatch                => .cancelMatch
  | .reconnect token roomId snapshotVersion =>
    .reconnect playerId (utf8 token) roomId snapshotVersion
  | .refreshSession token roomId => .sessionRefresh playerId (utf8 token) roomId
  | .callScore roomId score =>
    .playerAction roomId { actionType := .callScore, callScore := score }
  | .robLandlord roomId rob =>
    .playerAction roomId { actionType := .robLandlord, rob := if rob then 1 else 0 }
  | .playCards roomId cards => .playerAction roomId { actionType := .playCards, cards := cards }
  | .passTurn roomId        => .playerAction roomId { actionType := .pass }

/-- A number of 32 bits. -/
def IsInt32 (n : ℤ) : Prop := -(2 ^ 31) ≤ n ∧ n < 2 ^ 31

/-- A request that the views of the client can make. -/
def Valid : ClientRequest → Prop
  | .login loginTicket _ => loginTicket ≠ []
  | .startMatch mode     => mode = 3
  | .reconnect token roomId snapshotVersion =>
    token ≠ [] ∧ IsSafeInteger roomId ∧ IsSafeInteger snapshotVersion
  | .refreshSession token roomId => token ≠ [] ∧ IsSafeInteger roomId
  | .callScore roomId score      => 0 < roomId ∧ IsSafeInteger roomId ∧ IsInt32 score
  | .robLandlord roomId _        => 0 < roomId ∧ IsSafeInteger roomId
  | .playCards roomId cards      =>
    0 < roomId ∧ IsSafeInteger roomId ∧ ∀ card ∈ cards, IsInt32 card
  | .passTurn roomId => 0 < roomId ∧ IsSafeInteger roomId
  | _                => True

end ClientRequest

/-! ### Bodies -/

lemma utf8_numberText (n : ℤ) : utf8 (numberText n) = toStr n := utf8_number n

lemma utf8_ne_nil {s : List Char} (h : s ≠ []) : utf8 s ≠ [] := by
  obtain ⟨c, s, rfl⟩ := List.exists_cons_of_ne_nil h
  have hcons : utf8 (c :: s) = String.utf8EncodeChar c ++ utf8 s := rfl
  rw [hcons]
  intro hnil
  exact String.utf8EncodeChar_ne_nil (List.append_eq_nil_iff.mp hnil).1

/-- A semicolon is the same character on both sides. -/
lemma mem_utf8 {s : List Char} : 59 ∈ utf8 s ↔ ';' ∈ s := by
  have hsemicolon : Char.toNat ';' = 59 := rfl
  have hchar : ∀ c : Char, 59 ∈ String.utf8EncodeChar c ↔ ';' = c := by
    intro c
    rcases utf8EncodeChar_cases c with ⟨hlt, heq⟩ | ⟨hle, hall⟩
    · rw [heq, List.mem_singleton, ← Char.toNat_inj, hsemicolon, ← UInt8.toNat_inj,
        UInt8.toNat_ofNat_of_lt' (lt_trans hlt (by decide))]
      rfl
    · constructor
      · intro hmem
        exact absurd (hall 59 hmem) (by decide)
      · rintro rfl
        exact absurd hle (by decide)
  simp [utf8, List.mem_flatMap, hchar]

/-- The names of fields are the same on both sides. -/
lemma utf8_buildKv {fields : List (String × List Char)}
    (h : ∀ f ∈ fields, TextEnvelope.IsAscii f.1.toList) :
    utf8 (buildKv fields) = buildKvBody (fields.map fun f => (str f.1, utf8 f.2)) := by
  rw [buildKv, utf8_intercalate, buildKvBody, List.map_map, List.map_map]
  have hsep : utf8 [';'] = str ";" := by decide +kernel
  rw [hsep]
  refine congrArg _ (List.map_congr_left fun f hf => ?_)
  have heq : utf8 ('=' :: f.2) = str "=" ++ utf8 f.2 := utf8_cons_of_lt (by decide) f.2
  simp only [Function.comp_apply, utf8_append, TextEnvelope.utf8_toList_eq_str (h f hf), heq,
    List.append_assoc]

/-- A list of numbers is the same on both sides. -/
lemma utf8_numbers (cards : List ℤ) :
    utf8 (List.intercalate [','] (cards.map numberText)) = joinNumberList cards := by
  have hsep : utf8 [','] = str "," := by decide +kernel
  rw [utf8_intercalate, hsep, joinNumberList, List.map_map]
  exact congrArg _ (List.map_congr_left fun n _ => utf8_numberText n)

/-! ### Texts without separators and control characters -/

/-- Digits, and the signs between them. -/
def IsNumeric (s : List Char) : Prop := ∀ c ∈ s, 44 ≤ c.toNat ∧ c.toNat ≤ 57

lemma isNumeric_numberText (n : ℤ) : IsNumeric (numberText n) := by
  intro c hc
  obtain ⟨b, hb, rfl⟩ := List.mem_map.mp hc
  have hbounds : 44 ≤ b.toNat ∧ b.toNat ≤ 57 := by
    rcases mem_toStr hb with rfl | hdigit
    · decide
    · have hdigit := digit_bounds hdigit
      omega
  rw [toNat_ofNat_ascii (by omega)]
  exact hbounds

/-- A property of the characters of texts that are joined. -/
lemma forall_mem_intercalate_iff {P : Char → Prop} {sep : List Char} (hsep : ∀ c ∈ sep, P c)
    (texts : List (List Char)) :
    (∀ c ∈ List.intercalate sep texts, P c) ↔ ∀ text ∈ texts, ∀ c ∈ text, P c := by
  induction texts with
  | nil => simp
  | cons first texts ih =>
    cases texts with
    | nil => simp
    | cons next texts =>
      rw [List.intercalate_cons_cons, List.forall_mem_append, List.forall_mem_append, ih,
        and_iff_left hsep]
      exact (List.forall_mem_cons (p := fun text => ∀ c ∈ text, P c)).symm

lemma isNumeric_cards (cards : List ℤ) :
    IsNumeric (List.intercalate [','] (cards.map numberText)) := by
  have hcomma : ∀ c ∈ [','], 44 ≤ c.toNat ∧ c.toNat ≤ 57 :=
    List.forall_mem_singleton.mpr (by decide)
  refine (forall_mem_intercalate_iff hcomma _).mpr fun text htext => ?_
  obtain ⟨n, -, rfl⟩ := List.mem_map.mp htext
  exact isNumeric_numberText n

lemma IsNumeric.not_mem {s : List Char} (h : IsNumeric s) : ';' ∉ s := fun hmem =>
  absurd (h ';' hmem).2 (by decide)

lemma IsNumeric.clean {s : List Char} (h : IsNumeric s) : Clean s := by
  intro c hc hrare
  have hle := (h c hc).1
  have hlt := hrare.1
  omega

/-- The texts of a request are those of its fields that are not numbers. -/
lemma ClientRequest.forall_fields {P : List Char → Prop} (hP : ∀ s, IsNumeric s → P s)
    (request : ClientRequest) (playerId : ℤ) :
    (∀ f ∈ request.fields playerId, P f.2) ↔ ∀ text ∈ request.texts, P text := by
  have hnumber := fun n => hP _ (isNumeric_numberText n)
  have hcards := fun cards => hP _ (isNumeric_cards cards)
  cases request <;> simp [fields, texts, hnumber, hcards]

/-- A trace id has letters, digits and signs. -/
lemma forall_mem_traceId {P : Char → Prop} (front : List Char) (hfront : ∀ c ∈ front, P c)
    (hminus : P '-') (hP : ∀ s, IsNumeric s → ∀ c ∈ s, P c) (ms random : ℕ) :
    ∀ c ∈ front ++ (numberText ms ++ '-' :: numberText random), P c := by
  rw [List.forall_mem_append, List.forall_mem_append, List.forall_mem_cons]
  exact ⟨hfront, hP _ (isNumeric_numberText ms), hminus, hP _ (isNumeric_numberText random)⟩

/-! ### Fields -/

namespace SentRequest

variable {r : SentRequest} {gatewayTraceId : CppString}

/-- The names of the fields that requests have. -/
def nameLists : List (List String) :=
  [["login_ticket", "nickname"], ["ts"], ["mode"], [],
    ["player_id", "token", "room_id", "last_snapshot_version"], ["player_id", "token", "room_id"],
    ["room_id", "action_type", "score"], ["room_id", "action_type", "rob"],
    ["room_id", "action_type", "cards"], ["room_id", "action_type"]]

lemma names_mem_nameLists (request : ClientRequest) (playerId : ℤ) :
    (request.fields playerId).map Prod.fst ∈ nameLists := by
  cases request <;> simp [ClientRequest.fields, nameLists]

/-- With those of the trace ids, the names are distinct and have no separators. -/
lemma nameLists_clean : ∀ names ∈ nameLists,
    ((names ++ ["h5_request_id", "gateway_trace_id"]).map str).Nodup ∧
      ∀ name ∈ names ++ ["h5_request_id", "gateway_trace_id"],
        TextEnvelope.IsAscii name.toList ∧ ObjectText.Clean name.toList ∧
          59 ∉ str name ∧ 61 ∉ str name := by
  decide +kernel

/-- What is sent upstream, as fields. -/
def upstreamFields (r : SentRequest) (gatewayTraceId : CppString) :
    List (CppString × CppString) :=
  ((r.request.fields r.playerId).map fun f => (str f.1, utf8 f.2)) ++
    [(str "h5_request_id", utf8 r.h5RequestId)] ++ [(str "gateway_trace_id", gatewayTraceId)]

lemma keys_upstreamFields (r : SentRequest) (gatewayTraceId : CppString) :
    (r.upstreamFields gatewayTraceId).map Prod.fst =
      ((r.request.fields r.playerId).map Prod.fst ++ ["h5_request_id", "gateway_trace_id"]).map
        str := by
  simp [upstreamFields]

lemma buildKvBody_eq_nil {fields : List (CppString × CppString)} :
    buildKvBody fields = [] ↔ fields = [] := by
  cases fields with
  | nil => simp [buildKvBody]
  | cons f fields => cases fields <;> simp [buildKvBody, str, List.intercalate_cons_cons]

/-- A field that the gateway appends to a body. -/
lemma append_field (fields : List (CppString × CppString)) (name : String) (value : CppString) :
    (if buildKvBody fields = [] then buildKvBody fields else buildKvBody fields ++ str ";") ++
        str (name ++ "=") ++ value = buildKvBody (fields ++ [(str name, value)]) := by
  have hname : str (name ++ "=") = str name ++ str "=" := by simp [str]
  rw [buildKvBody_append_singleton, hname, ← List.append_assoc]
  by_cases hnil : fields = []
  · simp [hnil, buildKvBody]
  · rw [if_neg hnil, if_neg (mt buildKvBody_eq_nil.mp hnil)]

/-- The gateway adds its trace ids to the fields. -/
lemma body_upstreamPacket (r : SentRequest) (gatewayTraceId : CppString) :
    (upstreamPacket r.envelope.toGateway gatewayTraceId).body =
      buildKvBody (r.upstreamFields gatewayTraceId) := by
  have hbody : utf8 (buildKv (r.request.fields r.playerId)) =
      buildKvBody ((r.request.fields r.playerId).map fun f => (str f.1, utf8 f.2)) := by
    refine utf8_buildKv fun f hf => ?_
    have hnames := (nameLists_clean _ (names_mem_nameLists r.request r.playerId)).2
    exact (hnames f.1 (List.mem_append_left _ (List.mem_map_of_mem hf))).1
  have hne : utf8 r.h5RequestId ≠ [] := utf8_ne_nil (List.cons_ne_nil _ _)
  have hbody' : r.envelope.toGateway.body =
      buildKvBody ((r.request.fields r.playerId).map fun f => (str f.1, utf8 f.2)) := hbody
  have hh5 : r.envelope.toGateway.h5RequestId = utf8 r.h5RequestId := rfl
  have hfirst : str "h5_request_id=" = str ("h5_request_id" ++ "=") := rfl
  have hsecond : str "gateway_trace_id=" = str ("gateway_trace_id" ++ "=") := rfl
  rw [upstreamPacket, WebSocketProxy.upstreamBody, hbody', hh5, if_neg hne, hfirst, append_field,
    hsecond, append_field]
  rfl

/-- The fields as a body can carry them. -/
def upstreamKvFields (r : SentRequest) (gatewayTraceId : CppString)
    (hclean : ∀ f ∈ r.request.fields r.playerId, ';' ∉ f.2) (htrace : 59 ∉ gatewayTraceId) :
    KvFields where
  fields := r.upstreamFields gatewayTraceId
  nodup_keys := by
    rw [keys_upstreamFields]
    exact (nameLists_clean _ (names_mem_nameLists r.request r.playerId)).1
  key_clean f hf := by
    have hkey : f.1 ∈ (r.upstreamFields gatewayTraceId).map Prod.fst := List.mem_map_of_mem hf
    rw [keys_upstreamFields] at hkey
    obtain ⟨name, hname, heq⟩ := List.mem_map.mp hkey
    rw [← heq]
    exact ((nameLists_clean _ (names_mem_nameLists r.request r.playerId)).2 name hname).2.2
  value_clean f hf := by
    rw [upstreamFields, List.mem_append, List.mem_append, List.mem_singleton,
      List.mem_singleton] at hf
    rcases hf with (hf | rfl) | rfl
    · obtain ⟨f, hmem, rfl⟩ := List.mem_map.mp hf
      exact mt mem_utf8.mp (hclean f hmem)
    · refine mt mem_utf8.mp fun hmem => ?_
      exact forall_mem_traceId (P := fun c => c ≠ ';') ['c', '-'] (by simp) (by decide)
        (fun s hs c hc heq => hs.not_mem (heq ▸ hc)) r.h5Ms r.h5Random ';' hmem rfl
    · exact htrace

/-- The server finds the fields that the browser has written. -/
lemma lookup_body (hclean : ∀ text ∈ r.request.texts, ';' ∉ text) (htrace : 59 ∉ gatewayTraceId)
    {name : String} {value : List Char} (hf : (name, value) ∈ r.request.fields r.playerId) :
    (parseKvBody (upstreamPacket r.envelope.toGateway gatewayTraceId).body).lookup (str name) =
      some (utf8 value) := by
  rw [body_upstreamPacket]
  have hfields := (ClientRequest.forall_fields (P := fun s => ';' ∉ s)
    (fun _ => IsNumeric.not_mem) r.request r.playerId).mpr hclean
  refine ((r.upstreamKvFields gatewayTraceId hfields htrace).lookup_parseKvBody _ _).mpr ?_
  exact List.mem_append_left _ (List.mem_append_left _ (List.mem_map.mpr ⟨_, hf, rfl⟩))

/-! ### What the server reads -/

/-- A number that is read in front of a text is that of the whole text. -/
lemma stollPrefix_toStr {n : ℤ} (hlo : -(2 ^ 63) ≤ n) (hhi : n ≤ 2 ^ 63 - 1) :
    stollPrefix (toStr n) = some n := by
  rw [stollPrefix, stoll, parseInteger_toStr hlo hhi]
  rfl

/-- The numbers of the client have 64 bits. -/
lemma bounds_of_isSafeInteger {n : ℤ} (h : IsSafeInteger n) : -(2 ^ 63) ≤ n ∧ n ≤ 2 ^ 63 - 1 := by
  obtain ⟨hlo, hhi⟩ := h
  omega

/-- An action with the field of its type. -/
lemma parsePlayerAction_of_fields {body : CppString} {roomId : ℤ} {req : PlayerActionRequest}
    (actionType : PlayerActionType) (hpos : 0 < roomId) (hsafe : IsSafeInteger roomId)
    (hroom : (parseKvBody body).lookup (str "room_id") = some (toStr roomId))
    (htype : (parseKvBody body).lookup (str "action_type") = some (toStr actionType.toInt))
    (hreq : parseActionRequest (parseKvBody body) actionType = some req) :
    parsePlayerAction body = some (roomId, req) := by
  have hbounds := bounds_of_isSafeInteger hsafe
  have hsmall : -(2 ^ 31) ≤ actionType.toInt ∧ actionType.toInt < 2 ^ 31 := by
    cases actionType <;> decide
  refine parsePlayerAction_eq_some.mpr ⟨_, _, _, actionType, hroom,
    stollPrefix_toStr hbounds.1 hbounds.2, hpos, htype,
    stollPrefix_toStr (by omega) (by omega), ?_, hreq⟩
  rw [toInt32_of_bounds hsmall.1 hsmall.2]
  exact PlayerActionType.ofInt_eq_some.mpr rfl

/-- The server reads the request as it was meant. -/
lemma readRequest_of_clean (hvalid : r.request.Valid)
    (hclean : ∀ text ∈ r.request.texts, ';' ∉ text) (htrace : 59 ∉ gatewayTraceId) :
    readRequest (upstreamPacket r.envelope.toGateway gatewayTraceId) =
      some (r.request.meant r.playerId) := by
  have hlookup : ∀ name value, (name, value) ∈ r.request.fields r.playerId →
      (parseKvBody (upstreamPacket r.envelope.toGateway gatewayTraceId).body).lookup (str name) =
        some (utf8 value) := fun _ _ => lookup_body hclean htrace
  have hnumber : ∀ name n, (name, numberText n) ∈ r.request.fields r.playerId →
      (parseKvBody (upstreamPacket r.envelope.toGateway gatewayTraceId).body).lookup (str name) =
        some (toStr n) := fun name n hf => (hlookup name _ hf).trans (by rw [utf8_numberText])
  have hmsg : (upstreamPacket r.envelope.toGateway gatewayTraceId).msgId = r.request.msgId := rfl
  have hplayer := bounds_of_isSafeInteger r.isSafeInteger_playerId
  generalize (upstreamPacket r.envelope.toGateway gatewayTraceId) = packet at hmsg hlookup hnumber
  rw [readRequest, hmsg]
  cases hrequest : r.request with
  | login loginTicket nickname =>
    rw [hrequest] at hlookup hvalid
    have hticket := hlookup "login_ticket" loginTicket (by simp [ClientRequest.fields])
    have hnickname := hlookup "nickname" nickname (by simp [ClientRequest.fields])
    have hne : utf8 loginTicket ≠ [] := utf8_ne_nil hvalid
    simp [ClientRequest.msgId, parseLoginTicket, hticket, hnickname, hne, ClientRequest.meant]
  | heartbeat nowMs => rfl
  | startMatch mode =>
    rw [hrequest] at hnumber hvalid
    obtain rfl : mode = 3 := hvalid
    have hmode := hnumber "mode" 3 (by simp [ClientRequest.fields])
    have hread : stoi (toStr 3) = some (3, 1) := by decide +kernel
    simp [ClientRequest.msgId, parseMode, hmode, hread, ClientRequest.meant]
  | cancelMatch => rfl
  | reconnect token roomId snapshotVersion =>
    rw [hrequest] at hlookup hnumber hvalid
    obtain ⟨hne, hroomId, hversionId⟩ := hvalid
    have hroomId := bounds_of_isSafeInteger hroomId
    have hversionId := bounds_of_isSafeInteger hversionId
    have hplayerId := hnumber "player_id" r.playerId (by simp [ClientRequest.fields])
    have htoken := hlookup "token" token (by simp [ClientRequest.fields])
    have hroom := hnumber "room_id" roomId (by simp [ClientRequest.fields])
    have hversion := hnumber "last_snapshot_version" snapshotVersion
      (by simp [ClientRequest.fields])
    simp [ClientRequest.msgId, parseReconnectRequest, parseSessionRefreshRequest, hplayerId, htoken,
      hroom, hversion, utf8_ne_nil hne, parseI64Strict_toStr hplayer.1 hplayer.2,
      parseI64Strict_toStr hroomId.1 hroomId.2, parseI64Strict_toStr hversionId.1 hversionId.2,
      ClientRequest.meant]
  | refreshSession token roomId =>
    rw [hrequest] at hlookup hnumber hvalid
    obtain ⟨hne, hroomId⟩ := hvalid
    have hroomId := bounds_of_isSafeInteger hroomId
    have hplayerId := hnumber "player_id" r.playerId (by simp [ClientRequest.fields])
    have htoken := hlookup "token" token (by simp [ClientRequest.fields])
    have hroom := hnumber "room_id" roomId (by simp [ClientRequest.fields])
    simp [ClientRequest.msgId, parseSessionRefreshRequest, hplayerId, htoken, hroom,
      utf8_ne_nil hne, parseI64Strict_toStr hplayer.1 hplayer.2,
      parseI64Strict_toStr hroomId.1 hroomId.2, ClientRequest.meant]
  | callScore roomId score =>
    rw [hrequest] at hnumber hvalid
    obtain ⟨hpos, hroomId, hscore⟩ := hvalid
    have hread : parseActionRequest (parseKvBody packet.body) .callScore =
        some { actionType := .callScore, callScore := score } := by
      have hfield := hnumber "score" score (by simp [ClientRequest.fields])
      obtain ⟨hlo, hhi⟩ := hscore
      rw [parseActionRequest, hfield, Option.bind_some,
        stollPrefix_toStr (by omega) (by omega), Option.map_some, toInt32_of_bounds hlo hhi]
    have hparse := parsePlayerAction_of_fields .callScore hpos hroomId
      (hnumber "room_id" roomId (by simp [ClientRequest.fields]))
      (hnumber "action_type" 1 (by simp [ClientRequest.fields])) hread
    simp [ClientRequest.msgId, hparse, ClientRequest.meant]
  | robLandlord roomId rob =>
    rw [hrequest] at hnumber hvalid
    have hread : parseActionRequest (parseKvBody packet.body) .robLandlord =
        some { actionType := .robLandlord, rob := if rob then 1 else 0 } := by
      have hfield := hnumber "rob" (if rob then 1 else 0) (by simp [ClientRequest.fields])
      rw [parseActionRequest, hfield, Option.bind_some]
      cases rob <;> decide +kernel
    have hparse := parsePlayerAction_of_fields .robLandlord hvalid.1 hvalid.2
      (hnumber "room_id" roomId (by simp [ClientRequest.fields]))
      (hnumber "action_type" 2 (by simp [ClientRequest.fields])) hread
    simp [ClientRequest.msgId, hparse, ClientRequest.meant]
  | playCards roomId cards =>
    rw [hrequest] at hlookup hnumber hvalid
    obtain ⟨hpos, hroomId, hcards⟩ := hvalid
    have hread : parseActionRequest (parseKvBody packet.body) .playCards =
        some { actionType := .playCards, cards := cards } := by
      have hfield := hlookup "cards" (List.intercalate [','] (cards.map numberText))
        (by simp [ClientRequest.fields])
      rw [utf8_numbers] at hfield
      rw [parseActionRequest, hfield, Option.bind_some, parseCardList_joinNumberList hcards,
        Option.map_some]
    have hparse := parsePlayerAction_of_fields .playCards hpos hroomId
      (hnumber "room_id" roomId (by simp [ClientRequest.fields]))
      (hnumber "action_type" 3 (by simp [ClientRequest.fields])) hread
    simp [ClientRequest.msgId, hparse, ClientRequest.meant]
  | passTurn roomId =>
    rw [hrequest] at hnumber hvalid
    have hparse := parsePlayerAction_of_fields .pass hvalid.1 hvalid.2
      (hnumber "room_id" roomId (by simp [ClientRequest.fields]))
      (hnumber "action_type" 4 (by simp [ClientRequest.fields])) rfl
    simp [ClientRequest.msgId, hparse, ClientRequest.meant]

/-! ### What a text does to its request -/

/-- The texts that the browser makes are clean. -/
lemma clean_envelope : r.envelope.Clean ↔ ∀ text ∈ r.request.texts, ObjectText.Clean text := by
  have hnumeric : ∀ s, IsNumeric s → ∀ c ∈ s, ¬ IsRareControl c := fun s hs => hs.clean
  have hh5 : ObjectText.Clean r.h5RequestId :=
    forall_mem_traceId (P := fun c => ¬ IsRareControl c) ['c', '-'] (by simp [IsRareControl])
      (by decide) hnumeric r.h5Ms r.h5Random
  have htrace : ObjectText.Clean r.gatewayTraceId :=
    forall_mem_traceId (P := fun c => ¬ IsRareControl c) ['g', 'w', '-'] (by simp [IsRareControl])
      (by decide) hnumeric r.traceMs r.traceRandom
  have hbody : ObjectText.Clean (buildKv (r.request.fields r.playerId)) ↔
      ∀ f ∈ r.request.fields r.playerId, ObjectText.Clean f.2 := by
    rw [buildKv, ObjectText.Clean,
      forall_mem_intercalate_iff (List.forall_mem_singleton.mpr (by decide)), List.forall_mem_map]
    refine forall₂_congr fun f hf => ?_
    have hnames := (nameLists_clean _ (names_mem_nameLists r.request r.playerId)).2
    have hname := (hnames f.1 (List.mem_append_left _ (List.mem_map_of_mem hf))).2.1
    rw [List.forall_mem_append, List.forall_mem_cons]
    constructor
    · exact fun h => h.2.2
    · exact fun h => ⟨hname, by decide, h⟩
  rw [← ClientRequest.forall_fields (fun _ => IsNumeric.clean) r.request r.playerId, ← hbody]
  constructor
  · exact fun h => h.1
  · intro h
    refine ⟨h, fun s hs => ?_, fun s hs => ?_, fun s hs => ?_⟩
    · obtain rfl := Option.some.inj hs
      exact hh5
    · obtain rfl := Option.some.inj hs
      exact htrace
    · cases hs

/-- What the gateway reads from the frame. -/
lemma parseEnvelopeJson_frame {envelope : GatewayEnvelope} :
    parseEnvelopeJson r.frame = .ok envelope ↔
      (∀ text ∈ r.request.texts, ObjectText.Clean text) ∧ envelope = r.envelope.toGateway := by
  have hmembers := r.envelope.allClean_members r.envelope.h5RequestId r.envelope.gatewayTraceId
    r.envelope.serverTraceId
  rw [← clean_envelope, TextEnvelope.Clean, ← hmembers, frame,
    TextEnvelope.parseEnvelopeJson_fromBrowser]
  split_ifs with hclean
  · rw [Except.ok.injEq, eq_comm]
    exact (and_iff_right hclean).symm
  · simp [hclean]

/-- The token of a refresh request is a field of the body. -/
lemma lookup_token {body : CppString} {req : SessionRefreshRequest}
    (h : parseSessionRefreshRequest body = some req) :
    (parseKvBody body).lookup (str "token") = some req.token := by
  simp only [parseSessionRefreshRequest] at h
  split at h
  next player token room _ htoken _ =>
    split_ifs at h
    split at h
    · obtain rfl := Option.some.inj h
      exact htoken
    · cases h
  next => cases h

/-- So is that of a reconnect request. -/
lemma lookup_token_of_reconnect {body : CppString} {req : ReconnectRequest}
    (h : parseReconnectRequest body = some req) :
    (parseKvBody body).lookup (str "token") = some req.token := by
  unfold parseReconnectRequest at h
  split at h
  next refresh version hrefresh _ =>
    obtain rfl := Option.some.inj h
    exact lookup_token hrefresh
  next => cases h

/-- A text that the server reads as it was meant has no semicolon. -/
lemma not_mem_of_readRequest {request : ClientRequest} {playerId : ℤ} {packet : Packet}
    (h : readRequest packet = some (request.meant playerId)) :
    ∀ text ∈ request.texts, ';' ∉ text := by
  have hfree : ∀ {name : String} {text : List Char},
      (parseKvBody packet.body).lookup (str name) = some (utf8 text) → ';' ∉ text :=
    fun hlookup => mt mem_utf8.mpr (not_mem_of_lookup_parseKvBody hlookup)
  cases request with
  | login loginTicket nickname =>
    unfold readRequest at h
    split at h
    case h_1 =>
      obtain ⟨ticket, hticket, heq⟩ := Option.map_eq_some_iff.mp h
      rw [ClientRequest.meant, ServerRequest.login.injEq] at heq
      obtain ⟨rfl, hnickname⟩ := heq
      have hlookup := (Option.filter_eq_some_iff.mp hticket).1
      simp [ClientRequest.texts, hfree hlookup, hfree hnickname]
    all_goals simp [ClientRequest.meant] at h
  | reconnect token roomId snapshotVersion =>
    unfold readRequest at h
    split at h
    case h_5 =>
      obtain ⟨req, hreq, heq⟩ := Option.map_eq_some_iff.mp h
      rw [ClientRequest.meant, ServerRequest.reconnect.injEq] at heq
      have htoken := lookup_token_of_reconnect hreq
      rw [heq.2.1] at htoken
      simp [ClientRequest.texts, hfree htoken]
    all_goals simp [ClientRequest.meant] at h
  | refreshSession token roomId =>
    unfold readRequest at h
    split at h
    case h_6 =>
      obtain ⟨req, hreq, heq⟩ := Option.map_eq_some_iff.mp h
      rw [ClientRequest.meant, ServerRequest.sessionRefresh.injEq] at heq
      have htoken := lookup_token hreq
      rw [heq.2.1] at htoken
      simp [ClientRequest.texts, hfree htoken]
    all_goals simp [ClientRequest.meant] at h
  | _ => simp [ClientRequest.texts]

/-- A request of a user arrives as it was meant exactly if its texts have no semicolon and no
control character without a short escape. -/
theorem arrives_as_meant_iff (hvalid : r.request.Valid) (nowMs traceSeq : ℤ) :
    (∃ envelope, parseEnvelopeJson r.frame = .ok envelope ∧
      readRequest (upstreamPacket envelope (buildGatewayTraceId nowMs traceSeq)) =
        some (r.request.meant r.playerId)) ↔
      ∀ text ∈ r.request.texts, ';' ∉ text ∧ ObjectText.Clean text := by
  constructor
  · rintro ⟨envelope, hparse, hread⟩ text htext
    have hclean := (parseEnvelopeJson_frame.mp hparse).1
    exact ⟨not_mem_of_readRequest hread text htext, hclean text htext⟩
  · intro h
    refine ⟨r.envelope.toGateway, parseEnvelopeJson_frame.mpr ⟨fun text ht => (h text ht).2, rfl⟩,
      ?_⟩
    exact readRequest_of_clean hvalid (fun text ht => (h text ht).1)
      (not_mem_buildGatewayTraceId nowMs traceSeq)

/-- A login with a nickname that has a quote and characters of two bytes. -/
def loginOfJorg : SentRequest where
  request := .login "t1".toList "J\"örg".toList
  playerId := 12
  seqId := 7
  h5Ms := 5
  h5Random := 3
  traceMs := 5
  traceRandom := 4
  isSafeInteger_playerId := by decide

lemma valid_loginOfJorg : loginOfJorg.request.Valid := by
  intro hnil
  cases hnil

theorem login_arrives_as_meant :
    loginOfJorg.request.Valid ∧
      ∃ envelope, parseEnvelopeJson loginOfJorg.frame = .ok envelope ∧
        readRequest (upstreamPacket envelope (buildGatewayTraceId 9 1)) =
          some (.login (utf8 "t1".toList) (some (utf8 "J\"örg".toList))) := by
  refine ⟨valid_loginOfJorg, (arrives_as_meant_iff valid_loginOfJorg 9 1).mpr ?_⟩
  decide +kernel

end SentRequest

/-! ### From the browser to the workers -/

namespace ProxySession

variable {config : ProxyConfig} {clientIp : CppString} {s : ProxySession}

/-- The requests whose frames were sent on. -/
def forwardedRequests (frames : List FrameRead) (sents : List SentRequest) : List SentRequest :=
  (frames.zip sents).filterMap fun p =>
    match p.1.fate with
    | .forwarded _ _ => some p.2
    | _              => none

/-- Who asks, for what, and under which number. -/
def asked (packet : Packet) : UInt32 × ℤ × Option ServerRequest :=
  (packet.seqId, packet.playerId.toInt, readRequest packet)

/-- The packet of a frame asks for what its request means. -/
lemma asked_upstreamPacket {r : SentRequest} {envelope : GatewayEnvelope}
    {gatewayTraceId : CppString} (hparse : parseEnvelopeJson r.frame = .ok envelope)
    (hvalid : r.request.Valid) (hfree : ∀ text ∈ r.request.texts, ';' ∉ text)
    (htrace : 59 ∉ gatewayTraceId) :
    asked (upstreamPacket envelope gatewayTraceId) =
      (r.seqId, r.playerId, some (r.request.meant r.playerId)) := by
  obtain ⟨-, rfl⟩ := SentRequest.parseEnvelopeJson_frame.mp hparse
  refine Prod.ext rfl (Prod.ext r.envelope.toInt_playerId ?_)
  exact SentRequest.readRequest_of_clean hvalid hfree htrace

/-- The packets of the frames ask for what the requests mean, one by one. -/
lemma map_asked_forwarded {frames : List FrameRead} {sents : List SentRequest}
    (hframes : frames.map FrameRead.payload = sents.map SentRequest.frame)
    (hfates : ∀ f ∈ frames, f.fate.IsTrue f.payload)
    (htrace : ∀ f ∈ frames, ∀ envelope gatewayTraceId,
      f.fate = .forwarded envelope gatewayTraceId → 59 ∉ gatewayTraceId)
    (hsents : ∀ r ∈ sents, r.request.Valid ∧ ∀ text ∈ r.request.texts, ';' ∉ text) :
    (frames.filterMap fun f =>
      match f.fate with
      | .forwarded envelope gatewayTraceId => some (upstreamPacket envelope gatewayTraceId)
      | _                                  => none).map asked =
      (forwardedRequests frames sents).map fun r =>
        (r.seqId, r.playerId, some (r.request.meant r.playerId)) := by
  induction frames generalizing sents with
  | nil => rfl
  | cons f frames ih =>
    cases sents with
    | nil => cases hframes
    | cons r sents =>
      rw [List.map_cons, List.map_cons, List.cons.injEq] at hframes
      rw [List.forall_mem_cons] at hfates htrace hsents
      have hrest := ih hframes.2 hfates.2 htrace.2 hsents.2
      rw [forwardedRequests] at hrest ⊢
      rw [List.zip_cons_cons]
      cases hfate : f.fate with
      | forwarded envelope gatewayTraceId =>
        have hparse : parseEnvelopeJson r.frame = .ok envelope := by
          have htrue := hfates.1
          rwa [hfate, hframes.1] at htrue
        have hasked := asked_upstreamPacket hparse hsents.1.1 hsents.1.2
          (htrace.1 envelope gatewayTraceId hfate)
        simp only [List.filterMap_cons, hfate, List.map_cons, hrest, hasked]
      | _ => simp only [List.filterMap_cons, hfate, hrest]

/-- The workers of the server get the packets that were sent, however the stream is cut. -/
lemma workerLoop_of_stream {packets : List Packet} {encodings : List CppString}
    {maxPacketSize : UInt32}
    (hencodes : List.Forall₂ (PacketCodec.Encodes maxPacketSize) packets encodings)
    {recvs : List RecvResult} (hok : .failed ∉ recvs)
    (hstream : TcpConnection.stream recvs = encodings.flatten)
    (hall : (TcpConnection.stream recvs).length ≤
      (TcpConnection.receivedBefore maxPacketSize [] (TcpConnection.calls [] recvs)).length) :
    TcpConnection.workerLoop (TcpConnection.start { maxPacketSize := maxPacketSize }) recvs =
      packets := by
  have hfront := TcpConnection.receivedBefore_front maxPacketSize [] (TcpConnection.calls [] recvs)
  rw [TcpConnection.flatten_calls, List.nil_append, List.nil_append] at hfront
  have hframes := TcpConnection.frames_receivedBefore
    (TcpConnection.start { maxPacketSize := maxPacketSize }) [] hok rfl
    PacketCodec.frames_nil.2.symm
  change (PacketCodec.framer maxPacketSize).frames
      (TcpConnection.receivedBefore maxPacketSize [] _) =
    (PacketCodec.framer maxPacketSize).frames [] ++ _ at hframes
  rw [PacketCodec.frames_nil.1, List.nil_append] at hframes
  have hpackets := (PacketCodec.frames_encodings hencodes []).1
  rw [List.append_nil, PacketCodec.frames_nil.1, List.append_nil] at hpackets
  rw [← hframes, hfront.eq_of_length_le hall, hstream, hpackets]

/-- A receiver with larger packets reads the same bytes. -/
lemma encodes_of_le {packets : List Packet} {encodings : List CppString}
    {sendSize receiveSize : UInt32} (hsize : sendSize ≤ receiveSize)
    (h : List.Forall₂ (fun packet bytes => PacketCodec.encode packet sendSize = .ok bytes) packets
      encodings)
    (hbodies : ∀ packet ∈ packets, PacketCodec.kHeaderSize.toNat + packet.body.length < 2 ^ 32) :
    List.Forall₂ (PacketCodec.Encodes receiveSize) packets encodings := by
  induction h with
  | nil => exact .nil
  | @cons packet bytes packets encodings hencode _ ih =>
    rw [List.forall_mem_cons] at hbodies
    refine .cons ⟨?_, hbodies.1⟩ (ih hbodies.2)
    simp only [PacketCodec.encode] at hencode ⊢
    split_ifs at hencode with hrange
    rw [not_or, UInt32.not_lt, UInt32.not_lt] at hrange
    rw [if_neg]
    · exact hencode
    · rw [not_or, UInt32.not_lt, UInt32.not_lt]
      exact ⟨hrange.1, UInt32.le_trans hrange.2 hsize⟩

/-- All requests of a browser's session. Whatever the gateway answers by itself, the workers of the
server get the requests that were sent on, each once, in their order, with their numbers and players
and as they were meant, however the stream between the two is cut; as long as no text has a
semicolon and the stream is read before its end is met. -/
theorem requests_reach_workers {connectErr : Option CppString} {events : List SessionEvent}
    (hrun : Run.exec (step config clientIp) (start config connectErr) events = some s)
    {sents : List SentRequest}
    (hframes : s.frames.map FrameRead.payload = sents.map SentRequest.frame)
    (hsents : ∀ r ∈ sents, r.request.Valid ∧ ∀ text ∈ r.request.texts, ';' ∉ text)
    (htrace : ∀ f ∈ s.frames, ∀ envelope gatewayTraceId,
      f.fate = .forwarded envelope gatewayTraceId →
        ∃ nowMs traceSeq, gatewayTraceId = buildGatewayTraceId nowMs traceSeq)
    {maxPacketSize : UInt32} (hsize : config.maxPacketSize ≤ maxPacketSize)
    (hbodies : ∀ packet ∈ s.forwarded,
      PacketCodec.kHeaderSize.toNat + packet.body.length < 2 ^ 32)
    {recvs : List RecvResult} (hok : .failed ∉ recvs)
    (hstream : TcpConnection.stream recvs = s.upstreamBytes.flatten)
    (hall : (TcpConnection.stream recvs).length ≤
      (TcpConnection.receivedBefore maxPacketSize [] (TcpConnection.calls [] recvs)).length) :
    (TcpConnection.workerLoop (TcpConnection.start { maxPacketSize := maxPacketSize })
        recvs).map asked =
      (forwardedRequests s.frames sents).map fun r =>
        (r.seqId, r.playerId, some (r.request.meant r.playerId)) := by
  have hsound := sound_of_run hrun
  rw [workerLoop_of_stream (encodes_of_le hsize hsound.relayed.upward hbodies) hok hstream hall,
    forwarded]
  refine map_asked_forwarded hframes hsound.answered.fates ?_ hsents
  intro f hf envelope gatewayTraceId hfate
  obtain ⟨nowMs, traceSeq, rfl⟩ := htrace f hf envelope gatewayTraceId hfate
  exact not_mem_buildGatewayTraceId nowMs traceSeq

/-- A login, and the start of a match after it. -/
def startOfMatch : SentRequest where
  request := .startMatch 3
  playerId := 1001
  seqId := 8
  h5Ms := 6
  h5Random := 9
  traceMs := 6
  traceRandom := 2
  isSafeInteger_playerId := by decide

/-- The session that sends both on. -/
def twoSent : List SessionEvent :=
  [.write true, .write true, .poll .bytes,
    .frame SentRequest.loginOfJorg.frame {} 0 0 (buildGatewayTraceId 0 1), .sendUpstream none,
    .note, .write true, .poll .bytes,
    .frame startOfMatch.frame {} 9 9 (buildGatewayTraceId 9 2), .sendUpstream none, .note]

/-- The packets on the stream. -/
def twoPackets : List Packet :=
  [{ msgId := 1001, seqId := 7, playerId := 12
     body := utf8
      "login_ticket=t1;nickname=J\"örg;h5_request_id=c-5-3;gateway_trace_id=gw-0-1".toList },
    { msgId := 2001, seqId := 8, playerId := 1001
      body := str "mode=3;h5_request_id=c-6-9;gateway_trace_id=gw-9-2" }]

/-- Their bytes, in two pieces that are no packets. -/
def twoPieces : List RecvResult :=
  let bytes := PacketCodec.encoding twoPackets[0] 95 ++ PacketCodec.encoding twoPackets[1] 70
  [.bytes ⟨bytes.take 100, by decide +kernel⟩, .bytes ⟨bytes.drop 100, by decide +kernel⟩]

theorem two_requests_reach_workers :
    (TcpConnection.workerLoop (TcpConnection.start { maxPacketSize := 65536 }) twoPieces).map
        asked =
      [(7, 12, some (.login (utf8 "t1".toList) (some (utf8 "J\"örg".toList)))),
        (8, 1001, some (.match 3))] := by
  have hrun : (Run.exec (step {} (str "10.0.0.1")) (start {} none) twoSent).map
      (fun s => (s.frames, s.upstreamBytes, s.forwarded)) =
        some ([⟨SentRequest.loginOfJorg.frame, 0,
            .forwarded SentRequest.loginOfJorg.envelope.toGateway (buildGatewayTraceId 0 1)⟩,
          ⟨startOfMatch.frame, 9,
            .forwarded startOfMatch.envelope.toGateway (buildGatewayTraceId 9 2)⟩],
          [PacketCodec.encoding twoPackets[0] 95, PacketCodec.encoding twoPackets[1] 70],
          twoPackets) := by
    decide +kernel
  obtain ⟨s, hs, hsent⟩ := Option.map_eq_some_iff.mp hrun
  rw [Prod.mk.injEq, Prod.mk.injEq] at hsent
  obtain ⟨hframes, hbytes, hforwarded⟩ := hsent
  have hpayloads : s.frames.map FrameRead.payload =
      [SentRequest.loginOfJorg, startOfMatch].map SentRequest.frame := by
    rw [hframes]
    rfl
  have hsents : ∀ r ∈ [SentRequest.loginOfJorg, startOfMatch],
      r.request.Valid ∧ ∀ text ∈ r.request.texts, ';' ∉ text := by
    rw [List.forall_mem_cons, List.forall_mem_singleton]
    exact ⟨⟨SentRequest.valid_loginOfJorg, by decide⟩, rfl, by decide⟩
  have htrace : ∀ f ∈ s.frames, ∀ envelope gatewayTraceId,
      f.fate = .forwarded envelope gatewayTraceId →
        ∃ nowMs traceSeq, gatewayTraceId = buildGatewayTraceId nowMs traceSeq := by
    rw [hframes, List.forall_mem_cons, List.forall_mem_singleton]
    refine ⟨fun envelope traceId h => ⟨0, 1, ?_⟩, fun envelope traceId h => ⟨9, 2, ?_⟩⟩
    · exact (FrameFate.forwarded.inj h).2.symm
    · exact (FrameFate.forwarded.inj h).2.symm
  have hbodies : ∀ packet ∈ s.forwarded,
      PacketCodec.kHeaderSize.toNat + packet.body.length < 2 ^ 32 := by
    rw [hforwarded]
    decide +kernel
  have hstream : TcpConnection.stream twoPieces = s.upstreamBytes.flatten := by
    rw [hbytes]
    decide +kernel
  rw [requests_reach_workers hs hpayloads hsents htrace (UInt32.le_refl 65536) hbodies
    (by decide +kernel) hstream (by decide +kernel), hframes]
  rfl

end ProxySession

end DdzServer
