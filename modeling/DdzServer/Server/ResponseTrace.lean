import DdzServer.Util.DecimalText
import DdzServer.Util.KvCodec

/-!
# The trace fields of a response

`GameServer::OnMessage` adds to the body of each response the trace ids that the request brought
along and its own, as far as the handler has not set them.
-/

namespace DdzServer

/-- `GatewayTraceFields`. -/
structure GatewayTraceFields where
  h5RequestId : CppString := []
  gatewayTraceId : CppString := []

/-- `ParseGatewayTraceFields`. -/
def parseGatewayTraceFields (body : CppString) : GatewayTraceFields where
  h5RequestId := ((parseKvBody body).lookup (str "h5_request_id")).getD []
  gatewayTraceId := ((parseKvBody body).lookup (str "gateway_trace_id")).getD []

/-- `GenerateTraceId`; `traceSeq` is the value of the counter. -/
def generateTraceId (nowMs connectionId seqId traceSeq : ℤ) : CppString :=
  toStr nowMs ++ str "-" ++ toStr connectionId ++ str "-" ++ toStr seqId ++ str "-" ++
    toStr traceSeq

/-- `AppendKvFieldIfMissing`. -/
def appendKvFieldIfMissing (body key value : CppString) : CppString :=
  if value = [] then body
  else if (parseKvBody body).lookup key ≠ none then body
  else (if body = [] then body else body ++ str ";") ++ key ++ str "=" ++ value

/-- The body `OnMessage` sends for a request and the body of the handler. -/
def withTraceFields (request response traceId : CppString) : CppString :=
  let gatewayTrace := parseGatewayTraceFields request
  let response := appendKvFieldIfMissing response (str "h5_request_id") gatewayTrace.h5RequestId
  let response :=
    appendKvFieldIfMissing response (str "gateway_trace_id") gatewayTrace.gatewayTraceId
  appendKvFieldIfMissing response (str "server_trace_id") traceId

namespace KvFields

/-- The fields with one more, if it has a value and its key is new. -/
def addIfMissing (F : KvFields) (key value : CppString) (hkey : 59 ∉ key ∧ 61 ∉ key)
    (hvalue : 59 ∉ value) : KvFields where
  fields := if value = [] ∨ key ∈ F.keys then F.fields else F.fields ++ [(key, value)]
  nodup_keys := by
    split_ifs with h
    · exact F.nodup_keys
    · rw [List.map_append]
      refine List.nodup_append.mpr ⟨F.nodup_keys, List.nodup_singleton _, ?_⟩
      rintro a ha b hb rfl
      obtain rfl := List.mem_singleton.mp hb
      exact h (Or.inr ha)
  key_clean f hf := by
    split_ifs at hf
    · exact F.key_clean f hf
    · rcases List.mem_append.mp hf with hf | hf
      · exact F.key_clean f hf
      · obtain rfl := List.mem_singleton.mp hf
        exact hkey
  value_clean f hf := by
    split_ifs at hf
    · exact F.value_clean f hf
    · rcases List.mem_append.mp hf with hf | hf
      · exact F.value_clean f hf
      · obtain rfl := List.mem_singleton.mp hf
        exact hvalue

variable {F : KvFields} {key value : CppString} {hkey : 59 ∉ key ∧ 61 ∉ key} {hvalue : 59 ∉ value}

lemma fields_addIfMissing_of_kept (h : value = [] ∨ key ∈ F.keys) :
    (F.addIfMissing key value hkey hvalue).fields = F.fields := if_pos h

lemma fields_addIfMissing_of_new (h : ¬ (value = [] ∨ key ∈ F.keys)) :
    (F.addIfMissing key value hkey hvalue).fields = F.fields ++ [(key, value)] := if_neg h

lemma mem_addIfMissing {k v : CppString} :
    (k, v) ∈ (F.addIfMissing key value hkey hvalue).fields ↔
      (k, v) ∈ F.fields ∨ k ∉ F.keys ∧ v ≠ [] ∧ k = key ∧ v = value := by
  by_cases h : value = [] ∨ key ∈ F.keys
  · rw [fields_addIfMissing_of_kept h, iff_self_or]
    rintro ⟨hk, hv, rfl, rfl⟩
    exact absurd h (not_or.mpr ⟨hv, hk⟩)
  · rw [fields_addIfMissing_of_new h, List.mem_append, List.mem_singleton, Prod.mk.injEq]
    refine or_congr_right ⟨?_, fun hkv => hkv.2.2⟩
    rintro ⟨rfl, rfl⟩
    exact ⟨fun hk => h (Or.inr hk), fun hv => h (Or.inl hv), rfl, rfl⟩

lemma mem_keys_addIfMissing {k : CppString} :
    k ∈ (F.addIfMissing key value hkey hvalue).keys ↔ k ∈ F.keys ∨ k = key ∧ value ≠ [] := by
  by_cases h : value = [] ∨ key ∈ F.keys
  · rw [keys, fields_addIfMissing_of_kept h, ← keys, iff_self_or]
    rintro ⟨rfl, hv⟩
    exact h.resolve_left hv
  · rw [keys, fields_addIfMissing_of_new h, List.map_append, List.mem_append]
    simp [keys, (not_or.mp h).1]

/-- Appending to the body of some fields gives the body of the fields with one more. -/
lemma appendKvFieldIfMissing_body (hkey : 59 ∉ key ∧ 61 ∉ key) (hvalue : 59 ∉ value) :
    appendKvFieldIfMissing F.body key value = (F.addIfMissing key value hkey hvalue).body := by
  have hlookup : (parseKvBody F.body).lookup key ≠ none ↔ key ∈ F.keys := by
    rw [ne_eq, lookup_parseKvBody_eq_none, not_not]
  by_cases hv : value = []
  · rw [appendKvFieldIfMissing, if_pos hv, body, body, fields_addIfMissing_of_kept (Or.inl hv)]
  by_cases hk : key ∈ F.keys
  · rw [appendKvFieldIfMissing, if_neg hv, if_pos (hlookup.mpr hk), body, body,
      fields_addIfMissing_of_kept (Or.inr hk)]
  · rw [appendKvFieldIfMissing, if_neg hv, if_neg (hlookup.not.mpr hk), body, body,
      fields_addIfMissing_of_new (not_or.mpr ⟨hv, hk⟩), buildKvBody_append_singleton, ← body]
    simp only [F.body_eq_nil]
    split_ifs with hF
    · rw [F.body_eq_nil.mpr hF]
    · rfl

end KvFields

/-! ### Every response -/

/-- The trace fields of a response to `request`. -/
def traceFields (request traceId : CppString) : List (CppString × CppString) :=
  [(str "h5_request_id", (parseGatewayTraceFields request).h5RequestId),
   (str "gateway_trace_id", (parseGatewayTraceFields request).gatewayTraceId),
   (str "server_trace_id", traceId)]

/-- The text of a request field has no separator. -/
lemma not_mem_getD_lookup (body key : CppString) :
    59 ∉ ((parseKvBody body).lookup key).getD [] := by
  cases h : (parseKvBody body).lookup key with
  | none => exact List.not_mem_nil
  | some v => exact not_mem_of_lookup_parseKvBody h

lemma not_mem_generateTraceId (nowMs connectionId seqId traceSeq : ℤ) :
    59 ∉ generateTraceId nowMs connectionId seqId traceSeq := by
  have h := not_mem_toStr (b := 59) (by decide) (by decide)
  simp [generateTraceId, str, h]

/-- What a response carries: the fields of the handler, and the trace fields it has not set. -/
lemma lookup_withTraceFields (request : CppString) (F : KvFields) {traceId : CppString}
    (htrace : 59 ∉ traceId) (k v : CppString) :
    (parseKvBody (withTraceFields request F.body traceId)).lookup k = some v ↔
      (k, v) ∈ F.fields ∨ k ∉ F.keys ∧ v ≠ [] ∧ (k, v) ∈ traceFields request traceId := by
  have hclean : (59 ∉ str "h5_request_id" ∧ 61 ∉ str "h5_request_id") ∧
      (59 ∉ str "gateway_trace_id" ∧ 61 ∉ str "gateway_trace_id") ∧
      59 ∉ str "server_trace_id" ∧ 61 ∉ str "server_trace_id" := by decide +kernel
  have hne : str "h5_request_id" ≠ str "gateway_trace_id" ∧
      str "h5_request_id" ≠ str "server_trace_id" ∧
      str "gateway_trace_id" ≠ str "server_trace_id" := by decide +kernel
  have h5 : 59 ∉ (parseGatewayTraceFields request).h5RequestId := not_mem_getD_lookup _ _
  have hgateway : 59 ∉ (parseGatewayTraceFields request).gatewayTraceId := not_mem_getD_lookup _ _
  simp only [withTraceFields]
  rw [F.appendKvFieldIfMissing_body hclean.1 h5,
    KvFields.appendKvFieldIfMissing_body hclean.2.1 hgateway,
    KvFields.appendKvFieldIfMissing_body hclean.2.2 htrace, KvFields.lookup_parseKvBody]
  simp only [KvFields.mem_addIfMissing, KvFields.mem_keys_addIfMissing, traceFields,
    List.mem_cons, Prod.mk.injEq, List.not_mem_nil, or_false]
  generalize str "h5_request_id" = key₁ at *
  generalize str "gateway_trace_id" = key₂ at *
  generalize str "server_trace_id" = key₃ at *
  obtain ⟨h₁₂, h₁₃, h₂₃⟩ := hne
  by_cases hk₁ : k = key₁
  · subst hk₁
    simp only [h₁₂, h₁₃, false_and, and_false, or_false, true_and]
  by_cases hk₂ : k = key₂
  · subst hk₂
    simp only [hk₁, h₂₃, false_and, and_false, or_false, false_or, true_and]
  · simp only [hk₁, hk₂, false_and, and_false, or_false, false_or]

/-- Clean fields are read back, no value that is read has a separator, and a response carries the
fields of its handler and the trace fields the handler has not set, nothing else. -/
theorem kv_bodies :
    (∀ (F : KvFields) (k v : CppString),
      (parseKvBody (buildKvBody F.fields)).lookup k = some v ↔ (k, v) ∈ F.fields) ∧
    (∀ body k v : CppString, (parseKvBody body).lookup k = some v → 59 ∉ v) ∧
    ∀ (request : CppString) (F : KvFields) (nowMs connectionId seqId traceSeq : ℤ)
      (k v : CppString),
      (parseKvBody (withTraceFields request (buildKvBody F.fields)
          (generateTraceId nowMs connectionId seqId traceSeq))).lookup k = some v ↔
        (k, v) ∈ F.fields ∨ k ∉ F.fields.map Prod.fst ∧ v ≠ [] ∧
          (k, v) ∈ traceFields request (generateTraceId nowMs connectionId seqId traceSeq) :=
  ⟨KvFields.lookup_parseKvBody, fun _ _ _ => not_mem_of_lookup_parseKvBody,
    fun request F _ _ _ _ => lookup_withTraceFields request F (not_mem_generateTraceId _ _ _ _)⟩

/-- A value with `=` signs in it. -/
theorem kv_bodies_of_two_fields :
    (parseKvBody (str "code=0;nickname=a=b")).lookup (str "nickname") = some (str "a=b") ∧
      59 ∉ str "a=b" := by
  have h : (parseKvBody (str "code=0;nickname=a=b")).lookup (str "nickname") =
      some (str "a=b") := by decide +kernel
  exact ⟨h, kv_bodies.2.1 _ _ _ h⟩

end DdzServer
