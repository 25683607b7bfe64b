import DdzServer.Gateway.GatewayServer
import DdzServer.Network.PacketCodec
import DdzServer.Reconnect.ReconnectService
import DdzServer.Util.DecimalText

/-!
# Session refreshes through the gateway

`HandleSessionRefreshRequest` checks the query and the bearer token of an HTTP request and sends
them upstream in a `key=value;…` body. The token is the only text in it that the gateway has not
made itself.
-/

namespace DdzServer

/-! ### The request and its body -/

def kMsgSessionRefreshReq : UInt32 := 6103

/-- `BuildGatewayTraceId`; `traceSeq` is the value of the counter. -/
def buildGatewayTraceId (nowMs traceSeq : ℤ) : CppString :=
  str "gw-" ++ toStr nowMs ++ str "-" ++ toStr traceSeq

/-- `ExtractBearerToken`. -/
def extractBearerToken (request : HttpRequest) : CppString :=
  match request.authorization with
  | none       => []
  | some value =>
    let scheme := str "Bearer "
    if value.length ≤ scheme.length ∨ value.take scheme.length ≠ scheme then []
    else value.drop scheme.length

/-- The validation of `HandleSessionRefreshRequest`. -/
def validateSessionRefresh (request : HttpRequest) : Option SessionRefreshRequest :=
  let query := (parseRouteInfo request.target).query
  let bearerToken := extractBearerToken request
  match query.lookup (str "player_id"), query.lookup (str "room_id") with
  | some player, some room =>
    if bearerToken = [] then none
    else
      match parseI64Strict player, parseI64Strict room with
      | some playerId, some roomId =>
        if playerId ≤ 0 ∨ roomId < 0 then none else some ⟨playerId, bearerToken, roomId⟩
      | _, _ => none
  | _, _ => none

/-- The fields that are sent upstream. -/
def refreshFields (refresh : SessionRefreshRequest) (gatewayTraceId : CppString) :
    List (CppString × CppString) :=
  [(str "player_id", toStr refresh.playerId), (str "token", refresh.token),
    (str "room_id", toStr refresh.roomId), (str "gateway_trace_id", gatewayTraceId)]

/-- What `HandleSessionRefreshRequest` sends upstream, or the status and the reason of its
refusal. -/
def handleSessionRefreshRequest (request : HttpRequest) (gatewayTraceId : CppString)
    (upstreamSeq : UInt32) : Except (ℕ × String) Packet :=
  match validateSessionRefresh request with
  | none         => .error (400, "invalid_request")
  | some refresh => .ok {
      msgId := kMsgSessionRefreshReq
      seqId := upstreamSeq
      playerId := Int64.ofInt refresh.playerId
      body := buildKvBody (refreshFields refresh gatewayTraceId) }

/-- Each field of a request is read from the body as it was validated. -/
def Forwarded (refresh : SessionRefreshRequest) (gatewayTraceId body : CppString) : Prop :=
  ∀ field ∈ refreshFields refresh gatewayTraceId,
    (parseKvBody body).lookup field.1 = some field.2

/-! ### Tokens with and without a separator -/

lemma not_mem_buildGatewayTraceId (nowMs traceSeq : ℤ) :
    59 ∉ buildGatewayTraceId nowMs traceSeq := by
  have h := not_mem_toStr (b := 59) (by decide) (by decide)
  simp [buildGatewayTraceId, str, h]

variable {request : HttpRequest} {refresh : SessionRefreshRequest} {gatewayTraceId : CppString}
  {upstreamSeq : UInt32} {packet : Packet}

/-- The token that is validated is the bearer token, and the numbers have 64 bits. -/
lemma token_of_validateSessionRefresh (h : validateSessionRefresh request = some refresh) :
    refresh.token = extractBearerToken request ∧ refresh.token ≠ [] ∧
      (-(2 ^ 63) ≤ refresh.playerId ∧ refresh.playerId ≤ 2 ^ 63 - 1) ∧
      (-(2 ^ 63) ≤ refresh.roomId ∧ refresh.roomId ≤ 2 ^ 63 - 1) := by
  simp only [validateSessionRefresh] at h
  split at h
  next player room hplayer hroom =>
    split_ifs at h with hempty
    split at h
    next playerId roomId hplayerId hroomId =>
      split_ifs at h
      obtain rfl := Option.some.inj h
      exact ⟨rfl, hempty, parseI64Strict_bounds hplayerId, parseI64Strict_bounds hroomId⟩
    next => cases h
  next => cases h

/-- The fields of a request whose token has no separator. -/
def refreshKvFields (refresh : SessionRefreshRequest) {gatewayTraceId : CppString}
    (htoken : 59 ∉ refresh.token) (htrace : 59 ∉ gatewayTraceId) : KvFields where
  fields := refreshFields refresh gatewayTraceId
  nodup_keys := by
    rw [show (refreshFields refresh gatewayTraceId).map Prod.fst =
      [str "player_id", str "token", str "room_id", str "gateway_trace_id"] from rfl]
    decide +kernel
  key_clean := by
    have hkeys : ∀ key ∈ [str "player_id", str "token", str "room_id", str "gateway_trace_id"],
        59 ∉ key ∧ 61 ∉ key := by
      decide +kernel
    intro field hfield
    exact hkeys field.1 (List.mem_map_of_mem (f := Prod.fst) hfield)
  value_clean := by
    have hnumber := not_mem_toStr (b := 59) (by decide) (by decide)
    simp [refreshFields, hnumber, htoken, htrace]

/-- Without a separator in the token every field arrives. -/
lemma forwarded_of_clean (htoken : 59 ∉ refresh.token) (htrace : 59 ∉ gatewayTraceId) :
    Forwarded refresh gatewayTraceId (buildKvBody (refreshFields refresh gatewayTraceId)) := by
  intro field hfield
  exact ((refreshKvFields refresh htoken htrace).lookup_parseKvBody field.1 field.2).mpr hfield

/-- A token with a separator never arrives: no value that is read has one. -/
lemma clean_of_forwarded {body : CppString} (h : Forwarded refresh gatewayTraceId body) :
    59 ∉ refresh.token :=
  not_mem_of_lookup_parseKvBody (h (str "token", refresh.token) (by simp [refreshFields]))

/-- The server then reads the request that the gateway has validated. -/
theorem parseSessionRefreshRequest_forwarded
    (hvalid : validateSessionRefresh request = some refresh) {body : CppString}
    (h : Forwarded refresh gatewayTraceId body) :
    parseSessionRefreshRequest body = some refresh := by
  obtain ⟨-, hempty, hplayer, hroom⟩ := token_of_validateSessionRefresh hvalid
  have hplayer' := h (str "player_id", toStr refresh.playerId) (by simp [refreshFields])
  have htoken' := h (str "token", refresh.token) (by simp [refreshFields])
  have hroom' := h (str "room_id", toStr refresh.roomId) (by simp [refreshFields])
  simp only [parseSessionRefreshRequest, hplayer', htoken', hroom', if_neg hempty,
    parseI64Strict_toStr hplayer.1 hplayer.2, parseI64Strict_toStr hroom.1 hroom.2]

/-- Of a request that passes the validation every field is read from the body as it was validated:
exactly if the bearer token has no semicolon, which separates the fields. -/
theorem forwards_validated_iff (hvalid : validateSessionRefresh request = some refresh)
    (nowMs traceSeq : ℤ) (upstreamSeq : UInt32) :
    (∃ packet,
        handleSessionRefreshRequest request (buildGatewayTraceId nowMs traceSeq) upstreamSeq =
          .ok packet ∧ Forwarded refresh (buildGatewayTraceId nowMs traceSeq) packet.body) ↔
      59 ∉ extractBearerToken request := by
  have htoken := (token_of_validateSessionRefresh hvalid).1
  simp only [handleSessionRefreshRequest, hvalid, Except.ok.injEq, exists_eq_left']
  rw [← htoken]
  exact ⟨clean_of_forwarded,
    fun hclean => forwarded_of_clean hclean (not_mem_buildGatewayTraceId nowMs traceSeq)⟩

/-- A request of player 1 with the token `token`. -/
def refreshOfPlayerOne (token : String) : HttpRequest where
  target := str "/api/session/refresh?player_id=1&room_id=0"
  authorization := some (str "Bearer " ++ str token)

theorem forwards_plain_token :
    ∃ packet,
      handleSessionRefreshRequest (refreshOfPlayerOne "1.2.ab") (buildGatewayTraceId 9 1) 5 =
        .ok packet ∧ Forwarded ⟨1, str "1.2.ab", 0⟩ (buildGatewayTraceId 9 1) packet.body := by
  have hvalid : validateSessionRefresh (refreshOfPlayerOne "1.2.ab") =
      some ⟨1, str "1.2.ab", 0⟩ := by
    decide +kernel
  exact (forwards_validated_iff hvalid 9 1 5).mpr (by decide +kernel)

/-- A token that brings along a field of its own: the request passes the validation for player 1,
and the body is one of player 2. -/
theorem token_overrides_player :
    validateSessionRefresh (refreshOfPlayerOne "x;player_id=2") =
        some ⟨1, str "x;player_id=2", 0⟩ ∧
      ¬ ∃ packet, handleSessionRefreshRequest (refreshOfPlayerOne "x;player_id=2")
        (buildGatewayTraceId 9 1) 5 = .ok packet ∧
          (parseKvBody packet.body).lookup (str "player_id") = some (toStr 1) := by
  have hvalid : validateSessionRefresh (refreshOfPlayerOne "x;player_id=2") =
      some ⟨1, str "x;player_id=2", 0⟩ := by
    decide +kernel
  refine ⟨hvalid, ?_⟩
  rintro ⟨packet, hpacket, hplayer⟩
  simp only [handleSessionRefreshRequest, hvalid, Except.ok.injEq] at hpacket
  subst hpacket
  revert hplayer
  decide +kernel

end DdzServer
