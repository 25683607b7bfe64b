import DdzServer.Client.Json

/-!
# The envelopes of the browser

`ddz_client/src/net/envelope.ts`.
-/

namespace DdzServer

namespace Client

open Json

/-- An envelope to be sent; its numbers are safe integers. -/
structure Envelope where
  msgId : ℤ
  seqId : ℤ
  playerId : ℤ
  body : JsString
  h5RequestId : Option JsString := none
  gatewayTraceId : Option JsString := none
  serverTraceId : Option JsString := none

/-- A property that is undefined is left out. -/
def optionalProperty (name : String) (value : Option JsString) : List (JsString × Scalar) :=
  (value.map fun s => (jsStr name, Scalar.string s)).toList

/-- `toEnvelopeText`. -/
def toEnvelopeText (envelope : Envelope) : JsString :=
  stringifyObject
    ([(jsStr "msg_id", .number envelope.msgId), (jsStr "seq_id", .number envelope.seqId),
      (jsStr "player_id", .number envelope.playerId), (jsStr "body", .string envelope.body)] ++
      (optionalProperty "h5_request_id" envelope.h5RequestId ++
        optionalProperty "gateway_trace_id" envelope.gatewayTraceId ++
        optionalProperty "server_trace_id" envelope.serverTraceId))

/-- `raw.name`; of equal names the last one counts. -/
def property (raw : JsValue) (name : String) : Option JsValue :=
  match raw with
  | .object members => (members.reverse.find? fun m => m.1 = jsStr name).map Prod.snd
  | _               => none

/-- An envelope that was received; the optional properties are taken over unchecked. -/
structure ReceivedEnvelope where
  msgId : JsNumber
  seqId : JsNumber
  playerId : JsNumber
  body : JsString
  h5RequestId : Option JsValue
  gatewayTraceId : Option JsValue
  serverTraceId : Option JsValue

/-- `parseEnvelopeText`; `none` where it throws. -/
def parseEnvelopeText (text : JsString) : Option ReceivedEnvelope :=
  match parse text with
  | none     => none
  | some raw =>
    match property raw "msg_id", property raw "seq_id", property raw "player_id",
      property raw "body" with
    | some (.number msgId), some (.number seqId), some (.number playerId), some (.string body) =>
      some {
        msgId := msgId, seqId := seqId, playerId := playerId, body := body
        h5RequestId := property raw "h5_request_id"
        gatewayTraceId := property raw "gateway_trace_id"
        serverTraceId := property raw "server_trace_id" }
    | _, _, _, _ => none

end Client

end DdzServer
