import DdzServer.Gateway.BrowserEnvelopes

/-!
# The requests of the client

`services/gameService.ts`, with `buildKv` of `net/kv.ts` and `sendRequest` of `net/wsClient.ts`:
what the client sends for each thing a user can ask for.
-/

namespace DdzServer

open ObjectText

/-- What the user of a client asks for. Texts are typed, or come from earlier answers. -/
inductive ClientRequest where
  | login (loginTicket nickname : List Char)
  | heartbeat (nowMs : ℤ)
  | startMatch (mode : ℤ)
  | cancelMatch
  | reconnect (token : List Char) (roomId snapshotVersion : ℤ)
  | refreshSession (token : List Char) (roomId : ℤ)
  | callScore (roomId score : ℤ)
  | robLandlord (roomId : ℤ) (rob : Bool)
  | playCards (roomId : ℤ) (cards : List ℤ)
  | passTurn (roomId : ℤ)

/-- `String(value)` of an integer. -/
def numberText (n : ℤ) : List Char := asciiChars (toStr n)

/-- `buildKv`. -/
def buildKv (fields : List (String × List Char)) : List Char :=
  List.intercalate [';'] (fields.map fun f => f.1.toList ++ '=' :: f.2)

namespace ClientRequest

/-- `MsgId`. -/
def msgId : ClientRequest → UInt32
  | .login _ _          => 1001
  | .heartbeat _        => 1101
  | .startMatch _       => 2001
  | .cancelMatch        => 2003
  | .reconnect _ _ _    => 6001
  | .refreshSession _ _ => 6103
  | .callScore _ _      => 4001
  | .robLandlord _ _    => 4001
  | .playCards _ _      => 4001
  | .passTurn _         => 4001

/-- The fields that are passed to `buildKv`. -/
def fields (playerId : ℤ) : ClientRequest → List (String × List Char)
  | .login loginTicket nickname => [("login_ticket", loginTicket), ("nickname", nickname)]
  | .heartbeat nowMs            => [("ts", numberText nowMs)]
  | .startMatch mode            => [("mode", numberText mode)]
  | .cancelMatch                => []
  | .reconnect token roomId snapshotVersion =>
    [("player_id", numberText playerId), ("token", token), ("room_id", numberText roomId),
      ("last_snapshot_version", numberText snapshotVersion)]
  | .refreshSession token roomId =>
    [("player_id", numberText playerId), ("token", token), ("room_id", numberText roomId)]
  | .callScore roomId score =>
    [("room_id", numberText roomId), ("action_type", numberText 1), ("score", numberText score)]
  | .robLandlord roomId rob =>
    [("room_id", numberText roomId), ("action_type", numberText 2),
      ("rob", numberText (if rob then 1 else 0))]
  | .playCards roomId cards =>
    [("room_id", numberText roomId), ("action_type", numberText 3),
      ("cards", List.intercalate [','] (cards.map numberText))]
  | .passTurn roomId => [("room_id", numberText roomId), ("action_type", numberText 4)]

/-- The texts of a request that the client does not make itself. -/
def texts : ClientRequest → List (List Char)
  | .login loginTicket nickname => [loginTicket, nickname]
  | .reconnect token _ _        => [token]
  | .refreshSession token _     => [token]
  | _                           => []

end ClientRequest

/-- A request that is sent, with the clock and the random numbers of its trace ids. -/
structure SentRequest where
  request : ClientRequest
  playerId : ℤ
  seqId : UInt32
  h5Ms : ℕ
  h5Random : ℕ
  traceMs : ℕ
  traceRandom : ℕ
  isSafeInteger_playerId : IsSafeInteger playerId

namespace SentRequest

variable (r : SentRequest)

/-- `generateH5RequestId`. -/
def h5RequestId : List Char :=
  'c' :: '-' :: (numberText r.h5Ms ++ '-' :: numberText r.h5Random)

/-- `generateGatewayTraceId`. -/
def gatewayTraceId : List Char :=
  'g' :: 'w' :: '-' :: (numberText r.traceMs ++ '-' :: numberText r.traceRandom)

/-- The envelope of `sendRequest`. -/
def envelope : TextEnvelope where
  msgId := r.request.msgId
  seqId := r.seqId
  playerId := r.playerId
  body := buildKv (r.request.fields r.playerId)
  h5RequestId := some r.h5RequestId
  gatewayTraceId := some r.gatewayTraceId
  isSafeInteger_playerId := r.isSafeInteger_playerId

/-- What is sent through the WebSocket. -/
def frame : CppString := r.envelope.fromBrowser

end SentRequest

end DdzServer
