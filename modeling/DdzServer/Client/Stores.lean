import DdzServer.Client.Kv

/-!
# The stores of the client

What the push messages of the server do to the stores of the browser: `handlePush` of
`stores/session.ts` with the parsers of `services/gameService.ts`. Of the account only the fields
that pushes write are kept.
-/

namespace DdzServer

namespace Client

structure RoomSnapshotBase where
  roomId : ℤ := 0
  mode : ℤ := 0
  roomState : ℤ := 0
  players : List ℤ := []
  currentOperatorPlayerId : ℤ := 0
  remainSeconds : ℤ := 0
  landlordPlayerId : ℤ := 0
  baseCoin : ℤ := 0
  snapshotVersion : ℤ := 0
  lastActionSeq : ℤ := 0
  playersOnlineBitmap : JsString := []
  trusteePlayers : JsString := []
  nearestOfflineDeadlineMs : ℤ := 0
  deriving DecidableEq

structure RoomPushSnapshotV2 extends RoomSnapshotBase where
  lastPlayPlayerId : ℤ := 0
  lastPlayCards : List ℤ := []
  landlordBottomCards : List ℤ := []
  playerCardCounts : List (ℤ × ℤ) := []
  actionDeadlineMs : ℤ := 0
  deriving DecidableEq

structure PrivateHand where
  cards : List ℤ := []
  cardCount : ℤ := 0
  snapshotVersion : ℤ := 0
  deriving DecidableEq

structure RoomStore where
  inRoom : Bool := false
  reconnectNoticePlayerId : ℤ := 0
  base : RoomSnapshotBase := {}
  v2 : Option RoomPushSnapshotV2 := none
  privateHand : PrivateHand := {}
  deriving DecidableEq

structure LobbyStore where
  matching : Bool := false
  matched : Bool := false
  timeoutNotified : Bool := false
  mode : ℤ := 3
  matchedRoomId : ℤ := 0
  matchedPlayers : List ℤ := []
  deriving DecidableEq

structure SettlementInfo where
  roomId : ℤ
  winnerPlayerId : ℤ
  coinChange : ℤ
  afterCoin : ℤ
  deriving DecidableEq

structure AuthStore where
  coin : ℤ := 0
  roomId : ℤ := 0
  deriving DecidableEq

structure Stores where
  auth : AuthStore := {}
  lobby : LobbyStore := {}
  room : RoomStore := {}
  settlement : Option SettlementInfo := none
  deriving DecidableEq

/-- The messages that `handlePush` acts on. -/
inductive Push where
  | matchSuccessNotify | matchTimeoutNotify | roomSnapshotNotify | roomStatePush | roomStatePushV2
  | privateHandNotify | playerReconnectNotify | gameOverNotify | gameResultPush
  deriving DecidableEq

def parseRoomSnapshotBody (body : JsString) : RoomSnapshotBase :=
  let kv := parseKv body
  { roomId := parseI64 (kv.get "room_id") 0
    mode := parseI64 (kv.get "mode") 0
    roomState := parseI64 (kv.get "room_state") 0
    players := parseCsvNumberList (kv.get "players")
    currentOperatorPlayerId := parseI64 (kv.get "current_operator_player_id") 0
    remainSeconds := parseI64 (kv.get "remain_seconds") 0
    landlordPlayerId := parseI64 (kv.get "landlord_player_id") 0
    baseCoin := parseI64 (kv.get "base_coin") 0
    snapshotVersion := parseI64 (kv.get "snapshot_version") 0
    lastActionSeq := parseI64 (kv.get "last_action_seq") 0
    playersOnlineBitmap := (kv.get "players_online_bitmap").getD []
    trusteePlayers := (kv.get "trustee_players").getD []
    nearestOfflineDeadlineMs := parseI64 (kv.get "nearest_offline_deadline_ms") 0 }

def parseRoomPushV2Body (body : JsString) : RoomPushSnapshotV2 :=
  let kv := parseKv body
  { parseRoomSnapshotBody body with
    lastPlayPlayerId := parseI64 (kv.get "last_play_player_id") 0
    lastPlayCards := parseCsvNumberList (kv.get "last_play_cards")
    landlordBottomCards := parseCsvNumberList (kv.get "landlord_bottom_cards")
    playerCardCounts := parseCardCountList (kv.get "player_card_counts")
    actionDeadlineMs := parseI64 (kv.get "action_deadline_ms") 0 }

namespace RoomStore

def setBase (room : RoomStore) (snapshot : RoomSnapshotBase) : RoomStore :=
  { room with base := snapshot, inRoom := 0 < snapshot.roomId }

def setV2 (room : RoomStore) (snapshot : RoomPushSnapshotV2) : RoomStore :=
  { room with
    v2 := some snapshot
    base := snapshot.toRoomSnapshotBase
    inRoom := 0 < snapshot.roomId }

end RoomStore

namespace Stores

def handlePush (s : Stores) (msg : Push) (body : JsString) : Stores :=
  let kv := parseKv body
  match msg with
  | .matchSuccessNotify =>
    let roomId := parseI64 (kv.get "room_id") 0
    { s with
      lobby := { s.lobby with
        matching := false
        matched := true
        matchedRoomId := roomId
        matchedPlayers := parseCsvNumberList (kv.get "players") }
      auth := { s.auth with roomId := roomId } }
  | .matchTimeoutNotify =>
    { s with lobby := { s.lobby with matching := false, timeoutNotified := true } }
  | .roomSnapshotNotify | .roomStatePush =>
    let room := s.room.setBase (parseRoomSnapshotBody body)
    { s with room := room, auth := { s.auth with roomId := room.base.roomId } }
  | .roomStatePushV2 =>
    let room := s.room.setV2 (parseRoomPushV2Body body)
    { s with room := room, auth := { s.auth with roomId := room.base.roomId } }
  | .privateHandNotify =>
    { s with room := { s.room with
        privateHand := {
          cards := parseCsvNumberList (kv.get "cards")
          cardCount := parseI64 (kv.get "card_count") 0
          snapshotVersion := parseI64 (kv.get "snapshot_version") 0 } } }
  | .playerReconnectNotify =>
    { s with room := { s.room with
        reconnectNoticePlayerId := parseI64 (kv.get "player_id") 0 } }
  | .gameOverNotify | .gameResultPush =>
    { s with
      settlement := some {
        roomId := parseI64 (kv.get "room_id") 0
        winnerPlayerId := parseI64 (kv.get "winner_player_id") 0
        coinChange := parseI64 (kv.get "coin_change") 0
        afterCoin := parseI64 (kv.get "after_coin") 0 }
      auth := { coin := parseI64 (kv.get "after_coin") s.auth.coin, roomId := 0 } }

end Stores

end Client

end DdzServer
