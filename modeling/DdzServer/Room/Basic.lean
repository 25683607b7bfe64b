import DdzServer.Lib.UnorderedMap
import DdzServer.Util.CppString

/-!
# Rooms, snapshots and player actions

The data of `service/room/room.h`, and what `service/room/room_manager.cpp` shows of a room to its
players.
-/

namespace DdzServer

inductive RoomState where
  | waitStart | callScore | robLandlord | playing | settling | finished
  deriving DecidableEq

/-- The number a state is sent as. -/
def RoomState.toInt : RoomState → ℤ
  | .waitStart   => 0
  | .callScore   => 1
  | .robLandlord => 2
  | .playing     => 3
  | .settling    => 4
  | .finished    => 5

structure Room where
  roomId : ℤ := 0
  mode : ℤ := 0
  state : RoomState := .waitStart
  players : List ℤ := []
  currentOperatorPlayerId : ℤ := 0
  stateActionCount : ℤ := 0
  dealt : Bool := false
  hands : UnorderedMap ℤ (List ℤ) := ∅
  landlordBottomCards : List ℤ := []
  landlordPlayerId : ℤ := 0
  highestCallScore : ℤ := 0
  highestCallPlayerId : ℤ := 0
  baseCoin : ℤ := 1
  lastPlayPlayerId : ℤ := 0
  lastPlayCards : List ℤ := []
  consecutivePassCount : ℤ := 0
  snapshotVersion : ℤ := 1
  lastActionSeq : ℤ := 0
  onlineByPlayer : UnorderedMap ℤ Bool := ∅
  trusteeByPlayer : UnorderedMap ℤ Bool := ∅
  offlineAtMsByPlayer : UnorderedMap ℤ ℤ := ∅
  deriving DecidableEq

structure RoomSnapshot where
  roomId : ℤ := 0
  mode : ℤ := 0
  roomState : ℤ := 0
  players : List ℤ := []
  currentOperatorPlayerId : ℤ := 0
  remainSeconds : ℤ := 0
  landlordPlayerId : ℤ := 0
  baseCoin : ℤ := 0
  snapshotVersion : ℤ := 0
  lastActionSeq : ℤ := 0
  playersOnlineBitmap : CppString := []
  trusteePlayers : CppString := []
  nearestOfflineDeadlineMs : ℤ := 0
  deriving DecidableEq

structure RoomPushSnapshotV2 where
  base : RoomSnapshot := {}
  lastPlayPlayerId : ℤ := 0
  lastPlayCards : List ℤ := []
  landlordBottomCards : List ℤ := []
  playerCardCounts : List (ℤ × ℤ) := []
  actionDeadlineMs : ℤ := 0
  deriving DecidableEq

inductive PlayerActionType where
  | callScore | robLandlord | playCards | pass
  deriving DecidableEq

structure PlayerActionRequest where
  actionType : PlayerActionType := .callScore
  callScore : ℤ := -1
  rob : ℤ := -1
  cards : List ℤ := []
  deriving DecidableEq

structure PlayerActionResult where
  snapshot : RoomSnapshot := {}
  gameOver : Bool := false
  winnerPlayerId : ℤ := 0
  baseCoin : ℤ := 0
  deriving DecidableEq

namespace Room

/-- The hand of a player, empty where the room has none. -/
def hand (room : Room) (playerId : ℤ) : List ℤ := UnorderedMap.at' room.hands playerId []

/-- A player counts as online unless the room says otherwise. -/
def online (room : Room) (playerId : ℤ) : Bool := UnorderedMap.at' room.onlineByPlayer playerId true

def trustee (room : Room) (playerId : ℤ) : Bool :=
  UnorderedMap.at' room.trusteeByPlayer playerId false

def offlineAtMs (room : Room) (playerId : ℤ) : ℤ :=
  UnorderedMap.at' room.offlineAtMsByPlayer playerId 0

/-- One round of the loop for `nearest_offline_deadline_ms`. -/
def nearestDeadline (room : Room) (nearest playerId : ℤ) : ℤ :=
  let deadline := room.offlineAtMs playerId + 120000
  if 0 < room.offlineAtMs playerId ∧ (nearest = 0 ∨ deadline < nearest) then deadline else nearest

/-- `MakeSnapshot`. -/
def makeSnapshot (room : Room) : RoomSnapshot where
  roomId := room.roomId
  mode := room.mode
  roomState := room.state.toInt
  players := room.players
  currentOperatorPlayerId := room.currentOperatorPlayerId
  landlordPlayerId := room.landlordPlayerId
  baseCoin := room.baseCoin
  snapshotVersion := room.snapshotVersion
  lastActionSeq := room.lastActionSeq
  playersOnlineBitmap := room.players.map fun pid => if room.online pid then 49 else 48
  trusteePlayers := joinNumberList (room.players.filter room.trustee)
  nearestOfflineDeadlineMs := room.players.foldl room.nearestDeadline 0

/-- `MakePushSnapshotV2`. -/
def makePushSnapshotV2 (room : Room) : RoomPushSnapshotV2 where
  base := room.makeSnapshot
  lastPlayPlayerId := room.lastPlayPlayerId
  lastPlayCards := room.lastPlayCards
  actionDeadlineMs := room.makeSnapshot.nearestOfflineDeadlineMs
  landlordBottomCards :=
    match room.state with
    | .playing | .settling | .finished => room.landlordBottomCards
    | _ => []
  playerCardCounts := room.players.map fun pid => (pid, ((room.hand pid).length : ℤ))

/-- `BumpSnapshotVersion`. -/
def bumpSnapshotVersion (room : Room) (countAsAction : Bool) : Room :=
  { room with
    snapshotVersion := room.snapshotVersion + 1
    lastActionSeq := if countAsAction then room.lastActionSeq + 1 else room.lastActionSeq }

end Room

end DdzServer
