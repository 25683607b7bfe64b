import DdzServer.Server.GameServer
import Mathlib.Data.Finset.Insert

/-!
# Settlement

`service/settlement/settlement_service.cpp`: a room that is decided is paid out once, through the
storage, the players, the sessions and the rooms.
-/

namespace DdzServer

structure ServerSettlementDecision where
  roomId : ℤ := 0
  winnerPlayerId : ℤ := 0
  baseCoin : ℤ := 0
  deriving DecidableEq

structure SettlementPlayerResult where
  playerId : ℤ := 0
  changeAmount : ℤ := 0
  afterCoin : ℤ := 0
  deriving DecidableEq

structure SettlementResult where
  code : ErrorCode := .unknownError
  roomId : ℤ := 0
  winnerPlayerId : ℤ := 0
  recordId : ℤ := 0
  players : List SettlementPlayerResult := []
  deriving DecidableEq

namespace ServerSettlementDecision

/-- `SettleByServerResult` answers `INVALID_PACKET` to every other decision. -/
def IsValid (d : ServerSettlementDecision) : Prop :=
  0 < d.roomId ∧ 0 < d.winnerPlayerId ∧ 0 < d.baseCoin

instance (d : ServerSettlementDecision) : Decidable d.IsValid :=
  inferInstanceAs (Decidable (_ ∧ _ ∧ _))

/-- What a player of the room wins or loses. -/
def delta (d : ServerSettlementDecision) (room : Room) (playerId : ℤ) : ℤ :=
  if playerId = d.winnerPlayerId then d.baseCoin * ((room.players.length : ℤ) - 1)
  else -d.baseCoin

/-- The result before its code is known. -/
def result (d : ServerSettlementDecision) (code : ErrorCode) : SettlementResult where
  code := code
  roomId := d.roomId
  winnerPlayerId := d.winnerPlayerId

/-- The coin change of a player with the given coins. -/
def coinChange (d : ServerSettlementDecision) (room : Room) (playerId before : ℤ) :
    SettlementCoinChange where
  playerId := playerId
  roomId := room.roomId
  delta := d.delta room playerId
  beforeCoin := before
  afterCoin := before + d.delta room playerId

/-- The request for the storage. -/
def persistRequest (d : ServerSettlementDecision) (room : Room) (nowMs : ℤ)
    (changes : List SettlementCoinChange) : SettlementPersistRequest where
  roomId := room.roomId
  gameMode := room.mode
  winnerPlayerId := d.winnerPlayerId
  startedAtMs := nowMs
  endedAtMs := nowMs
  players := room.players
  coinChanges := changes

end ServerSettlementDecision

namespace GameServer

variable (s : GameServer) (d : ServerSettlementDecision)

/-- The loop that collects the coin changes; it stops at a player who is not registered. -/
def coinChanges (room : Room) : List ℤ → List SettlementCoinChange
  | []        => []
  | pid :: ps =>
    match s.players.getPlayer pid with
    | none        => []
    | some player => d.coinChange room pid player.coin :: coinChanges room ps

/-- One round of the loop that takes failed changes back. -/
def rollbackCoin (players : PlayerManager) (c : SettlementCoinChange) : PlayerManager :=
  (players.addCoin c.playerId (c.beforeCoin - players.getCoin c.playerId)).1

/-- One round of the loop that sends the players back to the lobby. -/
def leaveRoom (s : GameServer) (playerId : ℤ) : GameServer :=
  { s with
    sessions := (s.sessions.clearRoomId playerId).1
    players := s.players.forceState playerId .lobby }

/-- The end of a settlement: the players leave, and the room is destroyed. -/
def closeRoom (s : GameServer) (room : Room) : GameServer :=
  let left := room.players.foldl leaveRoom s
  { left with
    rooms := ((left.rooms.markFinished room.roomId).1.destroyRoom room.roomId).1 }

/-- The settlement of a room from the point where it is marked. -/
def payOut (room : Room) (nowMs : ℤ) : GameServer × SettlementResult :=
  if d.winnerPlayerId ∉ room.players then
    (s, d.result .settlementFailed)
  else
    let changes := s.coinChanges d room room.players
    if changes.length ≠ room.players.length then
      (s, d.result .settlementFailed)
    else
      match s.storage.persistSettlementTransaction (d.persistRequest room nowMs changes) with
      | (storage, .error _)     => ({ s with storage := storage }, d.result .settlementFailed)
      | (storage, .ok recordId) =>
        let (players, after) := s.players.batchAddCoin (changes.map fun c => (c.playerId, c.delta))
        if after = none ∨ (after.getD []).length ≠ room.players.length then
          ({ s with storage := storage, players := changes.foldl rollbackCoin players },
            { d.result .settlementFailed with recordId := recordId })
        else
          ({ s with storage := storage, players := players }.closeRoom room,
            { d.result .ok with
              recordId := recordId
              players := (changes.zip (after.getD [])).map fun c =>
                ⟨c.1.playerId, c.1.delta, c.2⟩ })

/-- `SettlementService::SettleByServerResult` between taking and releasing the room's guard. -/
def settleGuarded (nowMs : ℤ) : GameServer × SettlementResult :=
  match s.rooms.getRoomById d.roomId with
  | none      => (s, d.result .roomNotFound)
  | some room => { s with rooms := (s.rooms.markSettling d.roomId).1 }.payOut d room nowMs

/-- `SettlementService::SettleByServerResult`. -/
def settleByServerResult (nowMs : ℤ) : GameServer × SettlementResult :=
  if ¬ d.IsValid then
    (s, d.result .invalidPacket)
  else if d.roomId ∈ s.settlingRooms then
    (s, d.result .settlementFailed)
  else
    let (s', result) :=
      { s with settlingRooms := insert d.roomId s.settlingRooms }.settleGuarded d nowMs
    ({ s' with settlingRooms := s'.settlingRooms.erase d.roomId }, result)

end GameServer

end DdzServer
