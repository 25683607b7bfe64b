import DdzServer.Lib.Table
import DdzServer.Lib.UnorderedMap

/-!
# Storage of game records, coin logs and coins

The in-memory storage of `service/storage`: what `storage_service.cpp` and the three access objects
do when MySQL is disabled. `persistSettlementTransaction` writes row by row and rolls back itself.
-/

namespace DdzServer

open UnorderedMap

structure GameRecord where
  recordId : ℤ := 0
  roomId : ℤ := 0
  gameMode : ℤ := 0
  winnerPlayerId : ℤ := 0
  startedAtMs : ℤ := 0
  endedAtMs : ℤ := 0
  players : List ℤ := []
  deriving DecidableEq

structure CoinLog where
  id : ℤ := 0
  playerId : ℤ := 0
  roomId : ℤ := 0
  changeAmount : ℤ := 0
  beforeCoin : ℤ := 0
  afterCoin : ℤ := 0
  createdAtMs : ℤ := 0
  deriving DecidableEq

inductive StorageTxFailpoint where
  | none | afterRecordInserted | afterFirstCoinLogInserted
  deriving DecidableEq

structure SettlementCoinChange where
  playerId : ℤ := 0
  roomId : ℤ := 0
  delta : ℤ := 0
  beforeCoin : ℤ := 0
  afterCoin : ℤ := 0
  deriving DecidableEq

structure SettlementPersistRequest where
  roomId : ℤ := 0
  gameMode : ℤ := 0
  winnerPlayerId : ℤ := 0
  startedAtMs : ℤ := 0
  endedAtMs : ℤ := 0
  players : List ℤ := []
  coinChanges : List SettlementCoinChange := []
  deriving DecidableEq

structure StorageService where
  gameRecords : Table GameRecord := .empty
  coinLogs : Table CoinLog := .empty
  playerCoins : UnorderedMap ℤ ℤ := ∅
  failpoint : StorageTxFailpoint := .none

namespace StorageService

def setTxFailpointForTesting (st : StorageService) (failpoint : StorageTxFailpoint) :
    StorageService := { st with failpoint := failpoint }

/-- `GameRecordDao::Insert`. -/
def insertRecord (st : StorageService) (record : GameRecord) : StorageService × ℤ :=
  let id := st.gameRecords.nextId
  ({ st with gameRecords := st.gameRecords.insert { record with recordId := id } }, id)

/-- `CoinLogDao::Insert`. -/
def insertCoinLog (st : StorageService) (log : CoinLog) : StorageService × ℤ :=
  let id := st.coinLogs.nextId
  ({ st with coinLogs := st.coinLogs.insert { log with id := id } }, id)

def getPlayerCoin (st : StorageService) (playerId : ℤ) : Option ℤ := st.playerCoins.lookup playerId

/-- `PlayerDao::UpsertCoin` on the stored coins. -/
def upsertCoin (coins : UnorderedMap ℤ ℤ) (playerId coin : ℤ) : UnorderedMap ℤ ℤ × Bool :=
  if playerId ≤ 0 then (coins, false) else (Finmap.insert playerId coin coins, true)

/-- The game records of a room. -/
def gameRecordsOf (st : StorageService) (roomId : ℤ) : Multiset GameRecord :=
  st.gameRecords.bag.filter fun record => record.roomId = roomId

/-- The coin logs of a room. -/
def coinLogsOf (st : StorageService) (roomId : ℤ) : Multiset CoinLog :=
  st.coinLogs.bag.filter fun log => log.roomId = roomId

/-- What a transaction remembers for its rollback; both lists have the latest entry first. -/
structure Undo where
  recordId : ℤ
  coinLogIds : List ℤ := []
  oldCoins : List (ℤ × Option ℤ) := []

/-- One round of the rollback loop over the players. -/
def restoreCoin (coins : UnorderedMap ℤ ℤ) (item : ℤ × Option ℤ) : UnorderedMap ℤ ℤ :=
  match item.2 with
  | some coin => (upsertCoin coins item.1 coin).1
  | none      => Finmap.erase item.1 coins

/-- The `rollback` of the transaction. -/
def rollback (st : StorageService) (undo : Undo) : StorageService where
  coinLogs := undo.coinLogIds.foldl Table.delete st.coinLogs
  gameRecords := if 0 < undo.recordId then st.gameRecords.delete undo.recordId else st.gameRecords
  playerCoins := undo.oldCoins.foldl restoreCoin st.playerCoins
  failpoint := st.failpoint

/-- The log written for a coin change. -/
def logOf (endedAtMs : ℤ) (c : SettlementCoinChange) : CoinLog where
  playerId := c.playerId
  roomId := c.roomId
  changeAmount := c.delta
  beforeCoin := c.beforeCoin
  afterCoin := c.afterCoin
  createdAtMs := endedAtMs

/-- The loop of the transaction over the coin changes; it ends with an error text after the
rollback, or with `none`. -/
def persistChanges (endedAtMs : ℤ) : StorageService → Undo → List SettlementCoinChange →
    StorageService × Option String
  | st, _,    []      => (st, none)
  | st, undo, c :: cs =>
    let undo := { undo with oldCoins := (c.playerId, st.getPlayerCoin c.playerId) :: undo.oldCoins }
    let (coins, upserted) := upsertCoin st.playerCoins c.playerId c.afterCoin
    let st := { st with playerCoins := coins }
    if ¬ upserted then
      (st.rollback undo, some "upsert player coin failed")
    else
      let (st, logId) := st.insertCoinLog (logOf endedAtMs c)
      if logId ≤ 0 then
        (st.rollback undo, some "insert coin log failed")
      else
        -- the fail point is checked after the first change only
        let isFirst := undo.coinLogIds = []
        let undo := { undo with coinLogIds := logId :: undo.coinLogIds }
        if st.failpoint = .afterFirstCoinLogInserted ∧ isFirst then
          (st.rollback undo, some "tx failpoint after first coin log inserted")
        else
          persistChanges endedAtMs st undo cs

/-- The record of a request, without its id. -/
def recordOf (req : SettlementPersistRequest) : GameRecord where
  roomId := req.roomId
  gameMode := req.gameMode
  winnerPlayerId := req.winnerPlayerId
  startedAtMs := req.startedAtMs
  endedAtMs := req.endedAtMs
  players := req.players

/-- `PersistSettlementTransaction` without MySQL: the id of the new record, or an error text. -/
def persistSettlementTransaction (st : StorageService) (req : SettlementPersistRequest) :
    StorageService × Except String ℤ :=
  if req.roomId ≤ 0 ∨ req.winnerPlayerId ≤ 0 ∨ req.coinChanges = [] then
    (st, .error "invalid settlement persist request")
  else
    let (st, recordId) := st.insertRecord (recordOf req)
    if recordId ≤ 0 then
      (st, .error "insert game record failed")
    else if st.failpoint = .afterRecordInserted then
      (st.rollback { recordId := recordId }, .error "tx failpoint after record inserted")
    else
      match st.persistChanges req.endedAtMs { recordId := recordId } req.coinChanges with
      | (st', some err) => (st', .error err)
      | (st', none)     => (st', .ok recordId)

end StorageService

end DdzServer
