import DdzServer.Storage.StorageService

/-!
# The settlement transaction is all or nothing

A transaction that fails has given back every row it wrote, whatever the storage held before; one
that succeeds has written the record, one log for each coin change, and the coins.
-/

namespace DdzServer

open UnorderedMap

namespace StorageService

variable {st st' : StorageService} {req : SettlementPersistRequest}

/-- Two storages with the same rows; the ids of the next rows may differ. -/
structure SameRows (st st' : StorageService) : Prop where
  records : st'.gameRecords.rows = st.gameRecords.rows
  logs : st'.coinLogs.rows = st.coinLogs.rows
  coins : st'.playerCoins = st.playerCoins

lemma SameRows.refl (st : StorageService) : SameRows st st := ⟨rfl, rfl, rfl⟩

/-! ### The rollback -/

/-- Giving a player's coins back takes the write back. -/
lemma restoreCoin_upsertCoin (coins : UnorderedMap ℤ ℤ) (playerId coin : ℤ) :
    restoreCoin (upsertCoin coins playerId coin).1 (playerId, coins.lookup playerId) = coins := by
  refine Finmap.ext_lookup fun a => ?_
  unfold upsertCoin
  split_ifs with hid
  · -- nothing was written
    cases hold : coins.lookup playerId with
    | none =>
      simp only [restoreCoin, lookup_erase]
      split_ifs with ha
      · rw [ha, hold]
      · rfl
    | some old => simp [restoreCoin, upsertCoin, hid]
  · cases hold : coins.lookup playerId with
    | none =>
      simp only [restoreCoin, lookup_erase, lookup_insert]
      split_ifs with ha
      · rw [ha, hold]
      · rfl
    | some old =>
      simp only [restoreCoin, upsertCoin, if_neg hid, lookup_insert]
      split_ifs with ha
      · rw [ha, hold]
      · rfl

lemma rows_foldl_delete {ν : Type} {t t' : Table ν} (ids : List ℤ) (h : t.rows = t'.rows) :
    (ids.foldl Table.delete t).rows = (ids.foldl Table.delete t').rows := by
  induction ids generalizing t t' with
  | nil => exact h
  | cons id ids ih => exact ih (congrArg (Finmap.erase id) h)

/-- Rolling back `st` with what the transaction remembers gives the rows of `st₀`. -/
def Undoes (st₀ st : StorageService) (undo : Undo) : Prop := SameRows st₀ (st.rollback undo)

lemma undoes_insertRecord (st : StorageService) (record : GameRecord) :
    Undoes st (st.insertRecord record).1 { recordId := (st.insertRecord record).2 } := by
  have hpos : 0 < st.gameRecords.nextId := st.gameRecords.nextId_pos
  refine ⟨?_, rfl, rfl⟩
  change (if 0 < st.gameRecords.nextId then _ else _ : Table GameRecord).rows = _
  rw [if_pos hpos]
  exact Table.rows_delete_insert _ _

/-- A write of coins can be undone. -/
lemma Undoes.upsertCoin {st₀ : StorageService} {undo : Undo} (h : Undoes st₀ st undo)
    (playerId coin : ℤ) :
    Undoes st₀ { st with playerCoins := (upsertCoin st.playerCoins playerId coin).1 }
      { undo with oldCoins := (playerId, st.getPlayerCoin playerId) :: undo.oldCoins } := by
  refine ⟨h.records, h.logs, ?_⟩
  simp only [rollback, getPlayerCoin, List.foldl_cons, restoreCoin_upsertCoin]
  exact h.coins

/-- The write of a log can be undone. -/
lemma Undoes.insertCoinLog {st₀ : StorageService} {undo : Undo} (h : Undoes st₀ st undo)
    (log : CoinLog) :
    Undoes st₀ (st.insertCoinLog log).1
      { undo with coinLogIds := (st.insertCoinLog log).2 :: undo.coinLogIds } := by
  refine ⟨h.records, ?_, h.coins⟩
  rw [← h.logs]
  simp only [rollback, StorageService.insertCoinLog, List.foldl_cons]
  exact rows_foldl_delete undo.coinLogIds (Table.rows_delete_insert _ _)

/-! ### The coin changes -/

/-- The storage after one coin change. -/
def writeChange (endedAtMs : ℤ) (st : StorageService) (c : SettlementCoinChange) :
    StorageService :=
  ({ st with playerCoins := Finmap.insert c.playerId c.afterCoin st.playerCoins }.insertCoinLog
    (logOf endedAtMs c)).1

/-- The fail point lets the coin changes pass. -/
def PassesFirst (st : StorageService) (undo : Undo) (cs : List SettlementCoinChange) : Prop :=
  st.failpoint = .afterFirstCoinLogInserted → undo.coinLogIds ≠ [] ∨ cs = []

/-- What the transaction remembers after it wrote the coins of a change. -/
def Undo.withCoin (undo : Undo) (st : StorageService) (c : SettlementCoinChange) : Undo :=
  { undo with oldCoins := (c.playerId, st.getPlayerCoin c.playerId) :: undo.oldCoins }

/-- What the transaction remembers after a change. -/
def Undo.withChange (undo : Undo) (st : StorageService) (c : SettlementCoinChange) : Undo :=
  { undo.withCoin st c with coinLogIds := st.coinLogs.nextId :: undo.coinLogIds }

variable {endedAtMs : ℤ} {undo : Undo} {c : SettlementCoinChange} {cs : List SettlementCoinChange}

lemma persistChanges_refused (hid : c.playerId ≤ 0) :
    persistChanges endedAtMs st undo (c :: cs) =
      (st.rollback (undo.withCoin st c), some "upsert player coin failed") := by
  have hup : upsertCoin st.playerCoins c.playerId c.afterCoin = (st.playerCoins, false) :=
    if_pos hid
  simp [persistChanges, hup, Undo.withCoin]

lemma persistChanges_written (hid : 0 < c.playerId) :
    persistChanges endedAtMs st undo (c :: cs) =
      if st.failpoint = .afterFirstCoinLogInserted ∧ undo.coinLogIds = [] then
        ((writeChange endedAtMs st c).rollback (undo.withChange st c),
          some "tx failpoint after first coin log inserted")
      else persistChanges endedAtMs (writeChange endedAtMs st c) (undo.withChange st c) cs := by
  have hup : upsertCoin st.playerCoins c.playerId c.afterCoin =
      (Finmap.insert c.playerId c.afterCoin st.playerCoins, true) := if_neg (not_le.mpr hid)
  have hlog : ¬ st.coinLogs.nextId ≤ 0 := not_le.mpr st.coinLogs.nextId_pos
  simp [persistChanges, hup, hlog, insertCoinLog, writeChange, Undo.withChange, Undo.withCoin]

lemma Undoes.refused {st₀ : StorageService} (h : Undoes st₀ st undo) (hid : c.playerId ≤ 0) :
    Undoes st₀ st (undo.withCoin st c) := by
  have hup := h.upsertCoin c.playerId c.afterCoin
  rwa [StorageService.upsertCoin, if_pos hid] at hup

lemma Undoes.written {st₀ : StorageService} (h : Undoes st₀ st undo) (hid : 0 < c.playerId) :
    Undoes st₀ (writeChange endedAtMs st c) (undo.withChange st c) := by
  have hup := h.upsertCoin c.playerId c.afterCoin
  rw [StorageService.upsertCoin, if_neg (not_le.mpr hid)] at hup
  exact hup.insertCoinLog (logOf endedAtMs c)

/-- The loop either writes all coin changes, or rolls back. -/
lemma persistChanges_spec (endedAtMs : ℤ) {st₀ : StorageService}
    {cs : List SettlementCoinChange} (h : Undoes st₀ st undo) :
    ((∀ c ∈ cs, 0 < c.playerId) ∧ PassesFirst st undo cs ∧
        persistChanges endedAtMs st undo cs = (cs.foldl (writeChange endedAtMs) st, none)) ∨
      (¬ ((∀ c ∈ cs, 0 < c.playerId) ∧ PassesFirst st undo cs) ∧
        ∃ st' err, persistChanges endedAtMs st undo cs = (st', some err) ∧ SameRows st₀ st') := by
  induction cs generalizing st undo with
  | nil => exact Or.inl ⟨by simp, fun _ => Or.inr rfl, rfl⟩
  | cons c cs ih =>
    rcases le_or_gt c.playerId 0 with hid | hid
    · refine Or.inr ⟨fun hall => ?_, _, _, persistChanges_refused hid, h.refused hid⟩
      exact absurd (hall.1 c List.mem_cons_self) (not_lt.mpr hid)
    · rw [persistChanges_written hid]
      by_cases hfail : st.failpoint = .afterFirstCoinLogInserted ∧ undo.coinLogIds = []
      · rw [if_pos hfail]
        refine Or.inr ⟨fun hall => ?_, _, _, rfl, h.written hid⟩
        rcases hall.2 hfail.1 with hne | hnil
        · exact hne hfail.2
        · cases hnil
      · rw [if_neg hfail]
        have hpass : PassesFirst st undo (c :: cs) := fun hf => Or.inl fun hnil => hfail ⟨hf, hnil⟩
        rcases ih (h.written hid) with ⟨hpos, -, heq⟩ | ⟨hnot, st', err, heq, hsame⟩
        · exact Or.inl ⟨List.forall_mem_cons.mpr ⟨hid, hpos⟩, hpass, heq⟩
        · refine Or.inr ⟨fun hall => hnot ⟨(List.forall_mem_cons.mp hall.1).2, ?_⟩,
            st', err, heq, hsame⟩
          exact fun _ => Or.inl (List.cons_ne_nil _ _)

/-! ### The transaction -/

/-- The requests that the storage accepts. -/
structure Accepts (st : StorageService) (req : SettlementPersistRequest) : Prop where
  roomId : 0 < req.roomId
  winner : 0 < req.winnerPlayerId
  changes : req.coinChanges ≠ []
  playerIds : ∀ c ∈ req.coinChanges, 0 < c.playerId
  failpoint : st.failpoint = .none

/-- The storage after a transaction that succeeds. -/
def persisted (st : StorageService) (req : SettlementPersistRequest) : StorageService :=
  req.coinChanges.foldl (writeChange req.endedAtMs) (st.insertRecord (recordOf req)).1

lemma persist_of_valid (hreq : ¬ (req.roomId ≤ 0 ∨ req.winnerPlayerId ≤ 0 ∨ req.coinChanges = [])) :
    st.persistSettlementTransaction req =
      if st.failpoint = .afterRecordInserted then
        ((st.insertRecord (recordOf req)).1.rollback { recordId := st.gameRecords.nextId },
          .error "tx failpoint after record inserted")
      else
        match (st.insertRecord (recordOf req)).1.persistChanges req.endedAtMs
            { recordId := st.gameRecords.nextId } req.coinChanges with
        | (st', some err) => (st', .error err)
        | (st', none)     => (st', .ok st.gameRecords.nextId) := by
  have hid : ¬ st.gameRecords.nextId ≤ 0 := not_le.mpr st.gameRecords.nextId_pos
  rw [persistSettlementTransaction, if_neg hreq]
  change (if st.gameRecords.nextId ≤ 0 then _ else _) = _
  rw [if_neg hid]
  rfl

/-- An accepted transaction writes everything; any other is undone. -/
theorem persist_spec (st : StorageService) (req : SettlementPersistRequest) :
    (Accepts st req ∧
        st.persistSettlementTransaction req = (st.persisted req, .ok st.gameRecords.nextId)) ∨
      (¬ Accepts st req ∧ ∃ st' err,
        st.persistSettlementTransaction req = (st', .error err) ∧ SameRows st st') := by
  by_cases hreq : req.roomId ≤ 0 ∨ req.winnerPlayerId ≤ 0 ∨ req.coinChanges = []
  · refine Or.inr ⟨fun ha => ?_, _, _, if_pos hreq, .refl st⟩
    rcases hreq with hroom | hwinner | hnil
    · exact absurd ha.roomId (not_lt.mpr hroom)
    · exact absurd ha.winner (not_lt.mpr hwinner)
    · exact ha.changes hnil
  · rw [persist_of_valid hreq]
    simp only [not_or, not_le] at hreq
    obtain ⟨hroom, hwinner, hne⟩ := hreq
    have hundo := undoes_insertRecord st (recordOf req)
    by_cases hrec : st.failpoint = .afterRecordInserted
    · rw [if_pos hrec]
      refine Or.inr ⟨fun ha => ?_, _, _, rfl, hundo⟩
      rw [ha.failpoint] at hrec
      cases hrec
    · rw [if_neg hrec]
      rcases persistChanges_spec req.endedAtMs hundo with
        ⟨hpos, hpass, heq⟩ | ⟨hnot, st', err, heq, hsame⟩
      · change persistChanges _ _ { recordId := st.gameRecords.nextId } _ = _ at heq
        rw [heq]
        refine Or.inl ⟨⟨hroom, hwinner, hne, hpos, ?_⟩, rfl⟩
        cases hfp : st.failpoint with
        | none => rfl
        | afterRecordInserted => exact absurd hfp hrec
        | afterFirstCoinLogInserted =>
          rcases hpass hfp with hnil | hnil
          · exact absurd rfl hnil
          · exact absurd hnil hne
      · change persistChanges _ _ { recordId := st.gameRecords.nextId } _ = _ at heq
        rw [heq]
        refine Or.inr ⟨fun ha => hnot ⟨ha.playerIds, fun hf => ?_⟩, st', err, rfl, hsame⟩
        have hnone : (st.insertRecord (recordOf req)).1.failpoint = .none := ha.failpoint
        rw [hnone] at hf
        cases hf

/-! ### What an accepted transaction writes -/

lemma playerCoins_foldl_writeChange (endedAtMs : ℤ) (cs : List SettlementCoinChange)
    (st : StorageService) :
    (cs.foldl (writeChange endedAtMs) st).playerCoins =
      cs.foldl (fun m c => Finmap.insert c.playerId c.afterCoin m) st.playerCoins := by
  induction cs generalizing st with
  | nil => rfl
  | cons c cs ih => exact ih _

lemma gameRecords_foldl_writeChange (endedAtMs : ℤ) (cs : List SettlementCoinChange)
    (st : StorageService) :
    (cs.foldl (writeChange endedAtMs) st).gameRecords = st.gameRecords := by
  induction cs generalizing st with
  | nil => rfl
  | cons c cs ih => exact ih _

lemma failpoint_foldl_writeChange (endedAtMs : ℤ) (cs : List SettlementCoinChange)
    (st : StorageService) :
    (cs.foldl (writeChange endedAtMs) st).failpoint = st.failpoint := by
  induction cs generalizing st with
  | nil => rfl
  | cons c cs ih => exact ih _

/-- A sum over all logs that does not look at their ids grows by its terms for the coin changes. -/
lemma sum_coinLogs_foldl_writeChange {M : Type} [AddCommMonoid M] (f : CoinLog → M)
    (hf : ∀ log id, f { log with id := id } = f log) (endedAtMs : ℤ)
    (cs : List SettlementCoinChange) (st : StorageService) :
    ((cs.foldl (writeChange endedAtMs) st).coinLogs.bag.map f).sum =
      (cs.map fun c => f (logOf endedAtMs c)).sum + (st.coinLogs.bag.map f).sum := by
  induction cs generalizing st with
  | nil => simp
  | cons c cs ih =>
    have hbag : (writeChange endedAtMs st c).coinLogs.bag =
        { logOf endedAtMs c with id := st.coinLogs.nextId } ::ₘ st.coinLogs.bag :=
      Table.bag_insert _ _
    rw [List.foldl_cons, ih, hbag, Multiset.map_cons, Multiset.sum_cons, hf, List.map_cons,
      List.sum_cons]
    abel

/-! ### What the logs say -/

/-- What the coin logs say a player won and lost in all. -/
def logged (st : StorageService) (p : ℤ) : ℤ :=
  ((st.coinLogs.bag.filter fun log => log.playerId = p).map CoinLog.changeAmount).sum

lemma logged_eq (st : StorageService) (p : ℤ) :
    st.logged p =
      (st.coinLogs.bag.map fun log => if log.playerId = p then log.changeAmount else 0).sum := by
  rw [logged]
  induction st.coinLogs.bag using Multiset.induction with
  | empty => rfl
  | cons log logs ih =>
    rw [Multiset.map_cons, Multiset.sum_cons, ← ih]
    by_cases hp : log.playerId = p
    · simp [hp]
    · simp [hp]

lemma SameRows.logged {st st' : StorageService} (h : SameRows st st') (p : ℤ) :
    st'.logged p = st.logged p := by
  rw [StorageService.logged, Table.bag, h.logs]
  rfl

/-- What accepted transactions add to the logs of a player. -/
lemma logged_persisted (st : StorageService) (req : SettlementPersistRequest) (p : ℤ) :
    (st.persisted req).logged p =
      (req.coinChanges.map fun c => if c.playerId = p then c.delta else 0).sum + st.logged p := by
  rw [logged_eq, logged_eq]
  exact sum_coinLogs_foldl_writeChange
    (fun log => if log.playerId = p then log.changeAmount else 0) (fun _ _ => rfl) _ _ _

/-- Who occurs in the logs after an accepted transaction. -/
lemma playerId_mem_persisted (st : StorageService) (req : SettlementPersistRequest) (p : ℤ) :
    (∃ log ∈ (st.persisted req).coinLogs.bag, log.playerId = p) ↔
      (∃ c ∈ req.coinChanges, c.playerId = p) ∨ ∃ log ∈ st.coinLogs.bag, log.playerId = p := by
  have hsum := sum_coinLogs_foldl_writeChange (fun log => ({log.playerId} : Multiset ℤ))
    (fun _ _ => rfl) req.endedAtMs req.coinChanges (st.insertRecord (recordOf req)).1
  have hbag : ∀ logs : Multiset CoinLog,
      (logs.map fun log => ({log.playerId} : Multiset ℤ)).sum = logs.map CoinLog.playerId := by
    intro logs
    induction logs using Multiset.induction with
    | empty => rfl
    | cons log logs ih => simp [ih]
  rw [hbag, hbag] at hsum
  have hmem := congrArg (p ∈ ·) hsum
  have hlist : p ∈ (req.coinChanges.map fun c => ({c.playerId} : Multiset ℤ)).sum ↔
      ∃ c ∈ req.coinChanges, c.playerId = p := by
    induction req.coinChanges with
    | nil => simp
    | cons c cs ih => simp [ih, eq_comm]
  simp only [Multiset.mem_add, eq_iff_iff, Multiset.mem_map] at hmem
  exact hmem.trans (or_congr_left hlist)

/-! ### What the rows of a room say -/

/-- Who won or lost what in a room. -/
def bookedFor (st : StorageService) (roomId : ℤ) : Multiset (ℤ × ℤ) :=
  (st.coinLogsOf roomId).map fun log => (log.playerId, log.changeAmount)

lemma SameRows.gameRecordsOf {st st' : StorageService} (h : SameRows st st') (r : ℤ) :
    st'.gameRecordsOf r = st.gameRecordsOf r := by
  rw [StorageService.gameRecordsOf, Table.bag, h.records]
  rfl

lemma SameRows.bookedFor {st st' : StorageService} (h : SameRows st st') (r : ℤ) :
    st'.bookedFor r = st.bookedFor r := by
  rw [StorageService.bookedFor, coinLogsOf, Table.bag, h.logs]
  rfl

/-- An accepted transaction writes one record, for the room of the request. -/
lemma gameRecordsOf_persisted (st : StorageService) (req : SettlementPersistRequest) (r : ℤ) :
    (st.persisted req).gameRecordsOf r =
      if req.roomId = r then
        { recordOf req with recordId := st.gameRecords.nextId } ::ₘ st.gameRecordsOf r
      else st.gameRecordsOf r := by
  have hbag : (st.persisted req).gameRecords.bag =
      { recordOf req with recordId := st.gameRecords.nextId } ::ₘ st.gameRecords.bag := by
    rw [persisted, gameRecords_foldl_writeChange]
    exact Table.bag_insert _ _
  rw [gameRecordsOf, hbag]
  split_ifs with hr
  · exact Multiset.filter_cons_of_pos _ hr
  · exact Multiset.filter_cons_of_neg _ hr

lemma bookedFor_eq (st : StorageService) (r : ℤ) :
    st.bookedFor r = (st.coinLogs.bag.map fun log =>
      if log.roomId = r then {(log.playerId, log.changeAmount)} else 0).sum := by
  rw [bookedFor, coinLogsOf]
  induction st.coinLogs.bag using Multiset.induction with
  | empty => rfl
  | cons log logs ih =>
    rw [Multiset.map_cons, Multiset.sum_cons, ← ih]
    by_cases hr : log.roomId = r <;> simp [hr]

/-- An accepted transaction writes a log for every coin change, for the room of the request. -/
lemma bookedFor_persisted (st : StorageService) {req : SettlementPersistRequest}
    (hreq : ∀ c ∈ req.coinChanges, c.roomId = req.roomId) (r : ℤ) :
    (st.persisted req).bookedFor r =
      if req.roomId = r then
        ((req.coinChanges.map fun c => (c.playerId, c.delta) : List (ℤ × ℤ)) : Multiset (ℤ × ℤ)) +
          st.bookedFor r
      else st.bookedFor r := by
  have hsum := sum_coinLogs_foldl_writeChange (M := Multiset (ℤ × ℤ))
    (fun log => if log.roomId = r then {(log.playerId, log.changeAmount)} else 0)
    (fun _ _ => rfl) req.endedAtMs req.coinChanges (st.insertRecord (recordOf req)).1
  have hbag : (st.insertRecord (recordOf req)).1.coinLogs = st.coinLogs := rfl
  rw [← bookedFor_eq, hbag, ← bookedFor_eq] at hsum
  rw [persisted, hsum]
  have hchanges : ∀ cs : List SettlementCoinChange, (∀ c ∈ cs, c.roomId = req.roomId) →
      (cs.map fun c => if (logOf req.endedAtMs c).roomId = r then
        ({((logOf req.endedAtMs c).playerId, (logOf req.endedAtMs c).changeAmount)} :
          Multiset (ℤ × ℤ)) else 0).sum =
        if req.roomId = r then
          ((cs.map fun c => (c.playerId, c.delta) : List (ℤ × ℤ)) : Multiset (ℤ × ℤ))
        else 0 := by
    intro cs
    induction cs with
    | nil => simp
    | cons c cs ih =>
      intro hcs
      obtain ⟨hc, hcs⟩ := List.forall_mem_cons.mp hcs
      rw [List.map_cons, List.sum_cons, ih hcs, logOf, hc]
      split_ifs <;> simp
  rw [hchanges _ hreq]
  split_ifs <;> simp

/-! ### The rows after a transaction -/

/-- The coins after the changes: whoever is listed has the coins of his last change. -/
lemma lookup_foldl_insert_afterCoin (cs : List SettlementCoinChange) (coins : UnorderedMap ℤ ℤ)
    (p : ℤ) :
    (cs.foldl (fun m c => Finmap.insert c.playerId c.afterCoin m) coins).lookup p =
      ((cs.filter fun c => c.playerId = p).getLast?.map SettlementCoinChange.afterCoin).or
        (coins.lookup p) := by
  induction cs using List.reverseRecOn with
  | nil => rfl
  | append_singleton cs c ih =>
    rw [List.foldl_append, List.foldl_cons, List.foldl_nil, lookup_insert, List.filter_append]
    by_cases hp : p = c.playerId
    · simp [hp]
    · rw [if_neg hp, ih]
      simp [Ne.symm hp]

/-- The row of a change in the logs. -/
def storedLog (endedAtMs : ℤ) (c : SettlementCoinChange) (id : ℤ) : CoinLog :=
  { logOf endedAtMs c with id := id }

/-- The logs of the changes get the next ids, in order. -/
lemma find_coinLogs_foldl_writeChange (endedAtMs : ℤ) (cs : List SettlementCoinChange)
    (st : StorageService) :
    (∀ i (hi : i < cs.length),
      (cs.foldl (writeChange endedAtMs) st).coinLogs.find (st.coinLogs.nextId + i) =
        some (storedLog endedAtMs cs[i] (st.coinLogs.nextId + i))) ∧
    ∀ k, (∀ i < cs.length, k ≠ st.coinLogs.nextId + i) →
      (cs.foldl (writeChange endedAtMs) st).coinLogs.find k = st.coinLogs.find k := by
  induction cs generalizing st with
  | nil => exact ⟨fun i hi => absurd hi (Nat.not_lt_zero i), fun _ _ => rfl⟩
  | cons c cs ih =>
    obtain ⟨hnew, hold⟩ := ih (writeChange endedAtMs st c)
    have hnext : (writeChange endedAtMs st c).coinLogs.nextId = st.coinLogs.nextId + 1 := rfl
    have hfind : ∀ k, (writeChange endedAtMs st c).coinLogs.find k =
        if k = st.coinLogs.nextId then some (storedLog endedAtMs c st.coinLogs.nextId)
        else st.coinLogs.find k := fun k => Table.find_insert _ _ k
    rw [hnext] at hnew hold
    refine ⟨fun i hi => ?_, fun k hk => ?_⟩
    · cases i with
      | zero =>
        -- the later logs have later ids
        rw [List.foldl_cons, hold _ fun j _ => by omega, hfind, if_pos (by simp)]
        simp
      | succ i =>
        have hi' : i < cs.length := Nat.lt_of_succ_lt_succ hi
        have heq : st.coinLogs.nextId + ((i + 1 : ℕ) : ℤ) = st.coinLogs.nextId + 1 + (i : ℤ) := by
          omega
        rw [heq]
        exact hnew i hi'
    · have hfirst : k ≠ st.coinLogs.nextId := by simpa using hk 0 (Nat.succ_pos _)
      rw [List.foldl_cons, hold k, hfind, if_neg hfirst]
      intro i hi heq
      exact hk (i + 1) (Nat.succ_lt_succ hi) (by omega)

/-- What a transaction that returns the record id `recordId` makes of the storage. -/
structure Committed (st : StorageService) (req : SettlementPersistRequest) (recordId : ℤ)
    (st' : StorageService) : Prop where
  fresh : 0 < recordId ∧ ∀ k record, st.gameRecords.find k = some record → k < recordId
  record : st'.gameRecords.rows =
    Finmap.insert recordId { recordOf req with recordId := recordId } st.gameRecords.rows
  logFresh : ∀ k log, st.coinLogs.find k = some log → k < st.coinLogs.nextId
  log : ∀ i (hi : i < req.coinChanges.length), st'.coinLogs.find (st.coinLogs.nextId + i) =
    some (storedLog req.endedAtMs req.coinChanges[i] (st.coinLogs.nextId + i))
  otherLogs : ∀ k, (∀ i < req.coinChanges.length, k ≠ st.coinLogs.nextId + i) →
    st'.coinLogs.find k = st.coinLogs.find k
  coin : ∀ p, st'.getPlayerCoin p =
    ((req.coinChanges.filter fun c => c.playerId = p).getLast?.map
      SettlementCoinChange.afterCoin).or (st.getPlayerCoin p)
  failpoint : st'.failpoint = st.failpoint

lemma committed_persisted (st : StorageService) (req : SettlementPersistRequest) :
    Committed st req st.gameRecords.nextId (st.persisted req) := by
  have hlogs := find_coinLogs_foldl_writeChange req.endedAtMs req.coinChanges
    (st.insertRecord (recordOf req)).1
  refine ⟨⟨st.gameRecords.nextId_pos, fun k record hk => (Table.find_bounds hk).2⟩, ?_,
    fun k log hk => (Table.find_bounds hk).2, hlogs.1, hlogs.2, fun p => ?_, ?_⟩
  · rw [persisted, gameRecords_foldl_writeChange]
    rfl
  · rw [getPlayerCoin, persisted, playerCoins_foldl_writeChange]
    exact lookup_foldl_insert_afterCoin _ _ p
  · exact failpoint_foldl_writeChange _ _ _

/-- A transaction that fails leaves every row as it was; one that succeeds writes one record, a
log for each coin change and the coins. It succeeds exactly if the request is accepted. -/
theorem persist_all_or_nothing (st : StorageService) (req : SettlementPersistRequest) :
    (¬ Accepts st req ∧ (∃ err, (st.persistSettlementTransaction req).2 = .error err) ∧
        SameRows st (st.persistSettlementTransaction req).1) ∨
      (Accepts st req ∧ ∃ recordId, (st.persistSettlementTransaction req).2 = .ok recordId ∧
        Committed st req recordId (st.persistSettlementTransaction req).1) := by
  rcases persist_spec st req with ⟨haccepts, heq⟩ | ⟨hrefuses, st', err, heq, hsame⟩
  · rw [heq]
    exact Or.inr ⟨haccepts, _, rfl, committed_persisted st req⟩
  · rw [heq]
    exact Or.inl ⟨hrefuses, ⟨err, rfl⟩, hsame⟩

end StorageService

end DdzServer
