import DdzServer.Settlement.SettlementService

/-!
# A settlement, call by call

`SettleByServerResult` as the sequence of its calls on the guard, the managers and the storage, each
of which holds a mutex of its own. Between two calls other threads run; left alone, the calls add up
to `settleByServerResult`.
-/

namespace DdzServer

/-- The call a settlement makes next, with the local variables it still needs. -/
inductive SettlementPoint where
  | tryBeginSettlement
  | getRoomById
  | markSettling (room : Room)
  | getPlayer (room : Room) (playerId : ℤ) (rest : List ℤ) (changes : List SettlementCoinChange)
  | persistSettlementTransaction (room : Room) (changes : List SettlementCoinChange)
  | batchAddCoin (room : Room) (changes : List SettlementCoinChange) (recordId : ℤ)
  | getCoin (c : SettlementCoinChange) (rest : List SettlementCoinChange)
      (result : SettlementResult)
  | addCoin (c : SettlementCoinChange) (delta : ℤ) (rest : List SettlementCoinChange)
      (result : SettlementResult)
  | clearRoomId (room : Room) (playerId : ℤ) (rest : List ℤ) (result : SettlementResult)
  | forceState (room : Room) (playerId : ℤ) (rest : List ℤ) (result : SettlementResult)
  | markFinished (room : Room) (result : SettlementResult)
  | destroyRoom (room : Room) (result : SettlementResult)
  | endSettlement (result : SettlementResult)

namespace SettlementPoint

/-- The loop that collects the coin changes, and the check that none is missing. -/
def collect (d : ServerSettlementDecision) (room : Room) (changes : List SettlementCoinChange) :
    List ℤ → SettlementPoint
  | []          =>
    if changes.length ≠ room.players.length then
      .endSettlement (d.result .settlementFailed)
    else
      .persistSettlementTransaction room changes
  | pid :: rest => .getPlayer room pid rest changes

/-- The loop that takes failed changes back. -/
def takeBack (result : SettlementResult) : List SettlementCoinChange → SettlementPoint
  | []        => .endSettlement result
  | c :: rest => .getCoin c rest result

/-- The loop that sends the players back to the lobby. -/
def leave (room : Room) (result : SettlementResult) : List ℤ → SettlementPoint
  | []          => .markFinished room result
  | pid :: rest => .clearRoomId room pid rest result

end SettlementPoint

namespace GameServer

open SettlementPoint

/-- `EndSettlement`. -/
def endSettlement (s : GameServer) (roomId : ℤ) : GameServer :=
  { s with settlingRooms := s.settlingRooms.erase roomId }

/-- One call of a settlement: the server after it, and where the settlement stands then or what it
returns. -/
def settlementStep (s : GameServer) (d : ServerSettlementDecision) (nowMs : ℤ) :
    SettlementPoint → GameServer × (SettlementPoint ⊕ SettlementResult)
  | .tryBeginSettlement =>
    if ¬ d.IsValid then
      (s, .inr (d.result .invalidPacket))
    else if d.roomId ∈ s.settlingRooms then
      (s, .inr (d.result .settlementFailed))
    else
      ({ s with settlingRooms := insert d.roomId s.settlingRooms }, .inl .getRoomById)
  | .getRoomById =>
    match s.rooms.getRoomById d.roomId with
    | none      => (s, .inl (.endSettlement (d.result .roomNotFound)))
    | some room => (s, .inl (.markSettling room))
  | .markSettling room =>
    ({ s with rooms := (s.rooms.markSettling d.roomId).1 },
      .inl (if d.winnerPlayerId ∉ room.players then .endSettlement (d.result .settlementFailed)
        else collect d room [] room.players))
  | .getPlayer room pid rest changes =>
    match s.players.getPlayer pid with
    | none        => (s, .inl (.endSettlement (d.result .settlementFailed)))
    | some player =>
      (s, .inl (collect d room (changes ++ [d.coinChange room pid player.coin]) rest))
  | .persistSettlementTransaction room changes =>
    match s.storage.persistSettlementTransaction (d.persistRequest room nowMs changes) with
    | (storage, .error _)     =>
      ({ s with storage := storage }, .inl (.endSettlement (d.result .settlementFailed)))
    | (storage, .ok recordId) =>
      ({ s with storage := storage }, .inl (.batchAddCoin room changes recordId))
  | .batchAddCoin room changes recordId =>
    let (players, after) := s.players.batchAddCoin (changes.map fun c => (c.playerId, c.delta))
    ({ s with players := players },
      .inl (if after = none ∨ (after.getD []).length ≠ room.players.length then
          takeBack { d.result .settlementFailed with recordId := recordId } changes
        else
          leave room
            { d.result .ok with
              recordId := recordId
              players := (changes.zip (after.getD [])).map fun c =>
                ⟨c.1.playerId, c.1.delta, c.2⟩ } room.players))
  | .getCoin c rest result =>
    (s, .inl (.addCoin c (c.beforeCoin - s.players.getCoin c.playerId) rest result))
  | .addCoin c delta rest result =>
    ({ s with players := (s.players.addCoin c.playerId delta).1 }, .inl (takeBack result rest))
  | .clearRoomId room pid rest result =>
    ({ s with sessions := (s.sessions.clearRoomId pid).1 },
      .inl (.forceState room pid rest result))
  | .forceState room pid rest result =>
    ({ s with players := s.players.forceState pid .lobby }, .inl (leave room result rest))
  | .markFinished room result =>
    ({ s with rooms := (s.rooms.markFinished room.roomId).1 }, .inl (.destroyRoom room result))
  | .destroyRoom room result =>
    ({ s with rooms := (s.rooms.destroyRoom room.roomId).1 }, .inl (.endSettlement result))
  | .endSettlement result => (s.endSettlement d.roomId, .inr result)

/-! ### A settlement that no other thread interrupts -/

variable {d : ServerSettlementDecision} {nowMs : ℤ} {room : Room}
  {result result' : SettlementResult}

/-- The settlement returns when its calls are made in a row. -/
inductive Returns (d : ServerSettlementDecision) (nowMs : ℤ) :
    GameServer → SettlementPoint → GameServer → SettlementResult → Prop
  | last {s s' point result} (h : s.settlementStep d nowMs point = (s', .inr result)) :
      Returns d nowMs s point s' result
  | next {s₁ s₂ s₃ point point' result}
      (h : s₁.settlementStep d nowMs point = (s₂, .inl point'))
      (hrest : Returns d nowMs s₂ point' s₃ result) : Returns d nowMs s₁ point s₃ result

lemma returns_endSettlement (s : GameServer) (result : SettlementResult) :
    Returns d nowMs s (.endSettlement result) (s.endSettlement d.roomId) result :=
  .last rfl

lemma returns_leave {s' : GameServer} (rest : List ℤ) (s : GameServer)
    (h : Returns d nowMs (rest.foldl leaveRoom s) (.markFinished room result) s' result') :
    Returns d nowMs s (leave room result rest) s' result' := by
  induction rest generalizing s with
  | nil => exact h
  | cons pid rest ih => exact .next rfl (.next rfl (ih (s.leaveRoom pid) h))

lemma returns_takeBack (rest : List SettlementCoinChange) (s : GameServer) :
    Returns d nowMs s (takeBack result rest)
      ({ s with players := rest.foldl rollbackCoin s.players }.endSettlement d.roomId)
      result := by
  induction rest generalizing s with
  | nil => exact returns_endSettlement s result
  | cons c rest ih => exact .next rfl (.next rfl (ih _))

/-- The loop reads the coins of every player, and goes on only when all are registered. -/
lemma returns_collect {s s' : GameServer} (rest : List ℤ) (changes : List SettlementCoinChange)
    (hlen : changes.length + rest.length = room.players.length)
    (h : (s.coinChanges d room rest).length = rest.length →
      Returns d nowMs s (.persistSettlementTransaction room (changes ++ s.coinChanges d room rest))
        s' result)
    (hfail : (s.coinChanges d room rest).length ≠ rest.length →
      Returns d nowMs s (.endSettlement (d.result .settlementFailed)) s' result) :
    Returns d nowMs s (collect d room changes rest) s' result := by
  induction rest generalizing changes with
  | nil =>
    have hall : changes.length = room.players.length := by simpa using hlen
    rw [collect, if_neg (not_not.mpr hall)]
    simpa [coinChanges] using h rfl
  | cons pid rest ih =>
    cases hplayer : s.players.getPlayer pid with
    | none =>
      refine .next (by simp only [collect, settlementStep, hplayer]) (hfail ?_)
      simp [coinChanges, hplayer]
    | some player =>
      have hchanges : s.coinChanges d room (pid :: rest) =
          d.coinChange room pid player.coin :: s.coinChanges d room rest := by
        rw [coinChanges, hplayer]
      refine .next (by simp only [collect, settlementStep, hplayer]; rfl) (ih _ ?_ ?_ ?_)
      · simp only [List.length_append, List.length_cons, List.length_nil] at hlen ⊢
        omega
      · intro hrest
        have hall := h (by rw [hchanges, List.length_cons, List.length_cons, hrest])
        rwa [hchanges, List.append_cons] at hall
      · intro hrest
        refine hfail fun hall => hrest ?_
        rw [hchanges] at hall
        exact Nat.succ.inj hall

lemma returns_closeRoom (s : GameServer) (room : Room) :
    Returns d nowMs s (leave room result room.players)
      ((s.closeRoom room).endSettlement d.roomId) result :=
  returns_leave room.players s (.next rfl (.next rfl (returns_endSettlement _ result)))

/-- The calls from the marked room on pay the room out, or fail. -/
lemma returns_payOut (s : GameServer) (room : Room) :
    Returns d nowMs s
      (if d.winnerPlayerId ∉ room.players then .endSettlement (d.result .settlementFailed)
        else collect d room [] room.players)
      ((s.payOut d room nowMs).1.endSettlement d.roomId) (s.payOut d room nowMs).2 := by
  unfold payOut
  by_cases hwinner : d.winnerPlayerId ∉ room.players
  · rw [if_pos hwinner, if_pos hwinner]
    exact returns_endSettlement s _
  · rw [if_neg hwinner, if_neg hwinner]
    refine returns_collect room.players [] (by simp) (fun hlen => ?_) fun hlen => ?_
    · simp only [hlen, ne_eq, not_true_eq_false, if_false, List.nil_append]
      rcases hpersist : s.storage.persistSettlementTransaction
        (d.persistRequest room nowMs (s.coinChanges d room room.players)) with
        ⟨storage, err | recordId⟩
      · exact .next (by rw [settlementStep, hpersist]) (returns_endSettlement _ _)
      · rcases hbatch : s.players.batchAddCoin
          ((s.coinChanges d room room.players).map fun c => (c.playerId, c.delta)) with
          ⟨players, after⟩
        refine .next (by rw [settlementStep, hpersist]) (.next (by rw [settlementStep, hbatch]) ?_)
        simp only [hbatch]
        split_ifs with hfailed
        · exact returns_takeBack _ _
        · exact returns_closeRoom _ room
    · simp only [ne_eq, hlen, not_false_eq_true, if_true]
      exact returns_endSettlement s _

/-- Left alone, the calls of a settlement do what `settleByServerResult` does. -/
theorem returns_settleByServerResult (s : GameServer) (d : ServerSettlementDecision) (nowMs : ℤ) :
    Returns d nowMs s .tryBeginSettlement (s.settleByServerResult d nowMs).1
      (s.settleByServerResult d nowMs).2 := by
  unfold settleByServerResult
  by_cases hd : ¬ d.IsValid
  · rw [if_pos hd]
    exact .last (by rw [settlementStep, if_pos hd])
  · rw [if_neg hd]
    by_cases hbusy : d.roomId ∈ s.settlingRooms
    · rw [if_pos hbusy]
      exact .last (by rw [settlementStep, if_neg hd, if_pos hbusy])
    · rw [if_neg hbusy]
      refine .next (by rw [settlementStep, if_neg hd, if_neg hbusy]) ?_
      dsimp only [settleGuarded]
      cases hroom : s.rooms.getRoomById d.roomId with
      | none => exact .next (by simp only [settlementStep, hroom]) (returns_endSettlement _ _)
      | some room =>
        refine .next (by simp only [settlementStep, hroom]; rfl) (.next rfl ?_)
        exact returns_payOut _ room

end GameServer

end DdzServer
