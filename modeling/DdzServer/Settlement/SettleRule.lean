import DdzServer.Settlement.SettlementService
import DdzServer.Storage.Transaction
import Mathlib.Tactic.Ring

/-!
# The ways a settlement can go

A settlement is refused before the room is touched, fails after the room was marked, or pays every
player out and destroys the room. `SettleRule` lists the cases with the state each of them leaves.
-/

namespace DdzServer

open UnorderedMap

/-! ### The rule -/

namespace GameServer

variable {s : GameServer} {d : ServerSettlementDecision} {room : Room} {nowMs : ℤ}

/-- The room can be settled by the decision. -/
structure CanSettle (s : GameServer) (d : ServerSettlementDecision) (room : Room) : Prop where
  winner : d.winnerPlayerId ∈ room.players
  registered : ∀ pid ∈ room.players, s.players.players.lookup pid ≠ none
  playerIds : ∀ pid ∈ room.players, 0 < pid
  roomId : 0 < room.roomId
  failpoint : s.storage.failpoint = .none

/-- The coin changes when every player is registered. -/
def changesOf (s : GameServer) (d : ServerSettlementDecision) (room : Room) :
    List SettlementCoinChange :=
  room.players.map fun pid => d.coinChange room pid (s.players.getCoin pid)

/-- The state after a settlement that is carried out. -/
def settled (s : GameServer) (d : ServerSettlementDecision) (room : Room) (nowMs : ℤ) :
    GameServer :=
  { s with
    sessions := room.players.foldl (fun m pid => (m.setRoomId pid 0).1) s.sessions
    players := (s.players.addCoins (room.players.map fun pid => (pid, d.delta room pid))).1
      |>.forceStates room.players .lobby
    rooms :=
      ((s.rooms.markSettling d.roomId).1.markFinished room.roomId).1.destroyRoom room.roomId |>.1
    storage := s.storage.persisted (d.persistRequest room nowMs (s.changesOf d room)) }

/-- What a settlement does and answers. -/
inductive SettleRule (s : GameServer) (d : ServerSettlementDecision) (nowMs : ℤ) :
    GameServer → SettlementResult → Prop
  | invalid (hd : ¬ d.IsValid) : SettleRule s d nowMs s (d.result .invalidPacket)
  | busy (hd : d.IsValid) (hbusy : d.roomId ∈ s.settlingRooms) :
      SettleRule s d nowMs s (d.result .settlementFailed)
  | notFound (hd : d.IsValid) (hfree : d.roomId ∉ s.settlingRooms)
      (hroom : s.rooms.rooms.find d.roomId = none) :
      SettleRule s d nowMs s (d.result .roomNotFound)
  | failed {room storage} (hd : d.IsValid) (hfree : d.roomId ∉ s.settlingRooms)
      (hroom : s.rooms.rooms.find d.roomId = some room) (hcannot : ¬ s.CanSettle d room)
      (hsame : s.storage.SameRows storage) :
      SettleRule s d nowMs
        { s with rooms := (s.rooms.markSettling d.roomId).1, storage := storage }
        (d.result .settlementFailed)
  | settled {room result} (hd : d.IsValid) (hfree : d.roomId ∉ s.settlingRooms)
      (hroom : s.rooms.rooms.find d.roomId = some room) (hcan : s.CanSettle d room)
      (hcode : result.code = .ok) :
      SettleRule s d nowMs (s.settled d room nowMs) result

/-! ### The parts of a settlement -/

/-- The changes of one settlement add up to nothing. -/
lemma sum_delta (d : ServerSettlementDecision) (room : Room) (hnd : room.players.Nodup)
    (hwinner : d.winnerPlayerId ∈ room.players) :
    (room.players.map (d.delta room)).sum = 0 := by
  -- over a list with the winner once, everybody else pays the base
  have hsum : ∀ (gain : ℤ) (l : List ℤ), l.Nodup →
      (l.map fun p => if p = d.winnerPlayerId then gain else -d.baseCoin).sum =
        -d.baseCoin * l.length + if d.winnerPlayerId ∈ l then gain + d.baseCoin else 0 := by
    intro gain l
    induction l with
    | nil => simp
    | cons p l ih =>
      intro hnd
      obtain ⟨hp, hnd⟩ := List.nodup_cons.mp hnd
      rw [List.map_cons, List.sum_cons, ih hnd, List.length_cons]
      by_cases heq : p = d.winnerPlayerId
      · subst heq
        simp only [if_true, hp, if_false, List.mem_cons_self]
        push_cast
        ring
      · simp only [if_neg heq, List.mem_cons, Ne.symm heq, false_or]
        push_cast
        ring
  have htotal := hsum (d.baseCoin * ((room.players.length : ℤ) - 1)) room.players hnd
  rw [if_pos hwinner] at htotal
  change (room.players.map fun p => if p = d.winnerPlayerId then _ else _).sum = 0
  rw [htotal]
  ring

/-- When every player is registered, no coin change is missing. -/
lemma coinChanges_of_registered {players : List ℤ}
    (h : ∀ pid ∈ players, s.players.players.lookup pid ≠ none) :
    s.coinChanges d room players =
      players.map fun pid => d.coinChange room pid (s.players.getCoin pid) := by
  induction players with
  | nil => rfl
  | cons pid ps ih =>
    obtain ⟨hpid, hps⟩ := List.forall_mem_cons.mp h
    obtain ⟨player, hplayer⟩ := Option.ne_none_iff_exists'.mp hpid
    have hget : s.players.getPlayer pid = some player := hplayer
    have hcoin : s.players.getCoin pid = player.coin := by
      simp [PlayerManager.getCoin, at', hplayer]
    rw [coinChanges, hget, List.map_cons, hcoin]
    exact congrArg _ (ih hps)

/-- All coin changes are there only when every player is registered. -/
lemma registered_of_length_coinChanges {players : List ℤ}
    (h : (s.coinChanges d room players).length = players.length) :
    ∀ pid ∈ players, s.players.players.lookup pid ≠ none := by
  induction players with
  | nil => simp
  | cons pid ps ih =>
    rw [coinChanges] at h
    split at h
    · cases h
    next player hplayer =>
      have hpid : s.players.players.lookup pid ≠ none := by
        rw [show s.players.players.lookup pid = some player from hplayer]
        simp
      exact List.forall_mem_cons.mpr ⟨hpid, ih (Nat.succ.inj h)⟩

/-- The loop that sends the players back changes sessions and players only. -/
lemma foldl_leaveRoom (players : List ℤ) (s : GameServer) :
    players.foldl leaveRoom s =
      { s with
        sessions := players.foldl (fun m pid => (m.setRoomId pid 0).1) s.sessions
        players := s.players.forceStates players .lobby } := by
  induction players generalizing s with
  | nil => rfl
  | cons pid ps ih => exact ih _

lemma batchAddCoin_changesOf (hreg : ∀ pid ∈ room.players, s.players.players.lookup pid ≠ none) :
    s.players.batchAddCoin ((s.changesOf d room).map fun c => (c.playerId, c.delta)) =
      ((s.players.addCoins (room.players.map fun pid => (pid, d.delta room pid))).1,
        some (s.players.addCoins (room.players.map fun pid => (pid, d.delta room pid))).2) := by
  have hmap : ((s.changesOf d room).map fun c => (c.playerId, c.delta)) =
      room.players.map fun pid => (pid, d.delta room pid) := by
    rw [changesOf, List.map_map]
    rfl
  have hall : ∀ c ∈ room.players.map fun pid => (pid, d.delta room pid),
      s.players.players.lookup c.1 ≠ none := by
    intro c hc
    obtain ⟨pid, hpid, rfl⟩ := List.mem_map.mp hc
    exact hreg pid hpid
  rw [hmap, PlayerManager.batchAddCoin, if_pos hall]

/-- The storage accepts what a room that can be settled asks for. -/
lemma accepts_persistRequest_iff (hd : d.IsValid) (hwinner : d.winnerPlayerId ∈ room.players)
    (hreg : ∀ pid ∈ room.players, s.players.players.lookup pid ≠ none) :
    s.storage.Accepts (d.persistRequest room nowMs (s.changesOf d room)) ↔ s.CanSettle d room := by
  constructor
  · intro h
    refine ⟨hwinner, hreg, fun pid hpid => ?_, h.roomId, h.failpoint⟩
    exact h.playerIds (d.coinChange room pid (s.players.getCoin pid))
      (List.mem_map.mpr ⟨pid, hpid, rfl⟩)
  · intro h
    refine ⟨h.roomId, hd.2.1, fun hnil => ?_, fun c hc => ?_, h.failpoint⟩
    · rw [List.map_eq_nil_iff.mp hnil] at hwinner
      cases hwinner
    · obtain ⟨pid, hpid, rfl⟩ := List.mem_map.mp hc
      exact h.playerIds pid hpid

/-- From the point where the room is marked, a settlement fails and writes no row, or pays. -/
lemma payOut_spec (hd : d.IsValid) (s : GameServer) (room : Room) (nowMs : ℤ) :
    (¬ s.CanSettle d room ∧ ∃ storage, s.storage.SameRows storage ∧
        s.payOut d room nowMs = ({ s with storage := storage }, d.result .settlementFailed)) ∨
      (s.CanSettle d room ∧ ∃ result, result.code = .ok ∧
        s.payOut d room nowMs =
          ({ s with
              storage := s.storage.persisted (d.persistRequest room nowMs (s.changesOf d room))
              players :=
                (s.players.addCoins (room.players.map fun pid => (pid, d.delta room pid))).1
              }.closeRoom room, result)) := by
  by_cases hwinner : d.winnerPlayerId ∈ room.players
  · by_cases hlen : (s.coinChanges d room room.players).length = room.players.length
    · have hreg := registered_of_length_coinChanges hlen
      have hchanges : s.coinChanges d room room.players = s.changesOf d room :=
        coinChanges_of_registered hreg
      rcases s.storage.persist_spec (d.persistRequest room nowMs (s.changesOf d room)) with
        ⟨haccepts, heq⟩ | ⟨hnot, storage, err, heq, hsame⟩
      · have hlen' : (s.players.addCoins
            (room.players.map fun pid => (pid, d.delta room pid))).2.length =
              room.players.length := by
          rw [PlayerManager.length_addCoins, List.length_map]
        refine Or.inr ⟨(accepts_persistRequest_iff hd hwinner hreg).mp haccepts, ?_⟩
        unfold payOut
        rw [if_neg (not_not.mpr hwinner)]
        dsimp only
        rw [if_neg (not_not.mpr hlen), hchanges, heq]
        dsimp only
        rw [batchAddCoin_changesOf hreg]
        dsimp only
        rw [if_neg (by simp [hlen'])]
        exact ⟨_, rfl, rfl⟩
      · refine Or.inl ⟨fun hcan => ?_, storage, hsame, ?_⟩
        · exact hnot ((accepts_persistRequest_iff hd hwinner hreg).mpr hcan)
        · unfold payOut
          rw [if_neg (not_not.mpr hwinner)]
          dsimp only
          rw [if_neg (not_not.mpr hlen), hchanges, heq]
    · refine Or.inl ⟨fun hcan => hlen ?_, s.storage, .refl _, ?_⟩
      · rw [coinChanges_of_registered hcan.registered, List.length_map]
      · simp [payOut, hwinner, hlen]
  · refine Or.inl ⟨fun hcan => hwinner hcan.winner, s.storage, .refl _, ?_⟩
    simp [payOut, hwinner]

/-- Every settlement goes one of the ways of the rule. -/
theorem settle_rule (s : GameServer) (d : ServerSettlementDecision) (nowMs : ℤ) :
    SettleRule s d nowMs (s.settleByServerResult d nowMs).1
      (s.settleByServerResult d nowMs).2 := by
  unfold settleByServerResult
  by_cases hd : d.IsValid
  · rw [if_neg (not_not.mpr hd)]
    by_cases hbusy : d.roomId ∈ s.settlingRooms
    · rw [if_pos hbusy]
      exact .busy hd hbusy
    · rw [if_neg hbusy]
      -- the guard is released again
      have hguard : (insert d.roomId s.settlingRooms).erase d.roomId = s.settlingRooms :=
        Finset.erase_insert hbusy
      cases hroom : s.rooms.rooms.find d.roomId with
      | none =>
        have hget : s.rooms.getRoomById d.roomId = none := hroom
        simp only [settleGuarded, hget, hguard]
        exact .notFound hd hbusy hroom
      | some room =>
        have hget : s.rooms.getRoomById d.roomId = some room := hroom
        simp only [settleGuarded, hget]
        rcases payOut_spec hd
            { s with
              settlingRooms := insert d.roomId s.settlingRooms
              rooms := (s.rooms.markSettling d.roomId).1 } room nowMs with
          ⟨hcannot, storage, hsame, heq⟩ | ⟨hcan, result, hcode, heq⟩
        · rw [heq]
          simp only [hguard]
          refine .failed hd hbusy hroom (fun hcan => hcannot ?_) hsame
          exact ⟨hcan.winner, hcan.registered, hcan.playerIds, hcan.roomId, hcan.failpoint⟩
        · rw [heq, closeRoom, foldl_leaveRoom]
          simp only [hguard]
          refine .settled hd hbusy hroom ?_ hcode
          exact ⟨hcan.winner, hcan.registered, hcan.playerIds, hcan.roomId, hcan.failpoint⟩
  · rw [if_pos hd]
    exact .invalid hd

end GameServer

end DdzServer
