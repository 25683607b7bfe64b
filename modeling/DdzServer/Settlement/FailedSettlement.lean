import DdzServer.Settlement.SettleRule

/-!
# Failed settlements

The stores of coins, sessions and rows are left as they were by a settlement that fails. The room
is not: it is marked before the settlement knows whether it can be carried out, and nothing takes
the mark back. So a failure leaves everything alone exactly if it comes before the mark.
-/

namespace DdzServer

open UnorderedMap

namespace GameServer

variable {s s' : GameServer} {d : ServerSettlementDecision} {nowMs : ℤ} {room : Room}

/-- The rooms, the sessions, the players and the rows of the storage are the same. -/
structure SameState (s s' : GameServer) : Prop where
  rooms : s'.rooms = s.rooms
  sessions : s'.sessions = s.sessions
  players : s'.players = s.players
  storage : s.storage.SameRows s'.storage

lemma SameState.refl (s : GameServer) : SameState s s := ⟨rfl, rfl, rfl, .refl _⟩

/-- A room that is marked is in another state than before. -/
lemma markSettling_ne (hroom : s.rooms.rooms.find d.roomId = some room) :
    (s.rooms.markSettling d.roomId).1 ≠ s.rooms := by
  intro heq
  have hfind := RoomManager.find_markSettling s.rooms d.roomId d.roomId
  rw [heq, if_pos rfl, hroom, Option.map_some, Option.some.injEq] at hfind
  have hversion : room.snapshotVersion = room.snapshotVersion + 1 :=
    congrArg Room.snapshotVersion hfind
  omega

/-- A settlement that fails changes neither coins nor sessions nor rows, and of the rooms at most
the mark of the one that was to be settled. -/
lemma SettleRule.frame {result : SettlementResult} (h : SettleRule s d nowMs s' result)
    (hcode : result.code ≠ .ok) :
    s'.sessions = s.sessions ∧ s'.players = s.players ∧ s.storage.SameRows s'.storage ∧
      (s'.rooms = s.rooms ∨ s'.rooms = (s.rooms.markSettling d.roomId).1) := by
  cases h with
  | invalid => exact ⟨rfl, rfl, .refl _, Or.inl rfl⟩
  | busy => exact ⟨rfl, rfl, .refl _, Or.inl rfl⟩
  | notFound => exact ⟨rfl, rfl, .refl _, Or.inl rfl⟩
  | failed hd hfree hroom hcannot hsame => exact ⟨rfl, rfl, hsame, Or.inr rfl⟩
  | settled hd hfree hroom hcan hok => exact absurd hok hcode

/-- A settlement that fails leaves everything as it was, exactly if the decision is refused before
the room is looked up, or there is no such room, or nothing stands in the way of the settlement. -/
theorem failed_settlement_unchanged_iff (s : GameServer) (d : ServerSettlementDecision)
    (nowMs : ℤ) :
    ((s.settleByServerResult d nowMs).2.code ≠ .ok →
        SameState s (s.settleByServerResult d nowMs).1) ↔
      ¬ d.IsValid ∨ d.roomId ∈ s.settlingRooms ∨
        ∀ room, s.rooms.rooms.find d.roomId = some room → s.CanSettle d room := by
  have hrule := settle_rule s d nowMs
  generalize s.settleByServerResult d nowMs = out at hrule
  obtain ⟨s', result⟩ := out
  cases hrule with
  | invalid hd => exact iff_of_true (fun _ => .refl _) (Or.inl hd)
  | busy hd hbusy => exact iff_of_true (fun _ => .refl _) (Or.inr (Or.inl hbusy))
  | notFound hd hfree hroom =>
    refine iff_of_true (fun _ => .refl _) (Or.inr (Or.inr fun room h => ?_))
    rw [hroom] at h
    cases h
  | failed hd hfree hroom hcannot hsame =>
    refine iff_of_false (fun h => ?_) ?_
    · exact markSettling_ne hroom (h (by simp)).rooms
    · rintro (hinvalid | hbusy | hall)
      · exact hinvalid hd
      · exact hfree hbusy
      · exact hcannot (hall _ hroom)
  | settled hd hfree hroom hcan hcode =>
    refine iff_of_true (fun h => absurd hcode h) (Or.inr (Or.inr fun room h => ?_))
    rw [hroom, Option.some.injEq] at h
    exact h ▸ hcan

/-- Three players with 1000 coins each in a room, and a storage that fails after the first coin log
of a transaction. -/
def withFailingStorage : GameServer where
  players := ((({} : PlayerManager).upsertPlayer 1001 (str "a") 1000).upsertPlayer
    1002 (str "b") 1000).upsertPlayer 1003 (str "c") 1000
  rooms := (({} : RoomManager).createRoom 3 [1001, 1002, 1003]).1
  storage := ({} : StorageService).setTxFailpointForTesting .afterFirstCoinLogInserted

/-- The transaction of a settlement fails: no coin moves, but the room stays marked. -/
theorem failed_settlement_marks_room :
    let s := withFailingStorage
    let out := s.settleByServerResult ⟨1, 1001, 10⟩ 200
    out.2.code = .settlementFailed ∧
      (s.rooms.rooms.find 1).map (fun room => (room.state, room.snapshotVersion)) =
        some (.waitStart, 1) ∧
      (out.1.rooms.rooms.find 1).map (fun room => (room.state, room.snapshotVersion)) =
        some (.settling, 2) ∧
      ¬ SameState s out.1 := by
  intro s out
  have hbefore : (s.rooms.rooms.find 1).map (fun room => (room.state, room.snapshotVersion)) =
      some (.waitStart, 1) := rfl
  have hafter : ((withFailingStorage.settleByServerResult ⟨1, 1001, 10⟩ 200).1.rooms.rooms.find
      1).map (fun room => (room.state, room.snapshotVersion)) = some (.settling, 2) := by
    decide +kernel
  refine ⟨by decide +kernel, hbefore, hafter, fun hsame => ?_⟩
  rw [hsame.rooms] at hafter
  cases hbefore.symm.trans hafter

end GameServer

end DdzServer
