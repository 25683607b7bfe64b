import DdzServer.Reconnect.ReconnectService
import DdzServer.Room.SnapshotVersion

/-!
# Reconnects and snapshot versions

A reconnect compares the version of the client's snapshot with that of the room, and nothing else.
The answer `OK` means that the client is up to date exactly in the runs in which a version
identifies one snapshot.
-/

namespace DdzServer

namespace GameServer

variable {s : GameServer} {connectionId nowMs : ℤ} {body : CppString} {redis : RedisReplies}
  {req : ReconnectRequest} {room : Room}

/-- No refusal has the code `OK`. -/
lemma code_ne_ok_of_checkSession {playerId roomId : ℤ} {token : CppString} {code : ErrorCode}
    {reason : String}
    (h : s.checkSession playerId token roomId nowMs redis = .error (code, reason)) :
    code ≠ .ok := by
  simp only [checkSession] at h
  split at h
  · cases h
    simp
  · split at h
    · cases h
      simp
    · split at h
      · cases h
        simp
      · split at h
        · cases h
          simp
        · split at h
          · cases h
            simp
          · split at h
            · cases h
              simp
            · cases h

/-- The answer `OK` for a live room means that the client has the version of the room. -/
lemma version_of_reconnect_ok (hparse : parseReconnectRequest body = some req)
    (hok : (s.handleReconnect connectionId body nowMs redis).2.code = .ok)
    (hroom : s.rooms.rooms.find (s.handleReconnect connectionId body nowMs redis).2.roomId =
      some room) :
    room.snapshotVersion = req.lastSnapshotVersion := by
  -- the answer is `OK` only when the one before Redis is
  obtain ⟨session, oldConn, hok', hid⟩ : ∃ session oldConn,
      (s.reconnectResult session req oldConn).code = .ok ∧
      (s.handleReconnect connectionId body nowMs redis).2.roomId =
        (s.reconnectResult session req oldConn).roomId := by
    unfold handleReconnect at hok ⊢
    simp only [hparse] at hok ⊢
    split at hok
    next code reason hcheck => exact absurd hok (code_ne_ok_of_checkSession hcheck)
    next session hcheck =>
      split_ifs at hok ⊢
      exact ⟨session, _, hok, rfl⟩
  rw [hid] at hroom
  have hroomId : (s.reconnectResult session req oldConn).roomId = session.roomId := by
    unfold reconnectResult
    dsimp only
    split_ifs
    · split
      · rfl
      · split_ifs <;> rfl
    · rfl
    · rfl
  rw [hroomId] at hroom
  have hpos := (Table.find_bounds hroom).1
  have hsnapshot : s.rooms.buildSnapshotByRoomId session.roomId = some room.makeSnapshot := by
    rw [RoomManager.buildSnapshotByRoomId, hroom]
    rfl
  unfold reconnectResult at hok'
  dsimp only at hok'
  rw [if_pos hpos, hsnapshot] at hok'
  dsimp only at hok'
  split_ifs at hok' with hversion
  exact not_not.mp hversion

end GameServer

namespace RoomManager

variable (rng : Shuffler)

/-- In the run of `ops`, whoever is told `OK` by a reconnect for the room `r` has the current
snapshot of the room, if the snapshot was shown under that version before. -/
def ReconnectIdentifies (r : ℤ) (ops : List RoomOp) : Prop :=
  ∀ l₁ l₂ l₃ m₁ m₂ old cur, ops = l₁ ++ (l₂ ++ l₃) →
    Run.exec (step rng) {} l₁ = some m₁ → Run.exec (step rng) m₁ l₂ = some m₂ →
    m₁.buildPushSnapshotV2ByRoomId r = some old → m₂.buildPushSnapshotV2ByRoomId r = some cur →
    ∀ (s : GameServer) (connectionId : ℤ) (body : CppString) (nowMs : ℤ) (redis : RedisReplies)
      (req : ReconnectRequest), s.rooms = m₂ → parseReconnectRequest body = some req →
      req.lastSnapshotVersion = old.base.snapshotVersion →
      (s.handleReconnect connectionId body nowMs redis).2.code = .ok →
      (s.handleReconnect connectionId body nowMs redis).2.roomId = r → old = cur

variable {rng}

lemma VersionIdentifies.reconnect {r : ℤ} {ops : List RoomOp}
    (h : VersionIdentifies rng r ops) : ReconnectIdentifies rng r ops := by
  intro l₁ l₂ l₃ m₁ m₂ old cur hops hrun₁ hrun₂ hold hcur s connectionId body nowMs redis req
    hrooms hparse hlast hok hroomId
  refine h l₁ l₂ l₃ m₁ m₂ old cur hops hrun₁ hrun₂ hold hcur ?_
  obtain ⟨room, hfind, rfl⟩ := Option.map_eq_some_iff.mp hcur
  rw [← hrooms, ← hroomId] at hfind
  exact hlast.symm.trans (GameServer.version_of_reconnect_ok hparse hok hfind).symm

/-- In a run a version identifies one snapshot of a room, and a reconnect that is told `OK` has the
current one, exactly if no action on the room is made in vain. -/
theorem snapshot_version_identifies_iff (rng : Shuffler) (r : ℤ) (ops : List RoomOp) :
    VersionIdentifies rng r ops ∧ ReconnectIdentifies rng r ops ↔
      Run.Along (step rng) (NotInVain r) {} ops := by
  rw [← versionIdentifies_iff]
  exact ⟨fun h => h.1, fun h => ⟨h, h.reconnect⟩⟩

/-- A reconnect of player 1 to room 1 with a snapshot of version 1. -/
def reconnectBody : CppString :=
  str "player_id=1;room_id=1;last_snapshot_version=1;token=" ++
    (({} : AuthTokenService).issueSessionToken 1 0).2.token

/-- The first player of a new room passes: the room shows another snapshot under version 1, and a
client with the old one is told `OK`. -/
theorem version_one_shows_two_snapshots :
    let m₁ := (createRoom {} 3 [1, 2, 3]).1
    let m₂ := (m₁.applyPlayerAction .sorted 1 1 { actionType := .pass }).1
    let s : GameServer :=
      { sessions := ((({} : SessionManager).bindLogin 1 11 0).1.setRoomId 1 1).1, rooms := m₂ }
    Run.exec (step .sorted) {} [.createRoom 3 [1, 2, 3]] = some m₁ ∧
      Run.exec (step .sorted) m₁ [.applyPlayerAction 1 1 { actionType := .pass }] = some m₂ ∧
      ((m₁.buildPushSnapshotV2ByRoomId 1).map fun snap =>
        (snap.base.snapshotVersion, snap.base.roomState)) = some (1, 0) ∧
      ((m₂.buildPushSnapshotV2ByRoomId 1).map fun snap =>
        (snap.base.snapshotVersion, snap.base.roomState)) = some (1, 1) ∧
      (s.handleReconnect 12 reconnectBody 5 {}).2.code = .ok ∧
      ¬ VersionIdentifies .sorted 1
        [.createRoom 3 [1, 2, 3], .applyPlayerAction 1 1 { actionType := .pass }] := by
  intro m₁ m₂ s
  have hold : ((createRoom {} 3 [1, 2, 3]).1.buildPushSnapshotV2ByRoomId 1).map (fun snap =>
      (snap.base.snapshotVersion, snap.base.roomState)) = some (1, 0) := by decide +kernel
  have hnew : (((createRoom {} 3 [1, 2, 3]).1.applyPlayerAction .sorted 1 1
      { actionType := .pass }).1.buildPushSnapshotV2ByRoomId 1).map (fun snap =>
        (snap.base.snapshotVersion, snap.base.roomState)) = some (1, 1) := by decide +kernel
  refine ⟨rfl, rfl, hold, hnew, by decide +kernel, fun h => ?_⟩
  obtain ⟨s₁, hs₁, heq₁⟩ := Option.map_eq_some_iff.mp hold
  obtain ⟨s₂, hs₂, heq₂⟩ := Option.map_eq_some_iff.mp hnew
  have hsame := h [.createRoom 3 [1, 2, 3]] [.applyPlayerAction 1 1 { actionType := .pass }] []
    m₁ m₂ s₁ s₂ rfl rfl rfl hs₁ hs₂
    ((Prod.mk.inj heq₁).1.trans (Prod.mk.inj heq₂).1.symm)
  rw [hsame, heq₂] at heq₁
  simp at heq₁

end RoomManager

end DdzServer
