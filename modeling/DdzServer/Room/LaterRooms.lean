import DdzServer.Room.Membership

/-!
# Rooms later on

A room keeps its id and its players, and its version is only raised. Ids are not handed out again,
so a room that is found later under an id in use now is the same room.
-/

namespace DdzServer

namespace Room

variable {room : Room}

lemma snapshotVersion_le_apply (rng : Shuffler) (room : Room) (ev : RoomEvent) :
    room.snapshotVersion ≤ (room.apply rng ev).snapshotVersion := by
  cases ev with
  | action pid req =>
    simp only [apply]
    rcases hout : room.applyPlayerAction rng pid req with ⟨room', err | result⟩
    · rcases rejected_of_apply hout with rfl | ⟨-, hrule⟩
      · exact le_refl _
      · have hversion : room'.snapshotVersion = (room.startGame rng).snapshotVersion := by
          cases hrule <;> rfl
        rw [hversion, startGame_snapshotVersion]
    · obtain ⟨-, written, ended, hrule, rfl, -⟩ := accepted_of_apply hout
      have hversion : written.snapshotVersion = (room.startGame rng).snapshotVersion := by
        cases hrule <;> rfl
      rw [startGame_snapshotVersion] at hversion
      simp only [bumpSnapshotVersion, hversion]
      exact (lt_add_one _).le
  | offline pid offlineAtMs =>
    simp only [apply, markPlayerOffline]
    split
    · exact le_refl _
    · split
      · exact le_refl room.snapshotVersion
      · exact (lt_add_one room.snapshotVersion).le
  | online pid =>
    simp only [apply, markPlayerOnline]
    split
    · exact le_refl _
    · split
      · exact le_refl room.snapshotVersion
      · exact (lt_add_one room.snapshotVersion).le
  | trustee pid trustee =>
    simp only [apply, markPlayerTrustee]
    split
    · exact le_refl _
    · split_ifs
      · exact le_refl _
      · exact (lt_add_one room.snapshotVersion).le
  | settling => exact (lt_add_one room.snapshotVersion).le
  | finished => exact (lt_add_one room.snapshotVersion).le

end Room

namespace RoomManager

/-- The rooms later on: those of before with later versions, and new ones under new ids. -/
structure Later (m m' : RoomManager) : Prop where
  nextId : m.rooms.nextId ≤ m'.rooms.nextId
  old : ∀ r room', r < m.rooms.nextId → m'.rooms.find r = some room' →
    ∃ room, m.rooms.find r = some room ∧ room'.roomId = room.roomId ∧
      room'.players = room.players ∧ room.snapshotVersion ≤ room'.snapshotVersion
  new : ∀ r room', m.rooms.nextId ≤ r → m'.rooms.find r = some room' → room'.roomId = r

variable {m m' m'' : RoomManager}

lemma Later.refl (m : RoomManager) : m.Later m where
  nextId := le_refl _
  old _ room' _ h := ⟨room', h, rfl, rfl, le_refl _⟩
  new _ _ hr h := absurd (Table.find_bounds h).2 (not_lt.mpr hr)

lemma Later.trans (h : m.Later m') (h' : m'.Later m'') : m.Later m'' where
  nextId := h.nextId.trans h'.nextId
  old r room'' hr hfind := by
    obtain ⟨room', hfind', hid', hplayers', hversion'⟩ :=
      h'.old r room'' (lt_of_lt_of_le hr h.nextId) hfind
    obtain ⟨room, hfind, hid, hplayers, hversion⟩ := h.old r room' hr hfind'
    exact ⟨room, hfind, hid'.trans hid, hplayers'.trans hplayers, hversion.trans hversion'⟩
  new r room'' hr hfind := by
    by_cases hr' : r < m'.rooms.nextId
    · obtain ⟨room', hfind', hid', -⟩ := h'.old r room'' hr' hfind
      exact hid'.trans (h.new r room' hr hfind')
    · exact h'.new r room'' (not_lt.mp hr') hfind

/-- Every operation leads on. -/
lemma later_apply (rng : Shuffler) (m : RoomManager) (op : RoomOp) : m.Later (m.apply rng op) where
  nextId := nextId_le_apply rng m op
  old r room' hr h' := by
    cases h : m.rooms.find r with
    | none =>
      obtain ⟨_, _, -, hnext, -⟩ := find_apply_of_none rng h h'
      exact absurd hnext (ne_of_lt hr)
    | some room =>
      have hstep := step_of_find op h h'
      refine ⟨room, rfl, hstep.roomId, hstep.players, ?_⟩
      rcases find_apply_of_some rng op h with ⟨-, hnone⟩ | hsome
      · rw [hnone] at h'
        cases h'
      · rw [hsome, Option.some.injEq] at h'
        rw [← h']
        cases m.event r room op with
        | none => exact le_refl _
        | some ev => exact room.snapshotVersion_le_apply rng ev
  new r room' hr h' := by
    cases h : m.rooms.find r with
    | none =>
      obtain ⟨_, _, -, -, rfl⟩ := find_apply_of_none rng h h'
      rfl
    | some room => exact absurd (Table.find_bounds h).2 (not_lt.mpr hr)

end RoomManager

end DdzServer
