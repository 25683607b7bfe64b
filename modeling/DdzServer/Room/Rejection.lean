import DdzServer.Room.WellFormed

/-!
# Rejected actions

A rejected action leaves the manager as it was, with one exception: the first request of the
operator takes the room out of `WaitStart` and deals the cards before it is checked.
-/

namespace DdzServer

open Room

/-- The request starts a game although it is no call: it is rejected after the cards were dealt. -/
def Room.StartsInVain (room : Room) (playerId : ℤ) (request : PlayerActionRequest) : Prop :=
  room.state = .waitStart ∧ playerId ∈ room.players ∧ room.currentOperatorPlayerId = playerId ∧
    ¬ request.IsCall

namespace Room

variable {rng : Shuffler} {room : Room} {playerId : ℤ} {request : PlayerActionRequest}

/-- A start in vain is rejected, with the game started. -/
lemma StartsInVain.apply (rng : Shuffler) (h : room.StartsInVain playerId request) :
    ∃ err, room.applyPlayerAction rng playerId request = (room.startGame rng, .error err) := by
  obtain ⟨hstate, hmem, hturn, hcall⟩ := h
  have hact : room.CanAct playerId := ⟨hmem, hturn, by simp [hstate], by simp [hstate]⟩
  have hrules := obeysRules_applyPlayerAction rng request hact
  rcases hout : room.applyPlayerAction rng playerId request with ⟨room', err | result⟩
  · rw [hout] at hrules
    have hrule : (room.startGame rng).RejectRule playerId request room' := hrules
    cases hrule with
    | unchanged => exact ⟨err, rfl⟩
    | noLandlordHand hs => simp [startGame_state rng hstate] at hs
  · rw [hout] at hrules
    obtain ⟨written, ended, hrule, -, -⟩ := hrules
    have hs := startGame_state rng hstate
    exfalso
    cases hrule with
    | callNext _ hcall' => exact hcall hcall'
    | callLast _ hcall' => exact hcall hcall'
    | robNext hs' => simp [hs] at hs'
    | robLast hs' => simp [hs] at hs'
    | passNext hs' => simp [hs] at hs'
    | passLast hs' => simp [hs] at hs'
    | play hs' => simp [hs] at hs'
    | playLast hs' => simp [hs] at hs'

lemma startGame_ne (rng : Shuffler) (h : room.state = .waitStart) : room.startGame rng ≠ room := by
  intro heq
  have hs := startGame_state rng h
  rw [heq, h] at hs
  cases hs

/-- In a well-formed room of three players a rejected action keeps the room exactly if it does not
start the game. -/
theorem rejected_eq_iff (hwf : room.WellFormed) (htrio : room.HasTrio) {room' : Room} {err : String}
    (h : room.applyPlayerAction rng playerId request = (room', .error err)) :
    room' = room ↔ ¬ room.StartsInVain playerId request := by
  constructor
  · rintro rfl hvain
    obtain ⟨err', hout⟩ := hvain.apply rng
    rw [hout] at h
    exact startGame_ne rng hvain.1 (congrArg Prod.fst h)
  · intro hvain
    rcases rejected_of_apply h with rfl | ⟨hact, hrule⟩
    · rfl
    · have hp := hact.mem
      rw [← startGame_players rng] at hp
      obtain ⟨rfl, hcall⟩ := (hwf.startGame htrio).rejectRule ((hasTrio_startGame rng).mpr htrio) hp
        hrule
      refine startGame_of_ne fun hw => hvain ⟨hw, hact.mem, hact.turn, ?_⟩
      exact hcall (startGame_state rng hw)

end Room

namespace RoomManager

variable {rng : Shuffler} {m : RoomManager} {roomId : ℤ}

/-- Writing a room back keeps the manager exactly if the room is the one that is there. -/
lemma set_eq_self_iff {room room' : Room} (h : m.rooms.find roomId = some room) :
    { m with rooms := m.rooms.set roomId room' } = m ↔ room' = room := by
  constructor
  · intro heq
    have hfind := congrArg (fun m : RoomManager => m.rooms.find roomId) heq
    simp only [Table.find_set, h] at hfind
    simpa using hfind
  · rintro rfl
    rw [Table.set_find h]

/-- `ApplyPlayerAction` rejects a request and leaves the whole manager as it was, unless the request
is no call and the operator of a room in `WaitStart` makes it. -/
theorem rejected_action_unchanged_iff {ops : List RoomOp}
    (hrun : Run.exec (step rng) {} ops = some m)
    (htrio : ∀ r room, m.rooms.find r = some room → room.HasTrio)
    (roomId playerId : ℤ) (request : PlayerActionRequest) :
    ((m.applyPlayerAction rng roomId playerId request).2.toOption = none →
        (m.applyPlayerAction rng roomId playerId request).1 = m) ↔
      ∀ room, m.rooms.find roomId = some room → ¬ room.StartsInVain playerId request := by
  cases hfind : m.rooms.find roomId with
  | none => simp [applyPlayerAction, hfind]
  | some room =>
    simp only [applyPlayerAction, hfind, Option.some.injEq, forall_eq', set_eq_self_iff hfind]
    have hwf := wellFormed_of_run hrun hfind (htrio roomId room hfind)
    rcases hout : room.applyPlayerAction rng playerId request with ⟨room', err | result⟩
    · simp only [Except.toOption, forall_const]
      exact rejected_eq_iff hwf (htrio roomId room hfind) hout
    · have hvain : ¬ room.StartsInVain playerId request := by
        intro hvain
        obtain ⟨err, herr⟩ := hvain.apply rng
        rw [hout] at herr
        cases herr
      simp [Except.toOption, hvain]

/-- A manager whose only room was created for three distinct players. -/
lemma hasTrio_createRoom {mode : ℤ} {players : List ℤ} (hlen : players.length = 3)
    (hnd : players.Nodup) (r : ℤ) (room : Room)
    (h : (createRoom {} mode players).1.rooms.find r = some room) : room.HasTrio := by
  rw [find_createRoom] at h
  split_ifs at h
  · cases h
    exact ⟨hlen, hnd⟩
  · simp at h

theorem rejected_action_unchanged_out_of_turn :
    ((createRoom {} 3 [1, 2, 3]).1.applyPlayerAction .sorted 1 2 {}).1 =
      (createRoom {} 3 [1, 2, 3]).1 := by
  have hrun : Run.exec (step .sorted) {} [.createRoom 3 [1, 2, 3]] =
      some (createRoom {} 3 [1, 2, 3]).1 := rfl
  refine (rejected_action_unchanged_iff hrun (hasTrio_createRoom rfl (by decide)) 1 2 {}).mpr ?_ ?_
  · intro room hroom hvain
    rw [find_createRoom, if_pos (by rfl), Option.some.injEq] at hroom
    subst hroom
    have hturn : (1 : ℤ) = 2 := hvain.2.2.1
    omega
  · decide +kernel

/-- The first player of a new room passes: the request is rejected, and the cards are dealt. -/
theorem rejected_action_starts_game :
    let m := (createRoom {} 3 [1, 2, 3]).1
    let out := m.applyPlayerAction .sorted 1 1 { actionType := .pass }
    Run.exec (step .sorted) {} [.createRoom 3 [1, 2, 3]] = some m ∧
      out.2 = .error "action not allowed in CALL_SCORE" ∧
      (m.rooms.find 1).map (fun room => (room.state, room.dealt, room.snapshotVersion)) =
        some (.waitStart, false, 1) ∧
      (out.1.rooms.find 1).map (fun room => (room.state, room.dealt, room.snapshotVersion)) =
        some (.callScore, true, 1) ∧
      out.1 ≠ m := by
  intro m out
  have hbefore : (m.rooms.find 1).map (fun room => (room.state, room.dealt, room.snapshotVersion)) =
      some (.waitStart, false, 1) := rfl
  have hafter : (((createRoom {} 3 [1, 2, 3]).1.applyPlayerAction .sorted 1 1
      { actionType := .pass }).1.rooms.find 1).map
        (fun room => (room.state, room.dealt, room.snapshotVersion)) =
      some (.callScore, true, 1) := by decide +kernel
  refine ⟨rfl, by decide +kernel, hbefore, hafter, fun heq => ?_⟩
  have hsame : (m.rooms.find 1).map (fun room => (room.state, room.dealt, room.snapshotVersion)) =
      some (.callScore, true, 1) := heq ▸ hafter
  rw [hbefore] at hsame
  cases hsame

end RoomManager

end DdzServer
