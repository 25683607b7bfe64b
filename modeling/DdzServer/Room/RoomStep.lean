import DdzServer.Room.ActionRule
import DdzServer.Room.RoomManager

/-!
# What an operation does to one room

`RoomStep` lists all that can happen to a live room, with the action that was accepted on the way.
Room invariants are proved over these cases and carried to every run of the manager.
-/

namespace DdzServer

open Room

variable {rng : Shuffler}

/-- One event of a room: the accepted action, if any, and the room afterwards. -/
inductive RoomStep (rng : Shuffler) (room : Room) :
    Option (PlayerActionRequest × PlayerActionResult) → Room → Prop
  | unchanged : RoomStep rng room none room
  | accepted {playerId : ℤ} {request : PlayerActionRequest} {room' : Room}
      {result : PlayerActionResult} (hact : room.CanAct playerId)
      (hrule : (room.startGame rng).Accepted playerId request room' result) :
      RoomStep rng room (some (request, result)) room'
  | rejected {playerId : ℤ} {request : PlayerActionRequest} {room' : Room}
      (hact : room.CanAct playerId)
      (hrule : (room.startGame rng).RejectRule playerId request room') :
      RoomStep rng room none room'
  | presence (online trustee : UnorderedMap ℤ Bool) (offlineAtMs : UnorderedMap ℤ ℤ)
      (version : ℤ) :
      RoomStep rng room none
        { room with
          onlineByPlayer := online
          trusteeByPlayer := trustee
          offlineAtMsByPlayer := offlineAtMs
          snapshotVersion := version }
  | settling : RoomStep rng room none room.markSettling
  | finished : RoomStep rng room none room.markFinished

namespace Room

variable {room : Room}

lemma markPlayerOffline_presence (room : Room) (pid offlineAtMs : ℤ) :
    RoomStep rng room none (room.markPlayerOffline pid offlineAtMs).1 := by
  unfold markPlayerOffline
  split
  · exact .unchanged
  · dsimp only
    split <;> exact .presence _ _ _ _

lemma markPlayerOnline_presence (room : Room) (pid : ℤ) :
    RoomStep rng room none (room.markPlayerOnline pid).1 := by
  unfold markPlayerOnline
  split
  · exact .unchanged
  · dsimp only
    split <;> exact .presence _ _ _ _

lemma markPlayerTrustee_presence (room : Room) (pid : ℤ) (trustee : Bool) :
    RoomStep rng room none (room.markPlayerTrustee pid trustee).1 := by
  unfold markPlayerTrustee
  split
  · exact .unchanged
  · split_ifs <;> exact .presence _ _ _ _

/-- The action an event makes, if it is accepted. -/
def acceptedBy (rng : Shuffler) (room : Room) :
    RoomEvent → Option (PlayerActionRequest × PlayerActionResult)
  | .action pid req =>
    match (room.applyPlayerAction rng pid req).2 with
    | .ok result => some (req, result)
    | .error _   => none
  | _ => none

/-- Every event is one of the cases. -/
theorem step_apply (rng : Shuffler) (room : Room) (ev : RoomEvent) :
    RoomStep rng room (room.acceptedBy rng ev) (room.apply rng ev) := by
  cases ev with
  | action pid req =>
    simp only [acceptedBy, apply]
    rcases h : room.applyPlayerAction rng pid req with ⟨room', err | result⟩
    · rcases rejected_of_apply h with rfl | ⟨hact, hrule⟩
      · exact .unchanged
      · exact .rejected hact hrule
    · obtain ⟨hact, hrule⟩ := accepted_of_apply h
      exact .accepted hact hrule
  | offline pid offlineAtMs => exact markPlayerOffline_presence room pid offlineAtMs
  | online pid => exact markPlayerOnline_presence room pid
  | trustee pid trustee => exact markPlayerTrustee_presence room pid trustee
  | settling => exact .settling
  | finished => exact .finished

end Room

namespace RoomManager

variable {m : RoomManager}

/-- The action that an operation makes on the room `r`, if it is accepted. -/
def acceptedOn (rng : Shuffler) (m : RoomManager) (r : ℤ) (op : RoomOp) :
    Option (PlayerActionRequest × PlayerActionResult) :=
  (m.acceptedAction rng op).bind fun a =>
    if a.roomId = r then some (a.request, a.result) else none

lemma applyPlayerAction_reply {roomId pid : ℤ} {req : PlayerActionRequest} {room : Room}
    (h : m.rooms.find roomId = some room) :
    (m.applyPlayerAction rng roomId pid req).2 = (room.applyPlayerAction rng pid req).2 := by
  rw [applyPlayerAction, h]

/-- An operation is accepted on a live room when the event it is for the room is. -/
lemma acceptedOn_eq (op : RoomOp) {r : ℤ} {room : Room} (h : m.rooms.find r = some room) :
    m.acceptedOn rng r op = (m.event r room op).bind (room.acceptedBy rng) := by
  cases op with
  | applyPlayerAction roomId pid req =>
    by_cases hr : roomId = r
    · subst hr
      simp only [acceptedOn, acceptedAction, event, applyPlayerAction_reply h, if_true,
        Option.bind_some, acceptedBy]
      cases (room.applyPlayerAction rng pid req).2 <;> simp
    · simp only [acceptedOn, acceptedAction, event, if_neg hr]
      cases (m.applyPlayerAction rng roomId pid req).2 <;> simp [hr]
  | applyTrusteeAction roomId pid =>
    by_cases hr : roomId = r
    · subst hr
      simp only [acceptedOn, acceptedAction, event, applyTrusteeAction, h, if_true]
      cases room.trusteeRequest pid with
      | error err => simp [Except.toOption]
      | ok req =>
        simp only [applyPlayerAction_reply h, Except.toOption, Option.map_some, Option.bind_some,
          acceptedBy]
        cases (room.applyPlayerAction rng pid req).2 <;> simp
    · simp only [acceptedOn, acceptedAction, event, if_neg hr, Option.bind_none]
      split
      · rfl
      · split <;> simp [hr]
  | createRoom mode players => rfl
  | destroyRoom roomId => rfl
  | markPlayerOffline pid offlineAtMs =>
    simp only [acceptedOn, acceptedAction, event]
    split_ifs <;> rfl
  | markPlayerOnline pid =>
    simp only [acceptedOn, acceptedAction, event]
    split_ifs <;> rfl
  | markPlayerTrustee pid trustee =>
    simp only [acceptedOn, acceptedAction, event]
    split_ifs <;> rfl
  | markSettling roomId =>
    simp only [acceptedOn, acceptedAction, event]
    split_ifs <;> rfl
  | markFinished roomId =>
    simp only [acceptedOn, acceptedAction, event]
    split_ifs <;> rfl

/-- A room that lives before and after an operation has taken one step. -/
theorem step_of_find (op : RoomOp) {r : ℤ} {room room' : Room} (h : m.rooms.find r = some room)
    (h' : (m.apply rng op).rooms.find r = some room') :
    RoomStep rng room (m.acceptedOn rng r op) room' := by
  rw [acceptedOn_eq op h]
  rcases find_apply_of_some rng op h with ⟨-, hnone⟩ | hsome
  · rw [hnone] at h'
    cases h'
  · rw [hsome, Option.some.injEq] at h'
    subst h'
    cases hev : m.event r room op with
    | none => exact .unchanged
    | some ev => exact step_apply rng room ev

/-- An invariant of rooms holds of every room of every run that starts with such rooms. -/
theorem room_invariant {I : Room → Prop}
    (hnew : ∀ roomId mode players, I (newRoom roomId mode players))
    (hstep : ∀ room accepted room', I room → RoomStep rng room accepted room' → I room')
    {m m' : RoomManager} {ops : List RoomOp} (hm : ∀ r room, m.rooms.find r = some room → I room)
    (hrun : Run.exec (step rng) m ops = some m') :
    ∀ r room, m'.rooms.find r = some room → I room := by
  refine Run.invariant (I := fun m => ∀ r room, m.rooms.find r = some room → I room) ?_ hm hrun
  intro m op m' hI hop r room' hr
  obtain rfl := Run.total_eq_some.mp hop
  cases h : m.rooms.find r with
  | none =>
    obtain ⟨mode, players, -, -, rfl⟩ := find_apply_of_none rng h hr
    exact hnew r mode players
  | some room => exact hstep room _ room' (hI r room h) (step_of_find op h hr)

/-! ### The log of one room -/

/-- The accepted actions on one room, oldest first. -/
def actionsOn (roomId : ℤ) (log : List AcceptedAction) : List AcceptedAction :=
  log.filter (·.roomId = roomId)

/-- What a step of the room adds to its log; only the operator acts. -/
def logged (roomId : ℤ) (room : Room)
    (accepted : Option (PlayerActionRequest × PlayerActionResult)) : List AcceptedAction :=
  (accepted.map fun a => ⟨roomId, room.currentOperatorPlayerId, a.1, a.2⟩).toList

@[simp] lemma logged_none (roomId : ℤ) (room : Room) : logged roomId room none = [] := rfl

/-- An accepted action is one of the operator of a live room. -/
lemma acceptedAction_of_some {op : RoomOp} {a : AcceptedAction}
    (h : m.acceptedAction rng op = some a) :
    ∃ room, m.rooms.find a.roomId = some room ∧ a.playerId = room.currentOperatorPlayerId := by
  have haction : ∀ roomId pid req result, (m.applyPlayerAction rng roomId pid req).2 = .ok result →
      ∃ room, m.rooms.find roomId = some room ∧ pid = room.currentOperatorPlayerId := by
    intro roomId pid req result hok
    cases hfind : m.rooms.find roomId with
    | none => simp [applyPlayerAction, hfind] at hok
    | some room =>
      rw [applyPlayerAction_reply hfind] at hok
      exact ⟨room, rfl, (accepted_of_apply (Prod.ext rfl hok)).1.turn.symm⟩
  cases op with
  | applyPlayerAction roomId pid req =>
    simp only [acceptedAction] at h
    split at h
    next result hok =>
      cases h
      exact haction roomId pid req result hok
    next => cases h
  | applyTrusteeAction roomId pid =>
    simp only [acceptedAction] at h
    split at h
    next => cases h
    next room hfind =>
      split at h
      next req result hreq hok =>
        cases h
        simp only [applyTrusteeAction, hfind, hreq] at hok
        exact haction roomId pid req result hok
      next => cases h
  | createRoom mode players => cases h
  | destroyRoom roomId => cases h
  | markPlayerOffline pid offlineAtMs => cases h
  | markPlayerOnline pid => cases h
  | markPlayerTrustee pid trustee => cases h
  | markSettling roomId => cases h
  | markFinished roomId => cases h

lemma actionsOn_recordAccepted {op : RoomOp} {log : List AcceptedAction} {r : ℤ} {room : Room}
    (h : m.rooms.find r = some room) :
    actionsOn r (m.recordAccepted rng op m' log) =
      actionsOn r log ++ logged r room (m.acceptedOn rng r op) := by
  simp only [actionsOn, recordAccepted, List.filter_append, acceptedOn, logged]
  cases ha : m.acceptedAction rng op with
  | none => rfl
  | some a =>
    by_cases hr : a.roomId = r
    · obtain ⟨room', hfind, hturn⟩ := acceptedAction_of_some ha
      rw [hr, h, Option.some.injEq] at hfind
      subst hfind
      cases a
      simp_all
    · simp [hr]

/-- Nothing is accepted on a room that does not live. -/
lemma actionsOn_recordAccepted_of_none {op : RoomOp} {log : List AcceptedAction} {r : ℤ}
    (h : m.rooms.find r = none) :
    actionsOn r (m.recordAccepted rng op m' log) = actionsOn r log := by
  simp only [actionsOn, recordAccepted, List.filter_append]
  cases ha : m.acceptedAction rng op with
  | none => simp
  | some a =>
    obtain ⟨room, hfind, -⟩ := acceptedAction_of_some ha
    have hr : a.roomId ≠ r := by
      rintro rfl
      rw [h] at hfind
      cases hfind
    simp [hr]

/-- An invariant of a room together with the log of its accepted actions, from the moment it is
created: it holds of the room as long as it lives, and of its last state after that. -/
theorem created_history {I : Room → List AcceptedAction → Prop} {m₀ m : RoomManager} {mode : ℤ}
    {players : List ℤ} {ops : List RoomOp}
    (hnew : I (newRoom m₀.rooms.nextId mode players) [])
    (hstep : ∀ room accepted room' log, I room log → RoomStep rng room accepted room' →
      I room' (log ++ logged m₀.rooms.nextId room accepted))
    (hrun : Run.exec (step rng) (m₀.createRoom mode players).1 ops = some m) :
    ∃ room,
      I room (actionsOn m₀.rooms.nextId
        (Run.history (step rng) (recordAccepted rng) (m₀.createRoom mode players).1 ops [])) ∧
      ∀ room', m.rooms.find m₀.rooms.nextId = some room' → room' = room := by
  let roomId := m₀.rooms.nextId
  let J : RoomManager → List AcceptedAction → Prop := fun m log =>
    roomId < m.rooms.nextId ∧ ∃ room, I room (actionsOn roomId log) ∧
      ∀ room', m.rooms.find roomId = some room' → room' = room
  have hinit : J (m₀.createRoom mode players).1 [] := by
    refine ⟨by simp [createRoom, roomId], newRoom roomId mode players, hnew, fun room' h => ?_⟩
    rw [find_createRoom, if_pos rfl, Option.some.injEq] at h
    exact h.symm
  refine (Run.invariant_history (I := J) ?_ hinit hrun).2
  rintro m op m' log ⟨hlt, room, hI, hlive⟩ hop
  obtain rfl := Run.total_eq_some.mp hop
  refine ⟨lt_of_lt_of_le hlt (nextId_le_apply rng m op), ?_⟩
  cases hfind : m.rooms.find roomId with
  | none =>
    refine ⟨room, by rwa [actionsOn_recordAccepted_of_none hfind], fun room' hfind' => ?_⟩
    -- the id is taken for good
    obtain ⟨_, _, _, hr, -⟩ := find_apply_of_none rng hfind hfind'
    exact absurd hr (ne_of_lt hlt)
  | some room₁ =>
    obtain rfl := hlive room₁ hfind
    rw [actionsOn_recordAccepted hfind]
    cases hfind' : (m.apply rng op).rooms.find roomId with
    | none =>
      rcases find_apply_of_some rng op hfind with ⟨rfl, -⟩ | hsome
      · refine ⟨room₁, ?_, by simp⟩
        have hnone : m.acceptedOn rng roomId (.destroyRoom roomId) = none := rfl
        rw [hnone]
        simpa using hI
      · rw [hsome] at hfind'
        cases hfind'
    | some room' =>
      refine ⟨room', hstep room₁ _ room' _ hI (step_of_find op hfind hfind'), ?_⟩
      intro room'' h
      exact (Option.some.inj h).symm

/-- An accepted action is a step of its room. -/
lemma step_of_acceptedAction {op : RoomOp} {a : AcceptedAction}
    (h : m.acceptedAction rng op = some a) :
    ∃ room room', m.rooms.find a.roomId = some room ∧
      (m.apply rng op).rooms.find a.roomId = some room' ∧
      RoomStep rng room (some (a.request, a.result)) room' := by
  obtain ⟨room, hfind, -⟩ := acceptedAction_of_some h
  have hon : m.acceptedOn rng a.roomId op = some (a.request, a.result) := by
    simp [acceptedOn, h]
  rcases find_apply_of_some rng op hfind with ⟨rfl, -⟩ | hsome
  · cases h
  · exact ⟨room, _, hfind, hsome, hon ▸ step_of_find op hfind hsome⟩

/-- What every step of a room keeps holds of a live room for the rest of its life. -/
theorem live_invariant {I : Room → Prop}
    (hstep : ∀ room accepted room', I room → RoomStep rng room accepted room' → I room')
    {m m' : RoomManager} {ops : List RoomOp} {r : ℤ} {room : Room}
    (hroom : m.rooms.find r = some room) (hI : I room)
    (hrun : Run.exec (step rng) m ops = some m') :
    ∀ room', m'.rooms.find r = some room' → I room' := by
  let J : RoomManager → Prop := fun m =>
    r < m.rooms.nextId ∧ ∀ room, m.rooms.find r = some room → I room
  have hinit : J m := by
    refine ⟨(Table.find_bounds hroom).2, fun room' h => ?_⟩
    obtain rfl := Option.some.inj (hroom.symm.trans h)
    exact hI
  refine (Run.invariant (I := J) ?_ hinit hrun).2
  rintro m op m' ⟨hlt, hI⟩ hop
  obtain rfl := Run.total_eq_some.mp hop
  refine ⟨hlt.trans_le (nextId_le_apply rng m op), fun room' hfind' => ?_⟩
  cases hfind : m.rooms.find r with
  | none =>
    obtain ⟨_, _, _, hr, -⟩ := find_apply_of_none rng hfind hfind'
    exact absurd hr (ne_of_lt hlt)
  | some room => exact hstep room _ room' (hI room hfind) (step_of_find op hfind hfind')

end RoomManager

end DdzServer
