import DdzServer.Room.Rejection

/-!
# Snapshot versions

The players of a room compare snapshots by their version alone. Every step that changes what a
snapshot shows raises the version, except for two kinds of rejected actions.
-/

namespace DdzServer

open Room UnorderedMap

namespace Room

variable {rng : Shuffler} {room room' : Room} {playerId : ℤ} {request : PlayerActionRequest}

/-- The answer ends the robbing in a room without a hand for the landlord: it is rejected after the
stake or the landlord changed. -/
def RobsInVain (room : Room) (playerId : ℤ) (request : PlayerActionRequest) : Prop :=
  room.state = .robLandlord ∧ playerId ∈ room.players ∧ room.currentOperatorPlayerId = playerId ∧
    request.IsRob ∧ (room.players.length : ℤ) ≤ room.stateActionCount + 1 ∧
    room.hands.lookup (room.recordRob playerId request.rob).finalLandlord = none ∧
    (request.rob = 1 ∨ room.finalLandlord ≠ room.landlordPlayerId)

/-- A player who is online has no deadline. -/
def Present (room : Room) : Prop :=
  ∀ pid, room.onlineByPlayer.lookup pid = some true → room.offlineAtMs pid ≤ 0

/-! ### What a snapshot shows -/

/-- The fields of a room that a snapshot is made of; of the deadlines only the positive ones
count. -/
structure SameView (room room' : Room) : Prop where
  roomId : room'.roomId = room.roomId
  mode : room'.mode = room.mode
  state : room'.state = room.state
  players : room'.players = room.players
  currentOperator : room'.currentOperatorPlayerId = room.currentOperatorPlayerId
  hands : room'.hands = room.hands
  bottom : room'.landlordBottomCards = room.landlordBottomCards
  landlord : room'.landlordPlayerId = room.landlordPlayerId
  baseCoin : room'.baseCoin = room.baseCoin
  lastPlayer : room'.lastPlayPlayerId = room.lastPlayPlayerId
  lastCards : room'.lastPlayCards = room.lastPlayCards
  version : room'.snapshotVersion = room.snapshotVersion
  actionSeq : room'.lastActionSeq = room.lastActionSeq
  online : ∀ pid, room'.online pid = room.online pid
  trustee : ∀ pid, room'.trustee pid = room.trustee pid
  deadline : ∀ pid, max 0 (room'.offlineAtMs pid) = max 0 (room.offlineAtMs pid)

lemma SameView.nearestDeadline (h : SameView room room') (nearest pid : ℤ) :
    room'.nearestDeadline nearest pid = room.nearestDeadline nearest pid := by
  have hd := h.deadline pid
  simp only [Room.nearestDeadline]
  by_cases hpos : 0 < room.offlineAtMs pid
  · have heq : room'.offlineAtMs pid = room.offlineAtMs pid := by omega
    rw [heq]
  · have hpos' : ¬ 0 < room'.offlineAtMs pid := by omega
    simp [hpos, hpos']

lemma SameView.makePushSnapshotV2 (h : SameView room room') :
    room'.makePushSnapshotV2 = room.makePushSnapshotV2 := by
  have hnearest : room'.nearestDeadline = room.nearestDeadline :=
    funext fun n => funext fun pid => h.nearestDeadline n pid
  have htrustee : room'.trustee = room.trustee := funext h.trustee
  simp only [Room.makePushSnapshotV2, makeSnapshot, hand, h.roomId, h.mode, h.state, h.players,
    h.currentOperator, h.hands, h.bottom, h.landlord, h.baseCoin, h.lastPlayer, h.lastCards,
    h.version, h.actionSeq, h.online, htrustee, hnearest]

/-! ### One event -/

/-- An event keeps the room presentable, and either raises the version or changes nothing that a
snapshot shows. -/
structure Versioned (room room' : Room) : Prop where
  present : room'.Present
  version : room.snapshotVersion < room'.snapshotVersion ∨ SameView room room'

lemma SameView.refl (room : Room) : SameView room room := by
  constructor <;> simp

lemma Versioned.refl (h : room.Present) : Versioned room room := ⟨h, Or.inr (.refl room)⟩

/-- Only the marks of the players changed, and for nobody's eyes. -/
lemma sameView_marks {online trustee : UnorderedMap ℤ Bool} {offlineAt : UnorderedMap ℤ ℤ}
    (honline : ∀ pid, at' online pid true = room.online pid)
    (htrustee : ∀ pid, at' trustee pid false = room.trustee pid)
    (hoffline : ∀ pid, max 0 (at' offlineAt pid 0) = max 0 (room.offlineAtMs pid)) :
    SameView room
      { room with
        onlineByPlayer := online
        trusteeByPlayer := trustee
        offlineAtMsByPlayer := offlineAt } where
  roomId := rfl
  mode := rfl
  state := rfl
  players := rfl
  currentOperator := rfl
  hands := rfl
  bottom := rfl
  landlord := rfl
  baseCoin := rfl
  lastPlayer := rfl
  lastCards := rfl
  version := rfl
  actionSeq := rfl
  online := honline
  trustee := htrustee
  deadline := hoffline

lemma versioned_markPlayerOffline (h : room.Present) (pid offlineAtMs : ℤ) :
    Versioned room (room.markPlayerOffline pid offlineAtMs).1 := by
  unfold markPlayerOffline
  split
  · exact .refl h
  next isOnline hfind =>
    have hread : ∀ q, at' (if isOnline then room.offlineAtMsByPlayer
        else touch room.offlineAtMsByPlayer pid 0) q 0 = room.offlineAtMs q := by
      intro q
      split_ifs
      · rfl
      · exact at'_touch _ _ _ _
    dsimp only
    split
    · refine ⟨fun q hq => ?_, Or.inr (sameView_marks (fun _ => rfl) (fun _ => rfl) fun q => ?_)⟩
      · rw [Room.offlineAtMs, hread]
        exact h q hq
      · rw [hread]
    · refine ⟨fun q hq => ?_, Or.inl (lt_add_one room.snapshotVersion)⟩
      change at' (Finmap.insert pid offlineAtMs _) q 0 ≤ 0
      change (Finmap.insert pid false room.onlineByPlayer).lookup q = some true at hq
      rw [lookup_insert] at hq
      by_cases hqp : q = pid
      · rw [if_pos hqp] at hq
        cases hq
      · rw [if_neg hqp] at hq
        rw [at'_insert, if_neg hqp, hread]
        exact h q hq

lemma versioned_markPlayerOnline (h : room.Present) (pid : ℤ) :
    Versioned room (room.markPlayerOnline pid).1 := by
  unfold markPlayerOnline
  split
  · exact .refl h
  next isOnline hfind =>
    have hread : ∀ q, at' (if isOnline then touch room.trusteeByPlayer pid false
        else room.trusteeByPlayer) q false = room.trustee q := by
      intro q
      split_ifs
      · exact at'_touch _ _ _ _
      · rfl
    have hpresent : ∀ q, (Finmap.insert pid true room.onlineByPlayer).lookup q = some true →
        at' (Finmap.insert pid 0 room.offlineAtMsByPlayer) q 0 ≤ 0 := by
      intro q hq
      rw [lookup_insert] at hq
      rw [at'_insert]
      split_ifs at hq ⊢ with hqp
      · exact le_refl 0
      · exact h q hq
    dsimp only
    split
    next hmarked =>
      rw [hmarked.1] at hfind
      refine ⟨fun q hq => hpresent q ?_, Or.inr (sameView_marks (fun _ => rfl) hread fun q => ?_)⟩
      · rw [insert_lookup hfind]
        exact hq
      · -- the deadline that is taken away was none
        rw [at'_insert]
        split_ifs with hqp
        · rw [hqp]
          exact (max_eq_left (h pid hfind)).symm
        · rfl
    next => exact ⟨hpresent, Or.inl (lt_add_one room.snapshotVersion)⟩

lemma versioned_of_lt (h : room.Present) (hver : room.snapshotVersion < room'.snapshotVersion)
    (honline : room'.onlineByPlayer = room.onlineByPlayer)
    (hoffline : room'.offlineAtMsByPlayer = room.offlineAtMsByPlayer) : Versioned room room' := by
  refine ⟨fun pid hpid => ?_, Or.inl hver⟩
  rw [offlineAtMs, hoffline]
  exact h pid (honline ▸ hpid)

lemma versioned_markPlayerTrustee (h : room.Present) (pid : ℤ) (trustee : Bool) :
    Versioned room (room.markPlayerTrustee pid trustee).1 := by
  unfold markPlayerTrustee
  split
  · exact .refl h
  · split_ifs
    · exact .refl h
    · exact versioned_of_lt h (lt_add_one room.snapshotVersion) rfl rfl

/-! ### Actions -/

/-- The marks of the players and the version of the room are not what actions write. -/
lemma startGame_marks (rng : Shuffler) (room : Room) :
    (room.startGame rng).onlineByPlayer = room.onlineByPlayer ∧
      (room.startGame rng).offlineAtMsByPlayer = room.offlineAtMsByPlayer := by
  unfold startGame dealCards
  split_ifs <;> exact ⟨rfl, rfl⟩

lemma ActionRule.marks {written : Room} {ended : Bool}
    (h : ActionRule room playerId request written ended) :
    written.onlineByPlayer = room.onlineByPlayer ∧
      written.offlineAtMsByPlayer = room.offlineAtMsByPlayer ∧
        written.snapshotVersion = room.snapshotVersion := by
  cases h <;> exact ⟨rfl, rfl, rfl⟩

lemma versioned_accepted {result : PlayerActionResult} (h : room.Present)
    (hrule : (room.startGame rng).Accepted playerId request room' result) :
    Versioned room room' := by
  obtain ⟨written, ended, hrule, rfl, -⟩ := hrule
  obtain ⟨honline, hoffline⟩ := startGame_marks rng room
  obtain ⟨honline', hoffline', hversion⟩ := hrule.marks
  rw [startGame_snapshotVersion] at hversion
  refine versioned_of_lt h ?_ (honline'.trans honline) (hoffline'.trans hoffline)
  exact lt_of_eq_of_lt hversion.symm (lt_add_one _)

/-- A rejected action that neither starts nor robs in vain shows nothing. -/
lemma versioned_rejected (h : room.Present) (hact : room.CanAct playerId)
    (hstart : ¬ room.StartsInVain playerId request) (hrob : ¬ room.RobsInVain playerId request)
    (hrule : (room.startGame rng).RejectRule playerId request room') : Versioned room room' := by
  by_cases hw : room.state = .waitStart
  · have hs := startGame_state rng hw
    cases hrule with
    | unchanged hcall => exact absurd ⟨hw, hact.mem, hact.turn, hcall hs⟩ hstart
    | noLandlordHand hs' =>
      rw [hs] at hs'
      cases hs'
  · rw [startGame_of_ne hw] at hrule
    cases hrule with
    | unchanged => exact .refl h
    | noLandlordHand hstate hreq hlast hhand =>
      have hsame : ¬ (request.rob = 1 ∨ room.finalLandlord ≠ room.landlordPlayerId) := fun hc =>
        hrob ⟨hstate, hact.mem, hact.turn, hreq, hlast, hhand, hc⟩
      obtain ⟨hrob0, hlandlord⟩ := not_or.mp hsame
      have hlandlord' : (room.recordRob playerId request.rob).finalLandlord =
          room.landlordPlayerId := by
        rw [← not_not.mp hlandlord]
        simp [finalLandlord, recordRob, hrob0]
      refine ⟨h, Or.inr ?_⟩
      constructor
      case landlord => exact hlandlord'
      case baseCoin => simp [recordRob, hrob0]
      all_goals simp [recordRob, online, trustee, offlineAtMs]

lemma versioned_apply (h : room.Present) (ev : RoomEvent)
    (hev : ∀ pid req, ev = .action pid req →
      ¬ room.StartsInVain pid req ∧ ¬ room.RobsInVain pid req) :
    Versioned room (room.apply rng ev) := by
  cases ev with
  | action pid req =>
    obtain ⟨hstart, hrob⟩ := hev pid req rfl
    simp only [apply]
    rcases hout : room.applyPlayerAction rng pid req with ⟨room', err | result⟩
    · rcases rejected_of_apply hout with rfl | ⟨hact, hrule⟩
      · exact .refl h
      · exact versioned_rejected h hact hstart hrob hrule
    · exact versioned_accepted h (accepted_of_apply hout).2
  | offline pid offlineAtMs => exact versioned_markPlayerOffline h pid offlineAtMs
  | online pid => exact versioned_markPlayerOnline h pid
  | trustee pid trustee => exact versioned_markPlayerTrustee h pid trustee
  | settling => exact versioned_of_lt h (lt_add_one room.snapshotVersion) rfl rfl
  | finished => exact versioned_of_lt h (lt_add_one room.snapshotVersion) rfl rfl

/-- What the action in vain leaves behind has the old version and another look. -/
def SilentChange (room room' : Room) : Prop :=
  room'.snapshotVersion = room.snapshotVersion ∧
    room'.makePushSnapshotV2 ≠ room.makePushSnapshotV2

lemma StartsInVain.silentChange (h : room.StartsInVain playerId request) :
    SilentChange room (room.applyPlayerAction rng playerId request).1 := by
  obtain ⟨err, hout⟩ := h.apply rng
  rw [hout]
  refine ⟨startGame_snapshotVersion rng room, fun heq => ?_⟩
  have hstate := congrArg (fun s => s.base.roomState) heq
  simp [makePushSnapshotV2, makeSnapshot, startGame_state rng h.1, h.1, RoomState.toInt] at hstate

lemma RobsInVain.silentChange (h : room.RobsInVain playerId request) :
    SilentChange room (room.applyPlayerAction rng playerId request).1 := by
  obtain ⟨hstate, hmem, hturn, hrob, hlast, hhand, hshow⟩ := h
  have hout : (room.applyPlayerAction rng playerId request).1 =
      { room.recordRob playerId request.rob with
        landlordPlayerId := (room.recordRob playerId request.rob).finalLandlord } := by
    have hne : room.state ≠ .waitStart := by simp [hstate]
    have hopen : ¬ (room.state = .settling ∨ room.state = .finished) := by simp [hstate]
    have hflag : ¬ (request.rob ≠ 0 ∧ request.rob ≠ 1) := by
      have := hrob.2
      omega
    have hlast' : ((room.recordRob playerId request.rob).players.length : ℤ) ≤
        (room.recordRob playerId request.rob).stateActionCount := hlast
    rw [applyPlayerAction, if_neg (not_not.mpr hmem), if_neg (not_not.mpr hturn), if_neg hopen,
      startGame_of_ne hne]
    dsimp only
    rw [hstate]
    dsimp only
    rw [actRobLandlord, if_neg (not_not.mpr hrob.1), if_neg hflag]
    dsimp only
    rw [if_pos hlast']
    split
    · rfl
    next hand hsome => exact absurd (hsome.symm.trans hhand) (Option.some_ne_none hand)
  rw [hout]
  refine ⟨rfl, fun heq => ?_⟩
  have hlandlord := congrArg (fun s => s.base.landlordPlayerId) heq
  have hcoin := congrArg (fun s => s.base.baseCoin) heq
  simp only [makePushSnapshotV2, makeSnapshot, recordRob] at hlandlord hcoin
  by_cases hrob1 : request.rob = 1
  · rw [if_pos hrob1] at hcoin
    omega
  · refine hshow.resolve_left hrob1 ?_
    rw [← hlandlord]
    simp [finalLandlord, hrob1]

lemma present_newRoom (roomId mode : ℤ) (players : List ℤ) :
    (newRoom roomId mode players).Present := by
  intro pid _
  change at' (players.foldl (fun m pid => Finmap.insert pid 0 m) ∅) pid 0 ≤ 0
  rw [at', lookup_foldl_insert (fun _ => 0)]
  split_ifs
  · exact le_refl 0
  · simp

lemma RejectRule.marks (h : room.RejectRule playerId request room') :
    room'.onlineByPlayer = room.onlineByPlayer ∧
      room'.offlineAtMsByPlayer = room.offlineAtMsByPlayer := by
  cases h <;> exact ⟨rfl, rfl⟩

/-- Actions in vain included, no event gives a player who is online a deadline. -/
lemma Present.apply (h : room.Present) (ev : RoomEvent) : (room.apply rng ev).Present := by
  have hmarks : ∀ {room' : Room}, room'.onlineByPlayer = (room.startGame rng).onlineByPlayer →
      room'.offlineAtMsByPlayer = (room.startGame rng).offlineAtMsByPlayer → room'.Present := by
    intro room' honline hoffline pid hpid
    rw [offlineAtMs, hoffline, (startGame_marks rng room).2]
    exact h pid (by rwa [honline, (startGame_marks rng room).1] at hpid)
  cases ev with
  | action pid req =>
    simp only [Room.apply]
    rcases hout : room.applyPlayerAction rng pid req with ⟨room', err | result⟩
    · rcases rejected_of_apply hout with rfl | ⟨-, hrule⟩
      · exact h
      · exact hmarks hrule.marks.1 hrule.marks.2
    · exact (versioned_accepted h (accepted_of_apply hout).2).present
  | offline pid offlineAtMs => exact (versioned_markPlayerOffline h pid offlineAtMs).present
  | online pid => exact (versioned_markPlayerOnline h pid).present
  | trustee pid trustee => exact (versioned_markPlayerTrustee h pid trustee).present
  | settling => exact h
  | finished => exact h

end Room

namespace RoomManager

variable (rng : Shuffler)

/-- The condition on an operation that makes an action on the room `r`: it neither starts nor robs
in vain. -/
def NotInVain (r : ℤ) (m : RoomManager) (op : RoomOp) : Prop :=
  ∀ room pid req, m.rooms.find r = some room → m.event r room op = some (.action pid req) →
    ¬ room.StartsInVain pid req ∧ ¬ room.RobsInVain pid req

/-- A snapshot version identifies one snapshot of the room `r` in the run of `ops`: two moments with
equal versions have equal snapshots. -/
def VersionIdentifies (r : ℤ) (ops : List RoomOp) : Prop :=
  ∀ l₁ l₂ l₃ m₁ m₂ s₁ s₂, ops = l₁ ++ (l₂ ++ l₃) →
    Run.exec (step rng) {} l₁ = some m₁ → Run.exec (step rng) m₁ l₂ = some m₂ →
    m₁.buildPushSnapshotV2ByRoomId r = some s₁ → m₂.buildPushSnapshotV2ByRoomId r = some s₂ →
    s₁.base.snapshotVersion = s₂.base.snapshotVersion → s₁ = s₂

variable {rng} {m m' : RoomManager} {r : ℤ}

/-- The rooms of every run are presentable. -/
lemma present_of_run {ops : List RoomOp} (hrun : Run.exec (step rng) {} ops = some m) :
    ∀ r room, m.rooms.find r = some room → room.Present := by
  refine Run.invariant (I := fun m => ∀ r room, m.rooms.find r = some room → room.Present) ?_
    (by simp) hrun
  intro m op m' hI hop r room' hr
  obtain rfl := Run.total_eq_some.mp hop
  cases hfind : m.rooms.find r with
  | none =>
    obtain ⟨mode, players, -, -, rfl⟩ := find_apply_of_none rng hfind hr
    exact present_newRoom r mode players
  | some room =>
    rcases find_apply_of_some rng op hfind with ⟨-, hnone⟩ | hsome
    · rw [hnone] at hr
      cases hr
    · rw [hsome, Option.some.injEq] at hr
      subst hr
      cases m.event r room op with
      | none => exact hI r room hfind
      | some ev => exact (hI r room hfind).apply ev

/-- What a moment of the run keeps of an earlier snapshot `s` of the room `r`: the room shows it
still, or has a later version. -/
def Remembers (r : ℤ) (s : RoomPushSnapshotV2) (m : RoomManager) : Prop :=
  r < m.rooms.nextId ∧ ∀ room, m.rooms.find r = some room → room.Present ∧
    (s.base.snapshotVersion < room.snapshotVersion ∨ room.makePushSnapshotV2 = s)

lemma Remembers.step {s : RoomPushSnapshotV2} {op : RoomOp} (h : Remembers r s m)
    (hG : NotInVain r m op) : Remembers r s (m.apply rng op) := by
  refine ⟨lt_of_lt_of_le h.1 (nextId_le_apply rng m op), fun room' hfind' => ?_⟩
  cases hfind : m.rooms.find r with
  | none =>
    obtain ⟨_, _, -, hr, -⟩ := find_apply_of_none rng hfind hfind'
    exact absurd hr (ne_of_lt h.1)
  | some room =>
    obtain ⟨hpresent, hs⟩ := h.2 room hfind
    rcases find_apply_of_some rng op hfind with ⟨-, hnone⟩ | hsome
    · rw [hnone] at hfind'
      cases hfind'
    · rw [hsome, Option.some.injEq] at hfind'
      subst hfind'
      cases hev : m.event r room op with
      | none => exact ⟨hpresent, hs⟩
      | some ev =>
        have hver : Versioned room (room.apply rng ev) := versioned_apply hpresent ev
          fun pid req heq => hG room pid req hfind (by rw [hev, heq])
        refine ⟨hver.present, ?_⟩
        change _ < (room.apply rng ev).snapshotVersion ∨ (room.apply rng ev).makePushSnapshotV2 = s
        rcases hver.version with hlt | hsame
        · rcases hs with hold | rfl
          · exact Or.inl (hold.trans hlt)
          · exact Or.inl hlt
        · rwa [hsame.version, hsame.makePushSnapshotV2]

/-- An action in vain leaves two moments with one version and two snapshots. -/
lemma not_versionIdentifies_of_inVain {l₁ l : List RoomOp} {op : RoomOp}
    (hrun : Run.exec (step rng) {} l₁ = some m) (hG : ¬ NotInVain r m op) :
    ¬ VersionIdentifies rng r (l₁ ++ op :: l) := by
  simp only [NotInVain, not_forall] at hG
  obtain ⟨room, pid, req, hfind, hev, hvain⟩ := hG
  rw [not_and_or, not_not, not_not] at hvain
  have hchange : SilentChange room (room.apply rng (.action pid req)) :=
    hvain.elim StartsInVain.silentChange RobsInVain.silentChange
  have hfind' := find_apply_of_event rng hfind hev
  intro h
  refine hchange.2 (h l₁ [op] l m (m.apply rng op) _ _ rfl hrun rfl ?_ ?_ ?_).symm
  · rw [buildPushSnapshotV2ByRoomId, hfind]
    rfl
  · rw [buildPushSnapshotV2ByRoomId, hfind']
    rfl
  · exact hchange.1.symm

/-- Versions identify the snapshots of a room in a run exactly if no action of the run on the room
is made in vain. -/
theorem versionIdentifies_iff (r : ℤ) (ops : List RoomOp) :
    VersionIdentifies rng r ops ↔ Run.Along (step rng) (NotInVain r) {} ops := by
  constructor
  · intro h
    suffices hsuffix : ∀ l l₁ m, ops = l₁ ++ l → Run.exec (step rng) {} l₁ = some m →
        Run.Along (step rng) (NotInVain r) m l from hsuffix ops [] {} rfl rfl
    intro l
    induction l with
    | nil => intros; trivial
    | cons op l ih =>
      intro l₁ m hops hrun
      refine ⟨?_, fun m' hm' => ih (l₁ ++ [op]) m' (by simp [hops]) ?_⟩
      · by_contra hG
        exact not_versionIdentifies_of_inVain hrun hG (hops ▸ h)
      · rw [Run.exec_append, hrun]
        simpa using hm'
  · rintro hall l₁ l₂ l₃ m₁ m₂ s₁ s₂ rfl hrun₁ hrun₂ hs₁ hs₂ hversion
    have hl₂ := (Run.along_append (Run.along_append hall hrun₁).2 hrun₂).1
    obtain ⟨room₁, hfind₁, rfl⟩ := Option.map_eq_some_iff.mp hs₁
    obtain ⟨room₂, hfind₂, rfl⟩ := Option.map_eq_some_iff.mp hs₂
    have hinit : Remembers r room₁.makePushSnapshotV2 m₁ := by
      refine ⟨(Table.find_bounds hfind₁).2, fun room hfind => ?_⟩
      obtain rfl := Option.some.inj (hfind₁.symm.trans hfind)
      exact ⟨present_of_run hrun₁ r _ hfind, Or.inr rfl⟩
    have hend : Remembers r room₁.makePushSnapshotV2 m₂ := by
      refine Run.invariant_along (fun m op m' hI hG hop => ?_) hinit hl₂ hrun₂
      obtain rfl := Run.total_eq_some.mp hop
      exact hI.step hG
    rcases (hend.2 room₂ hfind₂).2 with hlt | heq
    · exact absurd hversion (ne_of_lt hlt)
    · exact heq.symm

end RoomManager

end DdzServer
