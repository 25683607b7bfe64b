import DdzServer.Lib.ClimbingGame
import DdzServer.Room.Auction
import DdzServer.Rule.ComboGrammar
import Mathlib.Data.Multiset.OrderedMonoid

/-!
# The position of a room

The rules of the game are those of a climbing game, with the combos of the grammar. The fields of a
room hold a position of this game; there an accepted action is a legal move, and a legal move is an
action of the rules.
-/

namespace DdzServer

open ClimbingGame Room RoomManager UnorderedMap

/-! ### The rules -/

/-- The cards form a combo of a type and a main rank. -/
def FormsCombo (cards : List ℤ) (type : CardComboType) (rank : ℤ) : Prop :=
  AreCards cards ∧ IsCombo (profile cards) type rank

/-- The combos of the grammar, and scores up to 3. -/
def fightTheLandlord : Rules ℤ where
  topScore := 3
  IsCombo cards := ∃ type rank, FormsCombo cards type rank
  Beats cards prev := ∃ type rank type' rank', FormsCombo cards type rank ∧
    FormsCombo prev type' rank' ∧
      CardCombo.BeatRule ⟨type, rank, cards.length, true⟩ ⟨type', rank', prev.length, true⟩

lemma FormsCombo.analyze_eq {cards : List ℤ} {type : CardComboType} {rank : ℤ}
    (h : FormsCombo cards type rank) : analyze cards = ⟨type, rank, cards.length, true⟩ :=
  analyze_of_isCombo (h.2.not_isBad h.1) h.2

lemma isCombo_iff {cards : List ℤ} :
    fightTheLandlord.IsCombo cards ↔ (analyze cards).valid = true := by
  constructor
  · rintro ⟨type, rank, h⟩
    rw [h.analyze_eq]
  · intro hvalid
    refine ⟨_, _, ?_, isCombo_of_valid hvalid⟩
    by_contra hnot
    rw [analyze_of_isBad (isBad_iff.mpr (Or.inr hnot))] at hvalid
    cases hvalid

lemma beats_iff {cards prev : List ℤ} (hcards : (analyze cards).valid = true)
    (hprev : (analyze prev).valid = true) :
    fightTheLandlord.Beats cards prev ↔ canBeat (analyze cards) (analyze prev) = true := by
  rw [canBeat_iff ⟨hcards, cards, rfl⟩ ⟨hprev, prev, rfl⟩]
  constructor
  · rintro ⟨type, rank, type', rank', h, h', hbeats⟩
    rwa [h.analyze_eq, h'.analyze_eq]
  · intro hbeats
    obtain ⟨type, rank, h⟩ := isCombo_iff.mpr hcards
    obtain ⟨type', rank', h'⟩ := isCombo_iff.mpr hprev
    rw [h.analyze_eq, h'.analyze_eq] at hbeats
    exact ⟨type, rank, type', rank', h, h', hbeats⟩

/-- The move that a request asks for. -/
def moveOf (request : PlayerActionRequest) : Option (Move ℤ) :=
  match request.actionType with
  | .callScore   => if 0 ≤ request.callScore then some (.call request.callScore.toNat) else none
  | .robLandlord =>
    if request.rob = 0 then some (.answer false)
    else if request.rob = 1 then some (.answer true)
    else none
  | .playCards   => some (.play request.cards)
  | .pass        => some .pass

/-- A request to pass carries no cards. -/
def PlayerActionRequest.PassesBare (request : PlayerActionRequest) : Prop :=
  request.actionType = .pass → request.cards = []

/-! ### Seats -/

namespace Room

variable {rng : Shuffler} {room room' : Room} {playerId : ℤ} {request : PlayerActionRequest}
  {p p' : Position ℤ} {seat : Seat} {move : Move ℤ}

/-- The player on a seat. -/
def playerAt (room : Room) (seat : Seat) : ℤ := room.players.getD seat.val 0

lemma HasTrio.playerAt_mem (h : room.HasTrio) (seat : Seat) :
    room.playerAt seat ∈ room.players := by
  have hlt : seat.val < room.players.length := h.1.symm ▸ seat.isLt
  rw [playerAt, List.getD_eq_getElem _ _ hlt]
  exact List.getElem_mem hlt

lemma HasTrio.playerAt_inj (h : room.HasTrio) {s t : Seat} :
    room.playerAt s = room.playerAt t ↔ s = t := by
  have hs : s.val < room.players.length := h.1.symm ▸ s.isLt
  have ht : t.val < room.players.length := h.1.symm ▸ t.isLt
  rw [playerAt, playerAt, List.getD_eq_getElem _ _ hs, List.getD_eq_getElem _ _ ht,
    h.2.getElem_inj_iff, Fin.val_inj]

lemma HasTrio.seatAfter_playerAt (h : room.HasTrio) (seat : Seat) (k : ℕ) :
    room.seatAfter (room.playerAt seat) k = room.playerAt (goRound seat k) := by
  have hlt : seat.val < room.players.length := h.1.symm ▸ seat.isLt
  have hidx : room.players.idxOf (room.playerAt seat) = seat.val := by
    rw [playerAt, List.getD_eq_getElem _ _ hlt]
    exact h.2.idxOf_getElem _ hlt
  rw [seatAfter, hidx]
  rfl

/-- The operator after a player sits on the next seat. -/
lemma HasTrio.nextOperator_playerAt (h : room.HasTrio) (seat : Seat) :
    room.nextOperator (room.playerAt seat) = room.playerAt (goRound seat 1) := by
  rw [h.nextOperator_eq (h.playerAt_mem seat), h.seatAfter_playerAt]

/-! ### Positions -/

/-- The id stands for the player on a seat; 0 stands for the one on `default`. -/
def Names (room : Room) (id : ℤ) (seat default : Seat) : Prop :=
  id = room.playerAt seat ∨ id = 0 ∧ seat = default

structure CallingAt (room : Room) (best : Seat) (score called : ℕ) : Prop where
  state : room.state = .callScore
  count : room.stateActionCount = called
  short : called < 3
  turn : room.currentOperatorPlayerId = room.playerAt (goRound firstSeat called)
  score_eq : room.highestCallScore = score
  caller : room.Names room.highestCallPlayerId best firstSeat
  landlord : room.landlordPlayerId = 0

structure RobbingAt (room : Room) (caller landlord : Seat) (stake answered : ℕ) : Prop where
  state : room.state = .robLandlord
  count : room.stateActionCount = answered
  short : answered < 3
  turn : room.currentOperatorPlayerId = room.playerAt (goRound caller answered)
  caller_eq : room.highestCallPlayerId = room.playerAt caller
  landlord_eq : room.Names room.landlordPlayerId landlord caller
  base : room.baseCoin = stake
  stake_pos : 1 ≤ stake

structure LeadingAt (room : Room) (landlord : Seat) (stake : ℕ) (lead : Seat) : Prop where
  state : room.state = .playing
  turn : room.currentOperatorPlayerId = room.playerAt lead
  table : room.lastPlayCards = []
  landlord_eq : room.landlordPlayerId = room.playerAt landlord
  base : room.baseCoin = stake
  stake_pos : 1 ≤ stake

structure FollowingAt (room : Room) (landlord : Seat) (stake : ℕ) (trick : Trick ℤ) : Prop where
  state : room.state = .playing
  turn : room.currentOperatorPlayerId = room.playerAt trick.turn
  table : room.lastPlayCards = trick.cards
  valid : (analyze trick.cards).valid = true
  leader : room.lastPlayPlayerId = room.playerAt trick.leader
  passes : room.consecutivePassCount = trick.passes
  short : trick.passes < 2
  landlord_eq : room.landlordPlayerId = room.playerAt landlord
  base : room.baseCoin = stake
  stake_pos : 1 ≤ stake

structure WonAt (room : Room) (landlord : Seat) (stake : ℕ) (winner : Seat) : Prop where
  state : room.state = .settling
  turn : room.currentOperatorPlayerId = room.playerAt winner
  landlord_eq : room.landlordPlayerId = room.playerAt landlord
  base : room.baseCoin = stake
  stake_pos : 1 ≤ stake

/-- The fields of a room say how far its game is. -/
def InStage (room : Room) : Stage ℤ → Prop
  | .calling best score called                => room.CallingAt best score called
  | .robbing caller landlord stake answered => room.RobbingAt caller landlord stake answered
  | .leading landlord stake lead              => room.LeadingAt landlord stake lead
  | .following landlord stake trick           => room.FollowingAt landlord stake trick
  | .won landlord stake winner                => room.WonAt landlord stake winner

/-- The room holds a position of the game. -/
structure IsAt (room : Room) (p : Position ℤ) : Prop where
  hands : ∀ seat, ∃ hand, room.hands.lookup (room.playerAt seat) = some hand ∧
    (hand : Multiset ℤ) = p.hands seat
  bottom : (room.landlordBottomCards : Multiset ℤ) = p.bottom
  stage : room.InStage p.stage

lemma IsAt.calling_inv (h : room.IsAt p) (hstate : room.state = .callScore) :
    ∃ best score called, p.stage = .calling best score called ∧
      room.CallingAt best score called := by
  have hstage := h.stage
  cases hp : p.stage <;> rw [hp] at hstage
  case calling best score called => exact ⟨best, score, called, rfl, hstage⟩
  all_goals exact absurd (hstate.symm.trans hstage.state) (by decide)

lemma IsAt.robbing_inv (h : room.IsAt p) (hstate : room.state = .robLandlord) :
    ∃ caller landlord stake answered, p.stage = .robbing caller landlord stake answered ∧
      room.RobbingAt caller landlord stake answered := by
  have hstage := h.stage
  cases hp : p.stage <;> rw [hp] at hstage
  case robbing caller landlord stake answered => exact ⟨_, _, _, _, rfl, hstage⟩
  all_goals exact absurd (hstate.symm.trans hstage.state) (by decide)

lemma IsAt.leading_inv (h : room.IsAt p) (hstate : room.state = .playing)
    (htable : room.lastPlayCards = []) :
    ∃ landlord stake lead, p.stage = .leading landlord stake lead ∧
      room.LeadingAt landlord stake lead := by
  have hstage := h.stage
  cases hp : p.stage <;> rw [hp] at hstage
  case leading landlord stake lead => exact ⟨_, _, _, rfl, hstage⟩
  case following landlord stake trick =>
    -- an empty table is no combo
    have hvalid := hstage.valid
    rw [← hstage.table, htable] at hvalid
    exact absurd hvalid (by decide)
  all_goals exact absurd (hstate.symm.trans hstage.state) (by decide)

lemma IsAt.following_inv (h : room.IsAt p) (hstate : room.state = .playing)
    (htable : room.lastPlayCards ≠ []) :
    ∃ landlord stake trick, p.stage = .following landlord stake trick ∧
      room.FollowingAt landlord stake trick := by
  have hstage := h.stage
  cases hp : p.stage <;> rw [hp] at hstage
  case following landlord stake trick => exact ⟨_, _, _, rfl, hstage⟩
  case leading landlord stake lead => exact absurd hstage.table htable
  all_goals exact absurd (hstate.symm.trans hstage.state) (by decide)

/-- The operator sits on the seat on turn. -/
lemma IsAt.turn (h : room.IsAt p) (hopen : room.state ≠ .settling) :
    ∃ seat, p.stage.turn = some seat ∧ room.currentOperatorPlayerId = room.playerAt seat := by
  have hstage := h.stage
  cases hp : p.stage <;> rw [hp] at hstage
  case won => exact absurd hstage.state hopen
  all_goals exact ⟨_, rfl, hstage.turn⟩

/-! ### An accepted action is a legal move -/

lemma moveOf_call {call : ℕ} (hcall : request.IsCall) (h : request.callScore = call) :
    moveOf request = some (.call call) := by
  simp [moveOf, hcall.1, h]

lemma moveOf_rob (hrob : request.IsRob) :
    moveOf request = some (.answer (decide (request.rob = 1))) := by
  rcases hrob with ⟨htype, hzero | hone⟩
  · simp [moveOf, htype, hzero]
  · simp [moveOf, htype, hone]

/-- Players have positive ids, so none of them is taken for a missing one. -/
lemma HasTrio.playerAt_ne (h : room.HasTrio) (hpos : ∀ q ∈ room.players, 0 < q) (seat : Seat) :
    room.playerAt seat ≠ 0 :=
  (hpos _ (h.playerAt_mem seat)).ne'

lemma highestCaller_eq {best : Seat} (htrio : room.HasTrio) (hpos : ∀ q ∈ room.players, 0 < q)
    (h : room.Names room.highestCallPlayerId best firstSeat) :
    room.highestCaller = room.playerAt best := by
  rw [highestCaller]
  rcases h with heq | ⟨hzero, rfl⟩
  · rw [if_neg fun hz => htrio.playerAt_ne hpos best (heq.symm.trans hz.1), heq]
  · rw [if_pos ⟨hzero, htrio.ne_nil⟩, playerAt, List.headD_eq_head?_getD,
      List.getD_eq_getElem?_getD, List.head?_eq_getElem?]
    rfl

lemma finalLandlord_eq {landlord caller : Seat} (htrio : room.HasTrio)
    (hpos : ∀ q ∈ room.players, 0 < q) (hcaller : room.highestCallPlayerId = room.playerAt caller)
    (h : room.Names room.landlordPlayerId landlord caller) :
    room.finalLandlord = room.playerAt landlord := by
  rw [finalLandlord]
  rcases h with heq | ⟨hzero, rfl⟩
  · have hne := htrio.playerAt_ne hpos landlord
    rw [heq, if_neg hne, if_neg fun hz => hne hz.1]
  · have hne := htrio.playerAt_ne hpos landlord
    rw [if_pos hzero, hcaller, if_neg fun hz => hne hz.1]

/-- A call is recorded as the game has it. -/
lemma CallingAt.recordCall {best : Seat} {score called : ℕ} (h : room.CallingAt best score called)
    (seat : Seat) (call : ℕ) :
    (room.recordCall (room.playerAt seat) call).highestCallScore =
      ((outbid best score seat call).2 : ℤ) ∧
    room.Names (room.recordCall (room.playerAt seat) call).highestCallPlayerId
      (outbid best score seat call).1 firstSeat := by
  simp only [Room.recordCall, outbid, h.score_eq, Nat.cast_lt]
  split_ifs with hlt
  · exact ⟨rfl, Or.inl rfl⟩
  · exact ⟨rfl, h.caller⟩

/-- An answer is recorded as the game has it. -/
lemma RobbingAt.recordRob {caller landlord : Seat} {stake answered : ℕ}
    (h : room.RobbingAt caller landlord stake answered) (seat : Seat)
    (request : PlayerActionRequest) :
    (room.recordRob (room.playerAt seat) request.rob).baseCoin =
      ((claim landlord stake seat (decide (request.rob = 1))).2 : ℤ) ∧
    room.Names (room.recordRob (room.playerAt seat) request.rob).landlordPlayerId
      (claim landlord stake seat (decide (request.rob = 1))).1 caller ∧
    1 ≤ (claim landlord stake seat (decide (request.rob = 1))).2 := by
  have hpos := h.stake_pos
  by_cases hone : request.rob = 1
  · simp only [Room.recordRob, claim, hone, if_true, decide_true, h.base]
    refine ⟨?_, Or.inl rfl, by omega⟩
    push_cast
    rw [max_eq_right (by omega), mul_comm]
  · simp only [Room.recordRob, claim, hone, if_false, decide_false, Bool.false_eq_true]
    exact ⟨h.base, h.landlord_eq, hpos⟩

/-- The landlord's hand and the others after he took up the bottom cards. -/
lemma IsAt.takeUp {landlord : Seat} {stake : ℕ} {hand : List ℤ} (h : room.IsAt p)
    (htrio : room.HasTrio) (hhand : room.hands.lookup (room.playerAt landlord) = some hand)
    (seat : Seat) :
    ∃ hand', (Finmap.insert (room.playerAt landlord)
        (sortCards (hand ++ room.landlordBottomCards)) room.hands).lookup (room.playerAt seat) =
        some hand' ∧ (hand' : Multiset ℤ) = (p.takeUp landlord stake).hands seat := by
  obtain ⟨hand', hhand', hcards⟩ := h.hands seat
  simp only [Position.takeUp, lookup_insert]
  by_cases hseat : seat = landlord
  · subst hseat
    obtain rfl := Option.some.inj (hhand.symm.trans hhand')
    rw [if_pos rfl]
    refine ⟨_, rfl, ?_⟩
    rw [Function.update_self, coe_sortCards, ← Multiset.coe_add, hcards, h.bottom]
  · rw [if_neg (mt htrio.playerAt_inj.mp hseat), Function.update_of_ne hseat]
    exact ⟨hand', hhand', hcards⟩

/-- The player's hand and the others after he put down cards. -/
lemma IsAt.put {hand : List ℤ} (h : room.IsAt p) (htrio : room.HasTrio)
    (hhand : room.hands.lookup (room.playerAt seat) = some hand) (landlord : Seat) (stake : ℕ)
    (cards : List ℤ) (other : Seat) :
    ∃ hand', (Finmap.insert (room.playerAt seat) (hand.diff cards) room.hands).lookup
        (room.playerAt other) = some hand' ∧
      (hand' : Multiset ℤ) = (p.put landlord stake seat cards).hands other := by
  obtain ⟨hand', hhand', hcards⟩ := h.hands other
  simp only [Position.put, lookup_insert]
  by_cases hseat : other = seat
  · subst hseat
    obtain rfl := Option.some.inj (hhand.symm.trans hhand')
    rw [if_pos rfl]
    refine ⟨_, rfl, ?_⟩
    rw [Function.update_self, ← hcards, Multiset.coe_sub]
  · rw [if_neg (mt htrio.playerAt_inj.mp hseat), Function.update_of_ne hseat]
    exact ⟨hand', hhand', hcards⟩

/-- The hand of a seat, as the room and the game have it. -/
lemma IsAt.coe_hand {hand : List ℤ} (h : room.IsAt p)
    (hhand : room.hands.lookup (room.playerAt seat) = some hand) :
    (hand : Multiset ℤ) = p.hands seat := by
  obtain ⟨hand', hhand', hcards⟩ := h.hands seat
  obtain rfl := Option.some.inj (hhand.symm.trans hhand')
  exact hcards

/-- A hand is played out when the cards put down are all of it. -/
lemma diff_eq_nil_iff {hand cards : List ℤ} (hsub : cards.Subperm hand) :
    hand.diff cards = [] ↔ (hand : Multiset ℤ) = cards := by
  rw [← Multiset.coe_eq_zero, ← Multiset.coe_sub, tsub_eq_zero_iff_le]
  exact ⟨fun hle => le_antisymm hle hsub, fun heq => heq.le⟩

/-- Cards that the room lets the seat on turn play are a legal play. -/
lemma IsAt.legal_play {hand cards : List ℤ} (h : room.IsAt p) (htrio : room.HasTrio)
    (hseat : p.stage.turn = some seat) (hturn : room.currentOperatorPlayerId = room.playerAt seat)
    (hs : room.state = .playing) (hhand : room.hands.lookup (room.playerAt seat) = some hand)
    (hvalid : (analyze cards).valid = true)
    (hbeats : room.beatsTable (room.playerAt seat) cards = true) (hcards : cards.Subperm hand) :
    ∃ landlord stake,
      Legal fightTheLandlord p seat (.play cards) (p.put landlord stake seat cards) ∧
      room.landlordPlayerId = room.playerAt landlord ∧ room.baseCoin = stake ∧ 1 ≤ stake := by
  have hcombo := isCombo_iff.mpr hvalid
  have hle : (cards : Multiset ℤ) ≤ p.hands seat := by
    rw [← h.coe_hand hhand]
    exact hcards
  by_cases htable : room.lastPlayCards = []
  · obtain ⟨landlord, stake, lead, hp, hl⟩ := h.leading_inv hs htable
    obtain rfl : seat = lead := htrio.playerAt_inj.mp (hturn.symm.trans hl.turn)
    exact ⟨landlord, stake, .lead hp hcombo hle, hl.landlord_eq, hl.base, hl.stake_pos⟩
  · obtain ⟨landlord, stake, trick, hp, hf⟩ := h.following_inv hs htable
    have hother : room.lastPlayPlayerId ≠ room.playerAt seat := by
      rw [← hturn, hf.leader, hf.turn, Ne, htrio.playerAt_inj]
      exact (trick.turn_ne hf.short).symm
    have hbeat : fightTheLandlord.Beats cards trick.cards := by
      rw [beats_iff hvalid hf.valid, ← hf.table]
      simpa [beatsTable, htable, hother] using hbeats
    exact ⟨landlord, stake, .follow hp hseat hcombo hbeat hle, hf.landlord_eq, hf.base,
      hf.stake_pos⟩

/-- The room is at a position to which the move of the request leads. -/
def LegallyReached (p : Position ℤ) (seat : Seat) (request : PlayerActionRequest)
    (written : Room) : Prop :=
  ∃ move p', moveOf request = some move ∧ Legal fightTheLandlord p seat move p' ∧ written.IsAt p'

lemma IsAt.callNext (h : room.IsAt p) (htrio : room.HasTrio)
    (hseat : p.stage.turn = some seat)
    (hturn : room.currentOperatorPlayerId = room.playerAt seat)
    (hs : room.state = .callScore) (hcall : request.IsCall) (hne : request.callScore ≠ 3)
    (hnext : room.stateActionCount + 1 < room.players.length) :
    LegallyReached p seat request
      { room.recordCall (room.playerAt seat) request.callScore with
        currentOperatorPlayerId := room.nextOperator (room.playerAt seat) } := by
  have hlen := htrio.1
  obtain ⟨best, score, called, hp, hc⟩ := h.calling_inv hs
  obtain ⟨call, hscore⟩ := Int.eq_ofNat_of_zero_le hcall.2.1
  have hcount := hc.count
  have hle := hcall.2.2
  obtain rfl : seat = goRound firstSeat called :=
    htrio.playerAt_inj.mp (hturn.symm.trans hc.turn)
  obtain ⟨hhigh, hbest⟩ := hc.recordCall (goRound firstSeat called) call
  refine ⟨.call call, _, moveOf_call hcall hscore, .callOn hp hseat (by
    simp only [fightTheLandlord]; omega) (by omega), h.hands, h.bottom, ?_⟩
  rw [hscore]
  refine ⟨hs, ?_, by omega, ?_, hhigh, hbest, hc.landlord⟩
  · change room.stateActionCount + 1 = ((called + 1 : ℕ) : ℤ)
    omega
  · change room.nextOperator _ = room.playerAt _
    rw [htrio.nextOperator_playerAt, goRound_goRound]

lemma IsAt.callLast (h : room.IsAt p) (htrio : room.HasTrio)
    (hpos : ∀ q ∈ room.players, 0 < q) (hseat : p.stage.turn = some seat)
    (hs : room.state = .callScore) (hcall : request.IsCall)
    (hlast : request.callScore = 3 ∨ (room.players.length : ℤ) ≤ room.stateActionCount + 1) :
    LegallyReached p seat request
      (room.recordCall (room.playerAt seat) request.callScore).endCalls := by
  have hlen := htrio.1
  obtain ⟨best, score, called, hp, hc⟩ := h.calling_inv hs
  obtain ⟨call, hscore⟩ := Int.eq_ofNat_of_zero_le hcall.2.1
  have hcount := hc.count
  have hshort := hc.short
  have hle := hcall.2.2
  obtain ⟨hhigh, hbest⟩ := hc.recordCall seat call
  have hcaller : (room.recordCall (room.playerAt seat) call).highestCaller =
      room.playerAt (outbid best score seat call).1 := highestCaller_eq htrio hpos hbest
  refine ⟨.call call, _, moveOf_call hcall hscore, .callLast hp hseat (by
    simp only [fightTheLandlord]; omega) (by simp only [fightTheLandlord]; omega),
    h.hands, h.bottom, ?_⟩
  rw [hscore]
  refine ⟨rfl, rfl, by decide, ?_, hcaller, ?_, ?_, le_max_left _ _⟩
  · change (room.recordCall (room.playerAt seat) call).highestCaller = _
    rw [hcaller, goRound_zero]
    rfl
  · exact Or.inr ⟨hc.landlord, rfl⟩
  · change max 1 (room.recordCall (room.playerAt seat) call).highestCallScore = _
    rw [hhigh]
    push_cast
    rfl

lemma IsAt.robNext (h : room.IsAt p) (htrio : room.HasTrio)
    (hseat : p.stage.turn = some seat)
    (hturn : room.currentOperatorPlayerId = room.playerAt seat)
    (hs : room.state = .robLandlord) (hrob : request.IsRob)
    (hnext : room.stateActionCount + 1 < room.players.length) :
    LegallyReached p seat request
      { room.recordRob (room.playerAt seat) request.rob with
        currentOperatorPlayerId := room.nextOperator (room.playerAt seat) } := by
  have hlen := htrio.1
  obtain ⟨caller, landlord, stake, answered, hp, hr⟩ := h.robbing_inv hs
  have hcount := hr.count
  obtain rfl : seat = goRound caller answered :=
    htrio.playerAt_inj.mp (hturn.symm.trans hr.turn)
  obtain ⟨hbase, hlandlord, hstake⟩ := hr.recordRob (goRound caller answered) request
  refine ⟨_, _, moveOf_rob hrob, .answerOn _ hp hseat (by omega), h.hands, h.bottom, ?_⟩
  refine ⟨hs, ?_, by omega, ?_, hr.caller_eq, hlandlord, hbase, hstake⟩
  · change room.stateActionCount + 1 = ((answered + 1 : ℕ) : ℤ)
    omega
  · change room.nextOperator _ = room.playerAt _
    rw [htrio.nextOperator_playerAt, goRound_goRound]

lemma IsAt.robLast (h : room.IsAt p) (htrio : room.HasTrio)
    (hpos : ∀ q ∈ room.players, 0 < q) (hseat : p.stage.turn = some seat)
    (hs : room.state = .robLandlord) (hrob : request.IsRob)
    (hlast : (room.players.length : ℤ) ≤ room.stateActionCount + 1) {hand : List ℤ}
    (hhand : room.hands.lookup
      (room.recordRob (room.playerAt seat) request.rob).finalLandlord = some hand) :
    LegallyReached p seat request
      ({ room.recordRob (room.playerAt seat) request.rob with
          landlordPlayerId := (room.recordRob (room.playerAt seat) request.rob).finalLandlord
        }.startPlaying hand) := by
  have hlen := htrio.1
  obtain ⟨caller, landlord, stake, answered, hp, hr⟩ := h.robbing_inv hs
  have hcount := hr.count
  have hshort := hr.short
  obtain rfl : answered = 2 := by omega
  obtain ⟨hbase, hlandlord, hstake⟩ := hr.recordRob seat request
  have hfinal : (room.recordRob (room.playerAt seat) request.rob).finalLandlord =
      room.playerAt (claim landlord stake seat (decide (request.rob = 1))).1 :=
    finalLandlord_eq htrio hpos hr.caller_eq hlandlord
  rw [hfinal] at hhand ⊢
  exact ⟨_, _, moveOf_rob hrob, .answerLast _ hp hseat, h.takeUp htrio hhand, h.bottom,
    rfl, rfl, rfl, rfl, hbase, hstake⟩

lemma IsAt.passNext (h : room.IsAt p) (htrio : room.HasTrio)
    (hseat : p.stage.turn = some seat)
    (hturn : room.currentOperatorPlayerId = room.playerAt seat)
    (hs : room.state = .playing) (htype : request.actionType = .pass)
    (htable : room.lastPlayCards ≠ [])
    (hnext : room.consecutivePassCount + 1 < (room.players.length : ℤ) - 1) :
    LegallyReached p seat request
      { room with
        consecutivePassCount := room.consecutivePassCount + 1
        currentOperatorPlayerId := room.nextOperator (room.playerAt seat) } := by
  have hlen := htrio.1
  obtain ⟨landlord, stake, ⟨cards, leader, passes⟩, hp, hf⟩ := h.following_inv hs htable
  have hpasses := hf.passes
  obtain rfl : passes = 0 := by
    simp only at hpasses
    omega
  obtain rfl : seat = goRound leader 1 :=
    htrio.playerAt_inj.mp (hturn.symm.trans hf.turn)
  refine ⟨.pass, _, by simp [moveOf, htype], .passOn hp hseat, h.hands, h.bottom, ?_⟩
  refine ⟨hs, ?_, hf.table, hf.valid, hf.leader, ?_, Nat.one_lt_two, hf.landlord_eq, hf.base,
    hf.stake_pos⟩
  · change room.nextOperator _ = room.playerAt _
    rw [htrio.nextOperator_playerAt, goRound_goRound]
    rfl
  · change room.consecutivePassCount + 1 = _
    rw [hpasses]
    rfl

lemma IsAt.passLast (h : room.IsAt p) (htrio : room.HasTrio)
    (hseat : p.stage.turn = some seat) (hs : room.state = .playing)
    (htype : request.actionType = .pass) (htable : room.lastPlayCards ≠ [])
    (hlast : (room.players.length : ℤ) - 1 ≤ room.consecutivePassCount + 1) :
    LegallyReached p seat request
      room.clearTable := by
  have hlen := htrio.1
  obtain ⟨landlord, stake, ⟨cards, leader, passes⟩, hp, hf⟩ := h.following_inv hs htable
  have hpasses := hf.passes
  have hshort := hf.short
  obtain rfl : passes = 1 := by
    simp only at hpasses hshort
    omega
  exact ⟨.pass, _, by simp [moveOf, htype], .passLast hp hseat, h.hands, h.bottom,
    hs, hf.leader, rfl, hf.landlord_eq, hf.base, hf.stake_pos⟩

lemma IsAt.play (h : room.IsAt p) (htrio : room.HasTrio)
    (hseat : p.stage.turn = some seat)
    (hturn : room.currentOperatorPlayerId = room.playerAt seat)
    (hs : room.state = .playing) (htype : request.actionType = .playCards) {hand : List ℤ}
    (hhand : room.hands.lookup (room.playerAt seat) = some hand)
    (hvalid : (analyze request.cards).valid = true)
    (hbeats : room.beatsTable (room.playerAt seat) request.cards = true)
    (hcards : request.cards.Subperm hand) (hrest : hand.diff request.cards ≠ []) :
    LegallyReached p seat request
      { room.putCards (room.playerAt seat) request.cards (hand.diff request.cards) with
        currentOperatorPlayerId := room.nextOperator (room.playerAt seat) } := by
  obtain ⟨landlord, stake, hlegal, hlandlord, hbase, hstake⟩ :=
    h.legal_play htrio hseat hturn hs hhand hvalid hbeats hcards
  refine ⟨_, _, by simp [moveOf, htype], hlegal, h.put htrio hhand _ _ _, h.bottom, ?_⟩
  have hnot : p.hands seat ≠ request.cards := by
    rw [← h.coe_hand hhand]
    exact mt (diff_eq_nil_iff hcards).mpr hrest
  simp only [Position.put, if_neg hnot]
  refine ⟨hs, ?_, rfl, hvalid, rfl, rfl, Nat.zero_lt_two, hlandlord, hbase, hstake⟩
  exact htrio.nextOperator_playerAt seat

lemma IsAt.playLast (h : room.IsAt p) (htrio : room.HasTrio)
    (hseat : p.stage.turn = some seat)
    (hturn : room.currentOperatorPlayerId = room.playerAt seat)
    (hs : room.state = .playing) (htype : request.actionType = .playCards) {hand : List ℤ}
    (hhand : room.hands.lookup (room.playerAt seat) = some hand)
    (hvalid : (analyze request.cards).valid = true)
    (hbeats : room.beatsTable (room.playerAt seat) request.cards = true)
    (hcards : request.cards.Subperm hand) (hrest : hand.diff request.cards = []) :
    LegallyReached p seat request
      { room.putCards (room.playerAt seat) request.cards [] with
        state := .settling
        currentOperatorPlayerId := room.playerAt seat } := by
  obtain ⟨landlord, stake, hlegal, hlandlord, hbase, hstake⟩ :=
    h.legal_play htrio hseat hturn hs hhand hvalid hbeats hcards
  have hhands := h.put htrio hhand landlord stake request.cards
  rw [hrest] at hhands
  refine ⟨_, _, by simp [moveOf, htype], hlegal, hhands, h.bottom, ?_⟩
  have hall : p.hands seat = request.cards := by
    rw [← h.coe_hand hhand]
    exact (diff_eq_nil_iff hcards).mp hrest
  simp only [Position.put, if_pos hall]
  exact ⟨rfl, rfl, hlandlord, hbase, hstake⟩

/-- An accepted action of the seat on turn is a legal move, and leads to its position. -/
theorem IsAt.rule {written : Room} {ended : Bool} (h : room.IsAt p) (htrio : room.HasTrio)
    (hpos : ∀ q ∈ room.players, 0 < q) (hseat : p.stage.turn = some seat)
    (hturn : room.currentOperatorPlayerId = room.playerAt seat)
    (hrule : ActionRule room (room.playerAt seat) request written ended) :
    LegallyReached p seat request written := by
  cases hrule with
  | callNext hs hcall hne hnext => exact h.callNext htrio hseat hturn hs hcall hne hnext
  | callLast hs hcall hlast => exact h.callLast htrio hpos hseat hs hcall hlast
  | robNext hs hrob hnext => exact h.robNext htrio hseat hturn hs hrob hnext
  | robLast hs hrob hlast hand hhand => exact h.robLast htrio hpos hseat hs hrob hlast hhand
  | passNext hs htype htable hlead hnext =>
    exact h.passNext htrio hseat hturn hs htype htable hnext
  | passLast hs htype htable hlead hlast => exact h.passLast htrio hseat hs htype htable hlast
  | play hs htype hne hand hhand hvalid hbeats hcards hrest =>
    exact h.play htrio hseat hturn hs htype hhand hvalid hbeats hcards hrest
  | playLast hs htype hne hand hhand hvalid hbeats hcards hrest =>
    exact h.playLast htrio hseat hturn hs htype hhand hvalid hbeats hcards hrest

/-! ### A legal move is accepted -/

lemma isCall_of_moveOf {call : ℕ} (h : moveOf request = some (.call call)) (hle : call ≤ 3) :
    request.IsCall ∧ request.callScore = call := by
  simp only [moveOf] at h
  split at h
  next htype =>
    split_ifs at h with hnonneg
    simp only [Option.some.injEq, Move.call.injEq] at h
    refine ⟨⟨htype, hnonneg, ?_⟩, ?_⟩ <;> omega
  next => split_ifs at h <;> simp at h
  all_goals simp at h

lemma isRob_of_moveOf {rob : Bool} (h : moveOf request = some (.answer rob)) : request.IsRob := by
  simp only [moveOf] at h
  split at h
  next => split_ifs at h; simp at h
  next htype =>
    split_ifs at h with hzero hone
    · exact ⟨htype, Or.inl hzero⟩
    · exact ⟨htype, Or.inr hone⟩
  all_goals simp at h

lemma cards_of_moveOf {cards : List ℤ} (h : moveOf request = some (.play cards)) :
    request.actionType = .playCards ∧ request.cards = cards := by
  simp only [moveOf] at h
  split at h
  next => split_ifs at h; simp at h
  next => split_ifs at h <;> simp at h
  next htype => exact ⟨htype, by simpa using h⟩
  next => simp at h

lemma pass_of_moveOf (h : moveOf request = some .pass) : request.actionType = .pass := by
  simp only [moveOf] at h
  split at h
  next => split_ifs at h; simp at h
  next => split_ifs at h <;> simp at h
  next => simp at h
  next htype => exact htype

/-- A legal play is one of the rules of the room. -/
lemma IsAt.exists_play {cards : List ℤ} (h : room.IsAt p) (hs : room.state = .playing)
    (hmove : moveOf request = some (.play cards)) (hcombo : fightTheLandlord.IsCombo cards)
    (hcards : (cards : Multiset ℤ) ≤ p.hands seat)
    (hbeats : room.beatsTable (room.playerAt seat) cards = true) :
    ∃ written ended, ActionRule room (room.playerAt seat) request written ended := by
  obtain ⟨htype, rfl⟩ := cards_of_moveOf hmove
  obtain ⟨hand, hhand, hcoe⟩ := h.hands seat
  have hvalid := isCombo_iff.mp hcombo
  have hne : request.cards ≠ [] := by
    intro hnil
    rw [hnil] at hvalid
    exact absurd hvalid (by decide)
  have hsub : request.cards.Subperm hand := by
    rw [← hcoe] at hcards
    exact hcards
  by_cases hrest : hand.diff request.cards = []
  · exact ⟨_, _, .playLast hs htype hne hand hhand hvalid hbeats hsub hrest⟩
  · exact ⟨_, _, .play hs htype hne hand hhand hvalid hbeats hsub hrest⟩

/-- What the room checks of a pass of the seat on turn. -/
lemma FollowingAt.pass_facts {landlord : Seat} {stake : ℕ} {trick : Trick ℤ}
    (h : room.FollowingAt landlord stake trick) (htrio : room.HasTrio)
    (hmove : moveOf request = some .pass)
    (hturn : (Stage.following landlord stake trick).turn = some seat) :
    request.actionType = .pass ∧ room.lastPlayCards ≠ [] ∧
      room.lastPlayPlayerId ≠ room.playerAt seat := by
  refine ⟨pass_of_moveOf hmove, fun hnil => ?_, fun heq => ?_⟩
  · have hvalid := h.valid
    rw [← h.table, hnil] at hvalid
    exact absurd hvalid (by decide)
  · rw [h.leader, htrio.playerAt_inj] at heq
    exact trick.turn_ne h.short ((Option.some.inj hturn).trans heq.symm)

/-- The move that was legal is one the rules of the room know. -/
theorem IsAt.exists_rule (h : room.IsAt p) (htrio : room.HasTrio) (hwf : room.WellFormed)
    (hmove : moveOf request = some move) (hlegal : Legal fightTheLandlord p seat move p') :
    ∃ written ended, ActionRule room (room.playerAt seat) request written ended := by
  have hlen := htrio.1
  have hstage := h.stage
  cases hlegal with
  | @callOn best score called call hp hturn htop hnext =>
    rw [hp] at hstage
    have hcount := hstage.count
    obtain ⟨hcall, hscore⟩ := isCall_of_moveOf hmove (htop.le)
    have htop' : call < 3 := htop
    exact ⟨_, _, .callNext hstage.state hcall (by omega) (by omega)⟩
  | @callLast best score called call hp hturn htop hlast =>
    rw [hp] at hstage
    have hcount := hstage.count
    obtain ⟨hcall, hscore⟩ := isCall_of_moveOf hmove htop
    have hlast' : call = 3 ∨ called = 2 := hlast
    exact ⟨_, _, .callLast hstage.state hcall (by omega)⟩
  | answerOn rob hp hturn hnext =>
    rw [hp] at hstage
    have hcount := hstage.count
    exact ⟨_, _, .robNext hstage.state (isRob_of_moveOf hmove) (by omega)⟩
  | answerLast rob hp hturn =>
    rw [hp] at hstage
    have hcount := hstage.count
    have hlandlord := hwf.finalLandlord_mem htrio (htrio.playerAt_mem seat) request.rob
    obtain ⟨hand, hhand⟩ := Option.ne_none_iff_exists'.mp
      (hwf.hands (hwf.dealt (Or.inr (Or.inl hstage.state))) _ hlandlord)
    exact ⟨_, _, .robLast hstage.state (isRob_of_moveOf hmove) (by omega) hand hhand⟩
  | lead hp hcombo hcards =>
    rw [hp] at hstage
    refine h.exists_play hstage.state hmove hcombo hcards ?_
    simp [beatsTable, hstage.table]
  | follow hp hturn hcombo hbeats hcards =>
    rw [hp] at hstage
    refine h.exists_play hstage.state hmove hcombo hcards ?_
    rw [beats_iff (isCombo_iff.mp hcombo) hstage.valid, ← hstage.table] at hbeats
    simp [beatsTable, hbeats]
  | passOn hp hturn =>
    rw [hp] at hstage hturn
    have hpasses := hstage.passes
    obtain ⟨htype, htable, hlead⟩ := hstage.pass_facts htrio hmove hturn
    refine ⟨_, _, .passNext hstage.state htype htable hlead ?_⟩
    rw [hpasses, hlen]
    norm_num
  | passLast hp hturn =>
    rw [hp] at hstage hturn
    have hpasses := hstage.passes
    obtain ⟨htype, htable, hlead⟩ := hstage.pass_facts htrio hmove hturn
    refine ⟨_, _, .passLast hstage.state htype htable hlead ?_⟩
    rw [hpasses, hlen]
    norm_num

/-- In the state of its phase an action gets to the branch of the phase. -/
lemma applyPlayerAction_of_canAct (rng : Shuffler) (h : room.CanAct playerId)
    (request : PlayerActionRequest) :
    ((room.startGame rng).state = .callScore → room.applyPlayerAction rng playerId request =
      (room.startGame rng).actCallScore playerId request) ∧
    ((room.startGame rng).state = .robLandlord → room.applyPlayerAction rng playerId request =
      (room.startGame rng).actRobLandlord playerId request) ∧
    ((room.startGame rng).state = .playing → room.applyPlayerAction rng playerId request =
      (room.startGame rng).actPlaying playerId request) := by
  obtain ⟨hmem, hturn, hs, hf⟩ := h
  refine ⟨fun hstate => ?_, fun hstate => ?_, fun hstate => ?_⟩
  · simp [applyPlayerAction, hmem, hturn, hs, hf, hstate]
  · simp [applyPlayerAction, hmem, hturn, hs, hf, hstate]
  · simp [applyPlayerAction, hmem, hturn, hs, hf, hstate]

/-- An action of the rules is accepted, unless it is a pass that carries cards. -/
theorem ok_iff_rule (rng : Shuffler) (h : room.CanAct playerId) (request : PlayerActionRequest) :
    (∃ result, (room.applyPlayerAction rng playerId request).2 = .ok result) ↔
      request.PassesBare ∧
        ∃ written ended, ActionRule (room.startGame rng) playerId request written ended := by
  obtain ⟨hcalls, hrobs, hplays⟩ := applyPlayerAction_of_canAct rng h request
  constructor
  · rintro ⟨result, hok⟩
    obtain ⟨-, written, ended, hrule, -⟩ := accepted_of_apply (Prod.ext rfl hok)
    refine ⟨fun htype => ?_, written, ended, hrule⟩
    have hpass : (room.startGame rng).state = .playing →
        request.cards = [] := by
      intro hstate
      rw [hplays hstate, actPlaying, if_pos htype, actPass] at hok
      by_contra hne
      rw [if_pos hne] at hok
      cases hok
    cases hrule with
    | passNext hstate => exact hpass hstate
    | passLast hstate => exact hpass hstate
    | callNext _ hcall => exact absurd (htype.symm.trans hcall.1) (by decide)
    | callLast _ hcall => exact absurd (htype.symm.trans hcall.1) (by decide)
    | robNext _ hrob => exact absurd (htype.symm.trans hrob.1) (by decide)
    | robLast _ hrob => exact absurd (htype.symm.trans hrob.1) (by decide)
    | play _ htype' => exact absurd (htype.symm.trans htype') (by decide)
    | playLast _ htype' => exact absurd (htype.symm.trans htype') (by decide)
  · rintro ⟨hbare, written, ended, hrule⟩
    have hcall : (room.startGame rng).state = .callScore → request.IsCall →
        ∃ result, (room.applyPlayerAction rng playerId request).2 = .ok result := by
      rintro hs ⟨htype, hlow, hhigh⟩
      rw [hcalls hs, actCallScore, if_neg (not_not.mpr htype), if_neg (by omega)]
      dsimp only
      split_ifs
      · exact ⟨_, rfl⟩
      · exact ⟨_, rfl⟩
    have hpass : (room.startGame rng).state = .playing → request.actionType = .pass →
        (room.startGame rng).lastPlayCards ≠ [] →
        (room.startGame rng).lastPlayPlayerId ≠ playerId →
        ∃ result, (room.applyPlayerAction rng playerId request).2 = .ok result := by
      intro hs htype htable hlead
      rw [hplays hs, actPlaying, if_pos htype, actPass, if_neg (not_not.mpr (hbare htype)),
        if_neg htable, if_neg hlead]
      dsimp only
      split_ifs
      · exact ⟨_, rfl⟩
      · exact ⟨_, rfl⟩
    have hplay : ∀ hand, (room.startGame rng).state = .playing →
        request.actionType = .playCards → request.cards ≠ [] →
        (room.startGame rng).hands.lookup playerId = some hand →
        (analyze request.cards).valid = true →
        (room.startGame rng).beatsTable playerId request.cards = true →
        request.cards.Subperm hand →
        ∃ result, (room.applyPlayerAction rng playerId request).2 = .ok result := by
      intro hand hs htype hne hhand hvalid hbeats hsub
      have hnot : request.actionType ≠ .pass := by simp [htype]
      rw [hplays hs, actPlaying, if_neg hnot, if_neg (not_not.mpr htype), if_neg hne]
      simp only [hhand]
      rw [actPlayCards, if_neg (not_not.mpr hvalid), if_neg (not_not.mpr hbeats), removeCards_eq,
        if_pos hsub]
      dsimp only
      rw [if_neg (not_not.mpr rfl)]
      split_ifs
      · exact ⟨_, rfl⟩
      · exact ⟨_, rfl⟩
    cases hrule with
    | callNext hs hrequest => exact hcall hs hrequest
    | callLast hs hrequest => exact hcall hs hrequest
    | robNext hs hrob hnext =>
      have hflag := hrob.2
      have hnext' : ¬ (((room.startGame rng).recordRob playerId request.rob).players.length : ℤ) ≤
          ((room.startGame rng).recordRob playerId request.rob).stateActionCount :=
        not_le.mpr hnext
      rw [hrobs hs, actRobLandlord, if_neg (not_not.mpr hrob.1), if_neg (by omega)]
      dsimp only
      rw [if_neg hnext']
      exact ⟨_, rfl⟩
    | robLast hs hrob hlast hand hhand =>
      have hflag := hrob.2
      have hlast' : (((room.startGame rng).recordRob playerId request.rob).players.length : ℤ) ≤
          ((room.startGame rng).recordRob playerId request.rob).stateActionCount := hlast
      have hhand' : ((room.startGame rng).recordRob playerId request.rob).hands.lookup
          ((room.startGame rng).recordRob playerId request.rob).finalLandlord = some hand := hhand
      rw [hrobs hs, actRobLandlord, if_neg (not_not.mpr hrob.1), if_neg (by omega)]
      dsimp only
      rw [if_pos hlast']
      simp only [hhand']
      exact ⟨_, rfl⟩
    | passNext hs htype htable hlead => exact hpass hs htype htable hlead
    | passLast hs htype htable hlead => exact hpass hs htype htable hlead
    | play hs htype hne hand hhand hvalid hbeats hsub =>
      exact hplay hand hs htype hne hhand hvalid hbeats hsub
    | playLast hs htype hne hand hhand hvalid hbeats hsub =>
      exact hplay hand hs htype hne hhand hvalid hbeats hsub

end Room

end DdzServer
