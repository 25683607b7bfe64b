import DdzServer.Room.WellFormed

/-!
# Tricks

The log of a room, read as tricks: a play opens a trick or beats the play before it, and two passes
close the trick. In `Playing` the last play, the pass counter and the operator of a room are what
its log says.
-/

namespace DdzServer

open Room

namespace RoomManager

/-- The action puts cards on the table. -/
def AcceptedAction.isPlay (a : AcceptedAction) : Bool := a.request.actionType = .playCards

def AcceptedAction.isPass (a : AcceptedAction) : Bool := a.request.actionType = .pass

/-- The last play of a log. -/
def lastPlay (log : List AcceptedAction) : Option AcceptedAction :=
  log.reverse.find? AcceptedAction.isPlay

/-- How many passes a log ends with. -/
def passCount (log : List AcceptedAction) : ℕ :=
  (log.reverse.takeWhile AcceptedAction.isPass).length

/-- The play that the next one has to beat: the last one, unless two passes closed its trick. -/
def toBeat (log : List AcceptedAction) : Option AcceptedAction :=
  if passCount log < 2 then lastPlay log else none

/-- Every play of a log beats the play of its trick before it. -/
def Beats (log : List AcceptedAction) : Prop :=
  ∀ before play after, log = before ++ play :: after → play.isPlay = true →
    ∀ prev, toBeat before = some prev →
      canBeat (analyze play.request.cards) (analyze prev.request.cards) = true

variable {log : List AcceptedAction} {a : AcceptedAction}

lemma lastPlay_concat (log : List AcceptedAction) (a : AcceptedAction) :
    lastPlay (log ++ [a]) = if a.isPlay then some a else lastPlay log := by
  simp only [lastPlay, List.reverse_append, List.reverse_cons, List.reverse_nil, List.nil_append,
    List.singleton_append, List.find?_cons]
  cases a.isPlay <;> rfl

lemma passCount_concat (log : List AcceptedAction) (a : AcceptedAction) :
    passCount (log ++ [a]) = if a.isPass then passCount log + 1 else 0 := by
  simp only [passCount, List.reverse_append, List.reverse_cons, List.reverse_nil, List.nil_append,
    List.singleton_append, List.takeWhile_cons]
  cases a.isPass <;> rfl

lemma beats_nil : Beats [] := by
  intro before play after h
  simp at h

/-- A log grows by one action. -/
lemma Beats.concat (h : Beats log)
    (ha : a.isPlay = true → ∀ prev, toBeat log = some prev →
      canBeat (analyze a.request.cards) (analyze prev.request.cards) = true) :
    Beats (log ++ [a]) := by
  intro before play after heq hplay prev hprev
  rcases List.eq_nil_or_concat after with rfl | ⟨after, b, rfl⟩
  · obtain ⟨hlog, hlast⟩ := List.append_inj' heq rfl
    obtain rfl := List.singleton_injective hlast
    exact ha hplay prev (hlog ▸ hprev)
  · have hsplit : log ++ [a] = (before ++ play :: after) ++ [b] := by simpa using heq
    obtain ⟨hlog, -⟩ := List.append_inj' hsplit rfl
    exact h before play after hlog hplay prev hprev

end RoomManager

open RoomManager

/-! ### Seats -/

namespace Room

variable {rng : Shuffler} {room room' : Room} {playerId : ℤ} {request : PlayerActionRequest}
  {log : List AcceptedAction} {a : AcceptedAction}

/-- The `k`-th successor of a player in seat order. -/
def seatAfter (room : Room) (playerId : ℤ) (k : ℕ) : ℤ :=
  room.players.getD ((room.players.idxOf playerId + k) % 3) 0

lemma HasTrio.seatAfter_mem (h : room.HasTrio) (playerId : ℤ) (k : ℕ) :
    room.seatAfter playerId k ∈ room.players := by
  have hlt : (room.players.idxOf playerId + k) % 3 < room.players.length := by
    rw [h.1]
    exact Nat.mod_lt _ (by decide)
  rw [seatAfter, List.getD_eq_getElem _ _ hlt]
  exact List.getElem_mem hlt

lemma HasTrio.idxOf_seatAfter (h : room.HasTrio) (playerId : ℤ) (k : ℕ) :
    room.players.idxOf (room.seatAfter playerId k) = (room.players.idxOf playerId + k) % 3 := by
  have hlt : (room.players.idxOf playerId + k) % 3 < room.players.length := by
    rw [h.1]
    exact Nat.mod_lt _ (by decide)
  rw [seatAfter, List.getD_eq_getElem _ _ hlt]
  exact h.2.idxOf_getElem _ hlt

/-- Only after three seats it is the player's turn again. -/
lemma HasTrio.seatAfter_ne (h : room.HasTrio) (hp : playerId ∈ room.players) {k : ℕ}
    (hk : k % 3 ≠ 0) : room.seatAfter playerId k ≠ playerId := by
  intro heq
  have hidx := h.idxOf_seatAfter playerId k
  have hlt := List.idxOf_lt_length_of_mem hp
  rw [heq] at hidx
  rw [h.1] at hlt
  omega

/-- `NextOperator` goes to the next seat. -/
lemma HasTrio.nextOperator_eq (h : room.HasTrio) (hp : playerId ∈ room.players) :
    room.nextOperator playerId = room.seatAfter playerId 1 := by
  obtain ⟨a, b, c, habc⟩ := List.length_eq_three.mp h.1
  have hnd := h.2
  rw [habc] at hp hnd
  obtain ⟨hab, hac, hbc⟩ : a ≠ b ∧ a ≠ c ∧ b ≠ c := by simpa [and_assoc] using hnd
  simp only [nextOperator, seatAfter, habc]
  rcases List.mem_cons.mp hp with rfl | hp
  · simp
  · rcases List.mem_cons.mp hp with rfl | hp
    · simp [hab, List.idxOf_cons_ne]
    · obtain rfl := List.mem_singleton.mp hp
      simp [hac, hbc, List.idxOf_cons_ne]

lemma HasTrio.nextOperator_seatAfter (h : room.HasTrio) (playerId : ℤ) (k : ℕ) :
    room.nextOperator (room.seatAfter playerId k) = room.seatAfter playerId (k + 1) := by
  rw [h.nextOperator_eq (h.seatAfter_mem playerId k), seatAfter, h.idxOf_seatAfter playerId k,
    seatAfter]
  congr 1
  omega

/-! ### The table -/

/-- What lies on the table after a log, and whose turn it is. -/
inductive TableRule (room : Room) (log : List AcceptedAction) : Prop
  | opening (hlog : lastPlay log = none) (hcards : room.lastPlayCards = [])
      (hplayer : room.lastPlayPlayerId = 0) (hpass : room.consecutivePassCount = 0)
      (hturn : room.currentOperatorPlayerId = room.landlordPlayerId)
  | lead (prev : AcceptedAction) (hlog : lastPlay log = some prev) (hclosed : 2 ≤ passCount log)
      (hcards : room.lastPlayCards = []) (hplayer : room.lastPlayPlayerId = 0)
      (hpass : room.consecutivePassCount = 0)
      (hturn : room.currentOperatorPlayerId = prev.playerId)
  | follow (prev : AcceptedAction) (hlog : lastPlay log = some prev) (hopen : passCount log ≤ 1)
      (hcards : room.lastPlayCards = prev.request.cards) (hne : prev.request.cards ≠ [])
      (hplayer : room.lastPlayPlayerId = prev.playerId) (hmem : prev.playerId ∈ room.players)
      (hpass : room.consecutivePassCount = passCount log)
      (hturn : room.currentOperatorPlayerId =
        room.seatAfter prev.playerId (passCount log + 1))

/-- The tricks of a log, and the room they lead to. -/
structure InTrick (room : Room) (log : List AcceptedAction) : Prop where
  unplayed : room.state = .waitStart ∨ room.state = .callScore ∨ room.state = .robLandlord →
    lastPlay log = none
  table : room.state = .playing → room.TableRule log
  beats : Beats log

lemma inTrick_newRoom (roomId mode : ℤ) (players : List ℤ) :
    (newRoom roomId mode players).InTrick [] where
  unplayed _ := rfl
  table h := by cases h
  beats := beats_nil

/-- With cards on the table the operator is another player. -/
lemma TableRule.follow_of_ne (h : room.TableRule log) (htrio : room.HasTrio)
    (hne : room.lastPlayCards ≠ []) :
    ∃ prev, lastPlay log = some prev ∧ passCount log ≤ 1 ∧
      room.lastPlayCards = prev.request.cards ∧ room.lastPlayPlayerId = prev.playerId ∧
      prev.playerId ∈ room.players ∧ room.consecutivePassCount = passCount log ∧
      room.currentOperatorPlayerId = room.seatAfter prev.playerId (passCount log + 1) ∧
      room.currentOperatorPlayerId ≠ prev.playerId := by
  cases h with
  | opening hlog hcards => exact absurd hcards hne
  | lead prev hlog hclosed hcards => exact absurd hcards hne
  | follow prev hlog hopen hcards hne' hplayer hmem hpass hturn =>
    refine ⟨prev, hlog, hopen, hcards, hplayer, hmem, hpass, hturn, ?_⟩
    rw [hturn]
    exact htrio.seatAfter_ne hmem (by omega)

/-- What has to be beaten lies on the table. -/
lemma TableRule.of_toBeat {prev : AcceptedAction} (h : room.TableRule log)
    (hprev : toBeat log = some prev) :
    room.lastPlayCards = prev.request.cards ∧ prev.request.cards ≠ [] ∧
      room.lastPlayPlayerId = prev.playerId := by
  rw [toBeat] at hprev
  split_ifs at hprev with hlt
  cases h with
  | opening hlog => simp [hlog] at hprev
  | lead _ hlog hclosed => omega
  | follow prev' hlog hopen hcards hne hplayer =>
    obtain rfl : prev' = prev := Option.some.inj (hlog.symm.trans hprev)
    exact ⟨hcards, hne, hplayer⟩

/-- An action that plays no cards before the play is opened. -/
lemma InTrick.unplayed_concat (h : room.InTrick log)
    (hstate : room.state = .callScore ∨ room.state = .robLandlord) (ha : a.isPlay = false) :
    lastPlay (log ++ [a]) = none := by
  rw [lastPlay_concat, ha, h.unplayed (Or.inr hstate)]
  rfl

/-- An accepted play beats what has to be beaten. -/
lemma InTrick.canBeat_of_play {prev : AcceptedAction} {cards : List ℤ} (h : room.InTrick log)
    (htrio : room.HasTrio) (hstate : room.state = .playing)
    (hbeats : room.beatsTable room.currentOperatorPlayerId cards = true)
    (hprev : toBeat log = some prev) :
    canBeat (analyze cards) (analyze prev.request.cards) = true := by
  obtain ⟨hcards, hne, hplayer⟩ := (h.table hstate).of_toBeat hprev
  obtain ⟨prev', -, -, -, hplayer', -, -, -, hother⟩ :=
    (h.table hstate).follow_of_ne htrio (hcards ▸ hne)
  have hleader : room.lastPlayPlayerId ≠ room.currentOperatorPlayerId := by
    rw [hplayer']
    exact hother.symm
  simpa [beatsTable, hcards, hne, hleader] using hbeats

/-- An accepted action of the operator keeps the table as the log says. -/
lemma InTrick.rule {written : Room} {ended : Bool} (h : room.InTrick log) (htrio : room.HasTrio)
    (hp : room.currentOperatorPlayerId ∈ room.players)
    (hplayer : a.playerId = room.currentOperatorPlayerId) (hrequest : a.request = request)
    (hrule : ActionRule room room.currentOperatorPlayerId request written ended) :
    written.InTrick (log ++ [a]) := by
  have hplay : a.isPlay = decide (request.actionType = .playCards) := by
    rw [AcceptedAction.isPlay, hrequest]
  have hpass : a.isPass = decide (request.actionType = .pass) := by
    rw [AcceptedAction.isPass, hrequest]
  -- only a play has to beat anything
  have hstill : request.actionType ≠ .playCards → Beats (log ++ [a]) := fun hne =>
    h.beats.concat fun ha => absurd (of_decide_eq_true (hplay ▸ ha)) hne
  have hput : room.state = .playing →
      room.beatsTable room.currentOperatorPlayerId request.cards = true → Beats (log ++ [a]) := by
    intro hstate hbeats
    refine h.beats.concat fun _ prev hprev => ?_
    rw [hrequest]
    exact h.canBeat_of_play htrio hstate hbeats hprev
  cases hrule with
  | callNext hstate hcall =>
    refine ⟨fun _ => h.unplayed_concat (Or.inl hstate) (by simp [hplay, hcall.1]),
      fun hs => ?_, hstill (by simp [hcall.1])⟩
    simp [recordCall, hstate] at hs
  | callLast hstate hcall =>
    refine ⟨fun _ => h.unplayed_concat (Or.inl hstate) (by simp [hplay, hcall.1]),
      fun hs => ?_, hstill (by simp [hcall.1])⟩
    cases hs
  | robNext hstate hrob =>
    refine ⟨fun _ => h.unplayed_concat (Or.inr hstate) (by simp [hplay, hrob.1]),
      fun hs => ?_, hstill (by simp [hrob.1])⟩
    simp [recordRob, hstate] at hs
  | robLast hstate hrob =>
    refine ⟨fun hs => by simp [startPlaying] at hs, fun _ => ?_, hstill (by simp [hrob.1])⟩
    exact .opening (h.unplayed_concat (Or.inr hstate) (by simp [hplay, hrob.1])) rfl rfl rfl rfl
  | passNext hstate htype htable hlead hnext =>
    refine ⟨fun hs => by simp [hstate] at hs, fun _ => ?_, hstill (by simp [htype])⟩
    obtain ⟨prev, hlog, hopen, hcards, hprev, hmem, hcount, hturn, -⟩ :=
      (h.table hstate).follow_of_ne htrio htable
    have hzero : passCount log = 0 := by
      rw [htrio.1] at hnext
      omega
    have hone : passCount (log ++ [a]) = 1 := by
      rw [passCount_concat, hpass, hzero]
      simp [htype]
    refine .follow prev (by rw [lastPlay_concat, hplay, hlog]; simp [htype]) (by omega) hcards
      (hcards ▸ htable) hprev hmem ?_ ?_
    · change room.consecutivePassCount + 1 = _
      omega
    · change room.nextOperator room.currentOperatorPlayerId = _
      rw [hturn, hone, hzero]
      exact htrio.nextOperator_seatAfter prev.playerId 1
  | passLast hstate htype htable hlead hlast =>
    refine ⟨fun hs => by simp [clearTable, hstate] at hs, fun _ => ?_, hstill (by simp [htype])⟩
    obtain ⟨prev, hlog, hopen, hcards, hprev, hmem, hcount, hturn, -⟩ :=
      (h.table hstate).follow_of_ne htrio htable
    have htwo : passCount (log ++ [a]) = passCount log + 1 := by
      rw [passCount_concat, hpass]
      simp [htype]
    rw [htrio.1] at hlast
    exact .lead prev (by rw [lastPlay_concat, hplay, hlog]; simp [htype]) (by omega) rfl rfl rfl
      hprev
  | play hstate htype hne hand hhand hvalid hbeats =>
    refine ⟨fun hs => by simp [putCards, hstate] at hs, fun _ => ?_, hput hstate hbeats⟩
    have hzero : passCount (log ++ [a]) = 0 := by
      rw [passCount_concat, hpass]
      simp [htype]
    refine .follow a (by rw [lastPlay_concat, hplay]; simp [htype]) (by omega)
      (by rw [hrequest]; rfl) (by rwa [hrequest]) hplayer.symm (hplayer ▸ hp)
      (by rw [hzero]; rfl) ?_
    change room.nextOperator room.currentOperatorPlayerId = _
    rw [hzero, hplayer]
    exact htrio.nextOperator_eq hp
  | playLast hstate htype hne hand hhand hvalid hbeats =>
    refine ⟨fun hs => ?_, fun hs => ?_, hput hstate hbeats⟩
    · rcases hs with hs | hs | hs <;> cases hs
    · cases hs

/-- Only the table and the phase matter. -/
lemma InTrick.congr (h : room.InTrick log) (hplayers : room'.players = room.players)
    (hcards : room'.lastPlayCards = room.lastPlayCards)
    (hplayer : room'.lastPlayPlayerId = room.lastPlayPlayerId)
    (hpass : room'.consecutivePassCount = room.consecutivePassCount)
    (hturn : room'.currentOperatorPlayerId = room.currentOperatorPlayerId)
    (hlandlord : room'.landlordPlayerId = room.landlordPlayerId ∨ room.state = .robLandlord)
    (hstate : room'.state = room.state ∨ room'.state = .settling ∨ room'.state = .finished) :
    room'.InTrick log where
  unplayed hs := by
    rcases hstate with heq | heq | heq
    · exact h.unplayed (heq ▸ hs)
    · simp [heq] at hs
    · simp [heq] at hs
  table hs := by
    rcases hstate with heq | heq | heq
    · have hplaying : room.state = .playing := heq ▸ hs
      have hsame := hlandlord.resolve_right (by simp [hplaying])
      have hseat : room'.seatAfter = room.seatAfter := by
        funext p k
        rw [seatAfter, seatAfter, hplayers]
      cases h.table hplaying with
      | opening h₁ h₂ h₃ h₄ h₅ =>
        exact .opening h₁ (hcards.trans h₂) (hplayer.trans h₃) (hpass.trans h₄)
          (by rw [hturn, hsame, h₅])
      | lead prev h₁ h₂ h₃ h₄ h₅ h₆ =>
        exact .lead prev h₁ h₂ (hcards.trans h₃) (hplayer.trans h₄) (hpass.trans h₅)
          (hturn.trans h₆)
      | follow prev h₁ h₂ h₃ h₄ h₅ h₆ h₇ h₈ =>
        exact .follow prev h₁ h₂ (hcards.trans h₃) h₄ (hplayer.trans h₅) (hplayers ▸ h₆)
          (hpass.trans h₇) (by rw [hturn, hseat, h₈])
    · simp [heq] at hs
    · simp [heq] at hs
  beats := h.beats

/-- Dealing the cards touches no table. -/
lemma InTrick.startGame (rng : Shuffler) (h : room.InTrick log) :
    (room.startGame rng).InTrick log := by
  by_cases hw : room.state = .waitStart
  · obtain ⟨_, _, _, heq⟩ := startGame_of_eq rng hw
    rw [heq]
    exact ⟨fun _ => h.unplayed (Or.inl hw), fun hs => (by cases hs), h.beats⟩
  · rwa [startGame_of_ne hw]

lemma startGame_currentOperator (rng : Shuffler) (room : Room) :
    (room.startGame rng).currentOperatorPlayerId = room.currentOperatorPlayerId := by
  unfold Room.startGame dealCards
  split_ifs <;> rfl

end Room

/-- Every step of a room keeps the table as the log says. -/
theorem RoomStep.inTrick {rng : Shuffler} {room room' : Room} {log : List AcceptedAction}
    {accepted : Option (PlayerActionRequest × PlayerActionResult)} (roomId : ℤ)
    (h : RoomStep rng room accepted room') (htrio : room.HasTrio) (hI : room.InTrick log) :
    room'.InTrick (log ++ logged roomId room accepted) := by
  cases h with
  | unchanged => simpa using hI
  | @accepted playerId request _ result hact hrule =>
    obtain ⟨written, ended, hrule, rfl, -⟩ := hrule
    have hstarted := hI.startGame rng
    have hturn := startGame_currentOperator rng room
    obtain rfl := hact.turn
    rw [← hturn] at hrule
    have hp := hact.mem
    rw [← startGame_players rng, ← hturn] at hp
    have hruled := hstarted.rule ((hasTrio_startGame rng).mpr htrio) hp
      (a := ⟨roomId, room.currentOperatorPlayerId, request, result⟩) hturn.symm rfl hrule
    exact hruled.congr rfl rfl rfl rfl rfl (Or.inl rfl) (Or.inl rfl)
  | rejected hact hrule =>
    have hstarted := hI.startGame rng
    rw [logged_none, List.append_nil]
    cases hrule with
    | unchanged => exact hstarted
    | noLandlordHand hstate =>
      exact hstarted.congr rfl rfl rfl rfl rfl (Or.inr hstate) (Or.inl rfl)
  | presence =>
    rw [logged_none, List.append_nil]
    exact hI.congr rfl rfl rfl rfl rfl (Or.inl rfl) (Or.inl rfl)
  | settling =>
    rw [logged_none, List.append_nil]
    exact hI.congr rfl rfl rfl rfl rfl (Or.inl rfl) (Or.inr (Or.inl rfl))
  | finished =>
    rw [logged_none, List.append_nil]
    exact hI.congr rfl rfl rfl rfl rfl (Or.inl rfl) (Or.inr (Or.inr rfl))

/-! ### The discipline of every run -/

namespace Room

variable {rng : Shuffler} {room : Room} {playerId : ℤ} {request : PlayerActionRequest}
  {log : List AcceptedAction}

/-- What the fields of a room in `Playing` say of each other, and of the log. -/
structure TrickDiscipline (room : Room) (log : List AcceptedAction) : Prop where
  emptyTable : room.lastPlayCards = [] ↔ room.lastPlayPlayerId = 0
  lead : room.lastPlayCards = [] → room.consecutivePassCount = 0 ∧
    room.currentOperatorPlayerId =
      ((lastPlay log).map (·.playerId)).getD room.landlordPlayerId
  follow : room.lastPlayCards ≠ [] → ∃ k : ℕ, k ≤ 1 ∧ room.consecutivePassCount = k ∧
    room.currentOperatorPlayerId = room.seatAfter room.lastPlayPlayerId (k + 1) ∧
    room.currentOperatorPlayerId ≠ room.lastPlayPlayerId
  onTable : ∀ prev, toBeat log = some prev →
    room.lastPlayCards = prev.request.cards ∧ room.lastPlayPlayerId = prev.playerId
  closed : 2 ≤ passCount log → ∀ prev, lastPlay log = some prev →
    room.lastPlayCards = [] ∧ room.currentOperatorPlayerId = prev.playerId

lemma TableRule.discipline (h : room.TableRule log) (htrio : room.HasTrio)
    (hpos : ∀ p ∈ room.players, 0 < p) : room.TrickDiscipline log where
  emptyTable := by
    cases h with
    | opening hlog hcards hplayer => simp [hcards, hplayer]
    | lead prev hlog hclosed hcards hplayer => simp [hcards, hplayer]
    | follow prev hlog hopen hcards hne hplayer hmem =>
      have := hpos prev.playerId hmem
      simp only [hcards, hplayer, hne, false_iff]
      omega
  lead hempty := by
    cases h with
    | opening hlog hcards hplayer hpass hturn => exact ⟨hpass, by rw [hturn, hlog]; rfl⟩
    | lead prev hlog hclosed hcards hplayer hpass hturn =>
      exact ⟨hpass, by rw [hturn, hlog]; rfl⟩
    | follow prev hlog hopen hcards hne => exact absurd (hcards ▸ hempty) hne
  follow hne := by
    obtain ⟨prev, -, hopen, -, hplayer, -, hpass, hturn, hother⟩ := h.follow_of_ne htrio hne
    rw [hplayer]
    exact ⟨passCount log, hopen, hpass, hturn, hother⟩
  onTable prev hprev := by
    obtain ⟨hcards, -, hplayer⟩ := h.of_toBeat hprev
    exact ⟨hcards, hplayer⟩
  closed hclosed prev hprev := by
    cases h with
    | opening hlog => simp [hlog] at hprev
    | lead prev' hlog _ hcards _ _ hturn =>
      obtain rfl : prev' = prev := Option.some.inj (hlog.symm.trans hprev)
      exact ⟨hcards, hturn⟩
    | follow prev' hlog hopen => omega

/-- Where the branch for a leader who passes would be taken. -/
lemma leads_of_reply (h : (room.applyPlayerAction rng playerId request).2 =
    .error "leading player cannot pass") :
    room.state = .playing ∧ room.lastPlayCards ≠ [] ∧
      room.lastPlayPlayerId = room.currentOperatorPlayerId := by
  unfold applyPlayerAction at h
  by_cases hmem : playerId ∉ room.players
  · simp [hmem, reject] at h
  by_cases hturn : room.currentOperatorPlayerId ≠ playerId
  · simp [hmem, hturn, reject] at h
  by_cases hstate : room.state = .settling ∨ room.state = .finished
  · simp [hmem, hturn, hstate, reject] at h
  rw [if_neg hmem, if_neg hturn, if_neg hstate] at h
  dsimp only at h
  split at h
  next =>
    simp only [actCallScore] at h
    split_ifs at h <;> simp [reject, accept] at h
  next =>
    simp only [actRobLandlord] at h
    split_ifs at h
    · simp [reject] at h
    · simp [reject] at h
    · split at h <;> simp [reject, accept] at h
    · simp [accept] at h
  next hplaying =>
    have hstarted : room.startGame rng = room := by
      refine startGame_of_ne fun hw => ?_
      rw [startGame_state rng hw] at hplaying
      cases hplaying
    rw [hstarted] at h hplaying
    simp only [actPlaying] at h
    split_ifs at h with hpass htype hne
    · simp only [actPass] at h
      split_ifs at h with hcards htable hlead
      · simp [reject] at h
      · simp [reject] at h
      · exact ⟨hplaying, htable, hlead.trans (not_not.mp hturn).symm⟩
      · simp [accept] at h
      · simp [accept] at h
    · simp [reject] at h
    · simp [reject] at h
    · split at h
      next => simp [reject] at h
      next =>
        simp only [actPlayCards] at h
        split_ifs at h <;> simp [reject, accept, acceptGameOver] at h
  next => simp [reject] at h

/-- In a trick the leader is never on turn. -/
lemma InTrick.reply_ne (h : room.InTrick log) (htrio : room.HasTrio) :
    (room.applyPlayerAction rng playerId request).2 ≠ .error "leading player cannot pass" := by
  intro hreply
  obtain ⟨hstate, hne, hlead⟩ := leads_of_reply hreply
  obtain ⟨prev, -, -, -, hplayer, -, -, -, hother⟩ := (h.table hstate).follow_of_ne htrio hne
  exact hother (hlead.symm.trans hplayer)

end Room

namespace RoomManager

variable {rng : Shuffler} {m : RoomManager}

/-- The errors a trustee action adds to those of the action it makes. -/
lemma trusteeRequest_error {room : Room} {playerId : ℤ} {err : String}
    (h : room.trusteeRequest playerId = .error err) :
    err = "not trustee player turn" ∨ err = "trustee hand empty" ∨
      err = "room state not support trustee action" := by
  unfold trusteeRequest at h
  by_cases hturn : room.currentOperatorPlayerId ≠ playerId
  · rw [if_pos hturn] at h
    exact Or.inl (Except.error.inj h).symm
  · rw [if_neg hturn] at h
    split at h
    · cases h
    · cases h
    · by_cases hlead : room.lastPlayCards = [] ∨ room.lastPlayPlayerId = playerId
      · rw [if_pos hlead] at h
        split at h
        · exact Or.inr (Or.inl (Except.error.inj h).symm)
        · cases h
      · rw [if_neg hlead] at h
        split at h <;> cases h
    · exact Or.inr (Or.inr (Except.error.inj h).symm)

lemma applyTrusteeAction_reply_ne {roomId playerId : ℤ} {room : Room}
    (h : m.rooms.find roomId = some room)
    (hroom : ∀ request, (room.applyPlayerAction rng playerId request).2 ≠
      .error "leading player cannot pass") :
    (m.applyTrusteeAction rng roomId playerId).2 ≠ .error "leading player cannot pass" := by
  simp only [applyTrusteeAction, h]
  split
  next err herr =>
    rcases trusteeRequest_error herr with rfl | rfl | rfl <;> simp
  next request _ =>
    rw [applyPlayerAction_reply h]
    exact hroom request

/-- The tricks of a room created for three distinct players with positive ids: in `Playing` the
table, the pass counter and the operator follow the log, no leader is ever asked to pass, and every
play beats the play of its trick before it. -/
theorem trick_discipline {m₀ : RoomManager} {mode : ℤ} {players : List ℤ} {ops : List RoomOp}
    (hlen : players.length = 3) (hnd : players.Nodup) (hpos : ∀ p ∈ players, 0 < p)
    (hrun : Run.exec (step rng) (m₀.createRoom mode players).1 ops = some m) :
    let roomId := (m₀.createRoom mode players).2
    let log := actionsOn roomId
      (Run.history (step rng) (recordAccepted rng) (m₀.createRoom mode players).1 ops [])
    (∀ room, m.rooms.find roomId = some room → room.state = .playing →
      room.TrickDiscipline log) ∧
    (∀ playerId request,
      (m.applyPlayerAction rng roomId playerId request).2 ≠ .error "leading player cannot pass" ∧
      (m.applyTrusteeAction rng roomId playerId).2 ≠ .error "leading player cannot pass") ∧
    Beats log := by
  intro roomId log
  obtain ⟨room, ⟨htrio, hplayers, hI⟩, hlive⟩ := created_history
    (I := fun room log => room.HasTrio ∧ (∀ p ∈ room.players, 0 < p) ∧ room.InTrick log)
    ⟨⟨hlen, hnd⟩, hpos, inTrick_newRoom _ _ _⟩
    (fun room accepted room' log hI h =>
      ⟨h.hasTrio.mpr hI.1, h.players.symm ▸ hI.2.1, h.inTrick _ hI.1 hI.2.2⟩) hrun
  refine ⟨fun room' hfind hstate => ?_, fun playerId request => ?_, hI.beats⟩
  · obtain rfl := hlive room' hfind
    exact (hI.table hstate).discipline htrio hplayers
  · cases hfind : m.rooms.find roomId with
    | none => simp [applyPlayerAction, applyTrusteeAction, hfind]
    | some room' =>
      obtain rfl := hlive room' hfind
      rw [applyPlayerAction_reply hfind]
      exact ⟨hI.reply_ne htrio, applyTrusteeAction_reply_ne hfind fun _ => hI.reply_ne htrio⟩

/-- The landlord leads a single card, and the next player passes. -/
theorem trick_discipline_after_pass :
    let m := (createRoom {} 3 [1, 2, 3]).1
    let ops : List RoomOp := [
      .applyPlayerAction 1 1 { callScore := 3 },
      .applyTrusteeAction 1 1, .applyTrusteeAction 1 2, .applyTrusteeAction 1 3,
      .applyPlayerAction 1 1 { actionType := .playCards, cards := [0] },
      .applyPlayerAction 1 2 { actionType := .pass }]
    ∃ m' room, Run.exec (step .sorted) m ops = some m' ∧ m'.rooms.find 1 = some room ∧
      room.lastPlayPlayerId = 1 ∧ room.TrickDiscipline (actionsOn 1
        (Run.history (step .sorted) (recordAccepted .sorted) m ops [])) := by
  intro m ops
  have hlive : ((Run.exec (step .sorted) m ops).bind fun m' => m'.rooms.find 1).any
      (fun room => room.state = .playing ∧ room.lastPlayPlayerId = 1) = true := by
    decide +kernel
  obtain ⟨room, hroom, hstate⟩ := (Option.any_eq_true _ _).mp hlive
  obtain ⟨m', hrun, hfind⟩ := Option.bind_eq_some_iff.mp hroom
  obtain ⟨hplaying, hlast⟩ := of_decide_eq_true hstate
  exact ⟨m', room, hrun, hfind, hlast,
    (trick_discipline rfl (by decide) (by decide) hrun).1 room hfind hplaying⟩

end RoomManager

end DdzServer
