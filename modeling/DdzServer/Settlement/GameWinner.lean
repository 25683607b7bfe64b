import DdzServer.Room.GameOver
import DdzServer.Server.ServerThreads

/-!
# The winner of the game is paid

A room in which the game is over takes no more actions, so a settlement that comes from the game has
the right winner. `TimerLoop` picks another winner, and its settlement gets through when the
settlement of the game has failed or is late.
-/

namespace DdzServer

open Interleaving

/-! ### What a settlement knows of the game -/

namespace SettlementPoint

/-- The settlement has marked the room, and has not failed. -/
def Marked : SettlementPoint → Prop
  | .tryBeginSettlement => False
  | .getRoomById => False
  | .markSettling _ => False
  | .endSettlement result => result.code = .ok
  | _ => True

end SettlementPoint

namespace GameServer

variable {s s' : GameServer} {d : ServerSettlementDecision} {nowMs : ℤ}
  {point point' : SettlementPoint} {result : SettlementResult}

/-- A call of a settlement makes at most one operation on the rooms. -/
lemma rooms_settlementStep (s : GameServer) (d : ServerSettlementDecision) (nowMs : ℤ)
    (point : SettlementPoint) :
    (s.settlementStep d nowMs point).1.rooms = s.rooms ∨
      ∃ op, (s.settlementStep d nowMs point).1.rooms = s.rooms.apply .sorted op := by
  cases point with
  | tryBeginSettlement =>
    simp only [settlementStep]
    split_ifs <;> exact Or.inl rfl
  | getRoomById =>
    simp only [settlementStep]
    split <;> exact Or.inl rfl
  | markSettling room => exact Or.inr ⟨.markSettling d.roomId, rfl⟩
  | getPlayer =>
    simp only [settlementStep]
    split <;> exact Or.inl rfl
  | persistSettlementTransaction =>
    simp only [settlementStep]
    split <;> exact Or.inl rfl
  | markFinished room => exact Or.inr ⟨.markFinished room.roomId, rfl⟩
  | destroyRoom room => exact Or.inr ⟨.destroyRoom room.roomId, rfl⟩
  | _ => exact Or.inl rfl

/-- The way past the mark leads through it. -/
lemma marked_settlementStep (h : s.settlementStep d nowMs point = (s', .inl point'))
    (hmarked : point'.Marked) : point.Marked ∨ ∃ room, point = .markSettling room := by
  cases point with
  | tryBeginSettlement =>
    simp only [settlementStep] at h
    split_ifs at h
    · cases h
    · obtain rfl := Sum.inl.inj (Prod.mk.inj h).2
      cases hmarked
    · cases h
  | getRoomById =>
    simp only [settlementStep] at h
    split at h
    · obtain rfl := Sum.inl.inj (Prod.mk.inj h).2
      cases hmarked
    · obtain rfl := Sum.inl.inj (Prod.mk.inj h).2
      cases hmarked
  | markSettling room => exact Or.inr ⟨room, rfl⟩
  | endSettlement result => cases h
  | _ => exact Or.inl trivial

/-- A room that is about to be marked was there. -/
lemma found_settlementStep {room : Room}
    (h : s.settlementStep d nowMs point = (s', .inl (.markSettling room))) :
    d.roomId < s'.rooms.rooms.nextId := by
  cases point with
  | tryBeginSettlement =>
    simp only [settlementStep] at h
    split_ifs at h
    · cases h
    · cases h
    · cases h
  | getRoomById =>
    simp only [settlementStep] at h
    split at h
    · cases h
    next hroom =>
      obtain rfl := (Prod.mk.inj h).1
      exact (Table.find_bounds hroom).2
  | markSettling room' =>
    have hpoint := Sum.inl.inj (Prod.mk.inj h).2
    split_ifs at hpoint
    unfold SettlementPoint.collect at hpoint
    split at hpoint
    · split_ifs at hpoint
    · cases hpoint
  | getPlayer room' pid rest changes =>
    simp only [settlementStep] at h
    split at h
    · cases h
    · have hpoint := Sum.inl.inj (Prod.mk.inj h).2
      unfold SettlementPoint.collect at hpoint
      split at hpoint
      · split_ifs at hpoint
      · cases hpoint
  | persistSettlementTransaction =>
    simp only [settlementStep] at h
    split at h <;> cases h
  | batchAddCoin room' changes recordId =>
    have hpoint := Sum.inl.inj (Prod.mk.inj h).2
    split_ifs at hpoint
    · unfold SettlementPoint.takeBack at hpoint
      split at hpoint <;> cases hpoint
    · unfold SettlementPoint.leave at hpoint
      split at hpoint <;> cases hpoint
  | addCoin c delta rest result =>
    have hpoint := Sum.inl.inj (Prod.mk.inj h).2
    unfold SettlementPoint.takeBack at hpoint
    split at hpoint <;> cases hpoint
  | forceState room' pid rest result =>
    have hpoint := Sum.inl.inj (Prod.mk.inj h).2
    unfold SettlementPoint.leave at hpoint
    split at hpoint <;> cases hpoint
  | _ => cases h

/-- Only a settlement past the mark returns `OK`. -/
lemma marked_of_ok (h : s.settlementStep d nowMs point = (s', .inr result))
    (hok : result.code = .ok) : point.Marked := by
  cases point with
  | tryBeginSettlement =>
    simp only [settlementStep] at h
    split_ifs at h
    · obtain rfl := Sum.inr.inj (Prod.mk.inj h).2
      cases hok
    · cases h
    · obtain rfl := Sum.inr.inj (Prod.mk.inj h).2
      cases hok
  | getRoomById =>
    simp only [settlementStep] at h
    split at h <;> cases h
  | markSettling room => cases h
  | endSettlement result' =>
    obtain rfl := Sum.inr.inj (Prod.mk.inj h).2
    exact hok
  | _ => trivial

end GameServer

/-- An action ended the game in the room. -/
def ServerEvent.EndsGame (r : ℤ) : ServerEvent → Bool
  | .gameOver roomId _ _ => roomId = r
  | _ => false

namespace World

variable {w : World} {call : SettlementCall}

/-- The decision is the result of the game in its room, where one is known. -/
def Agrees (w : World) (d : ServerSettlementDecision) : Prop :=
  ∀ winner baseCoin, .gameOver d.roomId winner baseCoin ∈ w.events →
    d.winnerPlayerId = winner ∧ d.baseCoin = baseCoin

instance (w : World) (d : ServerSettlementDecision) : Decidable (w.Agrees d) :=
  decidable_of_iff
    (∀ e ∈ w.events, e = .gameOver d.roomId d.winnerPlayerId d.baseCoin ∨ ¬ e.EndsGame d.roomId)
    ⟨fun h winner baseCoin hover => by
      rcases h _ hover with heq | hnot
      · obtain ⟨-, rfl, rfl⟩ := ServerEvent.gameOver.inj heq
        exact ⟨rfl, rfl⟩
      · exact absurd (decide_eq_true rfl) hnot,
    fun h e he => by
      cases e with
      | gameOver r winner baseCoin =>
        by_cases hr : r = d.roomId
        · subst hr
          obtain ⟨rfl, rfl⟩ := h winner baseCoin he
          exact Or.inl rfl
        · exact Or.inr (by simpa [ServerEvent.EndsGame] using hr)
      | roomCreated => exact Or.inr Bool.false_ne_true
      | returned => exact Or.inr Bool.false_ne_true⟩

/-- Every room has one result, and is paid out by it. -/
structure Decided (w : World) : Prop where
  closed : ∀ r winner baseCoin, .gameOver r winner baseCoin ∈ w.events → w.server.rooms.Closed r
  unique : ∀ r winner baseCoin winner' baseCoin', .gameOver r winner baseCoin ∈ w.events →
    .gameOver r winner' baseCoin' ∈ w.events → winner = winner' ∧ baseCoin = baseCoin'
  paid : ∀ d result, .returned d result ∈ w.events → result.code = .ok →
    w.server.rooms.Closed d.roomId ∧ w.Agrees d

/-- What a settlement of the server knows: where it comes from, and that its room is closed by the
result it pays out once it has marked it. -/
structure KnowsGame (w : World) (call : SettlementCall) : Prop where
  servers : call.kind ≠ .other
  game : call.kind.IsGame → .gameOver call.decision.roomId call.decision.winnerPlayerId
    call.decision.baseCoin ∈ w.events
  found : ∀ room, call.point = .markSettling room →
    call.decision.roomId < w.server.rooms.rooms.nextId
  marked : call.point.Marked → w.server.rooms.Closed call.decision.roomId ∧ w.Agrees call.decision

/-- A settlement of the game has the result of the game. -/
lemma KnowsGame.agrees (h : w.KnowsGame call) (hw : w.Decided) (hgame : call.kind.IsGame) :
    w.Agrees call.decision :=
  fun _ _ hover => hw.unique _ _ _ _ _ (h.game hgame) hover

/-- A settlement that has not begun knows nothing but where it comes from. -/
lemma knowsGame_of_start (hpoint : call.point = .tryBeginSettlement) (hservers : call.kind ≠ .other)
    (hgame : call.kind.IsGame → .gameOver call.decision.roomId call.decision.winnerPlayerId
      call.decision.baseCoin ∈ w.events) : w.KnowsGame call where
  servers := hservers
  game := hgame
  found room hroom := by
    rw [hpoint] at hroom
    cases hroom
  marked hmarked := by
    rw [hpoint] at hmarked
    cases hmarked

/-- Rooms that are closed stay closed, and no game is over in the meantime. -/
structure Later (w w' : World) : Prop where
  closed : ∀ r, w.server.rooms.Closed r → w'.server.rooms.Closed r
  nextId : w.server.rooms.rooms.nextId ≤ w'.server.rooms.rooms.nextId
  gameOver : ∀ r winner baseCoin, .gameOver r winner baseCoin ∈ w'.events ↔
    .gameOver r winner baseCoin ∈ w.events

variable {w' : World}

lemma Later.agrees (h : Later w w') {d : ServerSettlementDecision} (hd : w.Agrees d) :
    w'.Agrees d := fun winner baseCoin hover => hd winner baseCoin ((h.gameOver _ _ _).mp hover)

lemma Later.knowsGame (h : Later w w') (hcall : w.KnowsGame call) : w'.KnowsGame call where
  servers := hcall.servers
  game hgame := (h.gameOver _ _ _).mpr (hcall.game hgame)
  found room hroom := (hcall.found room hroom).trans_le h.nextId
  marked hmarked := ⟨h.closed _ (hcall.marked hmarked).1, h.agrees (hcall.marked hmarked).2⟩

/-- When no settlement returns `OK` either, everything stays decided. -/
lemma Later.decided (h : Later w w') (hw : w.Decided)
    (hpaid : ∀ d result, .returned d result ∈ w'.events → result.code = .ok →
      .returned d result ∈ w.events ∨ w.server.rooms.Closed d.roomId ∧ w.Agrees d) :
    w'.Decided where
  closed r winner baseCoin hover := h.closed r (hw.closed r _ _ ((h.gameOver _ _ _).mp hover))
  unique r winner baseCoin winner' baseCoin' hover hover' :=
    hw.unique r _ _ _ _ ((h.gameOver _ _ _).mp hover) ((h.gameOver _ _ _).mp hover')
  paid d result hreturned hok := by
    rcases hpaid d result hreturned hok with hold | hnew
    · exact ⟨h.closed _ (hw.paid d result hold hok).1, h.agrees (hw.paid d result hold hok).2⟩
    · exact ⟨h.closed _ hnew.1, h.agrees hnew.2⟩

end World

/-! ### Every run -/

namespace ThreadedServer

open World

variable {rng : Shuffler} {m m' : ThreadedServer} {a : ThreadLabel}

/-- The offline timeout does not start to settle a room in which an action has ended the game with
another result. -/
def ForfeitsInTime (m : ThreadedServer) : ThreadLabel → Prop
  | .step i _ => ∀ call ∈ (m.threads i).call, call.kind = .offlineTimeoutSettlement →
      (call.point matches .markSettling _) → m.shared.Agrees call.decision
  | _ => True

instance (m : ThreadedServer) : (a : ThreadLabel) → Decidable (ForfeitsInTime m a)
  | .step i _ => inferInstanceAs (Decidable (∀ call ∈ (m.threads i).call, _ → _ → _))
  | .createRoom _ _ => isTrue trivial
  | .setSession _ => isTrue trivial
  | .markOnline _ => isTrue trivial
  | .markOffline _ _ => isTrue trivial
  | .setTxFailpoint _ => isTrue trivial
  | .settle _ _ _ => isTrue trivial
  | .playerAction _ _ _ _ _ => isTrue trivial
  | .timerLoop _ _ _ => isTrue trivial

/-- Every room is decided, and every settlement knows its game. -/
def gameOutline : Outline World ServerThread where
  shared := World.Decided
  knows w th := ∀ call, th.call = some call → w.KnowsGame call
  compatible _ _ := True
  symm _ := trivial

/-- A step of the shared state that no settlement notices. -/
lemma holds_later (h : gameOutline.Holds m) {w : World} (hw : Later m.shared w)
    (hevents : ∀ d result, .returned d result ∈ w.events → .returned d result ∈ m.shared.events) :
    gameOutline.Holds { m with shared := w } :=
  h.environment (hw.decided h.shared fun d result hr _ => Or.inl (hevents d result hr))
    fun _ hth call hcall => hw.knowsGame (hth call hcall)

lemma later_apply (rng : Shuffler) (w : World) (op : RoomOp) :
    Later w (w.setRooms (w.server.rooms.apply rng op)) :=
  ⟨fun _ h => h.apply rng op, RoomManager.nextId_le_apply rng w.server.rooms op,
    fun _ _ _ => Iff.rfl⟩

lemma later_createRoom (w : World) (mode : ℤ) (players : List ℤ) :
    Later w (w.createRoom mode players) := by
  have h := later_apply .sorted w (.createRoom mode players)
  refine ⟨h.closed, h.nextId, fun r winner baseCoin => ?_⟩
  simp [World.createRoom, emit, setRooms]

/-- The end of a game decides a room that no settlement has marked. -/
lemma holds_gameOver (h : gameOutline.Holds m) {kind : SettlementKind} {i : ℕ}
    {roomId pid nowMs : ℤ} {request : PlayerActionRequest} {room : Room}
    {result : PlayerActionResult} {timer : TimerLoop} (hkind : kind.IsGame)
    (hroom : m.shared.server.rooms.rooms.find roomId = some room)
    (hresult : (room.applyPlayerAction rng pid request).2 = .ok result)
    (hover : result.gameOver = true) :
    gameOutline.Holds (m.set i
      ((m.shared.setRooms (m.shared.server.rooms.apply rng
          (.applyPlayerAction roomId pid request))).emit
        (.gameOver roomId result.winnerPlayerId result.baseCoin),
        { call := some { kind := kind
                         decision := ⟨roomId, result.winnerPlayerId, result.baseCoin⟩
                         nowMs := nowMs }
          timer := timer })) := by
  obtain ⟨hopen, hclosed⟩ := Room.isOver_of_gameOver hresult hover
  have hlater := later_apply rng m.shared (.applyPlayerAction roomId pid request)
  have hnotClosed : ¬ m.shared.server.rooms.Closed roomId := fun hc => hopen (hc.ended room hroom)
  have hnowClosed : (m.shared.server.rooms.apply rng
      (.applyPlayerAction roomId pid request)).Closed roomId := by
    refine ⟨(Table.find_bounds hroom).2.trans_le (RoomManager.nextId_le_apply rng _ _), ?_⟩
    intro room' hroom'
    rw [RoomManager.apply, RoomManager.find_applyPlayerAction, if_pos rfl, hroom] at hroom'
    obtain rfl := Option.some.inj hroom'
    exact hclosed
  -- no settlement knows anything about the result of an open room
  have hagrees : ∀ d, m.shared.server.rooms.Closed d.roomId → m.shared.Agrees d →
      ((m.shared.setRooms (m.shared.server.rooms.apply rng
        (.applyPlayerAction roomId pid request))).emit
          (.gameOver roomId result.winnerPlayerId result.baseCoin)).Agrees d := by
    intro d hd hagrees winner baseCoin hmem
    rcases List.mem_cons.mp hmem with heq | hold
    · obtain ⟨hr, -, -⟩ := ServerEvent.gameOver.inj heq
      exact absurd (hr ▸ hd) hnotClosed
    · exact hagrees winner baseCoin hold
  refine h.set i ⟨fun r winner baseCoin hmem => ?_, ?_, fun d result' hmem hok => ?_⟩ ?_
    fun y hy _ => ⟨fun call hcall => ?_, trivial⟩
  · rcases List.mem_cons.mp hmem with heq | hold
    · obtain ⟨rfl, -, -⟩ := ServerEvent.gameOver.inj heq
      exact hnowClosed
    · exact hlater.closed r (h.shared.closed r _ _ hold)
  · intro r winner baseCoin winner' baseCoin' hmem hmem'
    rcases List.mem_cons.mp hmem with heq | hold <;> rcases List.mem_cons.mp hmem' with heq' | hold'
    · obtain ⟨-, rfl, rfl⟩ := ServerEvent.gameOver.inj heq
      obtain ⟨-, rfl, rfl⟩ := ServerEvent.gameOver.inj heq'
      exact ⟨rfl, rfl⟩
    · obtain ⟨rfl, -, -⟩ := ServerEvent.gameOver.inj heq
      exact absurd (h.shared.closed _ _ _ hold') hnotClosed
    · obtain ⟨rfl, -, -⟩ := ServerEvent.gameOver.inj heq'
      exact absurd (h.shared.closed _ _ _ hold) hnotClosed
    · exact h.shared.unique r _ _ _ _ hold hold'
  · rcases List.mem_cons.mp hmem with heq | hold
    · cases heq
    · obtain ⟨hd, hagree⟩ := h.shared.paid d result' hold hok
      exact ⟨hlater.closed _ hd, hagrees d hd hagree⟩
  · rintro call hcall
    obtain rfl := Option.some.inj hcall
    refine knowsGame_of_start rfl (fun hother => ?_) fun _ => List.mem_cons_self
    rw [show kind = .other from hother] at hkind
    cases hkind
  · have hknows := hy call hcall
    exact ⟨hknows.servers, fun hgame => List.mem_cons_of_mem _ (hknows.game hgame),
      fun room' hp => (hknows.found room' hp).trans_le hlater.nextId, fun hmarked =>
        ⟨hlater.closed _ (hknows.marked hmarked).1,
          hagrees _ (hknows.marked hmarked).1 (hknows.marked hmarked).2⟩⟩

lemma later_settlementStep (w : World) (d : ServerSettlementDecision) (nowMs : ℤ)
    (point : SettlementPoint) :
    Later w { w with server := (w.server.settlementStep d nowMs point).1 } := by
  rcases w.server.rooms_settlementStep d nowMs point with hrooms | ⟨op, hrooms⟩
  · exact ⟨fun r hr => hrooms ▸ hr, hrooms ▸ le_rfl, fun _ _ _ => Iff.rfl⟩
  · have h := later_apply .sorted w op
    exact ⟨fun r hr => hrooms ▸ h.closed r hr, hrooms ▸ h.nextId, fun _ _ _ => Iff.rfl⟩

/-- A settlement that marks its room has the result of the game. -/
lemma agrees_of_markSettling {i : ℕ} {nowMs : ℤ} {call : SettlementCall} {room : Room}
    (h : gameOutline.Holds m) (hcall : (m.threads i).call = some call)
    (hguard : ForfeitsInTime m (.step i nowMs)) (hpoint : call.point = .markSettling room) :
    m.shared.Agrees call.decision := by
  have hknows := h.knows i call hcall
  cases hkind : call.kind with
  | autoSettlement => exact hknows.agrees h.shared (by rw [hkind]; rfl)
  | trusteeAutoSettlement => exact hknows.agrees h.shared (by rw [hkind]; rfl)
  | offlineTimeoutSettlement => exact hguard call hcall hkind (by rw [hpoint])
  | other => exact absurd hkind hknows.servers

/-- A call of a settlement. -/
lemma holds_settlementStep {i : ℕ} {nowMs : ℤ} {call : SettlementCall} {timer : TimerLoop}
    (h : gameOutline.Holds m) (hcall : (m.threads i).call = some call)
    (hguard : ForfeitsInTime m (.step i nowMs)) :
    gameOutline.Holds (m.set i
      ((m.shared.settlementStep call).1,
        { call := (m.shared.settlementStep call).2, timer := timer })) := by
  have hknows := h.knows i call hcall
  have hlater := later_settlementStep m.shared call.decision call.nowMs call.point
  rcases hstep : m.shared.server.settlementStep call.decision call.nowMs call.point with
    ⟨s, point | result⟩
  · rw [hstep] at hlater
    have hout : m.shared.settlementStep call =
        ({ m.shared with server := s }, some { call with point := point }) := by
      rw [World.settlementStep, hstep]
    rw [hout]
    refine h.set i (hlater.decided h.shared fun _ _ hold _ => Or.inl hold) ?_
      fun y hy _ => ⟨fun c hc => hlater.knowsGame (hy c hc), trivial⟩
    intro c hc
    obtain rfl := Option.some.inj hc
    have hsame := hlater.knowsGame hknows
    refine ⟨hsame.servers, hsame.game, fun room hroom => ?_, fun hmarked => ?_⟩
    · rw [show point = .markSettling room from hroom] at hstep
      exact GameServer.found_settlementStep hstep
    · rcases GameServer.marked_settlementStep hstep hmarked with hmarked | ⟨room, hroom⟩
      · exact hsame.marked hmarked
      · have hclosed := RoomManager.closed_markSettling (hknows.found room hroom) .sorted
        have hagrees := agrees_of_markSettling h hcall hguard hroom
        rw [hroom] at hstep
        obtain rfl := (Prod.mk.inj hstep).1
        exact ⟨hclosed, hlater.agrees hagrees⟩
  · rw [hstep] at hlater
    have hout : m.shared.settlementStep call =
        (({ m.shared with server := s } : World).emit (.returned call.decision result), none) := by
      rw [World.settlementStep, hstep]
    have hlater' : Later m.shared
        (({ m.shared with server := s } : World).emit (.returned call.decision result)) :=
      ⟨hlater.closed, hlater.nextId, fun r winner baseCoin => by simp [emit]⟩
    rw [hout]
    refine h.set i (hlater'.decided h.shared fun d result' hmem hok => ?_) ?_
      fun y hy _ => ⟨fun c hc => hlater'.knowsGame (hy c hc), trivial⟩
    · rcases List.mem_cons.mp hmem with heq | hold
      · obtain ⟨rfl, rfl⟩ := ServerEvent.returned.inj heq
        exact Or.inr (hknows.marked (GameServer.marked_of_ok hstep hok))
      · exact Or.inl hold
    · exact fun c hc => absurd hc (Option.some_ne_none c).symm

/-- Every step of the server's threads that the guard allows keeps the outline. -/
theorem holds_game_step (h : gameOutline.Holds m) (hservers : a.IsServers)
    (hguard : ForfeitsInTime m a) (hstep : m.step rng a = some m') : gameOutline.Holds m' := by
  cases step_rule hstep with
  | createRoom mode players =>
    refine holds_later h (later_createRoom m.shared mode players) fun d result hmem => ?_
    simpa [World.createRoom, emit, setRooms] using hmem
  | inRoom op hop => exact holds_later h (later_apply rng m.shared op) fun _ _ hmem => hmem
  | setSession session =>
    exact holds_later h ⟨fun _ hr => hr, le_rfl, fun _ _ _ => Iff.rfl⟩ fun _ _ hmem => hmem
  | setTxFailpoint failpoint =>
    exact holds_later h ⟨fun _ hr => hr, le_rfl, fun _ _ _ => Iff.rfl⟩ fun _ _ hmem => hmem
  | settle i d nowMs hidle => cases hservers
  | act timer hidle hact =>
    cases hact with
    | quiet =>
      exact h.set _ h.shared (fun c hc => absurd hc (Option.some_ne_none c).symm)
        fun y hy _ => ⟨hy, trivial⟩
    | inRoom op hop =>
      have hlater := later_apply rng m.shared op
      exact h.set _ (hlater.decided h.shared fun _ _ hold _ => Or.inl hold)
        (fun c hc => absurd hc (Option.some_ne_none c).symm)
        fun y hy _ => ⟨fun c hc => hlater.knowsGame (hy c hc), trivial⟩
    | gameOver hkind hroom hresult hover => exact holds_gameOver h hkind hroom hresult hover
    | offlineLose roomId winner nowMs =>
      refine h.set _ h.shared (fun c hc => ?_) fun y hy _ => ⟨hy, trivial⟩
      obtain rfl := Option.some.inj hc
      exact knowsGame_of_start rfl nofun nofun
  | settlement nowMs hcall => exact holds_settlementStep h hcall hguard

lemma holds_game_initial (players : PlayerManager) (sessions : SessionManager) :
    gameOutline.Holds (initial players sessions) := by
  refine ⟨⟨fun _ _ _ hmem => absurd hmem List.not_mem_nil,
    fun _ _ _ _ _ hmem => absurd hmem List.not_mem_nil,
    fun _ _ hmem => absurd hmem List.not_mem_nil⟩, fun i call hcall => ?_, fun _ _ _ => trivial⟩
  exact absurd hcall (Option.some_ne_none call).symm

/-- When no offline timeout marks a room in which the game has another result, every settlement that
returns `OK` pays the winner of the game by its stake. -/
theorem game_winner_paid {players : PlayerManager} {sessions : SessionManager}
    {labels : List ThreadLabel} {r winner baseCoin : ℤ} {d : ServerSettlementDecision}
    {result : SettlementResult}
    (hrun : Run.exec (step rng) (initial players sessions) labels = some m)
    (hservers : ∀ a ∈ labels, a.IsServers)
    (hguard : Run.Along (step rng) ForfeitsInTime (initial players sessions) labels)
    (hover : .gameOver r winner baseCoin ∈ m.shared.events)
    (hreturned : .returned d result ∈ m.shared.events) (hroom : d.roomId = r)
    (hok : result.code = .ok) :
    d.winnerPlayerId = winner ∧ d.baseCoin = baseCoin := by
  have hboth := Run.Along.and (Run.along_of_forall (step rng) hservers _) hguard
  have hholds := Run.invariant_along
    (fun _ _ _ h hG hstep => holds_game_step h hG.1 hG.2 hstep)
    (holds_game_initial players sessions) hboth hrun
  exact (hholds.shared.paid d result hreturned hok).2 winner baseCoin (hroom ▸ hover)

/-- A game in which player 2 becomes landlord at a stake of 6 and leads until no card is left. -/
def wonGame : List ThreadLabel :=
  let act (pid : ℤ) (request : PlayerActionRequest) : ThreadLabel :=
    .playerAction 0 1 pid request 0
  let lead (cards : List ℤ) : List ThreadLabel :=
    [act 2 { actionType := .playCards, cards := cards }, act 3 { actionType := .pass },
      act 1 { actionType := .pass }]
  [.createRoom 3 [1, 2, 3], act 1 { actionType := .callScore, callScore := 3 },
      act 1 { actionType := .robLandlord, rob := 0 },
      act 2 { actionType := .robLandlord, rob := 1 },
      act 3 { actionType := .robLandlord, rob := 0 }]
    ++ lead [13, 1, 28, 16, 4, 31, 19, 7, 34, 22, 10, 37] ++ lead [25, 51] ++ lead [52, 53]
    ++ lead [40] ++ lead [43] ++ lead [46]
    ++ [act 2 { actionType := .playCards, cards := [49] }]

/-- What the settlement of that game returns. -/
def wonResult : SettlementResult where
  code := .ok
  roomId := 1
  winnerPlayerId := 2
  recordId := 1
  players := [⟨1, -6, 994⟩, ⟨2, 12, 1012⟩, ⟨3, -6, 994⟩]

theorem game_winner_paid_after_game :
    ∃ m, Run.exec (step .sorted) (initial threePlayers {})
        (wonGame ++ List.replicate 17 (.step 0 1)) = some m ∧
      .returned ⟨1, 2, 6⟩ wonResult ∈ m.shared.events ∧ ((2 : ℤ) = 2 ∧ (6 : ℤ) = 6) := by
  have hrun : (Run.exec (step .sorted) (initial threePlayers {})
      (wonGame ++ List.replicate 17 (.step 0 1))).any (fun m =>
        .gameOver 1 2 6 ∈ m.shared.events ∧
        .returned ⟨1, 2, 6⟩ wonResult ∈ m.shared.events) = true := by
    decide +kernel
  obtain ⟨m, hm, hevents⟩ := (Option.any_eq_true _ _).mp hrun
  obtain ⟨hover, hreturned⟩ := of_decide_eq_true hevents
  exact ⟨m, hm, hreturned,
    game_winner_paid hm (by decide) (by decide +kernel) hover hreturned rfl rfl⟩

/-- The settlement of the game fails, and the offline timeout of player 3 pays player 1. -/
def forfeitedRun : List ThreadLabel :=
  .setTxFailpoint .afterRecordInserted :: wonGame ++ List.replicate 8 (.step 0 1)
    ++ [.setTxFailpoint .none,
      .setSession { playerId := 3, connectionId := 13, roomId := 1, offlineAtMs := 1000 },
      .timerLoop 1 [{ playerId := 3, connectionId := 13, roomId := 1, offlineAtMs := 1000 }] 121000]
    ++ List.replicate 21 (.step 1 121000)

theorem offline_timeout_overrides_winner :
    ¬ ∀ (labels : List ThreadLabel) (m : ThreadedServer) (r winner baseCoin : ℤ)
        (d : ServerSettlementDecision) (result : SettlementResult),
      (∀ a ∈ labels, a.IsServers) →
      Run.exec (step .sorted) (initial threePlayers {}) labels = some m →
      .gameOver r winner baseCoin ∈ m.shared.events → .returned d result ∈ m.shared.events →
      d.roomId = r → result.code = .ok → d.winnerPlayerId = winner ∧ d.baseCoin = baseCoin := by
  intro h
  have hrun : (Run.exec (step .sorted) (initial threePlayers {}) forfeitedRun).any (fun m =>
      .gameOver 1 2 6 ∈ m.shared.events ∧
        (m.shared.events.any fun
          | .returned d result => d = ⟨1, 1, 1⟩ ∧ result.code = .ok
          | _ => false) = true) = true := by
    decide +kernel
  obtain ⟨m, hm, hevents⟩ := (Option.any_eq_true _ _).mp hrun
  obtain ⟨hover, hany⟩ := of_decide_eq_true hevents
  obtain ⟨e, he, hreturned⟩ := List.any_eq_true.mp hany
  cases e with
  | roomCreated => cases hreturned
  | gameOver => cases hreturned
  | returned d result =>
    obtain ⟨rfl, hok⟩ := of_decide_eq_true hreturned
    have hwinner := (h forfeitedRun m 1 2 6 ⟨1, 1, 1⟩ result (by decide) hm hover he rfl hok).1
    revert hwinner
    decide

end ThreadedServer

end DdzServer
