import DdzServer.Server.Agreement
import DdzServer.Server.ServerThreads

/-!
# A round of the timer

The loop of `TimerLoop` over the sessions, with no other thread in between. A player who was offline
for two minutes loses: the room is settled, and the first of the other players is the winner, who
may have been offline as long.
-/

namespace DdzServer

open UnorderedMap

/-- A settlement of a room because a player was offline for too long. -/
structure OfflineSettlement where
  loserPlayerId : ℤ
  decision : ServerSettlementDecision
  result : SettlementResult

namespace GameServer

section Model

variable (rng : Shuffler) (clock : SettlementKind → ℤ → ℤ)

/-- The trustee's part of a round: `clock` is what `NowMs` returns at the settlements. -/
def tickTrustee (s : GameServer) (session : Session) : GameServer :=
  let s := { s with rooms := (s.rooms.markPlayerTrustee session.playerId true).1 }
  if (s.rooms.getRoomById session.roomId).map Room.currentOperatorPlayerId =
      some session.playerId then
    let (rooms, reply) := s.rooms.applyTrusteeAction rng session.roomId session.playerId
    let s := { s with rooms := rooms }
    match reply with
    | .error _   => s
    | .ok result =>
      if result.gameOver then
        (s.settleByServerResult ⟨session.roomId, result.winnerPlayerId, result.baseCoin⟩
          (clock .trusteeAutoSettlement session.playerId)).1
      else
        s
  else
    s

/-- The end of a round for a player who has lost. -/
def tickOffline (s : GameServer) (session : Session) : GameServer × List OfflineSettlement :=
  match s.rooms.pickWinnerForOfflineLose session.roomId session.playerId with
  | none        => (s, [])
  | some winner =>
    let d : ServerSettlementDecision := ⟨session.roomId, winner, 1⟩
    let (s, result) := s.settleByServerResult d (clock .offlineTimeoutSettlement session.playerId)
    (s, [⟨session.playerId, d, result⟩])

/-- What `TimerLoop` does for one session. -/
def tickSession (s : GameServer) (nowMs : ℤ) (session : Session) :
    GameServer × List OfflineSettlement :=
  if session.roomId ≤ 0 then (s, [])
  else if session.online then
    ({ s with rooms := (s.rooms.markPlayerOnline session.playerId).1 }, [])
  else if session.offlineAtMs ≤ 0 then (s, [])
  else
    let s := { s with
      rooms := (s.rooms.markPlayerOffline session.playerId session.offlineAtMs).1 }
    let s := if 30000 ≤ nowMs - session.offlineAtMs then s.tickTrustee rng clock session else s
    if 120000 ≤ nowMs - session.offlineAtMs then s.tickOffline clock session else (s, [])

/-- The loop over the sessions, in the order the map of the sessions gives them. -/
def tick (s : GameServer) (nowMs : ℤ) : List Session → GameServer × List OfflineSettlement
  | []              => (s, [])
  | session :: rest =>
    let (s, settled) := s.tickSession rng clock nowMs session
    let (s, later) := s.tick nowMs rest
    (s, settled ++ later)

end Model

/-- The player's session has been offline for two minutes. -/
def timedOut (s : GameServer) (nowMs playerId : ℤ) : Bool :=
  (s.sessions.getSessionByPlayer playerId).any fun session =>
    ¬ session.online ∧ 0 < session.offlineAtMs ∧ 120000 ≤ nowMs - session.offlineAtMs

/-- Some player of the room is online. -/
def someoneOnline (s : GameServer) (roomId : ℤ) : Bool :=
  (s.rooms.getRoomById roomId).any fun room =>
    room.players.any fun pid => (s.sessions.getSessionByPlayer pid).any Session.online

/-- In the order of the room every player before `playerId` is the loser. -/
def FirstOther (s : GameServer) (roomId loserPlayerId playerId : ℤ) : Prop :=
  ∃ room before after, s.rooms.getRoomById roomId = some room ∧
    room.players = before ++ playerId :: after ∧ playerId ≠ loserPlayerId ∧
    ∀ pid ∈ before, pid = loserPlayerId

/-! ### The rooms of a round -/

end GameServer

namespace RoomManager

variable {rng : Shuffler} {m m' m'' : RoomManager}

/-- The rooms that are left are rooms from before, with the same players. -/
def Leaves (m m' : RoomManager) : Prop := ∀ r x, m'.membersOf r = some x → m.membersOf r = some x

lemma Leaves.refl (m : RoomManager) : m.Leaves m := fun _ _ h => h

lemma Leaves.trans (h : m.Leaves m') (h' : m'.Leaves m'') : m.Leaves m'' :=
  fun r x hr => h r x (h' r x hr)

lemma leaves_inside (rng : Shuffler) (op : RoomOp) (hop : op.IsInside) :
    m.Leaves (m.apply rng op) := by
  intro r x hr
  rwa [membersOf_apply rng hop] at hr

lemma leaves_destroyRoom (m : RoomManager) (roomId : ℤ) : m.Leaves (m.destroyRoom roomId).1 := by
  intro r x hr
  rw [membersOf_destroyRoom] at hr
  split_ifs at hr
  exact hr

end RoomManager

namespace GameServer

open RoomManager

variable {rng : Shuffler} {clock : SettlementKind → ℤ → ℤ} {s s' : GameServer} {nowMs : ℤ}
  {session : Session}

lemma SettleRule.leaves {d : ServerSettlementDecision} {result : SettlementResult}
    (h : SettleRule s d nowMs s' result) : s.rooms.Leaves s'.rooms := by
  have hmark : ∀ m : RoomManager, m.Leaves (m.markSettling d.roomId).1 := fun m =>
    leaves_inside .sorted (.markSettling d.roomId) rfl
  cases h with
  | invalid => exact .refl _
  | busy => exact .refl _
  | notFound => exact .refl _
  | failed => exact hmark s.rooms
  | @settled room _ _ _ _ _ _ =>
    have hfinish : ∀ m : RoomManager, m.Leaves (m.markFinished room.roomId).1 := fun m =>
      leaves_inside .sorted (.markFinished room.roomId) rfl
    exact ((hmark _).trans (hfinish _)).trans (leaves_destroyRoom _ _)

lemma leaves_tickTrustee (rng : Shuffler) (clock : SettlementKind → ℤ → ℤ) (s : GameServer)
    (session : Session) : s.rooms.Leaves (s.tickTrustee rng clock session).rooms := by
  have hmark : s.rooms.Leaves (s.rooms.markPlayerTrustee session.playerId true).1 :=
    leaves_inside rng (.markPlayerTrustee session.playerId true) rfl
  have hact : ∀ m : RoomManager,
      m.Leaves (m.applyTrusteeAction rng session.roomId session.playerId).1 := fun m =>
    leaves_inside rng (.applyTrusteeAction session.roomId session.playerId) rfl
  unfold tickTrustee
  dsimp only
  split_ifs
  · split
    · exact hmark.trans (hact _)
    · split_ifs
      · exact (hmark.trans (hact _)).trans (settle_rule _ _ _).leaves
      · exact hmark.trans (hact _)
  · exact hmark

/-- A settlement of a round has the first of the other players of its room as its winner. -/
lemma tickOffline_spec (clock : SettlementKind → ℤ → ℤ) (s : GameServer) (session : Session) :
    s.rooms.Leaves (s.tickOffline clock session).1.rooms ∧
      ∀ e ∈ (s.tickOffline clock session).2, e.loserPlayerId = session.playerId ∧
        e.decision.roomId = session.roomId ∧
        s.FirstOther e.decision.roomId e.loserPlayerId e.decision.winnerPlayerId := by
  unfold tickOffline
  split
  · exact ⟨.refl _, by simp⟩
  next winner hwinner =>
    refine ⟨(settle_rule _ _ _).leaves, fun e he => ?_⟩
    obtain rfl := List.mem_singleton.mp he
    obtain ⟨room, hroom, hpick⟩ := Option.bind_eq_some_iff.mp hwinner
    obtain ⟨hne, before, after, hsplit, hbefore⟩ := List.find?_eq_some_iff_append.mp hpick
    exact ⟨rfl, rfl, room, before, after, hroom, hsplit, by simpa using hne,
      fun pid hpid => by simpa using hbefore pid hpid⟩

/-- The first of the other players stays the same while rooms only disappear. -/
lemma FirstOther.of_leaves {roomId loser pid : ℤ} (h : s'.FirstOther roomId loser pid)
    (hleaves : s.rooms.Leaves s'.rooms) : s.FirstOther roomId loser pid := by
  obtain ⟨room, before, after, hroom, hsplit, hne, hbefore⟩ := h
  have hmembers := hleaves roomId _ (membersOf_eq_some.mpr ⟨room, hroom, rfl, rfl⟩)
  obtain ⟨room₀, hroom₀, -, hplayers⟩ := membersOf_eq_some.mp hmembers
  exact ⟨room₀, before, after, hroom₀, hplayers.trans hsplit, hne, hbefore⟩

lemma FirstOther.unique {roomId loser p q : ℤ} (hp : s.FirstOther roomId loser p)
    (hq : s.FirstOther roomId loser q) : p = q := by
  obtain ⟨room, before, after, hroom, hsplit, hne, hbefore⟩ := hp
  obtain ⟨room', before', after', hroom', hsplit', hne', hbefore'⟩ := hq
  obtain rfl := Option.some.inj (hroom.symm.trans hroom')
  have hfirst : ∀ {before after : List ℤ} {x : ℤ}, room.players = before ++ x :: after →
      x ≠ loser → (∀ y ∈ before, y = loser) → room.players.find? (· ≠ loser) = some x := by
    intro before after x hsplit hne hbefore
    exact List.find?_eq_some_iff_append.mpr
      ⟨by simpa using hne, before, after, hsplit, fun y hy => by simpa using hbefore y hy⟩
  exact Option.some.inj
    ((hfirst hsplit hne hbefore).symm.trans (hfirst hsplit' hne' hbefore'))

/-- What a round says of its settlements. -/
def SettledFor (s : GameServer) (nowMs : ℤ) (session : Session) (e : OfflineSettlement) : Prop :=
  e.loserPlayerId = session.playerId ∧ e.decision.roomId = session.roomId ∧
    session.online = false ∧ 0 < session.offlineAtMs ∧ 120000 ≤ nowMs - session.offlineAtMs ∧
    s.FirstOther e.decision.roomId e.loserPlayerId e.decision.winnerPlayerId

lemma tickSession_spec (rng : Shuffler) (clock : SettlementKind → ℤ → ℤ) (s : GameServer)
    (nowMs : ℤ) (session : Session) :
    s.rooms.Leaves (s.tickSession rng clock nowMs session).1.rooms ∧
      ∀ e ∈ (s.tickSession rng clock nowMs session).2, s.SettledFor nowMs session e := by
  have hoffline : s.rooms.Leaves
      (s.rooms.markPlayerOffline session.playerId session.offlineAtMs).1 :=
    leaves_inside rng (.markPlayerOffline session.playerId session.offlineAtMs) rfl
  unfold tickSession
  split_ifs with hroom honline hsince htrustee hlose hlose'
  · exact ⟨.refl _, by simp⟩
  · exact ⟨leaves_inside rng (.markPlayerOnline session.playerId) rfl, by simp⟩
  · exact ⟨.refl _, by simp⟩
  · have hacted := hoffline.trans (leaves_tickTrustee rng clock
      { s with rooms := (s.rooms.markPlayerOffline session.playerId session.offlineAtMs).1 }
      session)
    obtain ⟨hleaves, hspec⟩ := tickOffline_spec clock
      (tickTrustee rng clock
        { s with rooms := (s.rooms.markPlayerOffline session.playerId session.offlineAtMs).1 }
        session) session
    refine ⟨hacted.trans hleaves, fun e he => ?_⟩
    obtain ⟨hloser, hroomId, hfirst⟩ := hspec e he
    exact ⟨hloser, hroomId, by simpa using honline, by omega, hlose, hfirst.of_leaves hacted⟩
  · exact ⟨hoffline.trans (leaves_tickTrustee rng clock _ session), by simp⟩
  · omega
  · exact ⟨hoffline, by simp⟩

/-- Every settlement of a tick is one of a round for a player who was offline for two minutes. -/
lemma tick_spec (rng : Shuffler) (clock : SettlementKind → ℤ → ℤ) (s : GameServer) (nowMs : ℤ)
    (order : List Session) :
    ∀ e ∈ (s.tick rng clock nowMs order).2, ∃ session ∈ order, s.SettledFor nowMs session e := by
  induction order generalizing s with
  | nil => simp [tick]
  | cons session rest ih =>
    obtain ⟨hleaves, hspec⟩ := tickSession_spec rng clock s nowMs session
    intro e he
    rcases List.mem_append.mp he with he | he
    · exact ⟨session, List.mem_cons_self, hspec e he⟩
    · obtain ⟨session', hmem, hloser, hroomId, honline, hsince, hlose, hfirst⟩ := ih _ e he
      exact ⟨session', List.mem_cons_of_mem _ hmem, hloser, hroomId, honline, hsince, hlose,
        hfirst.of_leaves hleaves⟩

/-! ### Who wins -/

/-- Wherever a player has lost, the first of the other players has not. -/
def LosersApart (s : GameServer) (nowMs : ℤ) (order : List Session) : Prop :=
  ∀ session ∈ order, session.online = false → 0 < session.offlineAtMs →
    120000 ≤ nowMs - session.offlineAtMs → s.someoneOnline session.roomId = true →
    ∀ pid, s.FirstOther session.roomId session.playerId pid → s.timedOut nowMs pid = false

/-- A tick that settles a room because a player was offline for two minutes names a winner who was
not, exactly if the first of the other players in the order of the room was not. It does so in every
tick in which, for each player who loses, the first of the others has not lost himself. -/
theorem timeout_winner_iff (rng : Shuffler) (clock : SettlementKind → ℤ → ℤ) (s : GameServer)
    (nowMs : ℤ) (order : List Session) :
    (∀ e ∈ (s.tick rng clock nowMs order).2, e.result.code = .ok →
      ((s.someoneOnline e.decision.roomId = true →
          s.timedOut nowMs e.decision.winnerPlayerId = false) ↔
        (s.someoneOnline e.decision.roomId = true → ∀ pid,
          s.FirstOther e.decision.roomId e.loserPlayerId pid → s.timedOut nowMs pid = false))) ∧
    (s.LosersApart nowMs order → ∀ e ∈ (s.tick rng clock nowMs order).2, e.result.code = .ok →
      s.someoneOnline e.decision.roomId = true →
        s.timedOut nowMs e.decision.winnerPlayerId = false) := by
  constructor
  · intro e he _
    obtain ⟨session, -, -, -, -, -, -, hfirst⟩ := tick_spec rng clock s nowMs order e he
    constructor
    · intro h hsomeone pid hpid
      rw [hpid.unique hfirst]
      exact h hsomeone
    · intro h hsomeone
      exact h hsomeone _ hfirst
  · intro hapart e he _ hsomeone
    obtain ⟨session, hmem, hloser, hroomId, honline, hsince, hlose, hfirst⟩ :=
      tick_spec rng clock s nowMs order e he
    rw [hloser, hroomId] at hfirst
    exact hapart session hmem honline hsince hlose (hroomId ▸ hsomeone) _ hfirst

/-- Two of three players leave the table; two minutes later the first of them loses, and the other
one is declared the winner. -/
theorem timed_out_player_wins :
    let ops := matchRun ++ [.connectionClosed 11 1000 1000, .connectionClosed 12 2000 2000]
    ∃ s, Run.exec (step .sorted) (start {} false) ops = some s ∧
      ∃ order : List Session,
        (order : Multiset Session) = values s.sessions.playerToSession ∧
        ∃ e ∈ (s.tick .sorted (fun _ _ => 200000) 200000 order).2, e.result.code = .ok ∧
          e.loserPlayerId = 1 ∧ e.decision.winnerPlayerId = 2 ∧
          s.someoneOnline e.decision.roomId = true ∧
          s.timedOut 200000 e.decision.winnerPlayerId = true := by
  intro ops
  refine ⟨_, Run.exec_total _ _ _, ?_⟩
  refine ⟨[1, 2, 3].filterMap
    (ops.foldl (apply .sorted) (start {} false)).sessions.getSessionByPlayer,
    by decide +kernel, ?_⟩
  have hfound : ((ops.foldl (apply .sorted) (start {} false)).tick .sorted
      (fun _ _ => 200000) 200000 ([1, 2, 3].filterMap
        (ops.foldl (apply .sorted) (start {} false)).sessions.getSessionByPlayer)).2.any
      (fun e => e.result.code = .ok ∧ e.loserPlayerId = 1 ∧ e.decision.winnerPlayerId = 2 ∧
        (ops.foldl (apply .sorted) (start {} false)).someoneOnline e.decision.roomId = true ∧
        (ops.foldl (apply .sorted) (start {} false)).timedOut 200000
          e.decision.winnerPlayerId = true) = true := by
    decide +kernel
  obtain ⟨e, he, hfacts⟩ := List.any_eq_true.mp hfound
  exact ⟨e, he, of_decide_eq_true hfacts⟩

end GameServer

end DdzServer
