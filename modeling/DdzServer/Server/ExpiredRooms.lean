import DdzServer.Server.TimerTick

/-!
# Expired rooms

A whole round of `TimerLoop` with every settlement it makes. The loop works on copies of the
sessions; once a room is settled, the copies of its other players find no room any more. A round
therefore settles each room with a player who was offline for two minutes, and settles it once.
-/

namespace DdzServer

open UnorderedMap

/-! ### A round of the timer -/

/-- A settlement the timer has made, with the answer. -/
structure TimerSettlement where
  decision : ServerSettlementDecision
  result : SettlementResult

/-- The room was settled successfully. -/
def TimerSettlement.Settles (r : ℤ) (e : TimerSettlement) : Bool :=
  e.decision.roomId = r ∧ e.result.code = .ok

/-- A connection `CloseIdleConnections` closes, and what the clock shows meanwhile. -/
structure IdleConnection where
  connectionId : ℤ
  nowMs : ℤ
  offlineAtMs : ℤ

/-- What the clock shows when the operation closes a connection. -/
def ServerOp.closedAtMs : ServerOp → Option ℤ
  | .connectionClosed _ nowMs _ => some nowMs
  | _ => none

/-- The clock shows a positive time when a connection is closed. -/
def ServerOp.PositiveClock (op : ServerOp) : Prop := ∀ nowMs ∈ op.closedAtMs, 0 < nowMs

instance (op : ServerOp) : Decidable op.PositiveClock :=
  inferInstanceAs (Decidable (∀ nowMs ∈ op.closedAtMs, 0 < nowMs))

/-- The operations of a round until the sessions are copied. -/
def openingOps (idle : List IdleConnection) (nowMs timeoutMs : ℤ) : List ServerOp :=
  idle.map (fun c => .connectionClosed c.connectionId c.nowMs c.offlineAtMs) ++
    [.matchTimeout nowMs timeoutMs]

namespace GameServer

section Model

variable (rng : Shuffler) (clock : SettlementKind → ℤ → ℤ)

/-- `tickTrustee` with the settlement it makes. -/
def trusteeRound (s : GameServer) (session : Session) : GameServer × List TimerSettlement :=
  let s := { s with rooms := (s.rooms.markPlayerTrustee session.playerId true).1 }
  if (s.rooms.getRoomById session.roomId).map Room.currentOperatorPlayerId =
      some session.playerId then
    let (rooms, reply) := s.rooms.applyTrusteeAction rng session.roomId session.playerId
    let s := { s with rooms := rooms }
    match reply with
    | .error _   => (s, [])
    | .ok result =>
      if result.gameOver then
        let d : ServerSettlementDecision :=
          ⟨session.roomId, result.winnerPlayerId, result.baseCoin⟩
        let (s, answer) := s.settleByServerResult d (clock .trusteeAutoSettlement session.playerId)
        (s, [⟨d, answer⟩])
      else
        (s, [])
  else
    (s, [])

/-- `tickOffline` with the settlement it makes. -/
def offlineRound (s : GameServer) (session : Session) : GameServer × List TimerSettlement :=
  match s.rooms.pickWinnerForOfflineLose session.roomId session.playerId with
  | none        => (s, [])
  | some winner =>
    let d : ServerSettlementDecision := ⟨session.roomId, winner, 1⟩
    let (s, answer) := s.settleByServerResult d (clock .offlineTimeoutSettlement session.playerId)
    (s, [⟨d, answer⟩])

/-- The body of the loop over the sessions. -/
def sessionRound (s : GameServer) (nowMs : ℤ) (session : Session) :
    GameServer × List TimerSettlement :=
  if session.roomId ≤ 0 then (s, [])
  else if session.online then
    ({ s with rooms := (s.rooms.markPlayerOnline session.playerId).1 }, [])
  else if session.offlineAtMs ≤ 0 then (s, [])
  else
    let s := { s with
      rooms := (s.rooms.markPlayerOffline session.playerId session.offlineAtMs).1 }
    let (s, played) :=
      if 30000 ≤ nowMs - session.offlineAtMs then s.trusteeRound rng clock session else (s, [])
    let (s, lost) :=
      if 120000 ≤ nowMs - session.offlineAtMs then s.offlineRound clock session else (s, [])
    (s, played ++ lost)

def sessionRounds (s : GameServer) (nowMs : ℤ) : List Session → GameServer × List TimerSettlement
  | []              => (s, [])
  | session :: rest =>
    let (s, settled) := s.sessionRound rng clock nowMs session
    let (s, later) := s.sessionRounds nowMs rest
    (s, settled ++ later)

def closeIdle (s : GameServer) (idle : List IdleConnection) : GameServer :=
  idle.foldl (fun s c => s.onConnectionClosed c.connectionId c.nowMs c.offlineAtMs) s

/-- A round of `TimerLoop` until it copies the sessions. -/
def beforeSessions (s : GameServer) (idle : List IdleConnection) (nowMs timeoutMs : ℤ) :
    GameServer :=
  ((s.closeIdle idle).handleMatchTimeout nowMs timeoutMs).1

/-- A round of `TimerLoop`; `order` is the copy of the sessions. -/
def timerRound (s : GameServer) (idle : List IdleConnection) (nowMs timeoutMs : ℤ)
    (order : List Session) : GameServer × List TimerSettlement :=
  (s.beforeSessions idle nowMs timeoutMs).sessionRounds rng clock nowMs order

end Model

/-- The session of the player has been offline for at least two minutes. -/
def Expired (s : GameServer) (nowMs playerId : ℤ) : Prop :=
  ∃ session, s.sessions.getSessionByPlayer playerId = some session ∧ session.online = false ∧
    120000 ≤ nowMs - session.offlineAtMs

variable {rng : Shuffler} {clock : SettlementKind → ℤ → ℤ} {s s' s'' : GameServer} {nowMs : ℤ}
  {session : Session} {d : ServerSettlementDecision} {result : SettlementResult}

/-! The states are those of `tick`. -/

lemma trusteeRound_fst (rng : Shuffler) (clock : SettlementKind → ℤ → ℤ) (s : GameServer)
    (session : Session) :
    (s.trusteeRound rng clock session).1 = s.tickTrustee rng clock session := by
  unfold trusteeRound tickTrustee
  dsimp only
  split_ifs
  · generalize RoomManager.applyTrusteeAction _ _ _ _ = out
    obtain ⟨rooms, _ | result⟩ := out
    · rfl
    · dsimp only
      split_ifs <;> rfl
  · rfl

lemma offlineRound_fst (clock : SettlementKind → ℤ → ℤ) (s : GameServer) (session : Session) :
    (s.offlineRound clock session).1 = (s.tickOffline clock session).1 := by
  unfold offlineRound tickOffline
  cases s.rooms.pickWinnerForOfflineLose session.roomId session.playerId <;> rfl

lemma sessionRound_fst (rng : Shuffler) (clock : SettlementKind → ℤ → ℤ) (s : GameServer)
    (nowMs : ℤ) (session : Session) :
    (s.sessionRound rng clock nowMs session).1 = (s.tickSession rng clock nowMs session).1 := by
  unfold sessionRound tickSession
  dsimp only
  split_ifs
  all_goals simp only [trusteeRound_fst, offlineRound_fst]

theorem sessionRounds_fst (rng : Shuffler) (clock : SettlementKind → ℤ → ℤ) (s : GameServer)
    (nowMs : ℤ) (order : List Session) :
    (s.sessionRounds rng clock nowMs order).1 = (s.tick rng clock nowMs order).1 := by
  induction order generalizing s with
  | nil => rfl
  | cons session rest ih =>
    rw [sessionRounds, tick, ih, sessionRound_fst]

/-! ### What is known of the sessions -/

/-- A session is stored under its player, who is registered; offline, it says since when. -/
structure Knows (s : GameServer) (p : ℤ) (session : Session) : Prop where
  key : session.playerId = p
  positive : 0 < p
  registered : s.players.players.lookup p ≠ none
  stamped : session.online = false → 0 < session.offlineAtMs

def KnowsSessions (s : GameServer) : Prop :=
  ∀ p session, s.sessions.playerToSession.lookup p = some session → s.Knows p session

/-- What is known of a session outlasts a step that unregisters nobody. -/
lemma Knows.congr {p : ℤ} {session session' : Session} (h : s.Knows p session)
    (hreg : s.players.players.lookup p ≠ none → s'.players.players.lookup p ≠ none)
    (hkey : session'.playerId = session.playerId)
    (hstamp : session'.online = false →
      session.online = false ∧ session'.offlineAtMs = session.offlineAtMs) :
    s'.Knows p session' := by
  refine ⟨hkey.trans h.key, h.positive, hreg h.registered, fun hoff => ?_⟩
  obtain ⟨hoff', hsince⟩ := hstamp hoff
  rw [hsince]
  exact h.stamped hoff'

lemma lookup_forceStates_ne_none {m : PlayerManager} {p : ℤ} (h : m.players.lookup p ≠ none)
    (players : List ℤ) (next : PlayerState) :
    (m.forceStates players next).players.lookup p ≠ none := by
  induction players generalizing m with
  | nil => exact h
  | cons pid ps ih => exact ih (PlayerManager.lookup_write_ne_none h pid _)

/-- Sessions that were given a room. -/
lemma KnowsSessions.setRoomIds (h : s.KnowsSessions) (players : List ℤ) (roomId : ℤ)
    (hsessions : s'.sessions =
      players.foldl (fun m pid => (m.setRoomId pid roomId).1) s.sessions)
    (hreg : ∀ p, s.players.players.lookup p ≠ none → s'.players.players.lookup p ≠ none) :
    s'.KnowsSessions := by
  intro p session hp
  rw [hsessions, SessionManager.lookup_foldl_setRoomId] at hp
  split_ifs at hp
  · obtain ⟨old, hold, rfl⟩ := Option.map_eq_some_iff.mp hp
    exact (h p old hold).congr (hreg p) rfl fun hoff => ⟨hoff, rfl⟩
  · exact (h p session hp).congr (hreg p) rfl fun hoff => ⟨hoff, rfl⟩

/-- A player is bound to a connection: the session is online, and nobody else is concerned. -/
lemma KnowsSessions.bound (h : s.KnowsSessions) {p : ℤ} {session : Session} (hp : 0 < p)
    (hkey : session.playerId = p) (honline : session.online = true)
    (hsessions : ∀ q, s'.sessions.playerToSession.lookup q =
      if q = p then some session else s.sessions.playerToSession.lookup q)
    (hbound : s'.players.players.lookup p ≠ none)
    (hreg : ∀ q, s.players.players.lookup q ≠ none → s'.players.players.lookup q ≠ none) :
    s'.KnowsSessions := by
  intro q found hq
  rw [hsessions] at hq
  split_ifs at hq with hqp
  · cases hq
    subst hqp
    exact ⟨hkey, hp, hbound, fun hoff => by simp [honline] at hoff⟩
  · exact (h q found hq).congr (hreg q) rfl fun hoff => ⟨hoff, rfl⟩

lemma KnowsSessions.loggedIn (h : s.KnowsSessions) {p : ℤ} (hp : 0 < p) (nickname : CppString)
    (connectionId nowMs : ℤ) : (s.loggedIn p nickname connectionId nowMs).KnowsSessions := by
  refine h.bound hp rfl rfl
    (SessionManager.lookup_bindLogin s.sessions p connectionId nowMs) ?_ fun q hq => ?_
  · rw [GameServer.loggedIn, PlayerManager.lookup_forceState, if_pos rfl]
    exact Option.some_ne_none _
  · exact PlayerManager.lookup_write_ne_none (PlayerManager.lookup_write_ne_none hq p _) p _

lemma KnowsSessions.reconnected (h : s.KnowsSessions) {p : ℤ}
    (hsession : s.sessions.playerToSession.lookup p = some session) (connectionId nowMs : ℤ) :
    (s.reconnected p session connectionId nowMs).KnowsSessions := by
  have hknows := h p session hsession
  refine h.bound hknows.positive ?_ ?_
    (SessionManager.lookup_rebindForReconnect hsession connectionId nowMs) ?_ fun q hq => ?_
  · exact hknows.key
  · rfl
  · exact PlayerManager.lookup_write_ne_none hknows.registered p _
  · exact PlayerManager.lookup_write_ne_none hq p _

lemma KnowsSessions.onConnectionClosed (h : s.KnowsSessions) {connectionId nowMs : ℤ}
    (hnow : 0 < nowMs) (offlineAtMs : ℤ) :
    (s.onConnectionClosed connectionId nowMs offlineAtMs).KnowsSessions := by
  unfold GameServer.onConnectionClosed
  cases hconn : s.sessions.connToPlayer.lookup connectionId with
  | none =>
    have hget : s.sessions.getPlayerIdByConnection connectionId = none := hconn
    rw [hget]
    exact h
  | some p =>
    have hget : s.sessions.getPlayerIdByConnection connectionId = some p := hconn
    rw [hget]
    intro q found hq
    dsimp only at hq
    have hreg : s.players.players.lookup q ≠ none →
        (s.players.forceState p .offline).players.lookup q ≠ none := fun hq =>
      PlayerManager.lookup_write_ne_none hq p _
    cases hp : s.sessions.playerToSession.lookup p with
    | none =>
      simp only [SessionManager.markOfflineByConnection, hconn, hp] at hq
      exact (h q found hq).congr hreg rfl fun hoff => ⟨hoff, rfl⟩
    | some session =>
      rw [SessionManager.lookup_markOfflineByConnection hconn hp] at hq
      split_ifs at hq with hqp
      · cases hq
        subst hqp
        have hknows := h q session hp
        exact ⟨hknows.key, hknows.positive, hreg hknows.registered, fun _ => hnow⟩
      · exact (h q found hq).congr hreg rfl fun hoff => ⟨hoff, rfl⟩

lemma KnowsSessions.settled (h : s.KnowsSessions) (d : ServerSettlementDecision) (room : Room)
    (nowMs : ℤ) : (s.settled d room nowMs).KnowsSessions := by
  refine h.setRoomIds room.players 0 rfl fun p hp => ?_
  exact lookup_forceStates_ne_none (PlayerManager.lookup_addCoins_ne_none _ hp) _ _

/-- Operations that leave the sessions alone. -/
lemma KnowsSessions.of_sessions_eq (h : s.KnowsSessions) (hsessions : s'.sessions = s.sessions)
    (hreg : ∀ p, s.players.players.lookup p ≠ none → s'.players.players.lookup p ≠ none) :
    s'.KnowsSessions := by
  intro p session hp
  rw [hsessions] at hp
  exact (h p session hp).congr (hreg p) rfl fun hoff => ⟨hoff, rfl⟩

lemma lookup_foldl_leaveQueue_ne_none (late : List MatchPlayer) {m : PlayerManager} {p : ℤ}
    (h : m.players.lookup p ≠ none) : (late.foldl leaveQueue m).players.lookup p ≠ none := by
  induction late generalizing m with
  | nil => exact h
  | cons q late ih =>
    refine ih ?_
    unfold leaveQueue
    split_ifs
    · exact PlayerManager.lookup_write_ne_none h _ _
    · exact h

lemma KnowsSessions.matched (h : s.KnowsSessions) {connectionId : ℤ}
    (hrule : MatchRule s connectionId nowMs s') : s'.KnowsSessions := by
  cases hrule with
  | refused => exact h
  | waiting => exact h.of_sessions_eq rfl fun p hp => PlayerManager.lookup_write_ne_none hp _ _
  | matched =>
    refine h.setRoomIds _ _ rfl fun p hp => ?_
    exact lookup_forceStates_ne_none (PlayerManager.lookup_write_ne_none hp _ _) _ _

lemma KnowsSessions.apply (h : s.KnowsSessions) {op : ServerOp} (hop : op.PositiveClock) :
    (s.apply rng op).KnowsSessions := by
  cases op with
  | login connectionId body nowMs redis =>
    rw [GameServer.apply]
    cases hp : s.loginPlayer body nowMs with
    | none => rwa [(handleLogin_of_none connectionId redis hp).1]
    | some p =>
      obtain ⟨hpos, heq, -⟩ := handleLogin_of_some connectionId redis hp
      rw [heq]
      exact h.loggedIn hpos _ connectionId nowMs
  | reconnect connectionId body nowMs redis =>
    rw [GameServer.apply]
    cases hp : s.reconnectPlayer body nowMs redis with
    | none => rwa [(handleReconnect_of_none connectionId hp).1]
    | some p =>
      obtain ⟨session, hsession, heq, -⟩ := handleReconnect_of_some connectionId hp
      rw [heq]
      exact h.reconnected hsession connectionId nowMs
  | sessionRefresh body nowMs redis =>
    obtain ⟨auth, heq⟩ := handleSessionRefresh_fst s body nowMs redis
    rw [GameServer.apply, heq]
    exact h.of_sessions_eq rfl fun _ => id
  | heartbeat connectionId nowMs =>
    intro p session hp
    rcases s.sessions.lookup_updateHeartbeat connectionId nowMs p with heq | ⟨old, hold, heq⟩
    · exact (h p session (heq.symm.trans hp)).congr id rfl fun hoff => ⟨hoff, rfl⟩
    · obtain rfl := Option.some.inj (heq.symm.trans hp)
      exact (h p old hold).congr id rfl fun hoff => ⟨hoff, rfl⟩
  | requestMatch connectionId body nowMs => exact h.matched (match_rule s connectionId body nowMs)
  | cancelMatch connectionId =>
    have hrule := cancel_rule s connectionId
    rw [GameServer.apply]
    generalize (s.handleCancelMatch connectionId).1 = s' at hrule
    cases hrule with
    | refused => exact h
    | failed => exact h.of_sessions_eq rfl fun _ => id
    | cancelled =>
      exact h.of_sessions_eq rfl fun p hp => PlayerManager.lookup_write_ne_none hp _ _
  | matchTimeout nowMs timeoutMs =>
    exact h.of_sessions_eq rfl fun p hp => lookup_foldl_leaveQueue_ne_none _ hp
  | connectionClosed connectionId nowMs offlineAtMs =>
    exact h.onConnectionClosed (hop _ rfl) offlineAtMs
  | inRoom op => exact h.of_sessions_eq rfl fun _ => id
  | settle d nowMs =>
    have hrule := settle_rule s d nowMs
    rw [GameServer.apply]
    generalize s.settleByServerResult d nowMs = out at hrule
    obtain ⟨s', result⟩ := out
    cases hrule with
    | invalid => exact h
    | busy => exact h
    | notFound => exact h
    | failed => exact h.of_sessions_eq rfl fun _ => id
    | @settled room => exact h.settled d room nowMs
  | setTxFailpoint failpoint => exact h.of_sessions_eq rfl fun _ => id

/-- No settlement is in progress between two operations. -/
lemma settlingRooms_settle (hrule : SettleRule s d nowMs s' result) :
    s'.settlingRooms = s.settlingRooms := by
  cases hrule <;> rfl

lemma settlingRooms_apply (rng : Shuffler) (s : GameServer) (op : ServerOp) :
    (s.apply rng op).settlingRooms = s.settlingRooms := by
  cases op with
  | login connectionId body nowMs redis =>
    rw [GameServer.apply]
    cases hp : s.loginPlayer body nowMs with
    | none => rw [(handleLogin_of_none connectionId redis hp).1]
    | some p =>
      rw [(handleLogin_of_some connectionId redis hp).2.1]
      rfl
  | reconnect connectionId body nowMs redis =>
    rw [GameServer.apply]
    cases hp : s.reconnectPlayer body nowMs redis with
    | none => rw [(handleReconnect_of_none connectionId hp).1]
    | some p =>
      obtain ⟨session, -, heq, -⟩ := handleReconnect_of_some connectionId hp
      rw [heq]
      rfl
  | sessionRefresh body nowMs redis =>
    obtain ⟨auth, heq⟩ := handleSessionRefresh_fst s body nowMs redis
    rw [GameServer.apply, heq]
  | requestMatch connectionId body nowMs =>
    have hrule := match_rule s connectionId body nowMs
    rw [GameServer.apply]
    generalize (s.handleMatch connectionId body nowMs).1 = s' at hrule
    cases hrule <;> rfl
  | cancelMatch connectionId =>
    have hrule := cancel_rule s connectionId
    rw [GameServer.apply]
    generalize (s.handleCancelMatch connectionId).1 = s' at hrule
    cases hrule <;> rfl
  | connectionClosed connectionId nowMs offlineAtMs =>
    rw [GameServer.apply, GameServer.onConnectionClosed]
    split <;> rfl
  | settle d nowMs => exact settlingRooms_settle (settle_rule s d nowMs)
  | _ => rfl

/-! ### What a part of a round does -/

/-- Between two operations of a server whose storage works. -/
structure Ready (s : GameServer) : Prop where
  coherent : s.roster.Coherent
  known : s.KnowsSessions
  free : s.settlingRooms = ∅
  failpoint : s.storage.failpoint = .none

/-- How often the room is there: once or not at all. -/
def timesLive (s : GameServer) (r : ℤ) : ℕ := if s.rooms.membersOf r = none then 0 else 1

/-- Whether the player is online, and since when not. -/
def presence (s : GameServer) (p : ℤ) : Option (Bool × ℤ) :=
  (s.sessions.getSessionByPlayer p).map fun session => (session.online, session.offlineAtMs)

/-- A part of a round settles the rooms that it makes disappear, each of them once. -/
structure Cleared (s s' : GameServer) (log : List TimerSettlement) : Prop where
  ready : s'.Ready
  leaves : s.rooms.Leaves s'.rooms
  settled : ∀ r, log.countP (TimerSettlement.Settles r) + s'.timesLive r = s.timesLive r
  presence : ∀ p, s'.presence p = s.presence p

lemma Cleared.refl (h : s.Ready) : s.Cleared s [] := ⟨h, .refl _, fun r => by simp, fun _ => rfl⟩

lemma Cleared.trans {log log' : List TimerSettlement} (h : s.Cleared s' log)
    (h' : s'.Cleared s'' log') : s.Cleared s'' (log ++ log') where
  ready := h'.ready
  leaves := h.leaves.trans h'.leaves
  settled r := by
    rw [List.countP_append, add_assoc, h'.settled, h.settled]
  presence p := (h'.presence p).trans (h.presence p)

/-- Operations inside a room. -/
lemma cleared_inside (h : s.Ready) (rng : Shuffler) (op : RoomOp) (hop : op.IsInside) :
    s.Cleared { s with rooms := s.rooms.apply rng op } [] where
  ready := by
    refine ⟨?_, h.known.of_sessions_eq rfl fun _ => id, h.free, h.failpoint⟩
    rw [roster_inRoom rng s hop s.storage]
    exact h.coherent
  leaves := RoomManager.leaves_inside rng op hop
  settled r := by simp [timesLive, RoomManager.membersOf_apply rng hop]
  presence p := rfl

/-- A player of a room is registered under a positive id. -/
lemma Ready.knows_of_mem (h : s.Ready) {r : ℤ} {room : Room}
    (hroom : s.rooms.rooms.find r = some room) {p : ℤ} (hp : p ∈ room.players) :
    ∃ session, s.Knows p session := by
  have hmembers : s.roster.members r = some (room.roomId, room.players) :=
    RoomManager.membersOf_eq_some.mpr ⟨room, hroom, rfl, rfl⟩
  have hid := (h.coherent.trio _ _ _ hmembers).2.1
  obtain ⟨online, hs⟩ := h.coherent.located p r
    ((h.coherent.index p r).mpr ⟨room.players, hid ▸ hmembers, hp⟩)
  obtain ⟨session, hsession, -⟩ := Option.map_eq_some_iff.mp hs
  exact ⟨session, h.known p session hsession⟩

/-- A room can be settled with any of its players as the winner. -/
lemma Ready.canSettle (h : s.Ready) {room : Room} (hroom : s.rooms.rooms.find d.roomId = some room)
    (hwinner : d.winnerPlayerId ∈ room.players) : s.CanSettle d room where
  winner := hwinner
  registered p hp := by
    obtain ⟨session, hknows⟩ := h.knows_of_mem hroom hp
    exact hknows.registered
  playerIds p hp := by
    obtain ⟨session, hknows⟩ := h.knows_of_mem hroom hp
    exact hknows.positive
  roomId := by
    obtain ⟨hpos, hid, -⟩ := h.coherent.trio _ _ _
      (RoomManager.membersOf_eq_some.mpr ⟨room, hroom, rfl, rfl⟩)
    exact hid ▸ hpos
  failpoint := h.failpoint

lemma membersOf_settled {room : Room} (hid : room.roomId = d.roomId) (nowMs r : ℤ) :
    (s.settled d room nowMs).rooms.membersOf r =
      if r = d.roomId then none else s.rooms.membersOf r := by
  have hfinish : (RoomOp.markFinished room.roomId).IsInside := rfl
  have hsettle : (RoomOp.markSettling d.roomId).IsInside := rfl
  have hfinished : ∀ m : RoomManager, (m.markFinished room.roomId).1.membersOf r = m.membersOf r :=
    fun m => RoomManager.membersOf_apply (m := m) .sorted hfinish r
  have hsettling : (s.rooms.markSettling d.roomId).1.membersOf r = s.rooms.membersOf r :=
    RoomManager.membersOf_apply .sorted hsettle r
  rw [settled, RoomManager.membersOf_destroyRoom, hfinished, hsettling, hid]

/-- A settlement that is refused. -/
lemma cleared_refused (h : s.Ready) (hcode : result.code ≠ .ok) : s.Cleared s [⟨d, result⟩] := by
  refine ⟨h, .refl _, fun r => ?_, fun _ => rfl⟩
  simp [TimerSettlement.Settles, hcode]

/-- A settlement that is carried out. -/
lemma cleared_settled (h : s.Ready) {room : Room} (hroom : s.rooms.rooms.find d.roomId = some room)
    (hid : room.roomId = d.roomId) (hcode : result.code = .ok) (nowMs : ℤ) :
    s.Cleared (s.settled d room nowMs) [⟨d, result⟩] where
  ready := by
    refine ⟨?_, h.known.settled d room nowMs, h.free, ?_⟩
    · exact h.coherent.steps (refines_settled h.coherent hroom nowMs)
    · exact (StorageService.failpoint_foldl_writeChange _ _ _).trans h.failpoint
  leaves r x hr := by
    rw [membersOf_settled hid] at hr
    split_ifs at hr
    exact hr
  settled r := by
    have hmembers : s.rooms.membersOf d.roomId = some (room.roomId, room.players) :=
      RoomManager.membersOf_eq_some.mpr ⟨room, hroom, rfl, rfl⟩
    rw [timesLive, timesLive, membersOf_settled hid]
    by_cases hr : r = d.roomId
    · simp [TimerSettlement.Settles, hr, hcode, hmembers]
    · simp [TimerSettlement.Settles, hr, Ne.symm hr]
  presence p := by
    simp only [presence, SessionManager.getSessionByPlayer, settled,
      SessionManager.lookup_foldl_setRoomId]
    split_ifs
    · rw [Option.map_map]
      rfl
    · rfl

/-- A settlement that has one of the players as the winner. -/
lemma cleared_settle (h : s.Ready) (nowMs : ℤ)
    (hwinner : ∀ room, s.rooms.rooms.find d.roomId = some room → d.winnerPlayerId ∈ room.players) :
    s.Cleared (s.settleByServerResult d nowMs).1 [⟨d, (s.settleByServerResult d nowMs).2⟩] ∧
      (d.IsValid → (s.settleByServerResult d nowMs).1.rooms.membersOf d.roomId = none) := by
  have hrule := settle_rule s d nowMs
  generalize (s.settleByServerResult d nowMs).1 = s' at hrule ⊢
  generalize (s.settleByServerResult d nowMs).2 = result at hrule ⊢
  cases hrule with
  | invalid hd =>
    exact ⟨cleared_refused h (show ErrorCode.invalidPacket ≠ .ok by decide),
      fun hvalid => absurd hvalid hd⟩
  | busy hd hbusy =>
    rw [h.free] at hbusy
    simp at hbusy
  | notFound hd hfree hroom =>
    refine ⟨cleared_refused h (show ErrorCode.roomNotFound ≠ .ok by decide), fun _ => ?_⟩
    simp [RoomManager.membersOf, hroom]
  | failed hd hfree hroom hcannot => exact absurd (h.canSettle hroom (hwinner _ hroom)) hcannot
  | @settled room _ hd hfree hroom hcan hcode =>
    have hid := (h.coherent.trio _ _ _ (RoomManager.membersOf_eq_some.mpr
      ⟨room, hroom, rfl, rfl⟩)).2.1
    refine ⟨cleared_settled h hroom hid hcode nowMs, fun _ => ?_⟩
    rw [membersOf_settled hid, if_pos rfl]

/-- The winner a trustee's action names is a player of the room. -/
lemma winner_applyTrusteeAction {m : RoomManager} {roomId pid : ℤ} {played : PlayerActionResult}
    (h : (m.applyTrusteeAction rng roomId pid).2 = .ok played) (hover : played.gameOver = true) :
    ∃ room, m.rooms.find roomId = some room ∧ played.winnerPlayerId ∈ room.players := by
  unfold RoomManager.applyTrusteeAction at h
  cases hroom : m.rooms.find roomId with
  | none => simp [hroom] at h
  | some room =>
    cases hrequest : room.trusteeRequest pid with
    | error err => simp [hroom, hrequest] at h
    | ok request =>
      simp only [hroom, hrequest, RoomManager.applyPlayerAction] at h
      obtain ⟨hact, written, ended, -, -, rfl⟩ := Room.accepted_of_apply (Prod.ext_iff.mpr ⟨rfl, h⟩)
      obtain rfl : ended = true := hover
      exact ⟨room, rfl, hact.mem⟩

lemma cleared_trusteeRound (h : s.Ready) (rng : Shuffler) (clock : SettlementKind → ℤ → ℤ)
    (session : Session) :
    s.Cleared (s.trusteeRound rng clock session).1 (s.trusteeRound rng clock session).2 := by
  have hmark := cleared_inside h rng (.markPlayerTrustee session.playerId true) rfl
  have hact := cleared_inside hmark.ready rng
    (.applyTrusteeAction session.roomId session.playerId) rfl
  unfold trusteeRound
  dsimp only
  split_ifs
  · cases hreply : (RoomManager.applyTrusteeAction rng
        (s.rooms.markPlayerTrustee session.playerId true).1 session.roomId session.playerId).2 with
    | error err =>
      dsimp only
      exact hmark.trans hact
    | ok played =>
      dsimp only
      split_ifs with hover
      · refine (hmark.trans hact).trans (cleared_settle hact.ready _ fun room hroom => ?_).1
        -- the room has the same players as before the action
        obtain ⟨before, hbefore, hwinner⟩ := winner_applyTrusteeAction hreply hover
        obtain ⟨_, hsame, -, hplayers⟩ := RoomManager.membersOf_eq_some.mp
          (hact.leaves _ _ (RoomManager.membersOf_eq_some.mpr ⟨room, hroom, rfl, rfl⟩))
        obtain rfl := Option.some.inj (hbefore.symm.trans hsame)
        rwa [← hplayers]
      · exact hmark.trans hact
  · exact hmark

/-- In a room of three there is somebody to win against the loser. -/
lemma exists_winner {room : Room} (h : room.HasTrio) (loser : ℤ) :
    ∃ winner, room.pickWinnerForOfflineLose loser = some winner ∧ winner ∈ room.players := by
  cases hfind : room.pickWinnerForOfflineLose loser with
  | some winner => exact ⟨winner, rfl, List.mem_of_find?_eq_some hfind⟩
  | none =>
    have hall : ∀ pid ∈ room.players, pid = loser := fun pid hpid => by
      simpa using List.find?_eq_none.mp hfind pid hpid
    have hsame := List.eq_replicate_iff.mpr ⟨h.1, hall⟩
    have hnodup := h.2
    rw [hsame, List.nodup_replicate] at hnodup
    omega

/-- After the end of a round for a player who has lost, the room is gone. -/
lemma cleared_offlineRound (h : s.Ready) (clock : SettlementKind → ℤ → ℤ) {session : Session}
    (hpos : 0 < session.roomId) :
    s.Cleared (s.offlineRound clock session).1 (s.offlineRound clock session).2 ∧
      (s.offlineRound clock session).1.rooms.membersOf session.roomId = none := by
  unfold offlineRound RoomManager.pickWinnerForOfflineLose
  cases hroom : s.rooms.rooms.find session.roomId with
  | none => exact ⟨.refl h, by simp [RoomManager.membersOf, hroom]⟩
  | some room =>
    have htrio : room.HasTrio := (h.coherent.trio _ _ _
      (RoomManager.membersOf_eq_some.mpr ⟨room, hroom, rfl, rfl⟩)).2.2
    obtain ⟨winner, hpick, hwinner⟩ := exists_winner htrio session.playerId
    obtain ⟨_, hknows⟩ := h.knows_of_mem hroom hwinner
    simp only [Option.bind_some, hpick]
    obtain ⟨hcleared, hgone⟩ := cleared_settle (d := ⟨session.roomId, winner, 1⟩) h
      (clock .offlineTimeoutSettlement session.playerId) fun room' hroom' => by
        rwa [← Option.some.inj (hroom.symm.trans hroom')]
    exact ⟨hcleared, hgone ⟨hpos, hknows.positive, one_pos⟩⟩

/-- The round for one session; the room of a player who has lost is gone afterwards. -/
lemma cleared_sessionRound (h : s.Ready) (rng : Shuffler) (clock : SettlementKind → ℤ → ℤ)
    (nowMs : ℤ) (session : Session) :
    s.Cleared (s.sessionRound rng clock nowMs session).1
        (s.sessionRound rng clock nowMs session).2 ∧
      (0 < session.roomId → session.online = false → 0 < session.offlineAtMs →
        120000 ≤ nowMs - session.offlineAtMs →
        (s.sessionRound rng clock nowMs session).1.rooms.membersOf session.roomId = none) := by
  have hmark := cleared_inside h rng (.markPlayerOffline session.playerId session.offlineAtMs) rfl
  unfold sessionRound
  dsimp only
  split_ifs with hroom honline hsince hlose htrustee htrustee
  · exact ⟨.refl h, fun hpos => absurd hpos (not_lt.mpr hroom)⟩
  · refine ⟨cleared_inside h rng (.markPlayerOnline session.playerId) rfl, fun _ hoff => ?_⟩
    rw [honline] at hoff
    cases hoff
  · exact ⟨.refl h, fun _ _ hpos => absurd hpos (not_lt.mpr hsince)⟩
  · have hplayed := cleared_trusteeRound hmark.ready rng clock session
    obtain ⟨hlost, hgone⟩ := cleared_offlineRound hplayed.ready clock (not_le.mp hroom)
    exact ⟨(hmark.trans hplayed).trans hlost, fun _ _ _ _ => hgone⟩
  · omega
  · have hplayed := cleared_trusteeRound hmark.ready rng clock session
    refine ⟨?_, fun _ _ _ h => absurd h hlose⟩
    rw [List.append_nil]
    exact hmark.trans hplayed
  · exact ⟨hmark, fun _ _ _ h => absurd h hlose⟩

/-- The rounds for all sessions. -/
lemma cleared_sessionRounds (h : s.Ready) (rng : Shuffler) (clock : SettlementKind → ℤ → ℤ)
    (nowMs : ℤ) (order : List Session) :
    s.Cleared (s.sessionRounds rng clock nowMs order).1
        (s.sessionRounds rng clock nowMs order).2 ∧
      ∀ session ∈ order, 0 < session.roomId → session.online = false → 0 < session.offlineAtMs →
        120000 ≤ nowMs - session.offlineAtMs →
        (s.sessionRounds rng clock nowMs order).1.rooms.membersOf session.roomId = none := by
  induction order generalizing s with
  | nil => exact ⟨.refl h, by simp⟩
  | cons session rest ih =>
    obtain ⟨hfirst, hgone⟩ := cleared_sessionRound h rng clock nowMs session
    obtain ⟨hrest, hlater⟩ := ih hfirst.ready
    refine ⟨hfirst.trans hrest, fun other hother hpos hoff hsince hlose => ?_⟩
    rcases List.mem_cons.mp hother with rfl | hother
    · -- a room that is gone does not come back
      rw [Option.eq_none_iff_forall_ne_some]
      intro x hx
      have hback := hrest.leaves _ x hx
      rw [hgone hpos hoff hsince hlose] at hback
      cases hback
    · exact hlater other hother hpos hoff hsince hlose

/-! ### The start of a round -/

/-- Until the copy of the sessions a round consists of operations of the server. -/
lemma beforeSessions_eq (rng : Shuffler) (s : GameServer) (idle : List IdleConnection)
    (nowMs timeoutMs : ℤ) :
    s.beforeSessions idle nowMs timeoutMs =
      (openingOps idle nowMs timeoutMs).foldl (GameServer.apply rng) s := by
  rw [openingOps, List.foldl_append, List.foldl_map]
  rfl

lemma storage_onConnectionClosed (s : GameServer) (connectionId nowMs offlineAtMs : ℤ) :
    (s.onConnectionClosed connectionId nowMs offlineAtMs).storage = s.storage := by
  unfold onConnectionClosed
  split <;> rfl

lemma membersOf_onConnectionClosed (s : GameServer) (connectionId nowMs offlineAtMs : ℤ) :
    (s.onConnectionClosed connectionId nowMs offlineAtMs).rooms.membersOf = s.rooms.membersOf := by
  unfold onConnectionClosed
  split
  · rfl
  next p _ =>
    have hmark : (RoomOp.markPlayerOffline p offlineAtMs).IsInside := rfl
    exact funext fun r => RoomManager.membersOf_apply (m := s.rooms) .sorted hmark r

/-- The rows of the storage and the members of the rooms do not change until then. -/
lemma closeIdle_spec (s : GameServer) (idle : List IdleConnection) :
    (s.closeIdle idle).storage = s.storage ∧
      (s.closeIdle idle).rooms.membersOf = s.rooms.membersOf := by
  induction idle generalizing s with
  | nil => exact ⟨rfl, rfl⟩
  | cons c idle ih =>
    obtain ⟨hstorage, hmembers⟩ := ih (s.onConnectionClosed c.connectionId c.nowMs c.offlineAtMs)
    exact ⟨hstorage.trans (storage_onConnectionClosed s _ _ _),
      hmembers.trans (membersOf_onConnectionClosed s _ _ _)⟩

/-- What is known in every state that operations reach. -/
lemma known_of_run {auth : AuthTokenService} {redisEnabled : Bool} {ops : List ServerOp}
    (hrun : Run.exec (step rng) (start auth redisEnabled) ops = some s)
    (hclock : ∀ op ∈ ops, op.PositiveClock) : s.KnowsSessions ∧ s.settlingRooms = ∅ := by
  refine Run.invariant_along (I := fun s : GameServer => s.KnowsSessions ∧ s.settlingRooms = ∅)
    (G := fun _ op => op.PositiveClock) ?_ ?_ (Run.along_of_forall _ hclock _) hrun
  · rintro s op s' ⟨hknown, hfree⟩ hop hstep
    obtain rfl := Run.total_eq_some.mp hstep
    exact ⟨hknown.apply hop, (settlingRooms_apply rng s op).trans hfree⟩
  · exact ⟨fun p session hp => by simp [start] at hp, rfl⟩

lemma ready_beforeSessions {auth : AuthTokenService} {redisEnabled : Bool} {ops : List ServerOp}
    (hrun : Run.exec (step rng) (start auth redisEnabled) ops = some s)
    (hclock : ∀ op ∈ ops, op.PositiveClock) {idle : List IdleConnection}
    (hidle : ∀ c ∈ idle, 0 < c.nowMs) (hstorage : s.storage.failpoint = .none)
    (nowMs timeoutMs : ℤ) :
    (s.beforeSessions idle nowMs timeoutMs).Ready ∧
      Agreement (s.beforeSessions idle nowMs timeoutMs) := by
  have hrun' : Run.exec (step rng) (start auth redisEnabled)
      (ops ++ openingOps idle nowMs timeoutMs) =
        some (s.beforeSessions idle nowMs timeoutMs) := by
    rw [Run.exec_append, hrun, beforeSessions_eq rng]
    exact Run.exec_total _ _ _
  have hclock' : ∀ op ∈ ops ++ openingOps idle nowMs timeoutMs, op.PositiveClock := by
    intro op hop
    simp only [openingOps, List.mem_append, List.mem_map, List.mem_singleton] at hop
    rcases hop with hop | ⟨c, hc, rfl⟩ | rfl
    · exact hclock op hop
    · intro t ht
      obtain rfl := Option.some.inj ht
      exact hidle c hc
    · simp [ServerOp.PositiveClock, ServerOp.closedAtMs]
  obtain ⟨hknown, hfree⟩ := known_of_run hrun' hclock'
  obtain ⟨hcoherent, hkept⟩ := coherent_of_run hrun'
  refine ⟨⟨hcoherent, hknown, hfree, ?_⟩, agreement_of_coherent hcoherent hkept⟩
  exact (congrArg StorageService.failpoint (closeIdle_spec s idle).1).trans hstorage

/-! ### The rooms after a round -/

/-- A player of a room who has lost has a session in the copy that says so. -/
lemma exists_expired (h : s.Ready) (hagree : Agreement s) {r p : ℤ} {room : Room}
    (hroom : s.rooms.rooms.find r = some room) (hp : p ∈ room.players)
    (hexpired : s.Expired nowMs p) :
    ∃ session ∈ values s.sessions.playerToSession, session.roomId = r ∧ 0 < session.roomId ∧
      session.online = false ∧ 0 < session.offlineAtMs ∧
      120000 ≤ nowMs - session.offlineAtMs := by
  obtain ⟨session, hsession, hoff, hlose⟩ := hexpired
  obtain ⟨hpos, session', hsession', hid⟩ := (hagree.index_iff_session p r).mp
    ((hagree.member_iff_index p r).mp ⟨room, hroom, hp⟩)
  obtain rfl := Option.some.inj (hsession.symm.trans hsession')
  exact ⟨session, mem_values.mpr ⟨p, hsession⟩, hid, hid ▸ hpos, hoff,
    (h.known p session hsession).stamped hoff, hlose⟩

/-- A session that is as offline as before. -/
lemma Expired.of_presence {p : ℤ} (h : s'.Expired nowMs p)
    (hpresence : s'.presence p = s.presence p) : s.Expired nowMs p := by
  obtain ⟨session, hsession, hoff, hlose⟩ := h
  rw [presence, hsession, Option.map_some, presence] at hpresence
  obtain ⟨before, hbefore, heq⟩ := Option.map_eq_some_iff.mp hpresence.symm
  obtain ⟨honline, hsince⟩ := Prod.mk.inj heq
  exact ⟨before, hbefore, honline.trans hoff, hsince.symm ▸ hlose⟩

/-- After a round of the timer no room is left with a player whose session has been offline for two
minutes, and each room that had such players was settled successfully once in the round, whatever
the order of the sessions. -/
theorem expired_rooms_settled_once {auth : AuthTokenService} {redisEnabled : Bool}
    {ops : List ServerOp}
    (hrun : Run.exec (step rng) (start auth redisEnabled) ops = some s)
    (hclock : ∀ op ∈ ops, op.PositiveClock) (clock : SettlementKind → ℤ → ℤ) (nowMs timeoutMs : ℤ)
    {idle : List IdleConnection} (hidle : ∀ c ∈ idle, 0 < c.nowMs)
    (hstorage : s.storage.failpoint = .none) {order : List Session}
    (horder : (order : Multiset Session) =
      values (s.beforeSessions idle nowMs timeoutMs).sessions.playerToSession) :
    (∀ r room,
      (s.timerRound rng clock idle nowMs timeoutMs order).1.rooms.rooms.find r = some room →
        ∀ p ∈ room.players,
          ¬ (s.timerRound rng clock idle nowMs timeoutMs order).1.Expired nowMs p) ∧
    ∀ r room, s.rooms.rooms.find r = some room →
      (∃ p ∈ room.players, (s.beforeSessions idle nowMs timeoutMs).Expired nowMs p) →
        (s.timerRound rng clock idle nowMs timeoutMs order).2.countP
          (TimerSettlement.Settles r) = 1 := by
  obtain ⟨hready, hagree⟩ := ready_beforeSessions hrun hclock hidle hstorage nowMs timeoutMs
  have hmembers : (s.beforeSessions idle nowMs timeoutMs).rooms.membersOf = s.rooms.membersOf :=
    (closeIdle_spec s idle).2
  rw [timerRound]
  generalize s.beforeSessions idle nowMs timeoutMs = copied at *
  obtain ⟨hcleared, hgone⟩ := cleared_sessionRounds hready rng clock nowMs order
  -- the room of a player who has lost is gone in the end
  have hnone : ∀ r room, copied.rooms.rooms.find r = some room → ∀ p ∈ room.players,
      copied.Expired nowMs p →
        (copied.sessionRounds rng clock nowMs order).1.rooms.membersOf r = none := by
    intro r room hroom p hp hexpired
    obtain ⟨session, hmem, rfl, hpos, hoff, hsince, hlose⟩ :=
      exists_expired hready hagree hroom hp hexpired
    rw [← horder, Multiset.mem_coe] at hmem
    exact hgone session hmem hpos hoff hsince hlose
  constructor
  · intro r room hroom p hp hexpired
    have hlive := RoomManager.membersOf_eq_some.mpr ⟨room, hroom, rfl, rfl⟩
    obtain ⟨before, hbefore, -, hplayers⟩ :=
      RoomManager.membersOf_eq_some.mp (hcleared.leaves _ _ hlive)
    have hdead := hnone r before hbefore p (hplayers.symm ▸ hp)
      (hexpired.of_presence (hcleared.presence p))
    rw [hlive] at hdead
    cases hdead
  · rintro r room hroom ⟨p, hp, hexpired⟩
    have hlive : copied.rooms.membersOf r = some (room.roomId, room.players) := by
      rw [hmembers]
      exact RoomManager.membersOf_eq_some.mpr ⟨room, hroom, rfl, rfl⟩
    obtain ⟨before, hbefore, -, hplayers⟩ := RoomManager.membersOf_eq_some.mp hlive
    have hcount := hcleared.settled r
    rw [timesLive, timesLive, hlive,
      hnone r before hbefore p (hplayers.symm ▸ hp) hexpired] at hcount
    simpa using hcount

/-- Two players of a room leave; two minutes after the second of them the room is settled once. -/
theorem expired_room_settled_once :
    let ops := matchRun ++ [.connectionClosed 11 1000 1000, .connectionClosed 12 2000 2000]
    ∃ s, Run.exec (step .sorted) (start {} false) ops = some s ∧ ∃ order,
      (s.timerRound .sorted (fun _ _ => 200000) [] 200000 30000 order).2.countP
        (TimerSettlement.Settles 1) = 1 := by
  intro ops
  refine ⟨_, Run.exec_total _ _ _, [3, 1, 2].filterMap
    (ops.foldl (apply .sorted) (start {} false)).sessions.getSessionByPlayer, ?_⟩
  have hfacts : ((ops.foldl (apply .sorted) (start {} false)).rooms.rooms.find 1).map
      Room.players = some [1, 2, 3] ∧
      (((ops.foldl (apply .sorted) (start {} false)).beforeSessions []
        200000 30000).sessions.getSessionByPlayer 2).map
          (fun session => (session.online, session.offlineAtMs)) = some (false, 2000) := by
    decide +kernel
  obtain ⟨hroom, hsession⟩ := hfacts
  obtain ⟨room, hroom, hplayers⟩ := Option.map_eq_some_iff.mp hroom
  obtain ⟨session, hsession, hoff⟩ := Option.map_eq_some_iff.mp hsession
  have hsince : session.offlineAtMs = 2000 := congrArg Prod.snd hoff
  have hexpired : ((ops.foldl (apply .sorted) (start {} false)).beforeSessions []
      200000 30000).Expired 200000 2 := ⟨session, hsession, congrArg Prod.fst hoff, by omega⟩
  exact (expired_rooms_settled_once (Run.exec_total (apply .sorted) (start {} false) ops)
    (by decide) (fun _ _ => 200000) 200000 30000 (by simp) (by decide +kernel)
    (by decide +kernel)).2 1 room hroom ⟨2, by rw [hplayers]; decide, hexpired⟩

end GameServer

end DdzServer
