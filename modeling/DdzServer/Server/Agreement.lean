import DdzServer.Server.Roster
import DdzServer.Server.ServerRun

/-!
# The managers agree

Every operation of the server takes steps of the roster, so the roster of every reachable state is
coherent: sessions, players, queue and rooms tell the same story.
-/

namespace DdzServer

open UnorderedMap Relation

namespace GameServer

variable {rng : Shuffler} {s : GameServer}

/-- The roster that the managers of a server represent. -/
def roster (s : GameServer) : Roster where
  conn := s.sessions.connToPlayer.lookup
  session p := (s.sessions.playerToSession.lookup p).map fun sess => (sess.roomId, sess.online)
  state := s.players.getState
  waiting := s.matching.waiting
  members := s.rooms.membersOf
  roomOf := s.rooms.playerToRoom.lookup

@[simp] lemma roster_session (s : GameServer) (p : ℤ) : s.roster.session p =
    (s.sessions.playerToSession.lookup p).map fun sess => (sess.roomId, sess.online) := rfl

@[simp] lemma roster_state (s : GameServer) (p : ℤ) : s.roster.state p = s.players.getState p := rfl

lemma sessionRoomId_eq (s : GameServer) (p : ℤ) : s.sessionRoomId p = s.roster.roomId p := by
  simp only [sessionRoomId, SessionManager.getSessionByPlayer, Roster.roomId, roster]
  cases s.sessions.playerToSession.lookup p <;> rfl

/-- A server that represents one roster after another takes steps. -/
abbrev Refines (s s' : GameServer) : Prop := ReflTransGen Roster.Step s.roster s'.roster

lemma refines_of_eq {s s' : GameServer} (h : s'.roster = s.roster) : Refines s s' := by
  rw [Refines, h]

lemma refines_of_step {s s' : GameServer} {R : Roster} (hstep : s.roster.Step R)
    (h : s'.roster = R) : Refines s s' := .single (h ▸ hstep)

/-! ### The roster after a call of a manager -/

section Calls

variable (s)

lemma roster_forceState (p : ℤ) (state : PlayerState) :
    ({ s with players := s.players.forceState p state } : GameServer).roster =
      { s.roster with state := fun q => if q = p then state else s.roster.state q } :=
  Roster.ext rfl rfl (funext fun q => PlayerManager.getState_forceState s.players p q state) rfl rfl
    rfl

lemma roster_upsertPlayer (p : ℤ) (nickname : CppString) (coin : ℤ) :
    ({ s with players := s.players.upsertPlayer p nickname coin } : GameServer).roster =
      s.roster :=
  Roster.ext rfl rfl
    (funext fun q => PlayerManager.getState_upsertPlayer s.players p nickname coin q) rfl rfl rfl

lemma roster_bindLogin (p c nowMs : ℤ) :
    ({ s with sessions := (s.sessions.bindLogin p c nowMs).1 } : GameServer).roster =
      { s.roster with
        conn := (s.sessions.bindLogin p c nowMs).1.connToPlayer.lookup
        session := fun q =>
          if q = p then some (s.roster.roomId p, true) else s.roster.session q } := by
  refine Roster.ext rfl (funext fun q => ?_) rfl rfl rfl rfl
  simp only [roster_session, SessionManager.lookup_bindLogin, ← sessionRoomId_eq]
  split_ifs
  · simp only [Option.map_some, sessionRoomId, SessionManager.getSessionByPlayer, at']
    cases s.sessions.playerToSession.lookup p <;> rfl
  · rfl

lemma conn_bindLogin {p c nowMs d q : ℤ}
    (h : (s.sessions.bindLogin p c nowMs).1.connToPlayer.lookup d = some q) :
    q = p ∨ s.roster.conn d = some q := by
  rw [SessionManager.lookup_conn_bindLogin] at h
  split_ifs at h
  · exact Or.inl (Option.some.inj h).symm
  · exact Or.inr h

variable {s}

lemma roomId_of_lookup {p : ℤ} {session : Session}
    (h : s.sessions.playerToSession.lookup p = some session) :
    s.roster.roomId p = session.roomId := by
  simp [Roster.roomId, roster, h]

lemma roster_rebindForReconnect {p : ℤ} {session : Session}
    (h : s.sessions.playerToSession.lookup p = some session) (c nowMs : ℤ) :
    ({ s with sessions := (s.sessions.rebindForReconnect p c nowMs).1 } : GameServer).roster =
      { s.roster with
        conn := (s.sessions.rebindForReconnect p c nowMs).1.connToPlayer.lookup
        session := fun q =>
          if q = p then some (s.roster.roomId p, true) else s.roster.session q } := by
  refine Roster.ext rfl (funext fun q => ?_) rfl rfl rfl rfl
  simp only [roster_session, SessionManager.lookup_rebindForReconnect h, roomId_of_lookup h]
  split_ifs <;> rfl

lemma conn_rebindForReconnect {p c nowMs d q : ℤ} {session : Session}
    (h : s.sessions.playerToSession.lookup p = some session)
    (hd : (s.sessions.rebindForReconnect p c nowMs).1.connToPlayer.lookup d = some q) :
    q = p ∨ s.roster.conn d = some q := by
  rw [SessionManager.lookup_conn_rebindForReconnect h] at hd
  split_ifs at hd
  · exact Or.inl (Option.some.inj hd).symm
  · exact Or.inr hd

lemma roster_markOffline {p c : ℤ} {session : Session}
    (hconn : s.sessions.connToPlayer.lookup c = some p)
    (h : s.sessions.playerToSession.lookup p = some session) (nowMs : ℤ) :
    ({ s with sessions := (s.sessions.markOfflineByConnection c nowMs).1 } : GameServer).roster =
      { s.roster with
        conn := (s.sessions.markOfflineByConnection c nowMs).1.connToPlayer.lookup
        session := fun q =>
          if q = p then some (s.roster.roomId p, false) else s.roster.session q } := by
  refine Roster.ext rfl (funext fun q => ?_) rfl rfl rfl rfl
  simp only [roster_session, SessionManager.lookup_markOfflineByConnection hconn h,
    roomId_of_lookup h]
  split_ifs <;> rfl

lemma conn_markOffline {p c nowMs d q : ℤ} (hconn : s.sessions.connToPlayer.lookup c = some p)
    (hd : (s.sessions.markOfflineByConnection c nowMs).1.connToPlayer.lookup d = some q) :
    s.roster.conn d = some q := by
  rw [SessionManager.lookup_conn_markOfflineByConnection hconn] at hd
  split_ifs at hd
  exact hd

variable (s)

lemma roster_setRoomId (p r : ℤ) :
    ({ s with sessions := (s.sessions.setRoomId p r).1 } : GameServer).roster =
      { s.roster with
        session := fun q =>
          if q = p then (s.roster.session q).map fun x => (r, x.2) else s.roster.session q } := by
  refine Roster.ext ?_ (funext fun q => ?_) rfl rfl rfl rfl
  · exact congrArg (fun t : UnorderedMap ℤ ℤ => fun c => t.lookup c)
      (SessionManager.connToPlayer_setRoomId _ _ _)
  · simp only [roster_session, SessionManager.lookup_setRoomId]
    split_ifs
    · rw [Option.map_map, Option.map_map]
      rfl
    · rfl

lemma roster_createRoom (mode : ℤ) (players : List ℤ) :
    ({ s with rooms := (s.rooms.createRoom mode players).1 } : GameServer).roster =
      { s.roster with
        members := fun r =>
          if r = s.rooms.rooms.nextId then some (s.rooms.rooms.nextId, players)
          else s.roster.members r
        roomOf := fun p =>
          if p ∈ players then some s.rooms.rooms.nextId else s.roster.roomOf p } := by
  refine Roster.ext rfl rfl rfl rfl (funext fun r => ?_)
    (funext fun p => RoomManager.playerToRoom_createRoom s.rooms mode players p)
  simp only [roster, RoomManager.membersOf_createRoom]
  split_ifs with hr
  · rw [hr]
  · rfl

variable {s}

lemma roster_destroyRoom {r : ℤ} {players : List ℤ}
    (h : s.rooms.membersOf r = some (r, players)) :
    ({ s with rooms := (s.rooms.destroyRoom r).1 } : GameServer).roster =
      { s.roster with
        members := fun r' => if r' = r then none else s.roster.members r'
        roomOf := fun p => if p ∈ players then none else s.roster.roomOf p } :=
  Roster.ext rfl rfl rfl rfl (funext fun r' => RoomManager.membersOf_destroyRoom s.rooms r r')
    (funext fun p => RoomManager.playerToRoom_destroyRoom h p)

end Calls

/-! ### The operations refine the steps -/

lemma refines_loggedIn (s : GameServer) (playerId : ℤ) (nickname : CppString)
    (connectionId nowMs : ℤ) :
    Refines s (s.loggedIn playerId nickname connectionId nowMs) := by
  refine refines_of_step (.bind playerId
    (s.sessions.bindLogin playerId connectionId nowMs).1.connToPlayer.lookup
      fun c q hq => s.conn_bindLogin hq) ?_
  refine Roster.ext rfl ?_ (funext fun q => ?_) rfl rfl rfl
  · have hsession := congrArg Roster.session (s.roster_bindLogin playerId connectionId nowMs)
    exact hsession
  · rw [← sessionRoomId_eq]
    simp only [roster_state, loggedIn, PlayerManager.getState_forceState,
      PlayerManager.getState_upsertPlayer]

lemma refines_reconnected {playerId : ℤ} {session : Session}
    (h : s.sessions.playerToSession.lookup playerId = some session) (connectionId nowMs : ℤ) :
    Refines s (s.reconnected playerId session connectionId nowMs) := by
  refine refines_of_step (.bind playerId
    (s.sessions.rebindForReconnect playerId connectionId nowMs).1.connToPlayer.lookup
      fun c q hq => conn_rebindForReconnect h hq) ?_
  refine Roster.ext rfl ?_ (funext fun q => ?_) rfl rfl rfl
  · have hsession := congrArg Roster.session (roster_rebindForReconnect h connectionId nowMs)
    exact hsession
  · rw [roomId_of_lookup h]
    simp only [roster_state, reconnected, PlayerManager.getState_forceState]

lemma refines_connectionClosed (h : s.roster.Coherent) (hkept : s.matching.WellKept)
    (connectionId nowMs offlineAtMs : ℤ) :
    Refines s (s.onConnectionClosed connectionId nowMs offlineAtMs) ∧
      (s.onConnectionClosed connectionId nowMs offlineAtMs).matching.WellKept := by
  unfold onConnectionClosed
  cases hconn : s.sessions.connToPlayer.lookup connectionId with
  | none =>
    have hget : s.sessions.getPlayerIdByConnection connectionId = none := hconn
    rw [hget]
    exact ⟨.refl, hkept⟩
  | some playerId =>
    have hget : s.sessions.getPlayerIdByConnection connectionId = some playerId := hconn
    have hsession : s.roster.session playerId ≠ none := h.bound connectionId playerId hconn
    obtain ⟨session, hlookup⟩ : ∃ session,
        s.sessions.playerToSession.lookup playerId = some session :=
      Option.ne_none_iff_exists'.mp fun hnone => hsession (by simp [roster, hnone])
    have hmatching :
        (if s.players.getState playerId = .matching then (s.matching.cancel playerId).1
          else s.matching).WellKept ∧
        (if s.players.getState playerId = .matching then (s.matching.cancel playerId).1
          else s.matching).waiting.Sublist s.matching.waiting := by
      split_ifs
      · exact hkept.cancel playerId
      · exact ⟨hkept, .refl _⟩
    rw [hget]
    refine ⟨refines_of_step (.unbind playerId
      (s.sessions.markOfflineByConnection connectionId nowMs).1.connToPlayer.lookup _
        (fun c q hq => conn_markOffline hconn hq) hsession hmatching.2) ?_, hmatching.1⟩
    have hinside : (RoomOp.markPlayerOffline playerId offlineAtMs).IsInside := rfl
    refine Roster.ext rfl ?_ (funext fun q => ?_) rfl (funext fun r => ?_) (funext fun p => ?_)
    · have hsession := congrArg Roster.session (roster_markOffline hconn hlookup nowMs)
      exact hsession
    · simp only [roster_state, PlayerManager.getState_forceState]
    · exact RoomManager.membersOf_apply (m := s.rooms) .sorted hinside r
    · exact congrArg (Finmap.lookup p)
        (RoomManager.playerToRoom_apply (m := s.rooms) .sorted hinside)

lemma refines_waitingWith (hkept : s.matching.WellKept) {connectionId playerId nowMs : ℤ}
    {player : PlayerData} (hconn : s.sessions.connToPlayer.lookup connectionId = some playerId)
    (hplayer : s.players.players.lookup playerId = some player) (hlobby : player.state = .lobby)
    (hfree : s.matching.matchingIndex.lookup playerId = none) :
    Refines s (s.waitingWith player playerId nowMs) := by
  have hnot : playerId ∉ s.matching.waiting := by
    intro hmem
    rw [hkept.index, if_pos hmem] at hfree
    cases hfree
  have hstate : s.roster.state playerId = .lobby := by
    simp [PlayerManager.getState, at', hplayer, hlobby]
  refine refines_of_step (.enqueue connectionId playerId hconn hstate hnot) ?_
  refine Roster.ext rfl rfl (funext fun q => ?_) ?_ rfl rfl
  · exact PlayerManager.getState_write _ _ _ _
  · exact MatchManager.waiting_joined _ _

lemma refines_matchedUp (hthree : 3 ≤ s.matching.waiting.length) : Refines s s.matchedUp := by
  have hnew : s.roster.members s.rooms.rooms.nextId = none := by
    simp [roster, RoomManager.membersOf, Table.find_nextId]
  refine refines_of_step (.form s.rooms.rooms.nextId (s.matching.waiting.take 3)
    (s.matching.waiting.drop 3) (List.take_append_drop 3 _).symm
    (by rw [List.length_take, min_eq_left hthree]) s.rooms.rooms.nextId_pos hnew) ?_
  refine Roster.ext ?_ (funext fun q => ?_) (funext fun q => ?_) ?_ (funext fun r => ?_)
    (funext fun p => ?_)
  · exact congrArg (fun t : UnorderedMap ℤ ℤ => fun c => t.lookup c)
      (SessionManager.connToPlayer_foldl_setRoomId _ _ _)
  · simp only [roster_session, matchedUp, SessionManager.lookup_foldl_setRoomId]
    split_ifs
    · rw [Option.map_map, Option.map_map]
      rfl
    · rfl
  · exact PlayerManager.getState_forceStates _ _ _ _
  · exact MatchManager.waiting_popped _
  · simp only [roster, matchedUp, RoomManager.membersOf_createRoom]
    split_ifs with hr
    · rw [hr]
    · rfl
  · exact RoomManager.playerToRoom_createRoom _ _ _ _

lemma refines_match (hkept : s.matching.WellKept) {s' : GameServer} {connectionId nowMs : ℤ}
    (hrule : MatchRule s connectionId nowMs s') : Refines s s' ∧ s'.matching.WellKept := by
  cases hrule with
  | refused => exact ⟨.refl, hkept⟩
  | waiting hconn hplayer hlobby hfree =>
    exact ⟨refines_waitingWith hkept hconn hplayer hlobby hfree, hkept.joined hfree⟩
  | matched hconn hplayer hlobby hfree hthree =>
    refine ⟨(refines_waitingWith hkept hconn hplayer hlobby hfree).trans (refines_matchedUp ?_),
      (hkept.joined hfree).popped⟩
    change 3 ≤ (s.matching.joined _).waiting.length
    rw [MatchManager.waiting_joined, List.length_append, MatchManager.waiting, List.length_map]
    simp only [List.length_singleton]
    omega

lemma refines_cancel (hkept : s.matching.WellKept) {s' : GameServer} {connectionId : ℤ}
    (hrule : CancelRule s connectionId s') : Refines s s' ∧ s'.matching.WellKept := by
  cases hrule with
  | refused => exact ⟨.refl, hkept⟩
  | failed playerId =>
    obtain ⟨hkept', hsub⟩ := hkept.cancel playerId
    exact ⟨refines_of_step (.release _ s.roster.state hsub fun _ => Or.inl rfl) rfl, hkept'⟩
  | @cancelled playerId hstate =>
    obtain ⟨hkept', hsub⟩ := hkept.cancel playerId
    refine ⟨refines_of_step (.release _ (s.players.forceState playerId .lobby).getState hsub
      fun q => ?_) rfl, hkept'⟩
    rw [PlayerManager.getState_forceState]
    split_ifs with hq
    · exact Or.inr ⟨hq ▸ hstate, rfl⟩
    · exact Or.inl rfl

/-- Players who waited too long are in the lobby afterwards, unless they did something else. -/
lemma getState_foldl_leaveQueue (late : List MatchPlayer) (players : PlayerManager) (q : ℤ) :
    (late.foldl leaveQueue players).getState q =
      if q ∈ late.map MatchPlayer.playerId ∧ players.getState q = .matching then .lobby
      else players.getState q := by
  induction late generalizing players with
  | nil => simp
  | cons p late ih =>
    have hfirst : (leaveQueue players p).getState q =
        if q = p.playerId ∧ players.getState q = .matching then .lobby
        else players.getState q := by
      unfold leaveQueue
      split_ifs with hstate hq hq
      · rw [PlayerManager.getState_forceState, if_pos hq.1]
      · rw [PlayerManager.getState_forceState, if_neg fun heq => hq ⟨heq, heq ▸ hstate⟩]
      · exact absurd (hq.1 ▸ hq.2) hstate
      · rfl
    rw [List.foldl_cons, ih, hfirst]
    by_cases hq : q = p.playerId
    · by_cases hstate : players.getState q = .matching
      · simp [← hq, hstate]
      · simp [← hq, hstate]
    · simp [hq]

lemma refines_matchTimeout (hkept : s.matching.WellKept) (nowMs timeoutMs : ℤ) :
    Refines s (s.handleMatchTimeout nowMs timeoutMs).1 ∧
      (s.handleMatchTimeout nowMs timeoutMs).1.matching.WellKept := by
  obtain ⟨hkept', hsub, -⟩ := hkept.popTimeoutPlayers nowMs timeoutMs
  refine ⟨refines_of_step (.release _ _ hsub fun q => ?_) rfl, hkept'⟩
  have hstate := getState_foldl_leaveQueue
    (s.matching.popTimeoutPlayers nowMs timeoutMs).2 s.players q
  split_ifs at hstate with hlate
  · exact Or.inr ⟨hlate.2, hstate⟩
  · exact Or.inl hstate

/-- Operations inside a room leave the roster as it is. -/
lemma roster_inRoom (rng : Shuffler) (s : GameServer) {op : RoomOp} (hop : op.IsInside)
    (storage : StorageService) :
    { s with rooms := s.rooms.apply rng op, storage := storage }.roster = s.roster := by
  refine Roster.ext rfl rfl rfl rfl (funext fun r => ?_) (funext fun p => ?_)
  · exact RoomManager.membersOf_apply (m := s.rooms) rng hop r
  · exact congrArg (Finmap.lookup p) (RoomManager.playerToRoom_apply (m := s.rooms) rng hop)

lemma refines_settled (h : s.roster.Coherent) {d : ServerSettlementDecision} {room : Room}
    (hroom : s.rooms.rooms.find d.roomId = some room) (nowMs : ℤ) :
    Refines s (s.settled d room nowMs) := by
  have hmembers : s.rooms.membersOf d.roomId = some (room.roomId, room.players) :=
    RoomManager.membersOf_eq_some.mpr ⟨room, hroom, rfl, rfl⟩
  have hid : room.roomId = d.roomId := (h.trio _ _ _ hmembers).2.1
  rw [hid] at hmembers
  -- the marks leave the members of the rooms alone
  have hsettling : (RoomOp.markSettling d.roomId).IsInside := rfl
  have hfinished : (RoomOp.markFinished d.roomId).IsInside := rfl
  have hmarked : ∀ r,
      ((s.rooms.markSettling d.roomId).1.markFinished d.roomId).1.membersOf r =
        s.rooms.membersOf r := fun r =>
    (RoomManager.membersOf_apply (m := (s.rooms.markSettling d.roomId).1) .sorted hfinished r).trans
      (RoomManager.membersOf_apply (m := s.rooms) .sorted hsettling r)
  have hindex :
      ((s.rooms.markSettling d.roomId).1.markFinished d.roomId).1.playerToRoom =
        s.rooms.playerToRoom :=
    (RoomManager.playerToRoom_apply (m := (s.rooms.markSettling d.roomId).1) .sorted
        hfinished).trans
      (RoomManager.playerToRoom_apply (m := s.rooms) .sorted hsettling)
  refine refines_of_step (.close d.roomId room.players hmembers) ?_
  refine Roster.ext ?_ (funext fun q => ?_) (funext fun q => ?_) rfl (funext fun r => ?_)
    (funext fun p => ?_)
  · exact congrArg (fun t : UnorderedMap ℤ ℤ => fun c => t.lookup c)
      (SessionManager.connToPlayer_foldl_setRoomId _ _ _)
  · simp only [roster_session, settled, SessionManager.lookup_foldl_setRoomId]
    split_ifs
    · rw [Option.map_map, Option.map_map]
      rfl
    · rfl
  · simp only [roster_state, settled, PlayerManager.getState_forceStates,
      PlayerManager.getState_addCoins]
  · simp only [roster, settled, hid, RoomManager.membersOf_destroyRoom, hmarked]
  · simp only [roster, settled, hid]
    rw [RoomManager.playerToRoom_destroyRoom ((hmarked d.roomId).trans hmembers), hindex]

lemma refines_settle (h : s.roster.Coherent) {s' : GameServer} {d : ServerSettlementDecision}
    {nowMs : ℤ} {result : SettlementResult} (hrule : SettleRule s d nowMs s' result) :
    Refines s s' ∧ s'.matching = s.matching := by
  cases hrule with
  | invalid => exact ⟨.refl, rfl⟩
  | busy => exact ⟨.refl, rfl⟩
  | notFound => exact ⟨.refl, rfl⟩
  | failed =>
    have hinside : (RoomOp.markSettling d.roomId).IsInside := rfl
    exact ⟨refines_of_eq (roster_inRoom .sorted s hinside _), rfl⟩
  | settled hd hfree hroom => exact ⟨refines_settled h hroom nowMs, rfl⟩

lemma roster_heartbeat (s : GameServer) (connectionId nowMs : ℤ) :
    { s with
      sessions := (s.sessions.updateHeartbeatByConnection connectionId nowMs).1 }.roster =
      s.roster := by
  refine Roster.ext ?_ (funext fun q => ?_) rfl rfl rfl rfl
  · exact congrArg (fun t : UnorderedMap ℤ ℤ => fun c => t.lookup c)
      (SessionManager.connToPlayer_updateHeartbeat _ _ _)
  · simp only [roster_session]
    rcases s.sessions.lookup_updateHeartbeat connectionId nowMs q with heq | ⟨sess, hs, heq⟩
    · rw [heq]
    · rw [heq, hs]
      rfl

/-- Every operation of a server with a coherent roster refines steps of the roster. -/
theorem refines_apply (rng : Shuffler) (h : s.roster.Coherent) (hkept : s.matching.WellKept)
    (op : ServerOp) :
    Refines s (s.apply rng op) ∧ (s.apply rng op).matching.WellKept := by
  cases op with
  | login connectionId body nowMs redis =>
    rw [apply]
    cases hp : s.loginPlayer body nowMs with
    | none =>
      rw [(handleLogin_of_none connectionId redis hp).1]
      exact ⟨.refl, hkept⟩
    | some playerId =>
      rw [(handleLogin_of_some connectionId redis hp).2.1]
      exact ⟨refines_loggedIn s playerId _ connectionId nowMs, hkept⟩
  | reconnect connectionId body nowMs redis =>
    rw [apply]
    cases hp : s.reconnectPlayer body nowMs redis with
    | none =>
      rw [(handleReconnect_of_none connectionId hp).1]
      exact ⟨.refl, hkept⟩
    | some playerId =>
      obtain ⟨session, hlookup, heq, -⟩ := handleReconnect_of_some connectionId hp
      rw [heq]
      exact ⟨refines_reconnected hlookup connectionId nowMs, hkept⟩
  | sessionRefresh body nowMs redis =>
    obtain ⟨auth, heq⟩ := handleSessionRefresh_fst s body nowMs redis
    rw [apply, heq]
    exact ⟨.refl, hkept⟩
  | heartbeat connectionId nowMs => exact ⟨refines_of_eq (roster_heartbeat s _ _), hkept⟩
  | requestMatch connectionId body nowMs =>
    exact refines_match hkept (match_rule s connectionId body nowMs)
  | cancelMatch connectionId => exact refines_cancel hkept (cancel_rule s connectionId)
  | matchTimeout nowMs timeoutMs => exact refines_matchTimeout hkept nowMs timeoutMs
  | connectionClosed connectionId nowMs offlineAtMs =>
    exact refines_connectionClosed h hkept connectionId nowMs offlineAtMs
  | inRoom op => exact ⟨refines_of_eq (roster_inRoom rng s op.2 s.storage), hkept⟩
  | settle decision nowMs =>
    obtain ⟨hsteps, hmatching⟩ := refines_settle h (settle_rule s decision nowMs)
    exact ⟨hsteps, by rw [apply, hmatching]; exact hkept⟩
  | setTxFailpoint failpoint => exact ⟨.refl, hkept⟩

/-- The roster of every reachable state is coherent, and its queue is well-kept. -/
theorem coherent_of_run {auth : AuthTokenService} {redisEnabled : Bool} {ops : List ServerOp}
    (hrun : Run.exec (step rng) (start auth redisEnabled) ops = some s) :
    s.roster.Coherent ∧ s.matching.WellKept := by
  refine Run.invariant (I := fun s => s.roster.Coherent ∧ s.matching.WellKept) ?_ ?_ hrun
  · intro s op s' ⟨hcoherent, hkept⟩ hop
    obtain rfl := Run.total_eq_some.mp hop
    obtain ⟨hsteps, hkept'⟩ := refines_apply rng hcoherent hkept op
    exact ⟨hcoherent.steps hsteps, hkept'⟩
  · refine ⟨?_, MatchManager.wellKept_empty⟩
    exact {
      bound := by simp [roster, start]
      nodup := List.nodup_nil
      waits := by simp [roster, start, MatchManager.waiting]
      trio := by simp [roster, start, RoomManager.membersOf]
      index := by simp [roster, start, RoomManager.membersOf]
      indexed := by simp [roster, start]
      located := by simp [roster, start]
      lobbyState := by simp [roster, start]
      roomState := by simp [roster, start] }

/-! ### What the managers say -/

/-- The managers agree on who is in which room. -/
structure Agreement (s : GameServer) : Prop where
  trio : ∀ r room, s.rooms.rooms.find r = some room → room.HasTrio
  member_iff_index : ∀ p r, (∃ room, s.rooms.rooms.find r = some room ∧ p ∈ room.players) ↔
    s.rooms.playerToRoom.lookup p = some r
  index_iff_session : ∀ p r, s.rooms.playerToRoom.lookup p = some r ↔
    0 < r ∧ ∃ sess, s.sessions.playerToSession.lookup p = some sess ∧ sess.roomId = r
  queued : ∀ q ∈ s.matching.queueThree ++ s.matching.queueFour, ∀ r room,
    s.rooms.rooms.find r = some room → q.playerId ∉ room.players
  state : ∀ p sess, s.sessions.playerToSession.lookup p = some sess → sess.online = true →
    if 0 < sess.roomId then s.players.getState p = .inRoom
    else s.players.getState p = .lobby ∨ s.players.getState p = .matching

lemma agreement_of_coherent (h : s.roster.Coherent) (hkept : s.matching.WellKept) :
    Agreement s := by
  have hmembers : ∀ r room, s.rooms.rooms.find r = some room →
      s.roster.members r = some (room.roomId, room.players) := fun r room hroom =>
    RoomManager.membersOf_eq_some.mpr ⟨room, hroom, rfl, rfl⟩
  have hindex : ∀ p r, (∃ room, s.rooms.rooms.find r = some room ∧ p ∈ room.players) ↔
      s.rooms.playerToRoom.lookup p = some r := by
    intro p r
    refine Iff.trans ?_ (h.index p r).symm
    constructor
    · rintro ⟨room, hroom, hp⟩
      have hid := (h.trio _ _ _ (hmembers r room hroom)).2.1
      exact ⟨room.players, hid ▸ hmembers r room hroom, hp⟩
    · rintro ⟨ps, hps, hp⟩
      obtain ⟨room, hroom, -, rfl⟩ := RoomManager.membersOf_eq_some.mp hps
      exact ⟨room, hroom, hp⟩
  refine ⟨fun r room hroom => ?_, hindex, fun p r => ?_, fun q hq r room hroom hp => ?_,
    fun p sess hsess honline => ?_⟩
  · exact (h.trio _ _ _ (hmembers r room hroom)).2.2
  · constructor
    · intro hr
      obtain ⟨room, hroom, -⟩ := (hindex p r).mpr hr
      obtain ⟨online, hs⟩ := h.located p r hr
      obtain ⟨sess, hsess, heq⟩ := Option.map_eq_some_iff.mp hs
      exact ⟨(Table.find_bounds hroom).1, sess, hsess, (Prod.mk.inj heq).1⟩
    · rintro ⟨hr, sess, hsess, rfl⟩
      exact h.indexed p sess.roomId sess.online (by simp [hsess]) hr.ne'
  · have hwaits : q.playerId ∈ s.roster.waiting := by
      rw [hkept.queueFour, List.append_nil] at hq
      exact List.mem_map.mpr ⟨q, hq, rfl⟩
    have hnone := h.roomOf_of_waiting hwaits
    rw [show s.roster.roomOf q.playerId = some r from (hindex _ r).mp ⟨room, hroom, hp⟩] at hnone
    cases hnone
  · have hs : s.roster.session p = some (sess.roomId, true) := by simp [hsess, honline]
    split_ifs with hpos
    · exact (h.roomState p _ _ hs hpos.ne').resolve_right fun hoff => by simp at hoff
    · have hzero : sess.roomId = 0 := by
        by_contra hne
        have hid : s.roster.roomId p = sess.roomId := by simp [Roster.roomId, hsess]
        exact hpos (hid ▸ h.roomId_pos (hid ▸ hne))
      exact h.lobbyState p (hzero ▸ hs)

/-- In every run of the server the managers agree on who is in which room. -/
theorem managers_agree {auth : AuthTokenService} {redisEnabled : Bool} {ops : List ServerOp}
    (hrun : Run.exec (step rng) (start auth redisEnabled) ops = some s) : Agreement s := by
  obtain ⟨hcoherent, hkept⟩ := coherent_of_run hrun
  exact agreement_of_coherent hcoherent hkept

/-- Three players log in and ask for a match. -/
def matchRun : List ServerOp :=
  [.login 11 (ticketBody 1) 0 {}, .login 12 (ticketBody 2) 0 {}, .login 13 (ticketBody 3) 0 {},
    .requestMatch 11 (str "mode=3") 5, .requestMatch 12 (str "mode=3") 5,
    .requestMatch 13 (str "mode=3") 5]

theorem managers_agree_after_match :
    ∃ s, Run.exec (step .sorted) (start {} false) matchRun = some s ∧
      s.rooms.playerToRoom.lookup 2 = some 1 ∧ Agreement s :=
  ⟨_, Run.exec_total _ _ _, by decide +kernel,
    managers_agree (Run.exec_total (apply .sorted) (start {} false) matchRun)⟩

end GameServer

end DdzServer
