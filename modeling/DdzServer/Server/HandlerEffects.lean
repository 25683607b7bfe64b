import DdzServer.Server.HandlerThreads

/-!
# What one call of a handler does

For every call that is made timely: what it writes of the roster, which duties it leaves, and what
the other handlers can still rely on.
-/

namespace DdzServer

open Interleaving UnorderedMap

/-! ### What a handler knows -/

namespace SettlementPoint

/-- The room that the settlement has read, and the players it has not sent away. -/
def opened : SettlementPoint → Option (Room × List ℤ)
  | .markSettling room             => some (room, [])
  | .getPlayer room _ _ _          => some (room, [])
  | .persistSettlementTransaction room _ => some (room, [])
  | .batchAddCoin room _ _         => some (room, [])
  | .clearRoomId room pid rest _   => some (room, pid :: rest)
  | .forceState room pid rest _    => some (room, pid :: rest)
  | .markFinished room _           => some (room, [])
  | .destroyRoom room _            => some (room, [])
  | _ => none

end SettlementPoint

namespace HandlerCall

variable {s s' : GameServer} {call : HandlerCall}

/-- The players that the handler has found behind a connection or in the queue. -/
def present : HandlerCall → List ℤ
  | .requestMatch _ (.getState pid _)       => [pid]
  | .requestMatch _ (.getPlayer pid _)      => [pid]
  | .requestMatch _ (.join pid _ _)         => [pid]
  | .requestMatch _ (.createRoom _ players) => players
  | _ => []

/-- The mode of a match request that has been read. -/
def mode? : HandlerCall → Option ℤ
  | .requestMatch _ (.getState _ mode)           => some mode
  | .requestMatch _ (.getPlayer _ mode)          => some mode
  | .requestMatch _ (.join _ mode _)             => some mode
  | .requestMatch _ (.setState _ mode)           => some mode
  | .requestMatch _ (.tryPopMatchedPlayers mode) => some mode
  | _ => none

def opened : HandlerCall → Option (Room × List ℤ)
  | .settle _ _ point => point.opened
  | _ => none

/-- What a handler knows: nobody else destroys the room of a settlement. -/
structure Knows (s : GameServer) (call : HandlerCall) : Prop where
  present : ∀ p ∈ call.present, s.roster.session p ≠ none
  mode : ∀ mode, call.mode? = some mode → mode = 3
  guarded : ∀ r, call.holds = some r → r ∈ s.settlingRooms
  opened : ∀ room rest, call.opened = some (room, rest) → call.holds = some room.roomId ∧
    s.rooms.membersOf room.roomId = some (room.roomId, room.players) ∧ ∀ p ∈ rest, p ∈ room.players

/-- A handler that knows nothing. -/
lemma knows_of_nil (hpresent : call.present = []) (hmode : call.mode? = none)
    (hholds : call.holds = none) (hopened : call.opened = none) : call.Knows s :=
  ⟨by simp [hpresent], by simp [hmode], by simp [hholds], by simp [hopened]⟩

/-- What a call leaves to the other handlers. -/
structure Leaves (call : HandlerCall) (s s' : GameServer) : Prop where
  wellKept : s.matching.WellKept → s'.matching.WellKept
  settling : ∀ r ∈ s.settlingRooms, call.holds ≠ some r → r ∈ s'.settlingRooms
  members : ∀ r x, s.rooms.membersOf r = some x → call.holds ≠ some r →
    s'.rooms.membersOf r = some x

lemma leaves_of_eq (hmatching : s'.matching = s.matching) (hrooms : s'.rooms = s.rooms)
    (hsettling : s'.settlingRooms = s.settlingRooms) : call.Leaves s s' :=
  ⟨by rw [hmatching]; exact id, by rw [hsettling]; exact fun _ h _ => h,
    by rw [hrooms]; exact fun _ _ h _ => h⟩

lemma Knows.of_leaves {other : HandlerCall} (h : other.Knows s) (hleaves : call.Leaves s s')
    (hsession : ∀ p, s.roster.session p ≠ none → s'.roster.session p ≠ none)
    (hother : ∀ r, call.holds = some r → other.holds ≠ some r) : other.Knows s' := by
  have hfree : ∀ {r}, other.holds = some r → call.holds ≠ some r := fun hr hcall =>
    hother _ hcall hr
  refine ⟨fun p hp => hsession p (h.present p hp), h.mode, fun r hr => ?_,
    fun room rest hroom => ?_⟩
  · exact hleaves.settling r (h.guarded r hr) (hfree hr)
  · obtain ⟨hholds, hmembers, hrest⟩ := h.opened room rest hroom
    exact ⟨hholds, hleaves.members _ _ hmembers (hfree hholds), hrest⟩

end HandlerCall

/-- What one call of a handler does to the roster, to its duties, and to what is known. -/
structure HandlerEffect (s : GameServer) (call : HandlerCall) (others : Duties)
    (out : GameServer × Option HandlerCall) : Prop where
  leaves : call.Leaves s out.1
  knows : ∀ next, out.2 = some next → next.Knows out.1
  holds : ∀ next r, out.2 = some next → next.holds = some r →
    call.holds = some r ∨ r ∉ s.settlingRooms
  write : ∀ D, (dutiesOf (some call)).Within D → (dutiesOf out.2).Within D → others.Within D →
    s.roster.Write D out.1.roster
  forces : ∀ p ∈ call.forces, out.1.roster.Fits p (out.1.roster.state p) ∨
    (dutiesOf out.2).forces p ∨ others.forces p
  moves : ∀ p r, (p, r) ∈ call.moves →
    (out.1.roster.roomOf p = some r → out.1.roster.roomId p = r) ∨ (dutiesOf out.2).moves p r
  closes : ∀ r ∈ call.closes, (∀ p, out.1.roster.roomOf p ≠ some r) ∨ (dutiesOf out.2).closes r

namespace GameServer

variable {s : GameServer} {others : Duties}

/-- A forced state fits if it did before. -/
lemma fits_forceState {p : ℤ} {state : PlayerState} (h : s.roster.Fits p state) :
    ({ s with players := s.players.forceState p state } : GameServer).roster.Fits p
      ((s.players.forceState p state).getState p) := by
  intro r hr
  rw [PlayerManager.getState_forceState, if_pos rfl]
  exact h r hr

/-- A call of a handler that has no duties yet. -/
lemma effect_of_free {call : HandlerCall} {out : GameServer × Option HandlerCall}
    (hforces : call.forces = []) (hmoves : call.moves = []) (hcloses : call.closes = [])
    (hleaves : call.Leaves s out.1)
    (hnext : ∀ next, out.2 = some next → next.Knows out.1 ∧
      (next.holds = none ∨ next.holds = call.holds))
    (hwrite : ∀ D, s.roster.Write D out.1.roster) : HandlerEffect s call others out := by
  refine ⟨hleaves, fun next hn => (hnext next hn).1, fun next r hn hr => ?_,
    fun D _ _ _ => hwrite D, by simp [hforces], by simp [hmoves], by simp [hcloses]⟩
  rcases (hnext next hn).2 with hholds | hholds
  · rw [hholds] at hr
    cases hr
  · exact Or.inl (hholds ▸ hr)

lemma effect_login {c : LoginCall} {point : LoginPoint}
    (h : (HandlerCall.login c point).Timely s others) :
    HandlerEffect s (.login c point) others (s.handlerStep (.login c point)) := by
  have hnext : ∀ next, (s.handlerStep (.login c point)).2 = some next →
      ∃ point', next = .login c point' := by
    intro next hn
    obtain ⟨point', -, rfl⟩ := Option.map_eq_some_iff.mp hn
    exact ⟨point', rfl⟩
  refine ⟨?_, fun next hn => ?_, fun next r hn hr => ?_, fun D hown _ hothers => ?_,
    fun p hp => ?_, fun p r hr => (by cases hr), fun r hr => (by cases hr)⟩
  · cases point <;> exact HandlerCall.leaves_of_eq rfl rfl rfl
  · obtain ⟨point', rfl⟩ := hnext next hn
    exact HandlerCall.knows_of_nil rfl rfl rfl rfl
  · obtain ⟨point', rfl⟩ := hnext next hn
    cases hr
  · cases point with
    | getSessionByPlayer => exact .quiet
    | getPlayer => exact .quiet
    | upsertPlayer oldRoomId coin =>
      refine (s.roster_upsertPlayer c.playerId c.nickname coin).symm ▸ .quiet
    | forceState oldRoomId =>
      refine (s.roster_forceState c.playerId (stateOfRoom oldRoomId)).symm ▸ .force _ _ ?_
      exact hown.forces _ (List.mem_singleton_self _)
    | bindLogin =>
      refine (s.roster_bindLogin c.playerId c.connectionId c.nowMs).symm ▸
        .online _ _ (fun d q hd => s.conn_bindLogin hd) ?_
      rw [← sessionRoomId_eq]
      exact (h.bound c rfl).imp id (hothers.forces _)
    | issueSessionToken => exact .quiet
  · cases point with
    | getSessionByPlayer => exact Or.inr (Or.inl hp)
    | getPlayer => exact Or.inr (Or.inl hp)
    | upsertPlayer => exact Or.inr (Or.inl hp)
    | forceState oldRoomId =>
      obtain rfl := List.mem_singleton.mp hp
      exact (h.forced _ _ rfl).imp fits_forceState Or.inr
    | bindLogin => cases hp
    | issueSessionToken => cases hp

lemma effect_reconnect {c : ReconnectCall} {point : ReconnectPoint}
    (h : (HandlerCall.reconnect c point).Timely s others) :
    HandlerEffect s (.reconnect c point) others (s.handlerStep (.reconnect c point)) := by
  have hnext : ∀ next, (s.handlerStep (.reconnect c point)).2 = some next →
      ∃ point', next = .reconnect c point' := by
    intro next hn
    obtain ⟨point', -, rfl⟩ := Option.map_eq_some_iff.mp hn
    exact ⟨point', rfl⟩
  have hread : (s.handlerStep (.reconnect c .getSessionByPlayer)).1 = s := by
    simp only [handlerStep, reconnectStep]
    split
    · rfl
    · split_ifs <;> rfl
  refine ⟨?_, fun next hn => ?_, fun next r hn hr => ?_, fun D hown _ hothers => ?_,
    fun p hp => ?_, fun p r hr => (by cases hr), fun r hr => (by cases hr)⟩
  · cases point with
    | getSessionByPlayer =>
      rw [hread]
      exact HandlerCall.leaves_of_eq rfl rfl rfl
    | rebindForReconnect => exact HandlerCall.leaves_of_eq rfl rfl rfl
    | forceState => exact HandlerCall.leaves_of_eq rfl rfl rfl
  · obtain ⟨point', rfl⟩ := hnext next hn
    exact HandlerCall.knows_of_nil rfl rfl rfl rfl
  · obtain ⟨point', rfl⟩ := hnext next hn
    cases hr
  · cases point with
    | getSessionByPlayer =>
      rw [hread]
      exact .quiet
    | rebindForReconnect roomId =>
      have hduty : D.forces c.playerId := hown.forces _ (List.mem_singleton_self _)
      cases hsession : s.sessions.playerToSession.lookup c.playerId with
      | none =>
        have hsame : (s.handlerStep (.reconnect c (.rebindForReconnect roomId))).1 = s := by
          simp only [handlerStep, reconnectStep, SessionManager.rebindForReconnect, hsession]
          rfl
        rw [hsame]
        exact .quiet
      | some session =>
        exact (roster_rebindForReconnect hsession c.connectionId c.nowMs).symm ▸
          .online _ _ (fun d q hd => conn_rebindForReconnect hsession hd) (Or.inr hduty)
    | forceState roomId =>
      refine (s.roster_forceState c.playerId (stateOfRoom roomId)).symm ▸ .force _ _ ?_
      exact hown.forces _ (List.mem_singleton_self _)
  · cases point with
    | getSessionByPlayer => cases hp
    | rebindForReconnect => exact Or.inr (Or.inl hp)
    | forceState roomId =>
      obtain rfl := List.mem_singleton.mp hp
      exact (h.forced _ _ rfl).imp fits_forceState Or.inr

/-- Nobody enters the queue when a player is taken out. -/
lemma write_cancel (hkept : s.matching.WellKept)
    (hwaits : ∀ p ∈ s.matching.waiting, s.roster.session p ≠ none) (pid : ℤ) (D : Duties) :
    s.roster.Write D
      ({ s with matching := (s.matching.cancel pid).1 } : GameServer).roster :=
  .queue _ fun p hp => hwaits p ((hkept.cancel pid).2.subset hp)

lemma leaves_cancel (call : HandlerCall) (pid : ℤ) :
    call.Leaves s { s with matching := (s.matching.cancel pid).1 } :=
  ⟨fun hkept => (hkept.cancel pid).1, fun _ h _ => h, fun _ _ h _ => h⟩

lemma effect_cancel (hkept : s.matching.WellKept)
    (hwaits : ∀ p ∈ s.matching.waiting, s.roster.session p ≠ none) {connectionId : ℤ}
    {point : CancelPoint} (h : (HandlerCall.cancelMatch connectionId point).Timely s others) :
    HandlerEffect s (.cancelMatch connectionId point) others
      (s.handlerStep (.cancelMatch connectionId point)) := by
  have hnext : ∀ next, (s.handlerStep (.cancelMatch connectionId point)).2 = some next →
      ∃ point', next = .cancelMatch connectionId point' := by
    intro next hn
    obtain ⟨point', -, rfl⟩ := Option.map_eq_some_iff.mp hn
    exact ⟨point', rfl⟩
  refine ⟨?_, fun next hn => ?_, fun next r hn hr => ?_, fun D hown _ hothers => ?_,
    fun p hp => ?_, fun p r hr => (by cases hr), fun r hr => (by cases hr)⟩
  · cases point with
    | cancel pid => exact leaves_cancel _ pid
    | _ => exact HandlerCall.leaves_of_eq rfl rfl rfl
  · obtain ⟨point', rfl⟩ := hnext next hn
    exact HandlerCall.knows_of_nil rfl rfl rfl rfl
  · obtain ⟨point', rfl⟩ := hnext next hn
    cases hr
  · cases point with
    | getPlayerIdByConnection => exact .quiet
    | getState => exact .quiet
    | cancel pid => exact write_cancel hkept hwaits pid D
    | forceState pid =>
      refine (s.roster_forceState pid .lobby).symm ▸ .force _ _ ?_
      exact hown.forces _ (List.mem_singleton_self _)
  · cases point with
    | forceState pid =>
      obtain rfl := List.mem_singleton.mp hp
      exact (h.forced _ _ rfl).imp fits_forceState Or.inr
    | _ => cases hp

/-- A connection whose player is known is closed, or it is unknown by now. -/
lemma write_markOffline (hbound : ∀ c p, s.roster.conn c = some p → s.roster.session p ≠ none)
    (connectionId nowMs : ℤ) (D : Duties) :
    s.roster.Write D
      ({ s with sessions := (s.sessions.markOfflineByConnection connectionId nowMs).1 } :
        GameServer).roster := by
  cases hconn : s.sessions.connToPlayer.lookup connectionId with
  | none =>
    rw [SessionManager.markOfflineByConnection, hconn]
    exact .quiet
  | some pid =>
    have hsession : s.roster.session pid ≠ none := hbound connectionId pid hconn
    obtain ⟨session, hlookup⟩ : ∃ session,
        s.sessions.playerToSession.lookup pid = some session :=
      Option.ne_none_iff_exists'.mp fun hnone => hsession (by simp [roster, hnone])
    exact (roster_markOffline hconn hlookup nowMs).symm ▸
      .offline _ _ (fun d q hd => conn_markOffline hconn hd) hsession

lemma effect_close (hkept : s.matching.WellKept)
    (hwaits : ∀ p ∈ s.matching.waiting, s.roster.session p ≠ none)
    (hbound : ∀ c p, s.roster.conn c = some p → s.roster.session p ≠ none) {c : CloseCall}
    {point : ClosePoint} (h : (HandlerCall.connectionClosed c point).Timely s others) :
    HandlerEffect s (.connectionClosed c point) others
      (s.handlerStep (.connectionClosed c point)) := by
  have hinside : ∀ pid, RoomOp.IsInside (.markPlayerOffline pid c.offlineAtMs) := fun _ => rfl
  have hnext : ∀ next, (s.handlerStep (.connectionClosed c point)).2 = some next →
      ∃ point', next = .connectionClosed c point' := by
    intro next hn
    obtain ⟨point', -, rfl⟩ := Option.map_eq_some_iff.mp hn
    exact ⟨point', rfl⟩
  refine ⟨?_, fun next hn => ?_, fun next r hn hr => ?_, fun D hown _ hothers => ?_,
    fun p hp => ?_, fun p r hr => (by cases hr), fun r hr => (by cases hr)⟩
  · cases point with
    | cancel pid => exact leaves_cancel _ pid
    | markPlayerOffline pid =>
      exact ⟨id, fun _ h _ => h, fun r x hr _ =>
        (RoomManager.membersOf_apply (m := s.rooms) .sorted (hinside pid) r).trans hr⟩
    | _ => exact HandlerCall.leaves_of_eq rfl rfl rfl
  · obtain ⟨point', rfl⟩ := hnext next hn
    exact HandlerCall.knows_of_nil rfl rfl rfl rfl
  · obtain ⟨point', rfl⟩ := hnext next hn
    cases hr
  · cases point with
    | getPlayerIdByConnection => exact .quiet
    | getState => exact .quiet
    | cancel pid => exact write_cancel hkept hwaits pid D
    | markOfflineByConnection pid => exact write_markOffline hbound c.connectionId c.nowMs D
    | forceState pid =>
      refine (s.roster_forceState pid .offline).symm ▸ .force _ _ ?_
      exact hown.forces _ (List.mem_singleton_self _)
    | markPlayerOffline pid =>
      exact (roster_inRoom .sorted s (hinside pid) s.storage).symm ▸ .quiet
  · cases point with
    | getPlayerIdByConnection => cases hp
    | getState pid =>
      refine Or.inr (Or.inl ?_)
      obtain rfl := List.mem_singleton.mp hp
      simp only [handlerStep, closeStep]
      split_ifs
      · exact List.mem_singleton_self p
      · exact List.mem_singleton_self p
    | cancel => exact Or.inr (Or.inl hp)
    | markOfflineByConnection => exact Or.inr (Or.inl hp)
    | forceState pid =>
      obtain rfl := List.mem_singleton.mp hp
      exact (h.forced _ _ rfl).imp fits_forceState Or.inr
    | markPlayerOffline => cases hp

/-- The duties at the loop over the matched players. -/
lemma duties_enter (c : MatchCall) (roomId : ℤ) {rest : List ℤ} {p : ℤ} (hp : p ∈ rest) :
    (dutiesOf ((MatchPoint.enter roomId rest).map (.requestMatch c))).forces p ∧
      (dutiesOf ((MatchPoint.enter roomId rest).map (.requestMatch c))).moves p roomId := by
  cases rest with
  | nil => cases hp
  | cons pid rest => exact ⟨hp, List.mem_map_of_mem hp⟩

/-- The players at the loop need no further checks. -/
lemma knows_enter {c : MatchCall} {roomId : ℤ} {rest : List ℤ} {next : HandlerCall}
    (h : (MatchPoint.enter roomId rest).map (.requestMatch c) = some next) :
    next.Knows s ∧ next.holds = none := by
  cases rest with
  | nil => cases h
  | cons pid rest =>
    cases h
    exact ⟨HandlerCall.knows_of_nil rfl rfl rfl rfl, rfl⟩

/-- A player who joins is the only new one in the queue. -/
lemma write_join (hwaits : ∀ p ∈ s.matching.waiting, s.roster.session p ≠ none)
    {player : MatchPlayer} (hmode : player.mode = 3)
    (hpresent : s.roster.session player.playerId ≠ none) (D : Duties) :
    s.roster.Write D ({ s with matching := (s.matching.join player).1 } : GameServer).roster := by
  refine .queue _ fun p hp => ?_
  change p ∈ (s.matching.join player).1.waiting at hp
  rw [MatchManager.join_spec s.matching hmode] at hp
  split_ifs at hp
  · rw [MatchManager.waiting_joined] at hp
    rcases List.mem_append.mp hp with hp | hp
    · exact hwaits p hp
    · exact List.mem_singleton.mp hp ▸ hpresent
  · exact hwaits p hp

lemma write_setState (pid : ℤ) (D : Duties) :
    s.roster.Write D
      ({ s with players := (s.players.setState pid .matching).1 } : GameServer).roster := by
  unfold PlayerManager.setState
  cases hplayer : s.players.players.lookup pid with
  | none => exact .quiet
  | some player =>
    have hstate : s.roster.state pid = player.state := by
      simp [PlayerManager.getState, at', hplayer]
    dsimp only
    split_ifs with hallowed
    · have heq : ({ s with players := s.players.write pid { player with state := .matching } } :
          GameServer).roster =
          { s.roster with state := fun q => if q = pid then .matching else s.roster.state q } :=
        Roster.ext rfl rfl (funext fun q => PlayerManager.getState_write _ _ _ _) rfl rfl rfl
      refine heq.symm ▸ .relabel pid .matching (fun hin => ?_) (by simp)
      rw [hstate] at hin
      simp [hin, isTransitionAllowed] at hallowed
    · exact .quiet

lemma effect_match_getPlayerIdByConnection
    (hbound : ∀ c p, s.roster.conn c = some p → s.roster.session p ≠ none) (c : MatchCall) :
    HandlerEffect s (.requestMatch c .getPlayerIdByConnection) others
      (s.handlerStep (.requestMatch c .getPlayerIdByConnection)) := by
  have hread : (s.handlerStep (.requestMatch c .getPlayerIdByConnection)).1 = s := by
    simp only [handlerStep, matchStep]
    split <;> rfl
  refine effect_of_free rfl rfl rfl (HandlerCall.leaves_of_eq (congrArg _ hread)
    (congrArg _ hread) (congrArg _ hread)) (fun next hn => ?_) fun D => ?_
  · rw [hread]
    simp only [handlerStep, matchStep] at hn
    cases hconn : s.sessions.getPlayerIdByConnection c.connectionId with
    | none => simp [hconn] at hn
    | some pid =>
      simp only [hconn, Prod.map_apply, Option.map_map, Option.map_eq_some_iff] at hn
      obtain ⟨mode, hmode, rfl⟩ := hn
      refine ⟨⟨fun p hp => ?_, fun m hm => ?_, fun r hr => (by cases hr),
        fun room rest hroom => (by cases hroom)⟩, Or.inl rfl⟩
      · rw [List.mem_singleton.mp hp]
        exact hbound c.connectionId pid hconn
      · cases hm
        exact parseMode_eq_some hmode
  · rw [hread]
    exact .quiet

lemma effect_match_join (hwaits : ∀ p ∈ s.matching.waiting, s.roster.session p ≠ none)
    {c : MatchCall} {pid mode coin : ℤ}
    (hknows : (HandlerCall.requestMatch c (.join pid mode coin)).Knows s) :
    HandlerEffect s (.requestMatch c (.join pid mode coin)) others
      (s.handlerStep (.requestMatch c (.join pid mode coin))) := by
  have hmode : mode = 3 := hknows.mode mode rfl
  have hpid : s.roster.session pid ≠ none := hknows.present pid (List.mem_singleton_self pid)
  refine effect_of_free rfl rfl rfl ⟨fun hk => ?_, fun _ hr _ => hr, fun _ _ hr _ => hr⟩
    (fun next hn => ?_) fun D => write_join hwaits hmode hpid D
  · change (s.matching.join ⟨pid, c.nowMs, coin, mode⟩).1.WellKept
    rw [MatchManager.join_spec s.matching hmode]
    split_ifs with hfree
    · exact hk.joined hfree
    · exact hk
  · simp only [handlerStep, matchStep, Prod.map_apply] at hn
    split_ifs at hn
    · cases hn
      exact ⟨⟨fun p hp => (by cases hp), hknows.mode, hknows.guarded, hknows.opened⟩, Or.inl rfl⟩
    · cases hn

lemma effect_match_setState {c : MatchCall} {pid mode : ℤ}
    (hknows : (HandlerCall.requestMatch c (.setState pid mode)).Knows s) :
    HandlerEffect s (.requestMatch c (.setState pid mode)) others
      (s.handlerStep (.requestMatch c (.setState pid mode))) := by
  refine effect_of_free rfl rfl rfl (HandlerCall.leaves_of_eq rfl rfl rfl)
    (fun next hn => ?_) fun D => write_setState pid D
  simp only [handlerStep, matchStep, Prod.map_apply, Option.map_some, Option.some.injEq] at hn
  split_ifs at hn
  · subst hn
    exact ⟨⟨fun p hp => (by cases hp), hknows.mode, hknows.guarded, hknows.opened⟩, Or.inl rfl⟩
  · subst hn
    exact ⟨HandlerCall.knows_of_nil rfl rfl rfl rfl, Or.inl rfl⟩

lemma effect_match_tryPopMatchedPlayers
    (hwaits : ∀ p ∈ s.matching.waiting, s.roster.session p ≠ none) {c : MatchCall} {mode : ℤ}
    (hknows : (HandlerCall.requestMatch c (.tryPopMatchedPlayers mode)).Knows s) :
    HandlerEffect s (.requestMatch c (.tryPopMatchedPlayers mode)) others
      (s.handlerStep (.requestMatch c (.tryPopMatchedPlayers mode))) := by
  obtain rfl : mode = 3 := hknows.mode mode rfl
  have hstep : s.handlerStep (.requestMatch c (.tryPopMatchedPlayers 3)) =
      if s.matching.queueThree.length < 3 then (s, none)
      else ({ s with matching := s.matching.popped },
        some (.requestMatch c (.createRoom 3 (s.matching.waiting.take 3)))) := by
    simp only [handlerStep, matchStep, MatchManager.tryPopMatchedPlayers_spec]
    split_ifs <;> rfl
  rw [hstep]
  split_ifs with hlen
  · exact effect_of_free rfl rfl rfl (HandlerCall.leaves_of_eq rfl rfl rfl)
      (fun next hn => (by cases hn)) fun D => .quiet
  · refine effect_of_free rfl rfl rfl
      ⟨fun hk => hk.popped, fun _ hr _ => hr, fun _ _ hr _ => hr⟩ (fun next hn => ?_) fun D => ?_
    · cases hn
      refine ⟨⟨fun p hp => ?_, fun m hm => (by cases hm), fun r hr => (by cases hr),
        fun room rest hroom => (by cases hroom)⟩, Or.inl rfl⟩
      exact hwaits p (List.mem_of_mem_take hp)
    · refine .queue _ fun p hp => hwaits p ?_
      change p ∈ s.matching.popped.waiting at hp
      rw [MatchManager.waiting_popped] at hp
      exact List.mem_of_mem_drop hp

/-- The new room has an id that nobody knows. -/
lemma effect_match_createRoom {c : MatchCall} {mode : ℤ} {players : List ℤ}
    (h : (HandlerCall.requestMatch c (.createRoom mode players)).Timely s others)
    (hknows : (HandlerCall.requestMatch c (.createRoom mode players)).Knows s) :
    HandlerEffect s (.requestMatch c (.createRoom mode players)) others
      (s.handlerStep (.requestMatch c (.createRoom mode players))) := by
  refine ⟨⟨id, fun _ hr _ => hr, fun r x hr _ => ?_⟩, fun next hn => (knows_enter hn).1,
    fun next r hn hr => ?_, fun D _ hnext _ => ?_, fun p hp => ?_, fun p r hr => (by cases hr),
    fun r hr => (by cases hr)⟩
  · change (s.rooms.createRoom mode players).1.membersOf r = some x
    rw [RoomManager.membersOf_createRoom, if_neg, hr]
    rintro rfl
    rw [RoomManager.membersOf, Table.find_nextId] at hr
    cases hr
  · rw [(knows_enter (s := s) hn).2] at hr
    cases hr
  · have hnew : s.roster.members s.rooms.rooms.nextId = none := by
      simp [roster, RoomManager.membersOf, Table.find_nextId]
    exact (s.roster_createRoom mode players).symm ▸ .create _ players hnew
      (h.created c mode players rfl) hknows.present
      fun p hp => hnext.moves _ _ (duties_enter c _ hp).2
  · exact Or.inr (Or.inl (duties_enter c _ hp).1)

lemma effect_match_setRoomId (hlocated : ∀ p r, s.roster.roomOf p = some r →
      s.roster.session p ≠ none) {c : MatchCall} {roomId pid : ℤ} {rest : List ℤ}
    (h : (HandlerCall.requestMatch c (.setRoomId roomId pid rest)).Timely s others) :
    HandlerEffect s (.requestMatch c (.setRoomId roomId pid rest)) others
      (s.handlerStep (.requestMatch c (.setRoomId roomId pid rest))) := by
  refine ⟨HandlerCall.leaves_of_eq rfl rfl rfl, fun next hn => ?_, fun next r hn hr => ?_,
    fun D hown _ hothers => ?_, fun p hp => Or.inr (Or.inl hp), fun p r hr => ?_,
    fun r hr => (by cases hr)⟩
  · cases hn
    exact HandlerCall.knows_of_nil rfl rfl rfl rfl
  · cases hn
    cases hr
  · refine (s.roster_setRoomId pid roomId).symm ▸ .assign pid roomId
      (hown.forces _ List.mem_cons_self) fun r hr => ?_
    exact (h.moved c roomId pid rest rfl r hr).imp id
      (Or.imp (hothers.moves _ _) (hothers.closes _))
  · simp only [HandlerCall.moves, List.map_cons, List.mem_cons, Prod.mk.injEq] at hr
    rcases hr with ⟨rfl, rfl⟩ | hr
    · refine Or.inl fun hroom => ?_
      obtain ⟨x, hx⟩ := Option.ne_none_iff_exists'.mp (hlocated p r hroom)
      change Roster.roomId ({ s with sessions := (s.sessions.setRoomId p r).1 } :
        GameServer).roster p = r
      rw [roster_setRoomId]
      simp only [Roster.roomId, if_true, hx, Option.map_some, Option.getD_some]
    · exact Or.inr hr

lemma effect_match_forceState {c : MatchCall} {roomId pid : ℤ} {rest : List ℤ}
    (h : (HandlerCall.requestMatch c (.forceState roomId pid rest)).Timely s others) :
    HandlerEffect s (.requestMatch c (.forceState roomId pid rest)) others
      (s.handlerStep (.requestMatch c (.forceState roomId pid rest))) := by
  refine ⟨HandlerCall.leaves_of_eq rfl rfl rfl, fun next hn => (knows_enter hn).1,
    fun next r hn hr => ?_, fun D hown _ hothers => ?_, fun p hp => ?_, fun p r hr => ?_,
    fun r hr => (by cases hr)⟩
  · rw [(knows_enter (s := s) hn).2] at hr
    cases hr
  · exact (s.roster_forceState pid .inRoom).symm ▸ .force _ _
      (hown.forces _ List.mem_cons_self)
  · rcases List.mem_cons.mp hp with rfl | hp
    · exact (h.forced _ _ rfl).imp fits_forceState Or.inr
    · exact Or.inr (Or.inl (duties_enter c roomId hp).1)
  · obtain ⟨q, hq, heq⟩ := List.mem_map.mp hr
    cases heq
    exact Or.inr (duties_enter c roomId hq).2

lemma effect_match (hkept : s.matching.WellKept)
    (hwaits : ∀ p ∈ s.matching.waiting, s.roster.session p ≠ none)
    (hbound : ∀ c p, s.roster.conn c = some p → s.roster.session p ≠ none)
    (hlocated : ∀ p r, s.roster.roomOf p = some r → s.roster.session p ≠ none) {c : MatchCall}
    {point : MatchPoint} (h : (HandlerCall.requestMatch c point).Timely s others)
    (hknows : (HandlerCall.requestMatch c point).Knows s) :
    HandlerEffect s (.requestMatch c point) others (s.handlerStep (.requestMatch c point)) := by
  cases point with
  | getPlayerIdByConnection => exact effect_match_getPlayerIdByConnection hbound c
  | getState pid mode =>
    refine effect_of_free rfl rfl rfl (HandlerCall.leaves_of_eq rfl rfl rfl)
      (fun next hn => ?_) fun D => .quiet
    simp only [handlerStep, matchStep, Prod.map_apply] at hn
    split_ifs at hn
    · cases hn
      exact ⟨⟨hknows.present, hknows.mode, hknows.guarded, hknows.opened⟩, Or.inl rfl⟩
    · cases hn
  | getPlayer pid mode =>
    refine effect_of_free rfl rfl rfl (HandlerCall.leaves_of_eq rfl rfl rfl)
      (fun next hn => ?_) fun D => .quiet
    cases hn
    exact ⟨⟨hknows.present, hknows.mode, hknows.guarded, hknows.opened⟩, Or.inl rfl⟩
  | join pid mode coin => exact effect_match_join hwaits hknows
  | setState pid mode => exact effect_match_setState hknows
  | cancel pid =>
    exact effect_of_free rfl rfl rfl (leaves_cancel _ pid) (fun next hn => (by cases hn))
      fun D => write_cancel hkept hwaits pid D
  | tryPopMatchedPlayers mode => exact effect_match_tryPopMatchedPlayers hwaits hknows
  | createRoom mode players => exact effect_match_createRoom h hknows
  | setRoomId roomId pid rest => exact effect_match_setRoomId hlocated h
  | forceState roomId pid rest => exact effect_match_forceState h

/-! ### The calls of a settlement -/

variable {d : ServerSettlementDecision} {nowMs : ℤ} {point point' : SettlementPoint} {room : Room}

lemma handlerStep_inl {s' : GameServer}
    (h : s.settlementStep d nowMs point = (s', .inl point')) :
    s.handlerStep (.settle d nowMs point) = (s', some (.settle d nowMs point')) := by
  simp only [handlerStep, h]

lemma handlerStep_inr {s' : GameServer} {result : SettlementResult}
    (h : s.settlementStep d nowMs point = (s', .inr result)) :
    s.handlerStep (.settle d nowMs point) = (s', none) := by
  simp only [handlerStep, h]

/-- The settlement has begun, its room is live, and the players to be sent away are in it. -/
structure Opens (s : GameServer) (d : ServerSettlementDecision) (point : SettlementPoint) :
    Prop where
  begun : point ≠ .tryBeginSettlement
  room : ∀ room rest, point.opened = some (room, rest) → room.roomId = d.roomId ∧
    s.rooms.membersOf d.roomId = some (d.roomId, room.players) ∧ ∀ p ∈ rest, p ∈ room.players

lemma holds_of_begun (h : point ≠ .tryBeginSettlement) :
    (HandlerCall.settle d nowMs point).holds = some d.roomId := by
  cases point with
  | tryBeginSettlement => exact absurd rfl h
  | _ => rfl

/-- A point that has no room. -/
lemma opens_of_none (hbegun : point ≠ .tryBeginSettlement) (h : point.opened = none) :
    s.Opens d point :=
  ⟨hbegun, by simp [h]⟩

/-- A point whose room is that of another. -/
lemma Opens.next (h : s.Opens d point) {rest rest' : List ℤ} (hbegun : point' ≠ .tryBeginSettlement)
    (hpoint : point.opened = some (room, rest)) (hpoint' : point'.opened = some (room, rest'))
    (hrest : ∀ p ∈ rest', p ∈ room.players) : s.Opens d point' := by
  refine ⟨hbegun, fun room' rest'' hroom => ?_⟩
  rw [hpoint'] at hroom
  cases hroom
  exact ⟨(h.room _ _ hpoint).1, (h.room _ _ hpoint).2.1, hrest⟩

lemma Opens.collect (h : s.Opens d point) {rest₀ : List ℤ}
    (hpoint : point.opened = some (room, rest₀)) (changes : List SettlementCoinChange)
    (rest : List ℤ) : s.Opens d (.collect d room changes rest) := by
  cases rest with
  | nil =>
    rw [SettlementPoint.collect]
    split_ifs
    · exact opens_of_none (by simp) rfl
    · exact h.next (by simp) hpoint rfl (by simp)
  | cons pid rest => exact h.next (by simp [SettlementPoint.collect]) hpoint rfl (by simp)

lemma Opens.leave (h : s.Opens d point) {rest₀ : List ℤ}
    (hpoint : point.opened = some (room, rest₀)) (result : SettlementResult) {rest : List ℤ}
    (hrest : ∀ p ∈ rest, p ∈ room.players) : s.Opens d (.leave room result rest) := by
  cases rest with
  | nil => exact h.next (by simp [SettlementPoint.leave]) hpoint rfl (by simp)
  | cons pid rest => exact h.next (by simp [SettlementPoint.leave]) hpoint rfl hrest

lemma opens_takeBack (result : SettlementResult) (rest : List SettlementCoinChange) :
    s.Opens d (.takeBack result rest) := by
  cases rest with
  | nil => exact opens_of_none (by simp [SettlementPoint.takeBack]) rfl
  | cons c rest => exact opens_of_none (by simp [SettlementPoint.takeBack]) rfl

/-- What a settlement that holds the guard knows. -/
lemma Opens.knows (h : s.Opens d point) (hguard : d.roomId ∈ s.settlingRooms) :
    (HandlerCall.settle d nowMs point).Knows s := by
  have hholds : (HandlerCall.settle d nowMs point).holds = some d.roomId := holds_of_begun h.begun
  refine ⟨fun p hp => (by cases hp), fun m hm => (by cases hm), fun r hr => ?_,
    fun room rest hroom => ?_⟩
  · rw [hholds] at hr
    exact Option.some.inj hr ▸ hguard
  · obtain ⟨hid, hmembers, hrest⟩ := h.room room rest hroom
    rw [hid]
    exact ⟨hholds, hmembers, hrest⟩

lemma opens_of_knows (h : (HandlerCall.settle d nowMs point).Knows s)
    (hbegun : point ≠ .tryBeginSettlement) : d.roomId ∈ s.settlingRooms ∧ s.Opens d point := by
  have hholds : (HandlerCall.settle d nowMs point).holds = some d.roomId := holds_of_begun hbegun
  refine ⟨h.guarded _ hholds, hbegun, fun room rest hroom => ?_⟩
  obtain ⟨hholds', hmembers, hrest⟩ := h.opened room rest hroom
  have hid : d.roomId = room.roomId := Option.some.inj (hholds.symm.trans hholds')
  exact ⟨hid.symm, by rw [hid]; exact hmembers, hrest⟩

/-- A call before the room is paid out: no player and no room is changed for the roster. -/
lemma effect_settle_free {s' : GameServer} (hbegun : point ≠ .tryBeginSettlement)
    (hforces : (HandlerCall.settle d nowMs point).forces = [])
    (hcloses : (HandlerCall.settle d nowMs point).closes = [])
    (hstep : s.settlementStep d nowMs point = (s', .inl point'))
    (hroster : s'.roster = s.roster) (hmatching : s'.matching = s.matching)
    (hsettling : s'.settlingRooms = s.settlingRooms)
    (hknows : (HandlerCall.settle d nowMs point).Knows s) (hopens : s.Opens d point') :
    HandlerEffect s (.settle d nowMs point) others (s.handlerStep (.settle d nowMs point)) := by
  have hmembers : ∀ r, s'.rooms.membersOf r = s.rooms.membersOf r :=
    congrFun (congrArg Roster.members hroster)
  rw [handlerStep_inl hstep]
  refine effect_of_free hforces rfl hcloses
    ⟨by rw [hmatching]; exact id, by rw [hsettling]; exact fun _ h _ => h,
      fun r x hr _ => (hmembers r).trans hr⟩ (fun next hn => ?_) fun D => hroster ▸ .quiet
  cases hn
  have hopens' : s'.Opens d point' :=
    ⟨hopens.begun, by rw [hmembers]; exact hopens.room⟩
  refine ⟨hopens'.knows ?_, Or.inr ?_⟩
  · rw [hsettling]
    exact (opens_of_knows hknows hbegun).1
  · rw [holds_of_begun hbegun, holds_of_begun hopens.begun]

lemma effect_tryBeginSettlement :
    HandlerEffect s (.settle d nowMs .tryBeginSettlement) others
      (s.handlerStep (.settle d nowMs .tryBeginSettlement)) := by
  by_cases hvalid : ¬ d.IsValid
  · rw [handlerStep_inr (by rw [settlementStep, if_pos hvalid])]
    exact effect_of_free rfl rfl rfl (HandlerCall.leaves_of_eq rfl rfl rfl)
      (fun next hn => (by cases hn)) fun D => .quiet
  · by_cases hbusy : d.roomId ∈ s.settlingRooms
    · rw [handlerStep_inr (by rw [settlementStep, if_neg hvalid, if_pos hbusy])]
      exact effect_of_free rfl rfl rfl (HandlerCall.leaves_of_eq rfl rfl rfl)
        (fun next hn => (by cases hn)) fun D => .quiet
    · rw [handlerStep_inl (by rw [settlementStep, if_neg hvalid, if_neg hbusy])]
      refine ⟨⟨id, fun r hr _ => Finset.mem_insert_of_mem hr, fun _ _ hr _ => hr⟩,
        fun next hn => ?_, fun next r hn hr => ?_, fun D _ _ _ => .quiet,
        by simp [HandlerCall.forces], by simp [HandlerCall.moves],
        by simp [HandlerCall.closes]⟩
      · cases hn
        exact (opens_of_none (by simp) rfl).knows (Finset.mem_insert_self _ _)
      · cases hn
        cases hr
        exact Or.inr hbusy

lemma effect_getRoomById (hlive : ∀ r id ps, s.rooms.membersOf r = some (id, ps) → id = r)
    (hknows : (HandlerCall.settle d nowMs .getRoomById).Knows s) :
    HandlerEffect s (.settle d nowMs .getRoomById) others
      (s.handlerStep (.settle d nowMs .getRoomById)) := by
  cases hroom : s.rooms.getRoomById d.roomId with
  | none =>
    have hstep : s.settlementStep d nowMs .getRoomById =
        (s, .inl (.endSettlement (d.result .roomNotFound))) := by
      simp only [settlementStep, hroom]
    exact effect_settle_free (by simp) rfl rfl hstep rfl rfl rfl hknows
      (opens_of_none (by simp) rfl)
  | some room =>
    have hstep : s.settlementStep d nowMs .getRoomById = (s, .inl (.markSettling room)) := by
      simp only [settlementStep, hroom]
    have hmembers : s.rooms.membersOf d.roomId = some (room.roomId, room.players) :=
      RoomManager.membersOf_eq_some.mpr ⟨room, hroom, rfl, rfl⟩
    have hid := hlive _ _ _ hmembers
    refine effect_settle_free (by simp) rfl rfl hstep rfl rfl rfl hknows
      ⟨by simp, fun room' rest hopened => ?_⟩
    cases hopened
    exact ⟨hid, hid ▸ hmembers, by simp⟩

lemma effect_markSettling (hknows : (HandlerCall.settle d nowMs (.markSettling room)).Knows s) :
    HandlerEffect s (.settle d nowMs (.markSettling room)) others
      (s.handlerStep (.settle d nowMs (.markSettling room))) := by
  have hinside : RoomOp.IsInside (.markSettling d.roomId) := rfl
  obtain ⟨-, hopens⟩ := opens_of_knows hknows (by simp)
  refine effect_settle_free (by simp) rfl rfl rfl (roster_inRoom .sorted s hinside s.storage) rfl
    rfl hknows ?_
  split_ifs
  · exact hopens.collect rfl [] room.players
  · exact opens_of_none (by simp) rfl

lemma effect_getPlayer {pid : ℤ} {rest : List ℤ} {changes : List SettlementCoinChange}
    (hknows : (HandlerCall.settle d nowMs (.getPlayer room pid rest changes)).Knows s) :
    HandlerEffect s (.settle d nowMs (.getPlayer room pid rest changes)) others
      (s.handlerStep (.settle d nowMs (.getPlayer room pid rest changes))) := by
  obtain ⟨-, hopens⟩ := opens_of_knows hknows (by simp)
  cases hplayer : s.players.getPlayer pid with
  | none =>
    have hstep : s.settlementStep d nowMs (.getPlayer room pid rest changes) =
        (s, .inl (.endSettlement (d.result .settlementFailed))) := by
      simp only [settlementStep, hplayer]
    exact effect_settle_free (by simp) rfl rfl hstep rfl rfl rfl hknows
      (opens_of_none (by simp) rfl)
  | some player =>
    have hstep : s.settlementStep d nowMs (.getPlayer room pid rest changes) =
        (s, .inl (.collect d room (changes ++ [d.coinChange room pid player.coin]) rest)) := by
      simp only [settlementStep, hplayer]
    exact effect_settle_free (by simp) rfl rfl hstep rfl rfl rfl hknows (hopens.collect rfl _ rest)

lemma effect_persistSettlementTransaction {changes : List SettlementCoinChange}
    (hknows : (HandlerCall.settle d nowMs (.persistSettlementTransaction room changes)).Knows s) :
    HandlerEffect s (.settle d nowMs (.persistSettlementTransaction room changes)) others
      (s.handlerStep (.settle d nowMs (.persistSettlementTransaction room changes))) := by
  obtain ⟨-, hopens⟩ := opens_of_knows hknows (by simp)
  rcases hpersist : s.storage.persistSettlementTransaction (d.persistRequest room nowMs changes)
    with ⟨storage, err | recordId⟩
  · have hstep : s.settlementStep d nowMs (.persistSettlementTransaction room changes) =
        ({ s with storage := storage }, .inl (.endSettlement (d.result .settlementFailed))) := by
      rw [settlementStep, hpersist]
    exact effect_settle_free (by simp) rfl rfl hstep rfl rfl rfl hknows
      (opens_of_none (by simp) rfl)
  · have hstep : s.settlementStep d nowMs (.persistSettlementTransaction room changes) =
        ({ s with storage := storage }, .inl (.batchAddCoin room changes recordId)) := by
      rw [settlementStep, hpersist]
    exact effect_settle_free (by simp) rfl rfl hstep rfl rfl rfl hknows
      (hopens.next (by simp) rfl rfl (by simp))

lemma roster_of_getState {players : PlayerManager}
    (h : ∀ p, players.getState p = s.players.getState p) :
    ({ s with players := players } : GameServer).roster = s.roster :=
  Roster.ext rfl rfl (funext h) rfl rfl rfl

lemma effect_batchAddCoin {changes : List SettlementCoinChange} {recordId : ℤ}
    (hknows : (HandlerCall.settle d nowMs (.batchAddCoin room changes recordId)).Knows s) :
    HandlerEffect s (.settle d nowMs (.batchAddCoin room changes recordId)) others
      (s.handlerStep (.settle d nowMs (.batchAddCoin room changes recordId))) := by
  obtain ⟨-, hopens⟩ := opens_of_knows hknows (by simp)
  have hstate : ∀ p, (s.players.batchAddCoin
      (changes.map fun c => (c.playerId, c.delta))).1.getState p = s.players.getState p := by
    intro p
    unfold PlayerManager.batchAddCoin
    split_ifs
    · exact PlayerManager.getState_addCoins _ _ _
    · rfl
  refine effect_settle_free (by simp) rfl rfl rfl (roster_of_getState hstate) rfl rfl hknows ?_
  split_ifs
  · exact opens_takeBack _ _
  · exact hopens.leave rfl _ fun p hp => hp

lemma effect_addCoin {c : SettlementCoinChange} {delta : ℤ} {rest : List SettlementCoinChange}
    {result : SettlementResult}
    (hknows : (HandlerCall.settle d nowMs (.addCoin c delta rest result)).Knows s) :
    HandlerEffect s (.settle d nowMs (.addCoin c delta rest result)) others
      (s.handlerStep (.settle d nowMs (.addCoin c delta rest result))) := by
  have hstate : ∀ p, (s.players.addCoin c.playerId delta).1.getState p =
      s.players.getState p := by
    intro p
    unfold PlayerManager.addCoin
    cases hplayer : s.players.players.lookup c.playerId with
    | none => rfl
    | some player =>
      dsimp only
      rw [PlayerManager.getState_write]
      split_ifs with hp
      · rw [hp, PlayerManager.getState, at', hplayer]
        rfl
      · rfl
  exact effect_settle_free (by simp) rfl rfl rfl (roster_of_getState hstate) rfl rfl hknows
    (opens_takeBack _ _)

/-- The duties at the loop that sends the players away. -/
lemma duties_leave (d : ServerSettlementDecision) (nowMs : ℤ) (room : Room)
    (result : SettlementResult) (rest : List ℤ) :
    (∀ p ∈ rest, (dutiesOf (some (.settle d nowMs (.leave room result rest)))).forces p) ∧
      (dutiesOf (some (.settle d nowMs (.leave room result rest)))).closes d.roomId := by
  cases rest with
  | nil => exact ⟨by simp, List.mem_singleton_self d.roomId⟩
  | cons pid rest => exact ⟨fun p hp => hp, List.mem_singleton_self d.roomId⟩

lemma effect_clearRoomId {D₀ : Duties} (hacc : s.roster.Accounted D₀) {pid : ℤ} {rest : List ℤ}
    {result : SettlementResult}
    (hknows : (HandlerCall.settle d nowMs (.clearRoomId room pid rest result)).Knows s) :
    HandlerEffect s (.settle d nowMs (.clearRoomId room pid rest result)) others
      (s.handlerStep (.settle d nowMs (.clearRoomId room pid rest result))) := by
  obtain ⟨hguard, hopens⟩ := opens_of_knows hknows (by simp)
  obtain ⟨hid, hmembers, hrest⟩ := hopens.room room (pid :: rest) rfl
  refine ⟨HandlerCall.leaves_of_eq rfl rfl rfl, fun next hn => ?_, fun next r hn hr => ?_,
    fun D hown _ _ => ?_, fun p hp => Or.inr (Or.inl hp), fun p r hr => (by cases hr),
    fun r hr => Or.inr hr⟩
  · cases hn
    exact Opens.knows ⟨by simp, fun room' rest' hopened => by cases hopened; exact
      ⟨hid, hmembers, hrest⟩⟩ hguard
  · cases hn
    exact Or.inl hr
  · refine (s.roster_setRoomId pid 0).symm ▸ .assign pid 0
      (hown.forces _ List.mem_cons_self) fun r hr => ?_
    -- the player is in the room that is settled, which will be destroyed
    have hroom : s.roster.roomOf pid = some d.roomId :=
      (hacc.index pid d.roomId).mpr ⟨room.players, hmembers, hrest pid List.mem_cons_self⟩
    obtain rfl : d.roomId = r := Option.some.inj (hroom.symm.trans hr)
    exact Or.inr (Or.inr (hown.closes _ (List.mem_singleton_self _)))

lemma effect_forceState {pid : ℤ} {rest : List ℤ} {result : SettlementResult}
    (h : (HandlerCall.settle d nowMs (.forceState room pid rest result)).Timely s others)
    (hknows : (HandlerCall.settle d nowMs (.forceState room pid rest result)).Knows s) :
    HandlerEffect s (.settle d nowMs (.forceState room pid rest result)) others
      (s.handlerStep (.settle d nowMs (.forceState room pid rest result))) := by
  obtain ⟨hguard, hopens⟩ := opens_of_knows hknows (by simp)
  obtain ⟨hid, hmembers, hrest⟩ := hopens.room room (pid :: rest) rfl
  have hleave : s.Opens d (.leave room result rest) :=
    hopens.leave rfl result fun p hp => hrest p (List.mem_cons_of_mem pid hp)
  refine ⟨HandlerCall.leaves_of_eq rfl rfl rfl, fun next hn => ?_, fun next r hn hr => ?_,
    fun D hown _ _ => ?_, fun p hp => ?_, fun p r hr => (by cases hr), fun r hr => ?_⟩
  · cases hn
    exact Opens.knows (s := { s with players := s.players.forceState pid .lobby })
      ⟨hleave.begun, hleave.room⟩ hguard
  · cases hn
    rw [holds_of_begun hleave.begun] at hr
    exact Or.inl hr
  · exact (s.roster_forceState pid .lobby).symm ▸ .force _ _
      (hown.forces _ List.mem_cons_self)
  · rcases List.mem_cons.mp hp with rfl | hp
    · exact (h.forced _ _ rfl).imp fits_forceState Or.inr
    · exact Or.inr (Or.inl ((duties_leave d nowMs room result rest).1 p hp))
  · obtain rfl := List.mem_singleton.mp hr
    exact Or.inr (duties_leave d nowMs room result rest).2

lemma effect_markFinished {result : SettlementResult}
    (hknows : (HandlerCall.settle d nowMs (.markFinished room result)).Knows s) :
    HandlerEffect s (.settle d nowMs (.markFinished room result)) others
      (s.handlerStep (.settle d nowMs (.markFinished room result))) := by
  have hinside : RoomOp.IsInside (.markFinished room.roomId) := rfl
  obtain ⟨hguard, hopens⟩ := opens_of_knows hknows (by simp)
  have hkept : ∀ r, (s.rooms.markFinished room.roomId).1.membersOf r = s.rooms.membersOf r :=
    RoomManager.membersOf_apply (m := s.rooms) .sorted hinside
  refine ⟨⟨id, fun _ hr _ => hr, fun r x hr _ => (hkept r).trans hr⟩, fun next hn => ?_,
    fun next r hn hr => ?_, fun D _ _ _ => ?_, fun p hp => (by cases hp),
    fun p r hr => (by cases hr), fun r hr => Or.inr hr⟩
  · cases hn
    refine Opens.knows (s := { s with rooms := (s.rooms.markFinished room.roomId).1 })
      ⟨by simp, fun room' rest hopened => ?_⟩ hguard
    cases hopened
    obtain ⟨hid, hmembers, hrest⟩ := hopens.room room [] rfl
    exact ⟨hid, (hkept _).trans hmembers, hrest⟩
  · cases hn
    exact Or.inl hr
  · exact (roster_inRoom .sorted s hinside s.storage).symm ▸ .quiet

lemma effect_destroyRoom {D₀ : Duties} (hacc : s.roster.Accounted D₀) {result : SettlementResult}
    (hknows : (HandlerCall.settle d nowMs (.destroyRoom room result)).Knows s) :
    HandlerEffect s (.settle d nowMs (.destroyRoom room result)) others
      (s.handlerStep (.settle d nowMs (.destroyRoom room result))) := by
  obtain ⟨hguard, hopens⟩ := opens_of_knows hknows (by simp)
  obtain ⟨hid, hmembers, -⟩ := hopens.room room [] rfl
  have hstep : s.handlerStep (.settle d nowMs (.destroyRoom room result)) =
      ({ s with rooms := (s.rooms.destroyRoom d.roomId).1 },
        some (.settle d nowMs (.endSettlement result))) := by
    rw [← hid]
    rfl
  rw [hstep]
  refine ⟨⟨id, fun _ hr _ => hr, fun r x hr hother => ?_⟩, fun next hn => ?_,
    fun next r hn hr => ?_, fun D _ _ _ => ?_, fun p hp => (by cases hp),
    fun p r hr => (by cases hr), fun r hr => ?_⟩
  · change (s.rooms.destroyRoom d.roomId).1.membersOf r = some x
    rw [RoomManager.membersOf_destroyRoom, if_neg, hr]
    rintro rfl
    exact hother rfl
  · cases hn
    exact (opens_of_none (by simp) rfl).knows hguard
  · cases hn
    exact Or.inl hr
  · exact (roster_destroyRoom hmembers).symm ▸ .destroy d.roomId room.players hmembers
  · obtain rfl := List.mem_singleton.mp hr
    refine Or.inl fun p hp => ?_
    rw [roster_destroyRoom hmembers] at hp
    dsimp only at hp
    split_ifs at hp with hmem
    obtain ⟨ps, hps, hin⟩ := (hacc.index p d.roomId).mp hp
    have heq : ps = room.players := by
      have := hps.symm.trans hmembers
      simpa using this
    exact hmem (heq ▸ hin)

lemma effect_endSettlement {result : SettlementResult} :
    HandlerEffect s (.settle d nowMs (.endSettlement result)) others
      (s.handlerStep (.settle d nowMs (.endSettlement result))) := by
  refine effect_of_free rfl rfl rfl ⟨id, fun r hr hother => ?_, fun _ _ hr _ => hr⟩
    (fun next hn => (by cases hn)) fun D => .quiet
  exact Finset.mem_erase.mpr ⟨fun heq => hother (heq ▸ rfl), hr⟩

lemma effect_settle {D₀ : Duties} (hacc : s.roster.Accounted D₀)
    (h : (HandlerCall.settle d nowMs point).Timely s others)
    (hknows : (HandlerCall.settle d nowMs point).Knows s) :
    HandlerEffect s (.settle d nowMs point) others (s.handlerStep (.settle d nowMs point)) := by
  cases point with
  | tryBeginSettlement => exact effect_tryBeginSettlement
  | getRoomById => exact effect_getRoomById hacc.live hknows
  | markSettling room => exact effect_markSettling hknows
  | getPlayer room pid rest changes => exact effect_getPlayer hknows
  | persistSettlementTransaction room changes => exact effect_persistSettlementTransaction hknows
  | batchAddCoin room changes recordId => exact effect_batchAddCoin hknows
  | getCoin c rest result =>
    exact effect_settle_free (by simp) rfl rfl rfl rfl rfl rfl hknows (opens_of_none (by simp) rfl)
  | addCoin c delta rest result => exact effect_addCoin hknows
  | clearRoomId room pid rest result => exact effect_clearRoomId hacc hknows
  | forceState room pid rest result => exact effect_forceState h hknows
  | markFinished room result => exact effect_markFinished hknows
  | destroyRoom room result => exact effect_destroyRoom hacc hknows
  | endSettlement result => exact effect_endSettlement

/-- Every timely call of a handler has its effect. -/
theorem effect_handlerStep {D₀ : Duties} (hacc : s.roster.Accounted D₀)
    (hkept : s.matching.WellKept) {call : HandlerCall} (h : call.Timely s others)
    (hknows : call.Knows s) : HandlerEffect s call others (s.handlerStep call) := by
  cases call with
  | login c point => exact effect_login h
  | reconnect c point => exact effect_reconnect h
  | requestMatch c point => exact effect_match hkept hacc.waits hacc.bound hacc.present h hknows
  | cancelMatch connectionId point => exact effect_cancel hkept hacc.waits h
  | connectionClosed c point => exact effect_close hkept hacc.waits hacc.bound h
  | settle d nowMs point => exact effect_settle hacc h hknows

end GameServer

end DdzServer
