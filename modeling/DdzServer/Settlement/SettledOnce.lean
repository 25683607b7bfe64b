import DdzServer.Server.ServerThreads
import DdzServer.Settlement.SettleRule

/-!
# A room is settled at most once

However the calls of any number of settlements interleave, the guard lets one settlement at a time
work on a room, and the room is gone before the guard is released by a settlement that has paid. The
proof outline says for every point of a settlement what it knows of its room.
-/

namespace DdzServer

open Interleaving

/-! ### What is seen of one room -/

namespace ServerEvent

/-- A settlement of the room returned `OK`. -/
def PaidOut (r : ℤ) : ServerEvent → Bool
  | .returned d result => d.roomId = r ∧ result.code = .ok
  | _ => false

/-- The players the room was created with. -/
def createdIn (r : ℤ) : ServerEvent → Option (List ℤ)
  | .roomCreated roomId players => if roomId = r then some players else none
  | _ => none

lemma createdIn_eq_some {r : ℤ} {e : ServerEvent} {players : List ℤ} :
    e.createdIn r = some players ↔ e = .roomCreated r players := by
  cases e with
  | roomCreated roomId ps =>
    simp only [createdIn]
    split_ifs with hr
    · simp [hr]
    · simp [hr]
  | gameOver => simp [createdIn]
  | returned => simp [createdIn]

end ServerEvent

/-- What the settlements of a room read and write. -/
structure RoomView where
  guarded : Prop
  members : Option (ℤ × List ℤ)
  created : List (List ℤ)
  records : Multiset GameRecord
  booked : Multiset (ℤ × ℤ)
  timesPaidOut : ℕ

namespace World

/-- How many settlements of the room returned `OK`. -/
def timesPaidOut (w : World) (r : ℤ) : ℕ := w.events.countP (ServerEvent.PaidOut r)

def view (w : World) (r : ℤ) : RoomView where
  guarded := r ∈ w.server.settlingRooms
  members := w.server.rooms.membersOf r
  created := w.events.filterMap (ServerEvent.createdIn r)
  records := w.server.storage.gameRecordsOf r
  booked := w.server.storage.bookedFor r
  timesPaidOut := w.timesPaidOut r

def Registered (w : World) (p : ℤ) : Prop := w.server.players.players.lookup p ≠ none

lemma mem_created {w : World} {r : ℤ} {players : List ℤ} :
    players ∈ (w.view r).created ↔ .roomCreated r players ∈ w.events := by
  simp [view, List.mem_filterMap, ServerEvent.createdIn_eq_some]

end World

namespace RoomView

variable {v : RoomView} {r : ℤ} {players : List ℤ}

/-- Nothing was written for the room. -/
structure Blank (v : RoomView) : Prop where
  records : v.records = 0
  booked : v.booked = 0
  timesPaidOut : v.timesPaidOut = 0

/-- One settlement of the room was written. -/
structure Recorded (v : RoomView) (players : List ℤ) : Prop where
  record : v.records.card = 1
  everybody : v.booked.map Prod.fst = players
  balanced : players.Nodup → (v.booked.map Prod.snd).sum = 0

/-- What holds of every room at any time. -/
structure Sound (v : RoomView) (r : ℤ) : Prop where
  live : ∀ id players, v.members = some (id, players) → id = r ∧ players ∈ v.created
  unique : ∀ players players', players ∈ v.created → players' ∈ v.created → players = players'
  unborn : v.created = [] → v.Blank
  free : ¬ v.guarded → v.members ≠ none → v.Blank
  books : ∀ players ∈ v.created,
    (v.records = 0 ∧ v.booked = 0 ∨ v.Recorded players) ∧ v.timesPaidOut ≤ 1

end RoomView

lemma settlementFailed_ne_ok : ErrorCode.settlementFailed ≠ .ok := by decide

/-! ### What a settlement knows of its room -/

namespace SettlementPoint

/-- The settlement holds the guard of its room. -/
def Holds : SettlementPoint → Prop
  | .tryBeginSettlement => False
  | _ => True

/-- The room is there, and nothing was written for it. -/
structure Opened (v : RoomView) (d : ServerSettlementDecision) (room : Room) : Prop where
  guarded : v.guarded
  members : v.members = some (d.roomId, room.players)
  roomId : room.roomId = d.roomId
  blank : v.Blank

/-- The room is there, and its settlement was written. -/
structure Paying (v : RoomView) (d : ServerSettlementDecision) (room : Room) : Prop where
  guarded : v.guarded
  members : v.members = some (d.roomId, room.players)
  roomId : room.roomId = d.roomId
  recorded : v.Recorded room.players
  timesPaidOut : v.timesPaidOut = 0

/-- The coin changes so far are right, and the players in `rest` are left. -/
structure Collected (registered : ℤ → Prop) (d : ServerSettlementDecision) (room : Room)
    (changes : List SettlementCoinChange) (rest : List ℤ) : Prop where
  winner : d.winnerPlayerId ∈ room.players
  due : (changes.map fun c => (c.playerId, c.delta)) ++ (rest.map fun p => (p, d.delta room p)) =
    room.players.map fun p => (p, d.delta room p)
  roomIds : ∀ c ∈ changes, c.roomId = room.roomId
  registered : ∀ c ∈ changes, registered c.playerId

/-- What a settlement knows at each point. Coins are never taken back: the players of the changes
are registered, and stay so. -/
def Knows (registered : ℤ → Prop) (v : RoomView) (d : ServerSettlementDecision) :
    SettlementPoint → Prop
  | .tryBeginSettlement => True
  | .getRoomById => v.guarded ∧ (v.members ≠ none → v.Blank)
  | .markSettling room => Opened v d room
  | .getPlayer room pid rest changes =>
    Opened v d room ∧ Collected registered d room changes (pid :: rest)
  | .persistSettlementTransaction room changes =>
    Opened v d room ∧ Collected registered d room changes []
  | .batchAddCoin room changes _ => Paying v d room ∧ Collected registered d room changes []
  | .getCoin _ _ _ => False
  | .addCoin _ _ _ _ => False
  | .clearRoomId room _ _ _ => Paying v d room
  | .forceState room _ _ _ => Paying v d room
  | .markFinished room _ => Paying v d room
  | .destroyRoom room _ => Paying v d room
  | .endSettlement result =>
    v.guarded ∧ (v.members ≠ none → v.Blank) ∧
      (result.code = .ok → v.members = none ∧ v.created ≠ [] ∧ v.timesPaidOut = 0)

variable {registered registered' : ℤ → Prop} {v : RoomView} {d : ServerSettlementDecision}
  {room : Room} {changes : List SettlementCoinChange} {rest : List ℤ} {point : SettlementPoint}

lemma Collected.mono (h : Collected registered d room changes rest)
    (hreg : ∀ p, registered p → registered' p) : Collected registered' d room changes rest :=
  { h with registered := fun c hc => hreg _ (h.registered c hc) }

/-- More players may be registered in the meantime. -/
lemma Knows.mono (h : point.Knows registered v d) (hreg : ∀ p, registered p → registered' p) :
    point.Knows registered' v d := by
  cases point with
  | getPlayer => exact ⟨h.1, h.2.mono hreg⟩
  | persistSettlementTransaction => exact ⟨h.1, h.2.mono hreg⟩
  | batchAddCoin => exact ⟨h.1, h.2.mono hreg⟩
  | _ => exact h

lemma Knows.guarded (h : point.Knows registered v d) (hholds : point.Holds) : v.guarded := by
  cases point with
  | tryBeginSettlement => cases hholds
  | getRoomById => exact h.1
  | markSettling => exact Opened.guarded h
  | getPlayer => exact h.1.guarded
  | persistSettlementTransaction => exact h.1.guarded
  | batchAddCoin => exact h.1.guarded
  | getCoin => cases h
  | addCoin => cases h
  | clearRoomId => exact Paying.guarded h
  | forceState => exact Paying.guarded h
  | markFinished => exact Paying.guarded h
  | destroyRoom => exact Paying.guarded h
  | endSettlement => exact h.1

/-- The creation of a room tells its settlements nothing: they wait for it, or have missed it. -/
lemma Knows.createRoom {r : ℤ} (h : point.Knows registered v d) (hv : v.Sound r)
    (hunborn : v.created = []) (hmembers : v.members = none) (members : Option (ℤ × List ℤ))
    (created : List (List ℤ)) :
    point.Knows registered { v with members := members, created := created } d := by
  have hblank : RoomView.Blank { v with members := members, created := created } :=
    ⟨(hv.unborn hunborn).records, (hv.unborn hunborn).booked, (hv.unborn hunborn).timesPaidOut⟩
  have hopened : ∀ {room}, Opened v d room → False := fun ho => by
    have := ho.members
    rw [hmembers] at this
    cases this
  have hpaying : ∀ {room}, Paying v d room → False := fun hp => by
    have := hp.members
    rw [hmembers] at this
    cases this
  cases point with
  | tryBeginSettlement => trivial
  | getRoomById => exact ⟨h.1, fun _ => hblank⟩
  | markSettling => exact (hopened h).elim
  | getPlayer => exact (hopened h.1).elim
  | persistSettlementTransaction => exact (hopened h.1).elim
  | batchAddCoin => exact (hpaying h.1).elim
  | getCoin => cases h
  | addCoin => cases h
  | clearRoomId => exact (hpaying h).elim
  | forceState => exact (hpaying h).elim
  | markFinished => exact (hpaying h).elim
  | destroyRoom => exact (hpaying h).elim
  | endSettlement => exact ⟨h.1, fun _ => hblank, fun hok => absurd hunborn (h.2.2 hok).2.1⟩

/-- The settlement failed before anything was written. -/
lemma Opened.knows_end (h : Opened v d room) {result : SettlementResult}
    (hcode : result.code ≠ .ok) : (endSettlement result).Knows registered v d :=
  ⟨h.guarded, fun _ => h.blank, fun hok => absurd hok hcode⟩

lemma Opened.knows_collect (h : Opened v d room) (hc : Collected registered d room changes rest) :
    (collect d room changes rest).Knows registered v d := by
  cases rest with
  | nil =>
    have hlen : changes.length = room.players.length := by
      simpa using congrArg List.length hc.due
    rw [collect, if_neg (not_not.mpr hlen)]
    exact ⟨h, hc⟩
  | cons pid rest => exact ⟨h, hc⟩

lemma Paying.knows_leave (h : Paying v d room) (result : SettlementResult) (rest : List ℤ) :
    (leave room result rest).Knows registered v d := by
  cases rest <;> exact h

/-- When every player is registered, the coin changes of all players are known in the end. -/
lemma Collected.next {pid : ℤ} (h : Collected registered d room changes (pid :: rest))
    (hpid : registered pid) (before : ℤ) :
    Collected registered d room (changes ++ [d.coinChange room pid before]) rest where
  winner := h.winner
  due := by
    rw [← h.due]
    simp [ServerSettlementDecision.coinChange]
  roomIds := by
    intro c hc
    rcases List.mem_append.mp hc with hc | hc
    · exact h.roomIds c hc
    · rw [List.mem_singleton.mp hc]
      rfl
  registered := by
    intro c hc
    rcases List.mem_append.mp hc with hc | hc
    · exact h.registered c hc
    · rw [List.mem_singleton.mp hc]
      exact hpid

end SettlementPoint

/-! ### One call of a settlement -/

namespace World

open SettlementPoint RoomView

variable {w : World} {call : SettlementCall}

/-- The world is sound: every room is, and room ids are not handed out twice. -/
structure Sound (w : World) : Prop where
  room : ∀ r, (w.view r).Sound r
  bound : ∀ r, (w.view r).created ≠ [] → r < w.server.rooms.rooms.nextId

/-- What a call of a settlement does: it changes what is seen of its own room only. -/
structure Progress (w : World) (call : SettlementCall) (v : RoomView)
    (out : World × Option SettlementCall) : Prop where
  view : out.1.view = Function.update w.view call.decision.roomId v
  nextId : out.1.server.rooms.rooms.nextId = w.server.rooms.rooms.nextId
  registered : ∀ p, w.Registered p → out.1.Registered p
  sound : v.Sound call.decision.roomId
  created : v.created = (w.view call.decision.roomId).created
  knows : ∀ call', out.2 = some call' → call'.decision = call.decision ∧
    call'.point.Knows out.1.Registered v call.decision

lemma Progress.world_sound {v : RoomView} {out : World × Option SettlementCall}
    (h : w.Progress call v out) (hw : w.Sound) : out.1.Sound := by
  refine ⟨fun r => ?_, fun r hr => ?_⟩
  · rw [h.view]
    by_cases hq : r = call.decision.roomId
    · subst hq
      simpa using h.sound
    · simpa [hq] using hw.room r
  · rw [h.nextId]
    rw [h.view] at hr
    by_cases hq : r = call.decision.roomId
    · subst hq
      simp only [Function.update_self, h.created] at hr
      exact hw.bound _ hr
    · simp only [Function.update_of_ne hq] at hr
      exact hw.bound r hr

lemma settlementStep_inl {s : GameServer} {point : SettlementPoint}
    (h : w.server.settlementStep call.decision call.nowMs call.point = (s, .inl point)) :
    w.settlementStep call = ({ w with server := s }, some { call with point := point }) := by
  rw [settlementStep, h]

lemma settlementStep_inr {s : GameServer} {result : SettlementResult}
    (h : w.server.settlementStep call.decision call.nowMs call.point = (s, .inr result)) :
    w.settlementStep call =
      (({ w with server := s }).emit (.returned call.decision result), none) := by
  rw [settlementStep, h]

/-- A call after which the settlement goes on. -/
lemma progress_inl {v : RoomView} {s : GameServer} {point : SettlementPoint}
    (h : w.server.settlementStep call.decision call.nowMs call.point = (s, .inl point))
    (hview : ({ w with server := s } : World).view =
      Function.update w.view call.decision.roomId v)
    (hnextId : s.rooms.rooms.nextId = w.server.rooms.rooms.nextId)
    (hreg : ∀ p, w.Registered p → s.players.players.lookup p ≠ none)
    (hsound : v.Sound call.decision.roomId)
    (hcreated : v.created = (w.view call.decision.roomId).created)
    (hknows : ∀ registered : ℤ → Prop, (∀ p, w.Registered p → registered p) →
      point.Knows registered v call.decision) :
    w.Progress call v (w.settlementStep call) := by
  rw [settlementStep_inl h]
  refine ⟨hview, hnextId, hreg, hsound, hcreated, ?_⟩
  rintro call' hcall'
  obtain rfl := Option.some.inj hcall'
  exact ⟨rfl, hknows _ hreg⟩

/-- A call that leaves everything that is seen of rooms as it was. -/
lemma progress_quiet {s : GameServer} {point : SettlementPoint} (hw : w.Sound)
    (h : w.server.settlementStep call.decision call.nowMs call.point = (s, .inl point))
    (hview : ({ w with server := s } : World).view = w.view)
    (hnextId : s.rooms.rooms.nextId = w.server.rooms.rooms.nextId)
    (hreg : ∀ p, w.Registered p → s.players.players.lookup p ≠ none)
    (hknows : ∀ registered : ℤ → Prop, (∀ p, w.Registered p → registered p) →
      point.Knows registered (w.view call.decision.roomId) call.decision) :
    w.Progress call (w.view call.decision.roomId) (w.settlementStep call) :=
  progress_inl h (by rw [hview, Function.update_eq_self]) hnextId hreg (hw.room _) rfl hknows

lemma view_of_rooms {rooms : RoomManager} (hrooms : rooms.membersOf = w.server.rooms.membersOf) :
    ({ w with server := { w.server with rooms := rooms } } : World).view = w.view := by
  funext r
  simp only [view, hrooms]
  rfl

lemma view_apply (rng : Shuffler) {op : RoomOp} (hop : op.IsInside) :
    (w.setRooms (w.server.rooms.apply rng op)).view = w.view :=
  view_of_rooms (funext fun r => RoomManager.membersOf_apply rng hop r)

/-! ### Each call of a settlement -/

lemma progress_getRoomById (hw : w.Sound) (hpoint : call.point = .getRoomById)
    (hguarded : (w.view call.decision.roomId).guarded)
    (hblank : (w.view call.decision.roomId).members ≠ none →
      (w.view call.decision.roomId).Blank) :
    w.Progress call (w.view call.decision.roomId) (w.settlementStep call) := by
  cases hroom : w.server.rooms.getRoomById call.decision.roomId with
  | none =>
    have hcode : ErrorCode.roomNotFound ≠ .ok := by decide
    have hstep : w.server.settlementStep call.decision call.nowMs call.point =
        (w.server, .inl (.endSettlement (call.decision.result .roomNotFound))) := by
      simp only [hpoint, GameServer.settlementStep, hroom]
    exact progress_quiet hw hstep rfl rfl (fun _ h => h) fun _ _ =>
      ⟨hguarded, hblank, fun hok => absurd hok hcode⟩
  | some room =>
    have hstep : w.server.settlementStep call.decision call.nowMs call.point =
        (w.server, .inl (.markSettling room)) := by
      simp only [hpoint, GameServer.settlementStep, hroom]
    have hmembers : (w.view call.decision.roomId).members = some (room.roomId, room.players) :=
      RoomManager.membersOf_eq_some.mpr ⟨room, hroom, rfl, rfl⟩
    have hid := ((hw.room call.decision.roomId).live _ _ hmembers).1
    have hopened : Opened (w.view call.decision.roomId) call.decision room :=
      ⟨hguarded, hid ▸ hmembers, hid, hblank (by rw [hmembers]; exact Option.some_ne_none _)⟩
    exact progress_quiet hw hstep rfl rfl (fun _ h => h) fun _ _ => hopened

lemma progress_markSettling {room : Room} (hw : w.Sound)
    (hpoint : call.point = .markSettling room)
    (hopened : Opened (w.view call.decision.roomId) call.decision room) :
    w.Progress call (w.view call.decision.roomId) (w.settlementStep call) := by
  have hinside : RoomOp.IsInside (.markSettling call.decision.roomId) := rfl
  have hstep : w.server.settlementStep call.decision call.nowMs call.point =
      ({ w.server with rooms := w.server.rooms.apply .sorted (.markSettling call.decision.roomId) },
        .inl (if call.decision.winnerPlayerId ∉ room.players then
            .endSettlement (call.decision.result .settlementFailed)
          else collect call.decision room [] room.players)) := by
    rw [hpoint]
    rfl
  refine progress_quiet hw hstep (view_apply .sorted hinside)
    (RoomManager.nextId_apply .sorted hinside) (fun _ h => h) fun registered _ => ?_
  by_cases hwinner : call.decision.winnerPlayerId ∈ room.players
  · rw [if_neg (not_not.mpr hwinner)]
    exact hopened.knows_collect ⟨hwinner, rfl, by simp, by simp⟩
  · rw [if_pos hwinner]
    exact hopened.knows_end settlementFailed_ne_ok

lemma progress_getPlayer {room : Room} {pid : ℤ} {rest : List ℤ}
    {changes : List SettlementCoinChange} (hw : w.Sound)
    (hpoint : call.point = .getPlayer room pid rest changes)
    (hopened : Opened (w.view call.decision.roomId) call.decision room)
    (hcollected : Collected w.Registered call.decision room changes (pid :: rest)) :
    w.Progress call (w.view call.decision.roomId) (w.settlementStep call) := by
  cases hplayer : w.server.players.getPlayer pid with
  | none =>
    have hstep : w.server.settlementStep call.decision call.nowMs call.point =
        (w.server, .inl (.endSettlement (call.decision.result .settlementFailed))) := by
      simp only [hpoint, GameServer.settlementStep, hplayer]
    exact progress_quiet hw hstep rfl rfl (fun _ h => h) fun _ _ =>
      hopened.knows_end settlementFailed_ne_ok
  | some player =>
    have hstep : w.server.settlementStep call.decision call.nowMs call.point =
        (w.server, .inl (collect call.decision room
          (changes ++ [call.decision.coinChange room pid player.coin]) rest)) := by
      simp only [hpoint, GameServer.settlementStep, hplayer]
    have hpid : w.Registered pid := by
      rw [Registered, show w.server.players.players.lookup pid = some player from hplayer]
      exact Option.some_ne_none player
    exact progress_quiet hw hstep rfl rfl (fun _ h => h) fun _ hreg =>
      hopened.knows_collect ((hcollected.next hpid player.coin).mono hreg)

/-- The room and its players, once the room is known to be there. -/
lemma Sound.members_created {d : ServerSettlementDecision} {players : List ℤ} (hw : w.Sound)
    (hmembers : (w.view d.roomId).members = some (d.roomId, players)) :
    players ∈ (w.view d.roomId).created :=
  ((hw.room d.roomId).live _ _ hmembers).2

/-- What is seen of a room after its settlement was written. -/
def written (w : World) (r : ℤ) (req : SettlementPersistRequest) : RoomView :=
  { w.view r with
    records := {{ StorageService.recordOf req with
      recordId := w.server.storage.gameRecords.nextId }}
    booked := ((req.coinChanges.map fun c => (c.playerId, c.delta) : List (ℤ × ℤ)) :
      Multiset (ℤ × ℤ)) }

lemma view_persisted {req : SettlementPersistRequest} {r : ℤ} (hr : req.roomId = r)
    (hreq : ∀ c ∈ req.coinChanges, c.roomId = req.roomId) (hblank : (w.view r).Blank) :
    ({ w with server := { w.server with storage := w.server.storage.persisted req } } :
        World).view = Function.update w.view r (w.written r req) := by
  have hrecords : w.server.storage.gameRecordsOf r = 0 := hblank.records
  have hbooked : w.server.storage.bookedFor r = 0 := hblank.booked
  funext q
  simp only [view, StorageService.gameRecordsOf_persisted,
    StorageService.bookedFor_persisted _ hreq, hr]
  by_cases hq : q = r
  · subst hq
    simp [hrecords, hbooked, timesPaidOut, written, view]
  · simp [hq, Ne.symm hq, timesPaidOut, view]

lemma progress_persist {room : Room} {changes : List SettlementCoinChange} (hw : w.Sound)
    (hpoint : call.point = .persistSettlementTransaction room changes)
    (hopened : Opened (w.view call.decision.roomId) call.decision room)
    (hcollected : Collected w.Registered call.decision room changes []) :
    ∃ v, w.Progress call v (w.settlementStep call) := by
  have hcreated := hw.members_created hopened.members
  have hsound := hw.room call.decision.roomId
  rcases w.server.storage.persist_spec (call.decision.persistRequest room call.nowMs changes) with
    ⟨-, heq⟩ | ⟨-, storage, err, heq, hsame⟩
  · have hstep : w.server.settlementStep call.decision call.nowMs call.point =
        ({ w.server with
            storage := w.server.storage.persisted
              (call.decision.persistRequest room call.nowMs changes) },
          .inl (.batchAddCoin room changes w.server.storage.gameRecords.nextId)) := by
      simp only [hpoint, GameServer.settlementStep, heq]
    have hdue := hcollected.due
    rw [List.map_nil, List.append_nil] at hdue
    have hrecorded : (w.written call.decision.roomId
        (call.decision.persistRequest room call.nowMs changes)).Recorded room.players := by
      refine ⟨rfl, ?_, fun hnd => ?_⟩
      · simp only [written, ServerSettlementDecision.persistRequest, hdue]
        simp [Function.comp_def]
      · simp only [written, ServerSettlementDecision.persistRequest, hdue]
        simpa [Function.comp_def] using
          GameServer.sum_delta call.decision room hnd hcollected.winner
    have hpaying : Paying (w.written call.decision.roomId
        (call.decision.persistRequest room call.nowMs changes)) call.decision room :=
      ⟨hopened.guarded, hopened.members, hopened.roomId, hrecorded, hopened.blank.timesPaidOut⟩
    refine ⟨_, progress_inl hstep
      (view_persisted hopened.roomId (fun c hc => hcollected.roomIds c hc) hopened.blank) rfl
      (fun _ h => h) ?_ rfl fun _ hreg => ⟨hpaying, hcollected.mono hreg⟩⟩
    refine ⟨hsound.live, hsound.unique, fun hnil => ?_, fun hfree => ?_, fun players hplayers => ?_⟩
    · exact absurd hnil (List.ne_nil_of_mem hcreated)
    · exact absurd hopened.guarded hfree
    · obtain rfl := hsound.unique _ _ hplayers hcreated
      exact ⟨Or.inr hrecorded, hopened.blank.timesPaidOut.le.trans zero_le_one⟩
  · have hstep : w.server.settlementStep call.decision call.nowMs call.point =
        ({ w.server with storage := storage },
          .inl (.endSettlement (call.decision.result .settlementFailed))) := by
      simp only [hpoint, GameServer.settlementStep, heq]
    refine ⟨_, progress_quiet hw hstep (funext fun r => ?_) rfl (fun _ h => h)
      fun _ _ => hopened.knows_end settlementFailed_ne_ok⟩
    simp only [view, hsame.gameRecordsOf, hsame.bookedFor, timesPaidOut]

/-- All players are registered, so their coins change and are never taken back. -/
lemma progress_batchAddCoin {room : Room} {changes : List SettlementCoinChange} {recordId : ℤ}
    (hw : w.Sound) (hpoint : call.point = .batchAddCoin room changes recordId)
    (hpaying : Paying (w.view call.decision.roomId) call.decision room)
    (hcollected : Collected w.Registered call.decision room changes []) :
    w.Progress call (w.view call.decision.roomId) (w.settlementStep call) := by
  have hall : ∀ c ∈ changes.map fun c => (c.playerId, c.delta),
      w.server.players.players.lookup c.1 ≠ none := by
    intro c hc
    obtain ⟨change, hchange, rfl⟩ := List.mem_map.mp hc
    exact hcollected.registered change hchange
  have hlen : (w.server.players.addCoins (changes.map fun c => (c.playerId, c.delta))).2.length =
      room.players.length := by
    rw [PlayerManager.length_addCoins]
    simpa using congrArg List.length hcollected.due
  have hbatch : w.server.players.batchAddCoin (changes.map fun c => (c.playerId, c.delta)) =
      ((w.server.players.addCoins (changes.map fun c => (c.playerId, c.delta))).1,
        some (w.server.players.addCoins (changes.map fun c => (c.playerId, c.delta))).2) := by
    rw [PlayerManager.batchAddCoin, if_pos hall]
  obtain ⟨result, hstep⟩ : ∃ result,
      w.server.settlementStep call.decision call.nowMs call.point =
        ({ w.server with
            players :=
              (w.server.players.addCoins (changes.map fun c => (c.playerId, c.delta))).1 },
          .inl (leave room result room.players)) := by
    rw [hpoint, GameServer.settlementStep, hbatch]
    dsimp only
    rw [if_neg (by simp [hlen])]
    exact ⟨_, rfl⟩
  exact progress_quiet hw hstep rfl rfl
    (fun _ h => PlayerManager.lookup_addCoins_ne_none _ h) fun _ _ => hpaying.knows_leave _ _

lemma progress_clearRoomId {room : Room} {pid : ℤ} {rest : List ℤ} {result : SettlementResult}
    (hw : w.Sound) (hpoint : call.point = .clearRoomId room pid rest result)
    (hpaying : Paying (w.view call.decision.roomId) call.decision room) :
    w.Progress call (w.view call.decision.roomId) (w.settlementStep call) :=
  progress_quiet hw (congrArg (w.server.settlementStep call.decision call.nowMs) hpoint) rfl rfl
    (fun _ h => h) fun _ _ => hpaying

lemma progress_forceState {room : Room} {pid : ℤ} {rest : List ℤ} {result : SettlementResult}
    (hw : w.Sound) (hpoint : call.point = .forceState room pid rest result)
    (hpaying : Paying (w.view call.decision.roomId) call.decision room) :
    w.Progress call (w.view call.decision.roomId) (w.settlementStep call) :=
  progress_quiet hw (congrArg (w.server.settlementStep call.decision call.nowMs) hpoint) rfl rfl
    (fun _ h => PlayerManager.lookup_write_ne_none h pid _)
    fun _ _ => hpaying.knows_leave result rest

lemma progress_markFinished {room : Room} {result : SettlementResult} (hw : w.Sound)
    (hpoint : call.point = .markFinished room result)
    (hpaying : Paying (w.view call.decision.roomId) call.decision room) :
    w.Progress call (w.view call.decision.roomId) (w.settlementStep call) := by
  have hinside : RoomOp.IsInside (.markFinished room.roomId) := rfl
  exact progress_quiet hw (congrArg (w.server.settlementStep call.decision call.nowMs) hpoint)
    (view_apply .sorted hinside)
    (RoomManager.nextId_apply .sorted hinside) (fun _ h => h) fun _ _ => hpaying

/-- The room of a settlement that has paid disappears while its guard is held. -/
lemma progress_destroyRoom {room : Room} {result : SettlementResult} (hw : w.Sound)
    (hpoint : call.point = .destroyRoom room result)
    (hpaying : Paying (w.view call.decision.roomId) call.decision room) :
    w.Progress call { w.view call.decision.roomId with members := none }
      (w.settlementStep call) := by
  have hsound := hw.room call.decision.roomId
  have hcreated := hw.members_created hpaying.members
  have hrecorded : RoomView.Recorded { w.view call.decision.roomId with members := none }
      room.players := ⟨hpaying.recorded.1, hpaying.recorded.2, hpaying.recorded.3⟩
  refine progress_inl (congrArg (w.server.settlementStep call.decision call.nowMs) hpoint)
    (funext fun r => ?_) ?_ (fun _ h => h)
    ⟨by simp, hsound.unique, fun hnil => ?_, fun _ hlive => absurd rfl hlive, fun players hp => ?_⟩
    rfl fun _ _ => ⟨hpaying.guarded, fun hlive => absurd rfl hlive, fun _ =>
      ⟨rfl, List.ne_nil_of_mem hcreated, hpaying.timesPaidOut⟩⟩
  · simp only [view, RoomManager.membersOf_destroyRoom, hpaying.roomId]
    by_cases hr : r = call.decision.roomId
    · subst hr
      simp [timesPaidOut]
    · simp [hr, view, timesPaidOut]
  · simp only [RoomManager.destroyRoom]
    split <;> rfl
  · exact absurd hnil (List.ne_nil_of_mem hcreated)
  · obtain rfl := hsound.unique _ _ hp hcreated
    exact ⟨Or.inr hrecorded, hpaying.timesPaidOut.le.trans zero_le_one⟩

/-- What is seen of a room after its guard was released. -/
def released (w : World) (r : ℤ) (code : ErrorCode) : RoomView :=
  { w.view r with
    guarded := False
    timesPaidOut := (w.view r).timesPaidOut + if code = .ok then 1 else 0 }

lemma view_returned {d : ServerSettlementDecision} {result : SettlementResult} :
    (({ w with server := w.server.endSettlement d.roomId } : World).emit
      (.returned d result)).view = Function.update w.view d.roomId
        (w.released d.roomId result.code) := by
  funext r
  by_cases hr : r = d.roomId
  · subst hr
    simp [view, emit, timesPaidOut, List.filterMap_cons, ServerEvent.createdIn,
      GameServer.endSettlement, List.countP_cons, ServerEvent.PaidOut, released]
  · simp [hr, Ne.symm hr, view, emit, timesPaidOut, List.filterMap_cons, ServerEvent.createdIn,
      GameServer.endSettlement, ServerEvent.PaidOut]

/-- The guard is released when the room is gone, or nothing was written. -/
lemma progress_endSettlement {result : SettlementResult} (hw : w.Sound)
    (hpoint : call.point = .endSettlement result)
    (hblank : (w.view call.decision.roomId).members ≠ none →
      (w.view call.decision.roomId).Blank)
    (hpaid : result.code = .ok → (w.view call.decision.roomId).members = none ∧
      (w.view call.decision.roomId).created ≠ [] ∧
      (w.view call.decision.roomId).timesPaidOut = 0) :
    w.Progress call (w.released call.decision.roomId result.code) (w.settlementStep call) := by
  have hsound := hw.room call.decision.roomId
  have hreleased : (w.released call.decision.roomId result.code).Sound call.decision.roomId := by
    refine ⟨hsound.live, hsound.unique, fun hnil => ?_, fun _ hlive => ?_, fun players hp => ?_⟩
    · have hb := hsound.unborn hnil
      have hcode : result.code ≠ .ok := fun hok => (hpaid hok).2.1 hnil
      exact ⟨hb.records, hb.booked, by simp [released, hb.timesPaidOut, hcode]⟩
    · have hb := hblank hlive
      have hcode : result.code ≠ .ok := fun hok => hlive (hpaid hok).1
      exact ⟨hb.records, hb.booked, by simp [released, hb.timesPaidOut, hcode]⟩
    · obtain ⟨hrows, honce⟩ := hsound.books players hp
      refine ⟨hrows.imp id fun h => ⟨h.1, h.2, h.3⟩, ?_⟩
      by_cases hcode : result.code = .ok
      · simp [released, hcode, (hpaid hcode).2.2]
      · simpa [released, hcode] using honce
  have hstep : w.server.settlementStep call.decision call.nowMs call.point =
      (w.server.endSettlement call.decision.roomId, .inr result) := by
    rw [hpoint]
    rfl
  rw [settlementStep_inr hstep]
  exact ⟨view_returned, rfl, fun _ h => h, hreleased, rfl,
    fun _ hnext => absurd hnext (Option.some_ne_none _).symm⟩

/-- A settlement that holds the guard changes its own room only, and knows what it did. -/
theorem progress_of_holds (hw : w.Sound) (hholds : call.point.Holds)
    (hknows : call.point.Knows w.Registered (w.view call.decision.roomId) call.decision) :
    ∃ v, w.Progress call v (w.settlementStep call) := by
  cases hpoint : call.point with
  | tryBeginSettlement =>
    rw [hpoint] at hholds
    cases hholds
  | getRoomById =>
    rw [hpoint] at hknows
    exact ⟨_, progress_getRoomById hw hpoint hknows.1 hknows.2⟩
  | markSettling room =>
    rw [hpoint] at hknows
    exact ⟨_, progress_markSettling hw hpoint hknows⟩
  | getPlayer room pid rest changes =>
    rw [hpoint] at hknows
    exact ⟨_, progress_getPlayer hw hpoint hknows.1 hknows.2⟩
  | persistSettlementTransaction room changes =>
    rw [hpoint] at hknows
    exact progress_persist hw hpoint hknows.1 hknows.2
  | batchAddCoin room changes recordId =>
    rw [hpoint] at hknows
    exact ⟨_, progress_batchAddCoin hw hpoint hknows.1 hknows.2⟩
  | getCoin c rest result =>
    rw [hpoint] at hknows
    cases hknows
  | addCoin c delta rest result =>
    rw [hpoint] at hknows
    cases hknows
  | clearRoomId room pid rest result =>
    rw [hpoint] at hknows
    exact ⟨_, progress_clearRoomId hw hpoint hknows⟩
  | forceState room pid rest result =>
    rw [hpoint] at hknows
    exact ⟨_, progress_forceState hw hpoint hknows⟩
  | markFinished room result =>
    rw [hpoint] at hknows
    exact ⟨_, progress_markFinished hw hpoint hknows⟩
  | destroyRoom room result =>
    rw [hpoint] at hknows
    exact ⟨_, progress_destroyRoom hw hpoint hknows⟩
  | endSettlement result =>
    rw [hpoint] at hknows
    exact ⟨_, progress_endSettlement hw hpoint hknows.2.1 hknows.2.2⟩

/-- A refused settlement returns something else than `OK`. -/
lemma view_refused {d : ServerSettlementDecision} {result : SettlementResult}
    (hcode : result.code ≠ .ok) : (w.emit (.returned d result)).view = w.view := by
  funext r
  simp [view, emit, timesPaidOut, List.filterMap_cons, ServerEvent.createdIn, ServerEvent.PaidOut,
    hcode]

/-- The guard is taken only when it is free. -/
lemma progress_tryBeginSettlement (hw : w.Sound) (hpoint : call.point = .tryBeginSettlement) :
    (w.Progress call (w.view call.decision.roomId) (w.settlementStep call) ∧
        (w.settlementStep call).2 = none) ∨
      (¬ (w.view call.decision.roomId).guarded ∧
        ∃ v, w.Progress call v (w.settlementStep call)) := by
  have hrefused : ∀ result : SettlementResult, result.code ≠ .ok →
      w.server.settlementStep call.decision call.nowMs call.point = (w.server, .inr result) →
        w.Progress call (w.view call.decision.roomId) (w.settlementStep call) ∧
          (w.settlementStep call).2 = none := by
    intro result hcode hstep
    rw [settlementStep_inr hstep]
    refine ⟨⟨?_, rfl, fun _ h => h, hw.room _, rfl, fun _ h => absurd h ?_⟩, rfl⟩
    · rw [Function.update_eq_self]
      exact view_refused hcode
    · exact (Option.some_ne_none _).symm
  by_cases hd : call.decision.IsValid
  · by_cases hbusy : call.decision.roomId ∈ w.server.settlingRooms
    · refine Or.inl (hrefused (call.decision.result .settlementFailed) settlementFailed_ne_ok ?_)
      rw [hpoint, GameServer.settlementStep, if_neg (not_not.mpr hd), if_pos hbusy]
    · have hsound := hw.room call.decision.roomId
      have hblank := hsound.free hbusy
      have hstep : w.server.settlementStep call.decision call.nowMs call.point =
          ({ w.server with
              settlingRooms := insert call.decision.roomId w.server.settlingRooms },
            .inl .getRoomById) := by
        rw [hpoint, GameServer.settlementStep, if_neg (not_not.mpr hd), if_neg hbusy]
      have hblank' : ∀ v : RoomView, v.members ≠ none →
          v = { w.view call.decision.roomId with guarded := True } → v.Blank := by
        rintro v hlive rfl
        exact ⟨(hblank hlive).1, (hblank hlive).2, (hblank hlive).3⟩
      refine Or.inr ⟨hbusy, { w.view call.decision.roomId with guarded := True },
        progress_inl hstep (funext fun r => ?_) rfl (fun _ h => h) ?_ rfl fun _ _ =>
          ⟨trivial, fun hlive => hblank' _ hlive rfl⟩⟩
      · by_cases hr : r = call.decision.roomId
        · subst hr
          simp [view, timesPaidOut]
        · simp [hr, view, timesPaidOut]
      · refine ⟨hsound.live, hsound.unique, fun hnil => ?_, fun hfree => absurd trivial hfree,
          fun players hp => ?_⟩
        · exact ⟨(hsound.unborn hnil).1, (hsound.unborn hnil).2, (hsound.unborn hnil).3⟩
        · exact ⟨(hsound.books players hp).1.imp id fun h => ⟨h.1, h.2, h.3⟩,
            (hsound.books players hp).2⟩
  · have hcode : ErrorCode.invalidPacket ≠ .ok := by decide
    refine Or.inl (hrefused (call.decision.result .invalidPacket) hcode ?_)
    rw [hpoint, GameServer.settlementStep, if_pos hd]

/-- A call of a settlement changes its own room only; it has the guard, finds it free, or is
refused. -/
theorem progress (hw : w.Sound)
    (hknows : call.point.Knows w.Registered (w.view call.decision.roomId) call.decision) :
    ∃ v, w.Progress call v (w.settlementStep call) ∧
      (call.point.Holds ∨ ¬ (w.view call.decision.roomId).guarded ∨
        v = w.view call.decision.roomId ∧ (w.settlementStep call).2 = none) := by
  by_cases hholds : call.point.Holds
  · obtain ⟨v, hv⟩ := progress_of_holds hw hholds hknows
    exact ⟨v, hv, Or.inl hholds⟩
  · have hpoint : call.point = .tryBeginSettlement := by
      cases hp : call.point with
      | tryBeginSettlement => rfl
      | _ => exact absurd (by rw [hp]; trivial) hholds
    rcases progress_tryBeginSettlement hw hpoint with ⟨hv, hnone⟩ | ⟨hfree, v, hv⟩
    · exact ⟨_, hv, Or.inr (Or.inr ⟨rfl, hnone⟩)⟩
    · exact ⟨v, hv, Or.inr (Or.inl hfree)⟩

/-! ### What happens besides settlements -/

/-- A step that no settlement notices. -/
structure Unnoticed (w w' : World) : Prop where
  view : w'.view = w.view
  nextId : w'.server.rooms.rooms.nextId = w.server.rooms.rooms.nextId
  registered : w'.Registered = w.Registered

lemma Unnoticed.sound {w' : World} (h : Unnoticed w w') (hw : w.Sound) : w'.Sound :=
  ⟨h.view ▸ hw.room, by rw [h.view, h.nextId]; exact hw.bound⟩

lemma unnoticed_apply (rng : Shuffler) {op : RoomOp} (hop : op.IsInside) :
    Unnoticed w (w.setRooms (w.server.rooms.apply rng op)) :=
  ⟨view_apply rng hop, RoomManager.nextId_apply rng hop, rfl⟩

lemma unnoticed_gameOver (w : World) (roomId winner baseCoin : ℤ) :
    Unnoticed w (w.emit (.gameOver roomId winner baseCoin)) :=
  ⟨funext fun r => by
    simp [World.view, emit, timesPaidOut, List.filterMap_cons, ServerEvent.createdIn,
      ServerEvent.PaidOut], rfl, rfl⟩

/-- A settlement that starts knows nothing yet. -/
lemma ActRule.unnoticed {rng : Shuffler} {w' : World} {call : Option SettlementCall}
    (h : ActRule rng w w' call) :
    Unnoticed w w' ∧ ∀ c, call = some c → c.point = .tryBeginSettlement := by
  have hnone : ∀ c : SettlementCall, none = some c → c.point = .tryBeginSettlement :=
    fun _ hc => absurd hc (Option.some_ne_none _).symm
  cases h with
  | quiet => exact ⟨⟨rfl, rfl, rfl⟩, hnone⟩
  | inRoom op hop => exact ⟨unnoticed_apply rng hop, hnone⟩
  | @gameOver kind roomId pid nowMs request room result hkind hroom hresult hover =>
    have hfirst := unnoticed_apply (w := w) rng
      (show RoomOp.IsInside (.applyPlayerAction roomId pid request) from rfl)
    have hsecond := unnoticed_gameOver
      (w.setRooms (w.server.rooms.apply rng (.applyPlayerAction roomId pid request))) roomId
      result.winnerPlayerId result.baseCoin
    refine ⟨⟨hsecond.1.trans hfirst.1, hsecond.2.trans hfirst.2, hsecond.3.trans hfirst.3⟩, ?_⟩
    rintro c hc
    obtain rfl := Option.some.inj hc
    rfl
  | offlineLose roomId winner nowMs =>
    refine ⟨⟨rfl, rfl, rfl⟩, ?_⟩
    rintro c hc
    obtain rfl := Option.some.inj hc
    rfl

lemma view_createRoom (mode : ℤ) (players : List ℤ) :
    (w.createRoom mode players).view =
      Function.update w.view w.server.rooms.rooms.nextId
        { w.view w.server.rooms.rooms.nextId with
          members := some (w.server.rooms.rooms.nextId, players)
          created := players :: (w.view w.server.rooms.rooms.nextId).created } := by
  funext r
  have hid : (w.server.rooms.createRoom mode players).2 = w.server.rooms.rooms.nextId := rfl
  simp only [createRoom, emit, setRooms, view, RoomManager.membersOf_createRoom,
    List.filterMap_cons, ServerEvent.createdIn, hid]
  by_cases hr : r = w.server.rooms.rooms.nextId
  · subst hr
    simp [timesPaidOut, ServerEvent.PaidOut]
  · simp [hr, Ne.symm hr, timesPaidOut, ServerEvent.PaidOut, view]

/-- A room id is used for the first time. -/
lemma Sound.unborn_nextId (hw : w.Sound) :
    (w.view w.server.rooms.rooms.nextId).created = [] ∧
      (w.view w.server.rooms.rooms.nextId).members = none := by
  refine ⟨by_contra fun hne => lt_irrefl _ (hw.bound _ hne), ?_⟩
  simp [view, RoomManager.membersOf, Table.find_nextId]

lemma Sound.createRoom (hw : w.Sound) (mode : ℤ) (players : List ℤ) :
    (w.createRoom mode players).Sound := by
  obtain ⟨hunborn, -⟩ := hw.unborn_nextId
  have hblank := (hw.room _).unborn hunborn
  have hnextId : (w.createRoom mode players).server.rooms.rooms.nextId =
      w.server.rooms.rooms.nextId + 1 := rfl
  refine ⟨fun r => ?_, fun r hr => ?_⟩
  · rw [view_createRoom]
    by_cases hr : r = w.server.rooms.rooms.nextId
    · subst hr
      rw [Function.update_self, hunborn]
      refine ⟨?_, ?_, by simp, fun _ _ => ⟨hblank.1, hblank.2, hblank.3⟩, fun ps _ => ?_⟩
      · intro id ps hmembers
        obtain ⟨rfl, rfl⟩ := Prod.mk.inj (Option.some.inj hmembers)
        exact ⟨rfl, List.mem_singleton_self _⟩
      · intro ps ps' hps hps'
        rw [List.mem_singleton.mp hps, List.mem_singleton.mp hps']
      · exact ⟨Or.inl ⟨hblank.1, hblank.2⟩, hblank.3.le.trans zero_le_one⟩
    · rw [Function.update_of_ne hr]
      exact hw.room r
  · rw [hnextId]
    by_cases hq : r = w.server.rooms.rooms.nextId
    · omega
    · rw [view_createRoom, Function.update_of_ne hq] at hr
      have := hw.bound r hr
      omega

end World

/-! ### All threads together -/

namespace ThreadedServer

open World

variable {rng : Shuffler} {m m' : ThreadedServer} {a : ThreadLabel}

/-- Every room is sound, every settlement knows its room, and no two settlements hold the guard of
one room. -/
def settlementOutline : Outline World ServerThread where
  shared := World.Sound
  knows w th := ∀ call, th.call = some call →
    call.point.Knows w.Registered (w.view call.decision.roomId) call.decision
  compatible x y := ∀ c c', x.call = some c → y.call = some c' → c.point.Holds → c'.point.Holds →
    c.decision.roomId ≠ c'.decision.roomId
  symm h c c' hc hc' hholds hholds' := (h c' c hc' hc hholds' hholds).symm

lemma Unnoticed.knows {w w' : World} (h : Unnoticed w w') {th : ServerThread}
    (hth : settlementOutline.knows w th) : settlementOutline.knows w' th := by
  intro call hcall
  rw [h.view, h.registered]
  exact hth call hcall

/-- The threads other than the one that starts something do not notice it. -/
lemma holds_unnoticed {i : ℕ} {w : World} {call : Option SettlementCall} {timer : TimerLoop}
    (h : settlementOutline.Holds m) (hw : Unnoticed m.shared w)
    (hcall : ∀ c, call = some c → c.point = .tryBeginSettlement) :
    settlementOutline.Holds (m.set i (w, { call := call, timer := timer })) := by
  refine h.set i (hw.sound h.shared) (fun c hc => ?_) fun y hy _ => ⟨Unnoticed.knows hw hy, ?_⟩
  · rw [hcall c hc]
    trivial
  · intro c c' hc _ hholds
    rw [hcall c hc] at hholds
    cases hholds

lemma holds_createRoom (h : settlementOutline.Holds m) (mode : ℤ) (players : List ℤ) :
    settlementOutline.Holds { m with shared := m.shared.createRoom mode players } := by
  refine h.environment (h.shared.createRoom mode players) fun th hth call hcall => ?_
  have hknows := hth call hcall
  have hreg : (m.shared.createRoom mode players).Registered = m.shared.Registered := rfl
  rw [view_createRoom, hreg]
  by_cases hr : call.decision.roomId = m.shared.server.rooms.rooms.nextId
  · obtain ⟨hunborn, hmembers⟩ := h.shared.unborn_nextId
    rw [hr] at hknows ⊢
    rw [Function.update_self]
    exact hknows.createRoom (h.shared.room _) hunborn hmembers _ _
  · rw [Function.update_of_ne hr]
    exact hknows

/-- A call of a settlement does not interfere with the settlements of the other threads. -/
lemma holds_settlement {i : ℕ} {call : SettlementCall} (h : settlementOutline.Holds m)
    (hcall : (m.threads i).call = some call) (timer : TimerLoop) :
    settlementOutline.Holds (m.set i
      ((m.shared.settlementStep call).1,
        { call := (m.shared.settlementStep call).2, timer := timer })) := by
  obtain ⟨v, hprogress, hguard⟩ := progress h.shared (h.knows i call hcall)
  refine h.set i (hprogress.world_sound h.shared) (fun c hc => ?_) fun y hy hcompatible => ?_
  · obtain ⟨hdecision, hknows⟩ := hprogress.knows c hc
    rw [hprogress.view, hdecision, Function.update_self]
    exact hknows
  -- another settlement of the same room does not hold its guard, unless nothing happens
  have hother : ∀ c', y.call = some c' → c'.point.Holds →
      c'.decision.roomId = call.decision.roomId →
      v = m.shared.view call.decision.roomId ∧ (m.shared.settlementStep call).2 = none := by
    intro c' hc' hholds' hroom
    rcases hguard with hholds | hfree | hrefused
    · exact absurd hroom.symm (hcompatible call c' hcall hc' hholds hholds')
    · exact absurd ((hy c' hc').guarded hholds') (hroom ▸ hfree)
    · exact hrefused
  constructor
  · intro c' hc'
    have hknows := (hy c' hc').mono hprogress.registered
    rw [hprogress.view]
    by_cases hroom : c'.decision.roomId = call.decision.roomId
    · by_cases hholds' : c'.point.Holds
      · rw [hroom, Function.update_self, (hother c' hc' hholds' hroom).1, ← hroom]
        exact hknows
      · cases hp : c'.point with
        | tryBeginSettlement => trivial
        | _ => exact absurd (by rw [hp]; trivial) hholds'
    · rw [Function.update_of_ne hroom]
      exact hknows
  · intro c c' hc hc' _ hholds' hroom
    rw [(hprogress.knows c hc).1] at hroom
    have hnone := (hother c' hc' hholds' hroom.symm).2
    rw [hnone] at hc
    cases hc

/-- Every step of every thread keeps the outline. -/
theorem holds_step (h : settlementOutline.Holds m) (hstep : m.step rng a = some m') :
    settlementOutline.Holds m' := by
  cases step_rule hstep with
  | createRoom mode players => exact holds_createRoom h mode players
  | inRoom op hop =>
    have hw := unnoticed_apply (w := m.shared) rng hop
    exact h.environment (hw.sound h.shared) fun _ => Unnoticed.knows hw
  | setSession session =>
    have hw : Unnoticed m.shared (m.shared.setSession session) := ⟨rfl, rfl, rfl⟩
    exact h.environment (hw.sound h.shared) fun _ => Unnoticed.knows hw
  | setTxFailpoint failpoint =>
    have hw : Unnoticed m.shared (m.shared.setTxFailpoint failpoint) := ⟨rfl, rfl, rfl⟩
    exact h.environment (hw.sound h.shared) fun _ => Unnoticed.knows hw
  | settle i d nowMs hidle =>
    refine holds_unnoticed h ⟨rfl, rfl, rfl⟩ fun c hc => ?_
    obtain rfl := Option.some.inj hc
    rfl
  | act timer hidle hact => exact holds_unnoticed h hact.unnoticed.1 hact.unnoticed.2
  | settlement nowMs hcall => exact holds_settlement h hcall _

lemma holds_initial (players : PlayerManager) (sessions : SessionManager) :
    settlementOutline.Holds (initial players sessions) := by
  have hview : ∀ r, (initial players sessions).shared.view r =
      ⟨r ∈ (∅ : Finset ℤ), none, [], 0, 0, 0⟩ := fun r => rfl
  refine ⟨⟨fun r => ?_, fun r hr => ?_⟩, fun i call hcall => ?_, fun i j _ c c' hc => ?_⟩
  · rw [hview]
    exact ⟨by simp, by simp, fun _ => ⟨rfl, rfl, rfl⟩, fun _ hlive => absurd rfl hlive, by simp⟩
  · rw [hview] at hr
    exact absurd rfl hr
  · exact absurd hcall (Option.some_ne_none call).symm
  · exact absurd hc (Option.some_ne_none c).symm

/-- However settlements interleave, a room is paid out at most once, with one record, and with
either no coin logs or one for every player; the changes add up to nothing. -/
theorem room_settled_once {players : PlayerManager} {sessions : SessionManager}
    {labels : List ThreadLabel} {r : ℤ} {ps : List ℤ}
    (hrun : Run.exec (step rng) (initial players sessions) labels = some m)
    (hcreated : .roomCreated r ps ∈ m.shared.events) :
    m.shared.timesPaidOut r ≤ 1 ∧
      (m.shared.server.storage.gameRecordsOf r).card ≤ 1 ∧
      (m.shared.server.storage.coinLogsOf r = 0 ∨
        (m.shared.server.storage.coinLogsOf r).map CoinLog.playerId = ps) ∧
      (ps.Nodup → ((m.shared.server.storage.coinLogsOf r).map CoinLog.changeAmount).sum = 0) := by
  have hholds := Run.invariant (fun _ _ _ h hstep => holds_step h hstep)
    (holds_initial players sessions) hrun
  obtain ⟨hrows, honce⟩ := (hholds.shared.room r).books ps (mem_created.mpr hcreated)
  refine ⟨honce, ?_⟩
  rcases hrows with ⟨hrecords, hbooked⟩ | hrecorded
  · have hrecords : m.shared.server.storage.gameRecordsOf r = 0 := hrecords
    have hlogs : m.shared.server.storage.coinLogsOf r = 0 := Multiset.map_eq_zero.mp hbooked
    rw [hrecords, hlogs]
    exact ⟨zero_le_one, Or.inl rfl, fun _ => rfl⟩
  · have hbooked : (m.shared.view r).booked = (m.shared.server.storage.coinLogsOf r).map
        fun log => (log.playerId, log.changeAmount) := rfl
    obtain ⟨hrecord, heverybody, hbalanced⟩ := hrecorded
    rw [hbooked, Multiset.map_map] at heverybody hbalanced
    exact ⟨hrecord.le, Or.inr heverybody, hbalanced⟩

/-- Two threads settle a room at the same time; the second one is refused. -/
def raceRun : List ThreadLabel :=
  [.createRoom 3 [1, 2, 3], .settle 0 ⟨1, 2, 10⟩ 5, .settle 1 ⟨1, 3, 10⟩ 6, .step 0 5, .step 1 6]
    ++ List.replicate 16 (.step 0 7)

theorem room_settled_once_after_race :
    ∃ m, Run.exec (step .sorted) (initial threePlayers {}) raceRun = some m ∧
      m.shared.timesPaidOut 1 = 1 ∧
      (m.shared.server.storage.gameRecordsOf 1).card ≤ 1 ∧
      (m.shared.server.storage.coinLogsOf 1 = 0 ∨
        (m.shared.server.storage.coinLogsOf 1).map CoinLog.playerId = ([1, 2, 3] : List ℤ)) ∧
      ((m.shared.server.storage.coinLogsOf 1).map CoinLog.changeAmount).sum = 0 := by
  have hrun : (Run.exec (step .sorted) (initial threePlayers {}) raceRun).any (fun m =>
      .roomCreated 1 [1, 2, 3] ∈ m.shared.events ∧ m.shared.timesPaidOut 1 = 1) = true := by
    decide +kernel
  obtain ⟨m, hm, hevents⟩ := (Option.any_eq_true _ _).mp hrun
  obtain ⟨hcreated, hpaid⟩ := of_decide_eq_true hevents
  obtain ⟨-, hrecords, hlogs, hsum⟩ := room_settled_once hm hcreated
  exact ⟨m, hm, hpaid, hrecords, hlogs, hsum (by decide)⟩

end ThreadedServer

end DdzServer
