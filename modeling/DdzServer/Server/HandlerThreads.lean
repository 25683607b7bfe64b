import DdzServer.Server.Agreement
import DdzServer.Server.Duties
import DdzServer.Server.HandlerCalls

/-!
# Handlers on worker threads

Any number of threads, each of which is idle or runs a handler. A step is the entry of a handler
into an idle thread, or one call of the handler of a thread.
-/

namespace DdzServer

open Interleaving

/-! ### What a handler will still write -/

namespace HandlerCall

/-- The state that the next call forces on a player. -/
def forced? : HandlerCall → Option (ℤ × PlayerState)
  | .login call (.forceState oldRoomId)     => some (call.playerId, stateOfRoom oldRoomId)
  | .reconnect call (.forceState roomId)    => some (call.playerId, stateOfRoom roomId)
  | .requestMatch _ (.forceState _ pid _)   => some (pid, .inRoom)
  | .cancelMatch _ (.forceState pid)        => some (pid, .lobby)
  | .connectionClosed _ (.forceState pid)   => some (pid, .offline)
  | .settle _ _ (.forceState _ pid _ _)     => some (pid, .lobby)
  | _ => none

/-- The players whose state the handler is certain to force. -/
def forces : HandlerCall → List ℤ
  | .login call point =>
    match point with
    | .bindLogin | .issueSessionToken => []
    | _ => [call.playerId]
  | .reconnect call point =>
    match point with
    | .getSessionByPlayer => []
    | _ => [call.playerId]
  | .requestMatch _ (.createRoom _ players)    => players
  | .requestMatch _ (.setRoomId _ pid rest)    => pid :: rest
  | .requestMatch _ (.forceState _ pid rest)   => pid :: rest
  | .requestMatch _ _                          => []
  | .cancelMatch _ (.forceState pid)           => [pid]
  | .cancelMatch _ _                           => []
  | .connectionClosed _ point =>
    match point with
    | .getPlayerIdByConnection | .markPlayerOffline _ => []
    | .getState pid | .cancel pid | .markOfflineByConnection pid | .forceState pid => [pid]
  | .settle _ _ (.clearRoomId _ pid rest _)    => pid :: rest
  | .settle _ _ (.forceState _ pid rest _)     => pid :: rest
  | .settle _ _ _                              => []

/-- The players whose session will be given a room, and the room. -/
def moves : HandlerCall → List (ℤ × ℤ)
  | .requestMatch _ (.setRoomId roomId pid rest)  => (pid :: rest).map fun p => (p, roomId)
  | .requestMatch _ (.forceState roomId _ rest)   => rest.map fun p => (p, roomId)
  | _ => []

/-- The room that will be destroyed. -/
def closes : HandlerCall → List ℤ
  | .settle d _ point =>
    match point with
    | .clearRoomId .. | .forceState .. | .markFinished .. | .destroyRoom .. => [d.roomId]
    | _ => []
  | _ => []

/-- The room whose settlement guard the handler holds. -/
def holds : HandlerCall → Option ℤ
  | .settle _ _ .tryBeginSettlement => none
  | .settle d _ _                   => some d.roomId
  | _ => none

end HandlerCall

/-- The duties of a thread. -/
def dutiesOf : Option HandlerCall → Duties
  | none      => ⟨fun _ => False, fun _ _ => False, fun _ => False⟩
  | some call =>
    ⟨fun p => p ∈ call.forces, fun p r => (p, r) ∈ call.moves, fun r => r ∈ call.closes⟩

namespace HandlerCall

/-- The next call is not based on a read that another handler has made wrong, unless a further
handler in progress will put it right. -/
structure Timely (call : HandlerCall) (s : GameServer) (others : Duties) : Prop where
  /-- a forced state fits the player's session -/
  forced : ∀ p state, call.forced? = some (p, state) → s.roster.Fits p state ∨ others.forces p
  /-- a login binds a player whose state fits the session -/
  bound : ∀ c, call = .login c .bindLogin →
    (s.players.getState c.playerId = .inRoom ↔ 0 < s.sessionRoomId c.playerId) ∨
      others.forces c.playerId
  /-- a room is created for players who are in no room -/
  created : ∀ c mode players, call = .requestMatch c (.createRoom mode players) →
    ∀ p ∈ players, s.rooms.getRoomIdByPlayer p = none
  /-- a session is given a room unless its player is in another room -/
  moved : ∀ c roomId pid rest, call = .requestMatch c (.setRoomId roomId pid rest) →
    ∀ r, s.rooms.getRoomIdByPlayer pid = some r →
      roomId = r ∨ others.moves pid r ∨ others.closes r

/-- The next call is timely whatever the other handlers are going to do. -/
def timelyAlone (s : GameServer) : HandlerCall → Bool
  | .login c .bindLogin =>
    s.players.getState c.playerId = .inRoom ↔ 0 < s.sessionRoomId c.playerId
  | .requestMatch _ (.createRoom _ players) =>
    players.all fun p => s.rooms.getRoomIdByPlayer p = none
  | .requestMatch _ (.setRoomId roomId pid _) =>
    (s.rooms.getRoomIdByPlayer pid).all fun r => roomId = r
  | call =>
    call.forced?.all fun x => (s.sessions.getSessionByPlayer x.1).all fun session =>
      session.online → (x.2 = .inRoom ↔ 0 < session.roomId)

lemma timely_of_alone {s : GameServer} {call : HandlerCall} (h : call.timelyAlone s = true)
    (others : Duties) : call.Timely s others := by
  constructor
  · intro p state hforced
    refine Or.inl fun r hr => ?_
    obtain ⟨session, hsession, heq⟩ := Option.map_eq_some_iff.mp hr
    have hall : (call.forced?.all fun x => (s.sessions.getSessionByPlayer x.1).all fun session =>
        session.online → (x.2 = .inRoom ↔ 0 < session.roomId)) = true := by
      unfold timelyAlone at h
      split at h
      · cases hforced
      · cases hforced
      · cases hforced
      · exact h
    have hget : s.sessions.getSessionByPlayer p = some session := hsession
    simp only [hforced, hget, Option.all_some, decide_eq_true_eq] at hall
    obtain ⟨rfl, honline⟩ := Prod.mk.inj heq
    exact hall honline
  · rintro c rfl
    exact Or.inl (of_decide_eq_true h)
  · rintro c mode players rfl p hp
    exact of_decide_eq_true (List.all_eq_true.mp h p hp)
  · rintro c roomId pid rest rfl r hr
    refine Or.inl ?_
    simp only [timelyAlone, hr, Option.all_some, decide_eq_true_eq] at h
    exact h

end HandlerCall

/-! ### The threads -/

/-- The server with its worker threads. -/
abbrev HandlerThreads (ι : Type) := Threads ι GameServer (Option HandlerCall)

inductive HandlerLabel (ι : Type) where
  | enter (thread : ι) (op : ServerOp)
  | step (thread : ι)

namespace HandlerThreads

variable {ι : Type} [DecidableEq ι]

/-- One step. -/
def step (m : HandlerThreads ι) : HandlerLabel ι → Option (HandlerThreads ι)
  | .enter i op =>
    if op.IsHandler ∧ (m.threads i).isNone then some (m.set i (m.shared, m.shared.firstCall op))
    else none
  | .step i => (m.threads i).map fun call => m.set i (m.shared.handlerStep call)

/-- A server that was just started, with idle threads. -/
def start (auth : AuthTokenService) (redisEnabled : Bool) : HandlerThreads ι where
  shared := .start auth redisEnabled
  threads := fun _ => none

/-- What the threads other than `i` will still write. -/
def others (m : HandlerThreads ι) (i : ι) : Duties where
  forces p := m.Other i fun t => (dutiesOf t).forces p
  moves p r := m.Other i fun t => (dutiesOf t).moves p r
  closes r := m.Other i fun t => (dutiesOf t).closes r

/-- The step is an entry, or a timely call. -/
def Timely (m : HandlerThreads ι) : HandlerLabel ι → Prop
  | .enter _ _ => True
  | .step i    => ∀ call, m.threads i = some call → call.Timely m.shared (m.others i)

end HandlerThreads

namespace GameServer

/-- The player is one of a live room. -/
def IsMember (s : GameServer) (p r : ℤ) : Prop :=
  ∃ room, s.rooms.getRoomById r = some room ∧ p ∈ room.players

/-- Every player is in at most one live room, on which the session and the index agree, and the
state of an online player says whether there is a room. -/
structure OneRoom (s : GameServer) : Prop where
  unique : ∀ p r r', s.IsMember p r → s.IsMember p r' → r = r'
  session : ∀ p r, s.IsMember p r →
    (s.sessions.getSessionByPlayer p).map Session.roomId = some r
  index : ∀ p r, s.IsMember p r → s.rooms.getRoomIdByPlayer p = some r
  state : ∀ p session, s.sessions.getSessionByPlayer p = some session → session.online = true →
    (s.players.getState p = .inRoom ↔ 0 < session.roomId)

end GameServer

end DdzServer
