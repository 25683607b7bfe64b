import DdzServer.Lib.Interleaving
import DdzServer.Lib.Run
import DdzServer.Room.Membership
import DdzServer.Settlement.SettlementCalls

/-!
# The threads of the server

The handlers of player actions and `TimerLoop` run in threads of their own. A step of a thread is
one call of a manager or of the storage; the threads interleave in any order, and rooms are created,
sessions change and the storage starts or stops failing in between.
-/

namespace DdzServer

open Interleaving

/-- Where a settlement comes from: the names the metrics give the three places of the server that
settle, and any other caller. -/
inductive SettlementKind where
  | autoSettlement | trusteeAutoSettlement | offlineTimeoutSettlement | other
  deriving DecidableEq

/-- The winner of these settlements is the winner of the game. -/
def SettlementKind.IsGame : SettlementKind → Bool
  | .autoSettlement => true
  | .trusteeAutoSettlement => true
  | _ => false

/-- A call of `SettleByServerResult` that has not returned. -/
structure SettlementCall where
  kind : SettlementKind
  decision : ServerSettlementDecision
  nowMs : ℤ
  point : SettlementPoint := .tryBeginSettlement

/-- The call `TimerLoop` makes next for a session. -/
inductive TimerPoint where
  | markPlayerOnline
  | markPlayerOffline
  | markPlayerTrustee
  | getRoomById
  | applyTrusteeAction
  | pickWinnerForOfflineLose

/-- Where `TimerLoop` stands: between two rounds, or at a session of the list it got. -/
inductive TimerLoop where
  | idle
  | atSession (nowMs : ℤ) (session : Session) (rest : List Session) (point : TimerPoint)

structure ServerThread where
  call : Option SettlementCall := none
  timer : TimerLoop := .idle

/-- What the calls returned. -/
inductive ServerEvent where
  | roomCreated (roomId : ℤ) (players : List ℤ)
  | gameOver (roomId winnerPlayerId baseCoin : ℤ)
  | returned (decision : ServerSettlementDecision) (result : SettlementResult)
  deriving DecidableEq

/-- The state the threads share, and the events so far, the latest first. -/
structure World where
  server : GameServer
  events : List ServerEvent := []

/-- The server with its threads. -/
abbrev ThreadedServer := Threads ℕ World ServerThread

/-! ### The timer -/

namespace TimerLoop

/-- The loop over the sessions goes on to the next session that needs a call. -/
def next (nowMs : ℤ) : List Session → TimerLoop
  | []              => .idle
  | session :: rest =>
    if session.roomId ≤ 0 then next nowMs rest
    else if session.online then .atSession nowMs session rest .markPlayerOnline
    else if session.offlineAtMs ≤ 0 then next nowMs rest
    else .atSession nowMs session rest .markPlayerOffline

/-- The end of the loop body: a player who was offline for too long has lost. -/
def checkOfflineLose (nowMs : ℤ) (session : Session) (rest : List Session) : TimerLoop :=
  if 120000 ≤ nowMs - session.offlineAtMs then
    .atSession nowMs session rest .pickWinnerForOfflineLose
  else
    next nowMs rest

end TimerLoop

namespace World

variable (rng : Shuffler)

def emit (w : World) (e : ServerEvent) : World := { w with events := e :: w.events }

def setRooms (w : World) (rooms : RoomManager) : World :=
  { w with server := { w.server with rooms := rooms } }

/-- After an action, the thread settles the room if the game is over. -/
def afterAction (w : World) (kind : SettlementKind) (roomId nowMs : ℤ)
    (out : RoomManager × Room.ActionReply) : World × Option SettlementCall :=
  match out.2 with
  | .error _   => (w.setRooms out.1, none)
  | .ok result =>
    if result.gameOver then
      ((w.setRooms out.1).emit (.gameOver roomId result.winnerPlayerId result.baseCoin),
        some { kind := kind
               decision := ⟨roomId, result.winnerPlayerId, result.baseCoin⟩
               nowMs := nowMs })
    else
      (w.setRooms out.1, none)

/-- One call of a settlement. -/
def settlementStep (w : World) (call : SettlementCall) : World × Option SettlementCall :=
  match w.server.settlementStep call.decision call.nowMs call.point with
  | (s, .inl point)  => ({ w with server := s }, some { call with point := point })
  | (s, .inr result) => (({ w with server := s }).emit (.returned call.decision result), none)

/-- One call of `TimerLoop` for a session; `nowMs` is the time at which it is made. -/
def timerStep (w : World) (nowMs loopMs : ℤ) (session : Session) (rest : List Session) :
    TimerPoint → World × ServerThread
  | .markPlayerOnline =>
    (w.setRooms (w.server.rooms.markPlayerOnline session.playerId).1,
      { timer := .next loopMs rest })
  | .markPlayerOffline =>
    (w.setRooms (w.server.rooms.markPlayerOffline session.playerId session.offlineAtMs).1,
      { timer :=
          if 30000 ≤ loopMs - session.offlineAtMs then
            .atSession loopMs session rest .markPlayerTrustee
          else
            .checkOfflineLose loopMs session rest })
  | .markPlayerTrustee =>
    (w.setRooms (w.server.rooms.markPlayerTrustee session.playerId true).1,
      { timer := .atSession loopMs session rest .getRoomById })
  | .getRoomById =>
    let operator := (w.server.rooms.getRoomById session.roomId).map Room.currentOperatorPlayerId
    (w,
      { timer :=
          if operator = some session.playerId then
            .atSession loopMs session rest .applyTrusteeAction
          else
            .checkOfflineLose loopMs session rest })
  | .applyTrusteeAction =>
    let (w', call) := w.afterAction .trusteeAutoSettlement session.roomId nowMs
      (w.server.rooms.applyTrusteeAction rng session.roomId session.playerId)
    (w', { call := call, timer := .checkOfflineLose loopMs session rest })
  | .pickWinnerForOfflineLose =>
    match w.server.rooms.pickWinnerForOfflineLose session.roomId session.playerId with
    | none        => (w, { timer := .next loopMs rest })
    | some winner =>
      (w,
        { call := some { kind := .offlineTimeoutSettlement
                         decision := ⟨session.roomId, winner, 1⟩
                         nowMs := nowMs }
          timer := .next loopMs rest })

/-- One call of a thread that has something to do. -/
def threadStep (w : World) (nowMs : ℤ) (th : ServerThread) : Option (World × ServerThread) :=
  match th.call, th.timer with
  | some call, timer =>
    let (w', call') := w.settlementStep call
    some (w', { call := call', timer := timer })
  | none, .atSession loopMs session rest point =>
    some (w.timerStep rng nowMs loopMs session rest point)
  | none, .idle => none

end World

/-! ### The steps -/

/-- What happens next. A call of `SettleByServerResult` from elsewhere is a step of its own kind. -/
inductive ThreadLabel where
  | createRoom (mode : ℤ) (players : List ℤ)
  | setSession (session : Session)
  | markOnline (playerId : ℤ)
  | markOffline (playerId offlineAtMs : ℤ)
  | setTxFailpoint (failpoint : StorageTxFailpoint)
  | settle (thread : ℕ) (decision : ServerSettlementDecision) (nowMs : ℤ)
  | playerAction (thread : ℕ) (roomId playerId : ℤ) (request : PlayerActionRequest) (nowMs : ℤ)
  | timerLoop (thread : ℕ) (sessions : List Session) (nowMs : ℤ)
  | step (thread : ℕ) (nowMs : ℤ)

/-- The label is not a call of `SettleByServerResult` from outside the server's own threads. -/
def ThreadLabel.IsServers : ThreadLabel → Bool
  | .settle _ _ _ => false
  | _ => true

namespace World

/-- `CreateRoom`. -/
def createRoom (w : World) (mode : ℤ) (players : List ℤ) : World :=
  let (rooms, roomId) := w.server.rooms.createRoom mode players
  (w.setRooms rooms).emit (.roomCreated roomId players)

/-- A login, a reconnect or a closed connection writes a session. -/
def setSession (w : World) (session : Session) : World :=
  { w with
    server := { w.server with
      sessions := { w.server.sessions with
        playerToSession :=
          Finmap.insert session.playerId session w.server.sessions.playerToSession } } }

def setTxFailpoint (w : World) (failpoint : StorageTxFailpoint) : World :=
  { w with
    server := { w.server with storage := w.server.storage.setTxFailpointForTesting failpoint } }

end World

namespace ThreadedServer

variable (rng : Shuffler)

/-- A thread that is idle starts with the given call and timer. -/
def start (m : ThreadedServer) (i : ℕ) (out : World × ServerThread) : Option ThreadedServer :=
  if (m.threads i).call.isNone ∧ (m.threads i).timer matches .idle then some (m.set i out) else none

/-- One step. -/
def step (m : ThreadedServer) : ThreadLabel → Option ThreadedServer
  | .createRoom mode players => some { m with shared := m.shared.createRoom mode players }
  | .setSession session      => some { m with shared := m.shared.setSession session }
  | .markOnline pid          =>
    some { m with
      shared := m.shared.setRooms (m.shared.server.rooms.markPlayerOnline pid).1 }
  | .markOffline pid offlineAtMs =>
    some { m with
      shared := m.shared.setRooms (m.shared.server.rooms.markPlayerOffline pid offlineAtMs).1 }
  | .setTxFailpoint failpoint => some { m with shared := m.shared.setTxFailpoint failpoint }
  | .settle i d nowMs =>
    m.start i (m.shared, { call := some { kind := .other, decision := d, nowMs := nowMs } })
  | .playerAction i roomId pid request nowMs =>
    let (w, call) := m.shared.afterAction .autoSettlement roomId nowMs
      (m.shared.server.rooms.applyPlayerAction rng roomId pid request)
    m.start i (w, { call := call })
  | .timerLoop i sessions nowMs =>
    -- the list has every session once, in any order
    if (sessions : Multiset Session) =
        UnorderedMap.values m.shared.server.sessions.playerToSession then
      m.start i (m.shared, { timer := .next nowMs sessions })
    else
      none
  | .step i nowMs => (m.shared.threadStep rng nowMs (m.threads i)).map (m.set i)

/-- A server that was just started, with the players and sessions of its clients. -/
def initial (players : PlayerManager) (sessions : SessionManager) : ThreadedServer where
  shared := { server := { players := players, sessions := sessions } }
  threads := fun _ => {}

/-- Three registered players, for runs on fixed inputs. -/
def threePlayers : PlayerManager :=
  [1, 2, 3].foldl (fun players pid => players.upsertPlayer pid [] 0) {}

end ThreadedServer

/-! ### The rule -/

namespace World

variable {rng : Shuffler} {w : World}

/-- What a thread does besides settling: the world afterwards, and the settlement it enters. -/
inductive ActRule (rng : Shuffler) (w : World) : World → Option SettlementCall → Prop
  | quiet : ActRule rng w w none
  | inRoom (op : RoomOp) (hop : op.IsInside) :
      ActRule rng w (w.setRooms (w.server.rooms.apply rng op)) none
  | gameOver {kind : SettlementKind} {roomId pid nowMs : ℤ} {request : PlayerActionRequest}
      {room : Room} {result : PlayerActionResult} (hkind : kind.IsGame)
      (hroom : w.server.rooms.rooms.find roomId = some room)
      (hresult : (room.applyPlayerAction rng pid request).2 = .ok result)
      (hover : result.gameOver = true) :
      ActRule rng w
        ((w.setRooms (w.server.rooms.apply rng (.applyPlayerAction roomId pid request))).emit
          (.gameOver roomId result.winnerPlayerId result.baseCoin))
        (some { kind := kind
                decision := ⟨roomId, result.winnerPlayerId, result.baseCoin⟩
                nowMs := nowMs })
  | offlineLose (roomId winner nowMs : ℤ) :
      ActRule rng w w
        (some { kind := .offlineTimeoutSettlement
                decision := ⟨roomId, winner, 1⟩
                nowMs := nowMs })

lemma actRule_applyPlayerAction {kind : SettlementKind} (hkind : kind.IsGame)
    (roomId pid nowMs : ℤ) (request : PlayerActionRequest) :
    ActRule rng w
      (w.afterAction kind roomId nowMs (w.server.rooms.applyPlayerAction rng roomId pid request)).1
      (w.afterAction kind roomId nowMs
        (w.server.rooms.applyPlayerAction rng roomId pid request)).2 := by
  have hinside : RoomOp.IsInside (.applyPlayerAction roomId pid request) := rfl
  unfold afterAction
  split
  · exact .inRoom _ hinside
  next result hresult =>
    split_ifs with hover
    · cases hroom : w.server.rooms.rooms.find roomId with
      | none =>
        rw [RoomManager.applyPlayerAction, hroom] at hresult
        cases hresult
      | some room =>
        rw [RoomManager.applyPlayerAction_reply hroom] at hresult
        exact .gameOver hkind hroom hresult hover
    · exact .inRoom _ hinside

lemma actRule_applyTrusteeAction {kind : SettlementKind} (hkind : kind.IsGame)
    (roomId pid nowMs : ℤ) :
    ActRule rng w
      (w.afterAction kind roomId nowMs (w.server.rooms.applyTrusteeAction rng roomId pid)).1
      (w.afterAction kind roomId nowMs (w.server.rooms.applyTrusteeAction rng roomId pid)).2 := by
  unfold RoomManager.applyTrusteeAction
  split
  · exact .quiet
  · split
    · exact .quiet
    · exact actRule_applyPlayerAction hkind roomId pid nowMs _

lemma actRule_timerStep (nowMs loopMs : ℤ) (session : Session) (rest : List Session)
    (point : TimerPoint) :
    ActRule rng w (w.timerStep rng nowMs loopMs session rest point).1
      (w.timerStep rng nowMs loopMs session rest point).2.call := by
  cases point with
  | markPlayerOnline => exact .inRoom (.markPlayerOnline session.playerId) rfl
  | markPlayerOffline =>
    exact .inRoom (.markPlayerOffline session.playerId session.offlineAtMs) rfl
  | markPlayerTrustee => exact .inRoom (.markPlayerTrustee session.playerId true) rfl
  | getRoomById => exact .quiet
  | applyTrusteeAction => exact actRule_applyTrusteeAction rfl _ _ _
  | pickWinnerForOfflineLose =>
    simp only [timerStep]
    split
    · exact .quiet
    · exact .offlineLose _ _ _

end World

namespace ThreadedServer

variable {rng : Shuffler} {m m' : ThreadedServer} {a : ThreadLabel}

/-- What a step is. -/
inductive StepRule (rng : Shuffler) (m : ThreadedServer) : ThreadLabel → ThreadedServer → Prop
  | createRoom (mode : ℤ) (players : List ℤ) :
      StepRule rng m (.createRoom mode players)
        { m with shared := m.shared.createRoom mode players }
  | inRoom {a : ThreadLabel} (op : RoomOp) (hop : op.IsInside) :
      StepRule rng m a
        { m with shared := m.shared.setRooms (m.shared.server.rooms.apply rng op) }
  | setSession (session : Session) :
      StepRule rng m (.setSession session) { m with shared := m.shared.setSession session }
  | setTxFailpoint (failpoint : StorageTxFailpoint) :
      StepRule rng m (.setTxFailpoint failpoint)
        { m with shared := m.shared.setTxFailpoint failpoint }
  | settle (i : ℕ) (d : ServerSettlementDecision) (nowMs : ℤ)
      (hidle : (m.threads i).call = none) :
      StepRule rng m (.settle i d nowMs)
        (m.set i
          (m.shared, { call := some { kind := .other, decision := d, nowMs := nowMs } }))
  | act {a : ThreadLabel} {i : ℕ} {w : World} {call : Option SettlementCall} (timer : TimerLoop)
      (hidle : (m.threads i).call = none)
      (hact : m.shared.ActRule rng w call) :
      StepRule rng m a (m.set i (w, { call := call, timer := timer }))
  | settlement {i : ℕ} {call : SettlementCall} (nowMs : ℤ)
      (hcall : (m.threads i).call = some call) :
      StepRule rng m (.step i nowMs)
        (m.set i
          ((m.shared.settlementStep call).1,
            { call := (m.shared.settlementStep call).2, timer := (m.threads i).timer }))

lemma start_eq_some {i : ℕ} {out : World × ServerThread} (h : m.start i out = some m') :
    (m.threads i).call = none ∧ m' = m.set i out := by
  unfold start at h
  split_ifs at h with hidle
  exact ⟨Option.isNone_iff_eq_none.mp hidle.1, (Option.some.inj h).symm⟩

/-- Every step is one of the cases of the rule. -/
theorem step_rule (h : m.step rng a = some m') : StepRule rng m a m' := by
  cases a with
  | createRoom mode players =>
    obtain rfl := Option.some.inj h
    exact .createRoom mode players
  | setSession session =>
    obtain rfl := Option.some.inj h
    exact .setSession session
  | markOnline pid =>
    obtain rfl := Option.some.inj h
    exact .inRoom (.markPlayerOnline pid) rfl
  | markOffline pid offlineAtMs =>
    obtain rfl := Option.some.inj h
    exact .inRoom (.markPlayerOffline pid offlineAtMs) rfl
  | setTxFailpoint failpoint =>
    obtain rfl := Option.some.inj h
    exact .setTxFailpoint failpoint
  | settle i d nowMs =>
    obtain ⟨hidle, rfl⟩ := start_eq_some h
    exact .settle i d nowMs hidle
  | playerAction i roomId pid request nowMs =>
    obtain ⟨hidle, rfl⟩ := start_eq_some h
    exact .act .idle hidle (World.actRule_applyPlayerAction rfl roomId pid nowMs request)
  | timerLoop i sessions nowMs =>
    simp only [step] at h
    split_ifs at h
    obtain ⟨hidle, rfl⟩ := start_eq_some h
    exact .act _ hidle .quiet
  | step i nowMs =>
    obtain ⟨out, hout, rfl⟩ := Option.map_eq_some_iff.mp h
    unfold World.threadStep at hout
    split at hout
    next call hcall =>
      obtain rfl := Option.some.inj hout
      exact .settlement nowMs hcall
    next loopMs session rest point hidle _ =>
      obtain rfl := Option.some.inj hout
      exact .act _ hidle (World.actRule_timerStep nowMs loopMs session rest point)
    · cases hout

end ThreadedServer

end DdzServer
