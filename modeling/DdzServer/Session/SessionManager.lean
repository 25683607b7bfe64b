import DdzServer.Lib.UnorderedMap
import Mathlib.Tactic.Common

/-!
# Sessions

`service/session/session_manager.cpp`: the session of each player, and the player of each
connection.
-/

namespace DdzServer

structure Session where
  playerId : ℤ := 0
  connectionId : ℤ := 0
  roomId : ℤ := 0
  online : Bool := false
  loginTimeMs : ℤ := 0
  lastHeartbeatMs : ℤ := 0
  offlineAtMs : ℤ := 0
  deriving DecidableEq

structure SessionManager where
  connToPlayer : UnorderedMap ℤ ℤ := ∅
  playerToSession : UnorderedMap ℤ Session := ∅
  deriving DecidableEq

namespace SessionManager

open UnorderedMap

def getPlayerIdByConnection (m : SessionManager) (connectionId : ℤ) : Option ℤ :=
  m.connToPlayer.lookup connectionId

def getSessionByPlayer (m : SessionManager) (playerId : ℤ) : Option Session :=
  m.playerToSession.lookup playerId

def getConnectionIdByPlayer (m : SessionManager) (playerId : ℤ) : Option ℤ :=
  match m.playerToSession.lookup playerId with
  | some s => if s.online then some s.connectionId else none
  | none   => none

/-- `BindLogin`; returns the connection a duplicate login replaces. -/
def bindLogin (m : SessionManager) (playerId connectionId nowMs : ℤ) :
    SessionManager × Option ℤ :=
  let oldConn := m.getConnectionIdByPlayer playerId
  let conns :=
    match oldConn with
    | some c => Finmap.erase c m.connToPlayer
    | none   => m.connToPlayer
  let session :=
    { at' m.playerToSession playerId {} with
      playerId := playerId
      connectionId := connectionId
      online := true
      loginTimeMs := nowMs
      lastHeartbeatMs := nowMs
      offlineAtMs := 0 }
  ({ connToPlayer := Finmap.insert connectionId playerId conns
     playerToSession := Finmap.insert playerId session m.playerToSession }, oldConn)

/-- `RebindForReconnect`. -/
def rebindForReconnect (m : SessionManager) (playerId newConnectionId nowMs : ℤ) :
    SessionManager × Option ℤ :=
  match m.playerToSession.lookup playerId with
  | none   => (m, none)
  | some s =>
    let prevConn := s.connectionId
    let (oldConn, conns) : Option ℤ × UnorderedMap ℤ ℤ :=
      if s.online ∧ prevConn ≠ 0 ∧ prevConn ≠ newConnectionId then
        (some prevConn, Finmap.erase prevConn m.connToPlayer)
      else if ¬ s.online ∧ prevConn ≠ newConnectionId then
        (none, Finmap.erase prevConn m.connToPlayer)
      else
        (none, m.connToPlayer)
    let session :=
      { s with
        connectionId := newConnectionId
        online := true
        lastHeartbeatMs := nowMs
        offlineAtMs := 0 }
    ({ connToPlayer := Finmap.insert newConnectionId playerId conns
       playerToSession := Finmap.insert playerId session m.playerToSession }, oldConn)

def updateHeartbeatByConnection (m : SessionManager) (connectionId nowMs : ℤ) :
    SessionManager × Bool :=
  match m.connToPlayer.lookup connectionId with
  | none     => (m, false)
  | some pid =>
    match m.playerToSession.lookup pid with
    | none   => (m, false)
    | some s =>
      ({ m with
          playerToSession :=
            Finmap.insert pid { s with lastHeartbeatMs := nowMs } m.playerToSession }, true)

def markOfflineByConnection (m : SessionManager) (connectionId nowMs : ℤ) :
    SessionManager × Bool :=
  match m.connToPlayer.lookup connectionId with
  | none     => (m, false)
  | some pid =>
    let conns := Finmap.erase connectionId m.connToPlayer
    match m.playerToSession.lookup pid with
    | none   => ({ m with connToPlayer := conns }, false)
    | some s =>
      ({ connToPlayer := conns
         playerToSession :=
          Finmap.insert pid
            { s with online := false, lastHeartbeatMs := nowMs, offlineAtMs := nowMs }
            m.playerToSession }, true)

def setRoomId (m : SessionManager) (playerId roomId : ℤ) : SessionManager × Bool :=
  match m.playerToSession.lookup playerId with
  | none   => (m, false)
  | some s =>
    ({ m with
        playerToSession := Finmap.insert playerId { s with roomId := roomId } m.playerToSession },
      true)

def clearRoomId (m : SessionManager) (playerId : ℤ) : SessionManager × Bool :=
  m.setRoomId playerId 0

/-! ### What the operations write -/

lemma lookup_bindLogin (m : SessionManager) (playerId connectionId nowMs p : ℤ) :
    (m.bindLogin playerId connectionId nowMs).1.playerToSession.lookup p =
      if p = playerId then
        some { at' m.playerToSession playerId {} with
          playerId := playerId
          connectionId := connectionId
          online := true
          loginTimeMs := nowMs
          lastHeartbeatMs := nowMs
          offlineAtMs := 0 }
      else m.playerToSession.lookup p :=
  lookup_insert _ _ _ _

lemma lookup_conn_bindLogin (m : SessionManager) (playerId connectionId nowMs c : ℤ) :
    (m.bindLogin playerId connectionId nowMs).1.connToPlayer.lookup c =
      if c = connectionId then some playerId
      else if m.getConnectionIdByPlayer playerId = some c then none
      else m.connToPlayer.lookup c := by
  simp only [bindLogin, lookup_insert]
  split_ifs with hc hold
  · rfl
  · simp [hold]
  · cases hget : m.getConnectionIdByPlayer playerId with
    | none => rfl
    | some d =>
      have hne : c ≠ d := fun heq => hold (heq ▸ hget)
      simp [hne]

variable {m : SessionManager} {playerId : ℤ} {session : Session}

lemma lookup_rebindForReconnect (h : m.playerToSession.lookup playerId = some session)
    (connectionId nowMs p : ℤ) :
    (m.rebindForReconnect playerId connectionId nowMs).1.playerToSession.lookup p =
      if p = playerId then
        some { session with
          connectionId := connectionId
          online := true
          lastHeartbeatMs := nowMs
          offlineAtMs := 0 }
      else m.playerToSession.lookup p := by
  rw [rebindForReconnect, h]
  exact lookup_insert _ _ _ _

/-- The connection a session leaves keeps its entry only when it is 0 and online. -/
lemma lookup_conn_rebindForReconnect (h : m.playerToSession.lookup playerId = some session)
    (connectionId nowMs c : ℤ) :
    (m.rebindForReconnect playerId connectionId nowMs).1.connToPlayer.lookup c =
      if c = connectionId then some playerId
      else if c = session.connectionId ∧ (session.online = true → c ≠ 0) then none
      else m.connToPlayer.lookup c := by
  rw [rebindForReconnect, h]
  simp only [lookup_insert]
  split_ifs <;> simp_all [lookup_erase]

/-- The connection that a reconnect replaces. -/
lemma rebindForReconnect_snd (h : m.playerToSession.lookup playerId = some session)
    (connectionId nowMs : ℤ) :
    (m.rebindForReconnect playerId connectionId nowMs).2 =
      if session.online ∧ session.connectionId ≠ 0 ∧ session.connectionId ≠ connectionId then
        some session.connectionId
      else none := by
  rw [rebindForReconnect, h]
  dsimp only
  split_ifs <;> rfl

lemma lookup_markOfflineByConnection {connectionId : ℤ}
    (hconn : m.connToPlayer.lookup connectionId = some playerId)
    (h : m.playerToSession.lookup playerId = some session) (nowMs p : ℤ) :
    (m.markOfflineByConnection connectionId nowMs).1.playerToSession.lookup p =
      if p = playerId then
        some { session with online := false, lastHeartbeatMs := nowMs, offlineAtMs := nowMs }
      else m.playerToSession.lookup p := by
  simp only [markOfflineByConnection, hconn, h]
  exact lookup_insert _ _ _ _

lemma lookup_conn_markOfflineByConnection {connectionId : ℤ}
    (hconn : m.connToPlayer.lookup connectionId = some playerId) (nowMs c : ℤ) :
    (m.markOfflineByConnection connectionId nowMs).1.connToPlayer.lookup c =
      if c = connectionId then none else m.connToPlayer.lookup c := by
  simp only [markOfflineByConnection, hconn]
  split <;> exact lookup_erase _ _ _

/-- A heartbeat changes no session but for its time. -/
lemma lookup_updateHeartbeat (m : SessionManager) (connectionId nowMs p : ℤ) :
    (m.updateHeartbeatByConnection connectionId nowMs).1.playerToSession.lookup p =
      m.playerToSession.lookup p ∨ ∃ sess, m.playerToSession.lookup p = some sess ∧
        (m.updateHeartbeatByConnection connectionId nowMs).1.playerToSession.lookup p =
          some { sess with lastHeartbeatMs := nowMs } := by
  unfold updateHeartbeatByConnection
  split
  · exact Or.inl rfl
  next pid hconn =>
    split
    · exact Or.inl rfl
    next sess hsess =>
      rw [lookup_insert]
      split_ifs with hp
      · exact Or.inr ⟨sess, hp ▸ hsess, rfl⟩
      · exact Or.inl rfl

@[simp] lemma connToPlayer_updateHeartbeat (m : SessionManager) (connectionId nowMs : ℤ) :
    (m.updateHeartbeatByConnection connectionId nowMs).1.connToPlayer = m.connToPlayer := by
  unfold updateHeartbeatByConnection
  split
  · rfl
  · split <;> rfl

lemma lookup_setRoomId (m : SessionManager) (pid roomId p : ℤ) :
    (m.setRoomId pid roomId).1.playerToSession.lookup p =
      if p = pid then (m.playerToSession.lookup p).map fun sess => { sess with roomId := roomId }
      else m.playerToSession.lookup p := by
  unfold setRoomId
  split
  next h =>
    split_ifs with hp
    · rw [hp, h]
      rfl
    · rfl
  next sess h =>
    rw [lookup_insert]
    split_ifs with hp
    · rw [hp, h]
      rfl
    · rfl

@[simp] lemma connToPlayer_setRoomId (m : SessionManager) (pid roomId : ℤ) :
    (m.setRoomId pid roomId).1.connToPlayer = m.connToPlayer := by
  unfold setRoomId
  split <;> rfl

/-- Giving one room id to several players. -/
lemma lookup_foldl_setRoomId (players : List ℤ) (roomId : ℤ) (m : SessionManager) (p : ℤ) :
    (players.foldl (fun m pid => (m.setRoomId pid roomId).1) m).playerToSession.lookup p =
      if p ∈ players then
        (m.playerToSession.lookup p).map fun sess => { sess with roomId := roomId }
      else m.playerToSession.lookup p := by
  induction players generalizing m with
  | nil => simp
  | cons pid players ih =>
    rw [List.foldl_cons, ih, lookup_setRoomId]
    by_cases hp : p = pid
    · cases m.playerToSession.lookup p <;> simp [hp]
    · simp [hp]

lemma connToPlayer_foldl_setRoomId (players : List ℤ) (roomId : ℤ) (m : SessionManager) :
    (players.foldl (fun m pid => (m.setRoomId pid roomId).1) m).connToPlayer =
      m.connToPlayer := by
  induction players generalizing m with
  | nil => rfl
  | cons pid players ih => rw [List.foldl_cons, ih, connToPlayer_setRoomId]

end SessionManager

end DdzServer
