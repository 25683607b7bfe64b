import DdzServer.Gateway.GatewayServer
import DdzServer.Lib.Run

/-!
# Slots of WebSocket sessions

A WebSocket session takes a slot of its address before `RunWebSocketProxy` and gives it back after.
It gives it back on every exit of `RunWebSocketProxy` but one: an exception passes by
`ReleaseWsSlot`, and the slot is lost.
-/

namespace DdzServer

open UnorderedMap

/-! ### The slots of one connection -/

namespace GatewayServer

variable {config : GatewaySecurityConfig} {g g' : GatewayServer} {clientIp peerIp : CppString}
  {nowMs : ℤ} {request : HttpRequest} {handling : GatewayHandling}

/-- What a connection does to the slots. -/
inductive SlotRule (config : GatewaySecurityConfig) (g g' : GatewayServer) :
    GatewayHandling → Prop
  | acquired {clientIp : CppString}
      (hfree : at' g.wsConnByIp clientIp 0 < config.maxWsConnectionsPerIp)
      (hslots : g'.wsConnByIp =
        Finmap.insert clientIp (at' g.wsConnByIp clientIp 0 + 1) g.wsConnByIp) :
      SlotRule config g g' (.webSocketProxy clientIp)
  | refused {handling : GatewayHandling} {clientIp : CppString}
      (hfull : config.maxWsConnectionsPerIp ≤ at' g.wsConnByIp clientIp 0)
      (hslots : g'.wsConnByIp = touch g.wsConnByIp clientIp 0)
      (hhandling : ∀ ip, handling ≠ .webSocketProxy ip) : SlotRule config g g' handling
  | aside {handling : GatewayHandling} (hslots : g'.wsConnByIp = g.wsConnByIp)
      (hhandling : ∀ ip, handling ≠ .webSocketProxy ip) : SlotRule config g g' handling

lemma wsConnByIp_isIpBanned (g : GatewayServer) (clientIp : CppString) (nowMs : ℤ) :
    (g.isIpBanned clientIp nowMs).1.wsConnByIp = g.wsConnByIp := by
  rw [isIpBanned]
  split
  · rfl
  · split_ifs <;> rfl

lemma wsConnByIp_checkAndConsumeHttpQps (g : GatewayServer) (config : GatewaySecurityConfig)
    (clientIp : CppString) (nowMs : ℤ) :
    (g.checkAndConsumeHttpQps config clientIp nowMs).1.wsConnByIp = g.wsConnByIp := by
  simp only [checkAndConsumeHttpQps]
  split_ifs <;> rfl

/-- A slot is taken as long as fewer than the limit are. -/
lemma tryAcquireWsSlot_spec (g : GatewayServer) (config : GatewaySecurityConfig)
    (clientIp : CppString) :
    (at' g.wsConnByIp clientIp 0 < config.maxWsConnectionsPerIp ∧
      (g.tryAcquireWsSlot config clientIp).2 = true ∧
      (g.tryAcquireWsSlot config clientIp).1.wsConnByIp =
        Finmap.insert clientIp (at' g.wsConnByIp clientIp 0 + 1) g.wsConnByIp) ∨
    (config.maxWsConnectionsPerIp ≤ at' g.wsConnByIp clientIp 0 ∧
      (g.tryAcquireWsSlot config clientIp).2 = false ∧
      (g.tryAcquireWsSlot config clientIp).1.wsConnByIp = touch g.wsConnByIp clientIp 0) := by
  simp only [tryAcquireWsSlot]
  split_ifs with hfull
  · exact Or.inr ⟨hfull, rfl, rfl⟩
  · exact Or.inl ⟨not_le.mp hfull, rfl, rfl⟩

/-- Every connection follows the rule. -/
lemma slotRule_handle (h : g.handleGatewayConnection config nowMs peerIp request = (g', handling)) :
    SlotRule config g g' handling := by
  have hbanned := wsConnByIp_isIpBanned g (clientIpOf config peerIp request) nowMs
  simp only [handleGatewayConnection] at h
  generalize (g.isIpBanned (clientIpOf config peerIp request) nowMs).1 = g₁ at h hbanned
  have hrate := wsConnByIp_checkAndConsumeHttpQps g₁ config (clientIpOf config peerIp request) nowMs
  have hslot := tryAcquireWsSlot_spec g₁ config (clientIpOf config peerIp request)
  rw [hbanned] at hrate hslot
  split_ifs at h with _ _ _ _ _ hacquired
  all_goals obtain ⟨rfl, rfl⟩ := Prod.mk.inj h
  · exact .aside rfl fun ip hip => by cases hip
  · exact .aside hbanned fun ip hip => by cases hip
  · exact .aside hbanned fun ip hip => by cases hip
  · exact .aside hbanned fun ip hip => by cases hip
  · rcases hslot with ⟨hfree, -, hslots⟩ | ⟨-, hrefused, -⟩
    · exact .acquired hfree hslots
    · simp [hrefused] at hacquired
  · rcases hslot with ⟨-, hgranted, -⟩ | ⟨hfull, -, hslots⟩
    · exact absurd hgranted hacquired
    · exact .refused hfull hslots fun ip hip => by cases hip
  all_goals exact .aside hrate fun ip hip => by cases hip

/-- The last slot of an address is erased. -/
lemma wsConnByIp_releaseWsSlot {count : ℤ} (hcount : g.wsConnByIp.lookup clientIp = some count) :
    (g.releaseWsSlot clientIp).wsConnByIp =
      if count ≤ 1 then Finmap.erase clientIp g.wsConnByIp
      else Finmap.insert clientIp (count - 1) g.wsConnByIp := by
  simp only [releaseWsSlot, hcount, show count - 1 ≤ 0 ↔ count ≤ 1 by omega]
  split_ifs <;> rfl

end GatewayServer

/-! ### Sessions -/

/-- A session that has a slot; `RunWebSocketProxy` has returned or not. -/
structure WsSession where
  clientIp : CppString
  returned : Bool := false
  deriving DecidableEq

/-- How `RunWebSocketProxy` ends. -/
inductive ProxyExit where
  | acceptFailed | writeFailed | pollFailed | closedByPeer | readFailed | ipBanned | wsRateLimited
  | exception
  deriving DecidableEq

/-- The gateway and its WebSocket sessions. -/
structure Gateway where
  server : GatewayServer := {}
  sessions : List WsSession := []

inductive GatewayEvent where
  | connection (peerIp : CppString) (request : HttpRequest) (nowMs : ℤ)
  | proxyEnds (clientIp : CppString) (exit : ProxyExit) (nowMs : ℤ)
  | release (clientIp : CppString)

namespace Gateway

variable (config : GatewaySecurityConfig)

/-- One event. An exception ends the session where it is; otherwise its slot is given back next. -/
def step (g : Gateway) : GatewayEvent → Option Gateway
  | .connection peerIp request nowMs =>
    match g.server.handleGatewayConnection config nowMs peerIp request with
    | (server, .webSocketProxy clientIp) => some ⟨server, ⟨clientIp, false⟩ :: g.sessions⟩
    | (server, _)                        => some { g with server := server }
  | .proxyEnds clientIp exit nowMs =>
    if ⟨clientIp, false⟩ ∈ g.sessions then
      let others := g.sessions.erase ⟨clientIp, false⟩
      some {
        server := if exit = .wsRateLimited then g.server.banIp config clientIp nowMs else g.server
        sessions := if exit = .exception then others else ⟨clientIp, true⟩ :: others }
    else none
  | .release clientIp =>
    if ⟨clientIp, true⟩ ∈ g.sessions then
      some ⟨g.server.releaseWsSlot clientIp, g.sessions.erase ⟨clientIp, true⟩⟩
    else none

/-- The sessions of an address that run. -/
def running (g : Gateway) (clientIp : CppString) : ℕ :=
  g.sessions.countP fun session => session.clientIp = clientIp

/-- The slots that are taken are those of the running sessions. -/
def SlotsMatch (g : Gateway) : Prop :=
  ∀ clientIp, at' g.server.wsConnByIp clientIp 0 = g.running clientIp ∧
    at' g.server.wsConnByIp clientIp 0 ≤ config.maxWsConnectionsPerIp ∧
    (g.running clientIp = 0 → g.server.wsConnByIp.lookup clientIp = none)

/-- No exception leaves `RunWebSocketProxy`. -/
def Returns : GatewayEvent → Prop
  | .proxyEnds _ exit _ => exit ≠ .exception
  | _                   => True

variable {config : GatewaySecurityConfig} {g g' : Gateway} {event : GatewayEvent}
  {clientIp : CppString}

lemma running_cons (server : GatewayServer) (session : WsSession) (sessions : List WsSession)
    (ip : CppString) :
    (⟨server, session :: sessions⟩ : Gateway).running ip =
      (⟨server, sessions⟩ : Gateway).running ip + if session.clientIp = ip then 1 else 0 := by
  simp [running, List.countP_cons]

/-- A session that is taken out. -/
lemma running_erase {session : WsSession} (h : session ∈ g.sessions) (server : GatewayServer)
    (ip : CppString) :
    g.running ip = (⟨server, g.sessions.erase session⟩ : Gateway).running ip +
      if session.clientIp = ip then 1 else 0 := by
  rw [running, (List.perm_cons_erase h).countP_eq]
  exact running_cons server session _ ip

/-- The addresses and the counts decide. -/
lemma SlotsMatch.congr (h : g.SlotsMatch config)
    (hslots : g'.server.wsConnByIp = g.server.wsConnByIp)
    (hrunning : ∀ ip, g'.running ip = g.running ip) : g'.SlotsMatch config := by
  intro ip
  rw [hslots, hrunning]
  exact h ip

/-- A connection that is let in has a slot and a session. -/
lemma SlotsMatch.connection (h : g.SlotsMatch config) {peerIp : CppString} {request : HttpRequest}
    {nowMs : ℤ} (hstep : g.step config (.connection peerIp request nowMs) = some g') :
    g'.SlotsMatch config := by
  rw [step] at hstep
  generalize hhandle :
    g.server.handleGatewayConnection config nowMs peerIp request = result at hstep
  obtain ⟨server, handling⟩ := result
  cases GatewayServer.slotRule_handle hhandle with
  | @acquired clientIp hfree hslots =>
    obtain rfl := Option.some.inj hstep
    intro ip
    obtain ⟨hcount, hlimit, habsent⟩ := h ip
    rw [running_cons, hslots, at'_insert, lookup_insert]
    change at' g.server.wsConnByIp ip 0 = (⟨server, g.sessions⟩ : Gateway).running ip at hcount
    by_cases hip : ip = clientIp
    · subst hip
      simp only [if_true]
      refine ⟨by push_cast; rw [hcount], by omega, fun hzero => absurd hzero (by simp)⟩
    · simp only [hip, Ne.symm hip, if_false, Nat.add_zero]
      exact ⟨hcount, hlimit, habsent⟩
  | @refused _ clientIp hfull hslots hhandling =>
    -- the count is at the limit, so the subscript finds it there
    have hfound : g.server.wsConnByIp.lookup clientIp ≠ none := by
      intro hnone
      have hpos := config.ws_bounds.1
      simp only [at', hnone, Option.getD_none] at hfull
      omega
    rw [touch_of_mem 0 hfound] at hslots
    cases handling with
    | webSocketProxy ip => exact absurd rfl (hhandling ip)
    | _ => exact (Option.some.inj hstep) ▸ h.congr hslots fun _ => rfl
  | aside hslots hhandling =>
    cases handling with
    | webSocketProxy ip => exact absurd rfl (hhandling ip)
    | _ => exact (Option.some.inj hstep) ▸ h.congr hslots fun _ => rfl

/-- A session whose proxy returns still has its slot; one that is thrown out has lost it. -/
lemma SlotsMatch.proxyEnds_iff (h : g.SlotsMatch config) {exit : ProxyExit} {nowMs : ℤ}
    (hstep : g.step config (.proxyEnds clientIp exit nowMs) = some g') :
    g'.SlotsMatch config ↔ exit ≠ .exception := by
  simp only [step] at hstep
  by_cases hmem : ⟨clientIp, false⟩ ∈ g.sessions
  · rw [if_pos hmem] at hstep
    obtain rfl := Option.some.inj hstep
    by_cases hexception : exit = .exception
    · subst hexception
      simp only [reduceCtorEq, if_false, if_true, ne_eq, not_true, iff_false]
      intro h'
      have hbefore := (h clientIp).1
      have hafter := (h' clientIp).1
      have herase := running_erase hmem g.server clientIp
      simp only [if_true] at herase
      simp only at hafter
      omega
    · simp only [hexception, ne_eq, not_false_iff, iff_true, if_false]
      refine h.congr (by split_ifs <;> rfl) fun ip => ?_
      rw [running_cons, ← running_erase hmem]
  · simp [hmem] at hstep

/-- A session that ends gives its slot back. -/
lemma SlotsMatch.release (h : g.SlotsMatch config)
    (hstep : g.step config (.release clientIp) = some g') : g'.SlotsMatch config := by
  simp only [step] at hstep
  split_ifs at hstep with hmem
  obtain rfl := Option.some.inj hstep
  have herase := running_erase hmem (g.server.releaseWsSlot clientIp)
  obtain ⟨count, hfound⟩ : ∃ count, g.server.wsConnByIp.lookup clientIp = some count := by
    refine Option.ne_none_iff_exists'.mp fun hnone => ?_
    have hcount := (h clientIp).1
    have hrunning := herase clientIp
    simp only [at', hnone, Option.getD_none, if_true] at hcount hrunning
    omega
  have hslots := GatewayServer.wsConnByIp_releaseWsSlot hfound
  have hcount := (h clientIp).1
  rw [at', hfound, Option.getD_some] at hcount
  intro ip
  obtain ⟨hcount', hlimit, habsent⟩ := h ip
  have hrunning := herase ip
  rw [hrunning] at hcount' habsent
  by_cases hip : ip = clientIp
  · subst hip
    simp only [if_true] at hrunning hcount'
    rw [at', hfound, Option.getD_some] at hlimit
    rw [hslots]
    by_cases hlast : count ≤ 1
    · rw [if_pos hlast, at', lookup_erase, if_pos rfl]
      have hpos := config.ws_bounds.1
      refine ⟨?_, by simpa using hpos.le, fun _ => rfl⟩
      simp only [Option.getD_none]
      omega
    · rw [if_neg hlast, at'_insert, if_pos rfl]
      refine ⟨by omega, by omega, fun hzero => ?_⟩
      omega
  · simp only [Ne.symm hip, if_false, Nat.add_zero] at hrunning hcount' habsent
    rw [hslots]
    split_ifs
    · rw [at', lookup_erase, if_neg hip]
      exact ⟨hcount', hlimit, habsent⟩
    · rw [at'_insert, lookup_insert, if_neg hip, if_neg hip]
      exact ⟨hcount', hlimit, habsent⟩

/-- Only an exception breaks the balance of slots and sessions. -/
lemma SlotsMatch.step_iff (h : g.SlotsMatch config) (hstep : g.step config event = some g') :
    g'.SlotsMatch config ↔ Returns event := by
  cases event with
  | connection peerIp request nowMs => exact iff_of_true (h.connection hstep) trivial
  | proxyEnds clientIp exit nowMs   => exact h.proxyEnds_iff hstep
  | release clientIp                => exact iff_of_true (h.release hstep) trivial

lemma slotsMatch_start (config : GatewaySecurityConfig) : ({} : Gateway).SlotsMatch config := by
  intro ip
  exact ⟨rfl, config.ws_bounds.1.le, fun _ => rfl⟩

/-! ### Whole runs -/

/-- In every state of a run the slots of an address are its running sessions, at most as many as
allowed, and no entry is left when there are none: exactly if no session of the run ends by an
exception that leaves `RunWebSocketProxy`. -/
theorem slots_returned_iff {events : List GatewayEvent}
    (h : (Run.exec (step config) {} events).isSome) :
    (∀ g, Run.Visits (step config) {} events g → g.SlotsMatch config) ↔
      ∀ event ∈ events, Returns event := by
  rw [← Run.along_iff_forall h]
  exact Run.forall_visits_iff_along (I := fun _ => True) (fun _ _ _ _ _ _ _ => trivial)
    (fun _ _ _ _ hg hstep => hg.step_iff hstep) trivial (slotsMatch_start config) h

/-- A page of this origin may open WebSocket sessions, one for each address. -/
def oneSession : GatewaySecurityConfig where
  allowedOrigins := [str "http://localhost"]
  maxWsConnectionsPerIp := 1

/-- The request that opens a session. -/
def openSession : GatewayEvent :=
  .connection (str "10.0.0.1")
    { target := str "/ws/game?v=1", origin := str "http://localhost/", isUpgrade := true } 1000

/-- A session that its peer closes, and the next one of that address. -/
def closedAndOpened : List GatewayEvent :=
  [openSession, .proxyEnds (str "10.0.0.1") .closedByPeer 2000, .release (str "10.0.0.1"),
    openSession]

theorem slots_returned_closed :
    (Run.exec (step oneSession) {} closedAndOpened).isSome ∧
      ∀ g, Run.Visits (step oneSession) {} closedAndOpened g → g.SlotsMatch oneSession :=
  ⟨by decide +kernel,
    (slots_returned_iff (by decide +kernel)).mpr
      (by simp [closedAndOpened, openSession, Returns])⟩

/-- After an exception the slot of the session is still taken, and the next session of that address
is refused. -/
theorem slot_lost_by_exception :
    ¬ ∀ g, Run.Visits (step oneSession) {}
      [openSession, .proxyEnds (str "10.0.0.1") .exception 2000, openSession] g →
        g.SlotsMatch oneSession := by
  intro h
  have hlost : (Run.exec (step oneSession) {}
      [openSession, .proxyEnds (str "10.0.0.1") .exception 2000, openSession]).map
      (fun g => (at' g.server.wsConnByIp (str "10.0.0.1") 0, g.running (str "10.0.0.1"))) =
        some (1, 0) := by
    decide +kernel
  obtain ⟨g, hg, hcounts⟩ := Option.map_eq_some_iff.mp hlost
  obtain ⟨hslots, hrunning⟩ := Prod.mk.inj hcounts
  have hmatch := (h g ⟨_, [], (List.append_nil _).symm, hg⟩ (str "10.0.0.1")).1
  rw [hslots, hrunning] at hmatch
  cases hmatch

end Gateway

end DdzServer
