import DdzServer.Gateway.ProxySession
import DdzServer.Lib.Domains

/-!
# The traffic of the gateway

Every connection has a thread of its own, and the threads share the three tables of the gateway
under one lock. A step of a thread goes up to the end of its next locked section, with the clock as
it was read for it. A thread that is not interrupted does what `HandleGatewayConnection` does, and
every step concerns the address of its thread alone.
-/

namespace DdzServer

open UnorderedMap SlidingWindow Interleaving Separation

/-- A connection, with the request that it begins with. -/
structure GatewayConnection where
  peerIp : CppString
  request : HttpRequest

/-- Where the thread of a connection is. -/
inductive ConnectionStage where
  | accepted
  | acquiring
  | consuming
  | banning (handling : GatewayHandling)
  /-- in the loop of `RunWebSocketProxy`, with the times of the last frames -/
  | proxy (window : List ℤ)
  /-- a frame has come, and the client is not banned -/
  | limiting (window : List ℤ)
  | releasing
  | closed (handling : GatewayHandling)
  deriving DecidableEq

/-- The thread goes on, its session ends, or an exception leaves `RunWebSocketProxy`. -/
inductive ThreadEvent where
  | goOn (nowMs : ℤ)
  | proxyEnds
  | throws

/-- A locked section, with its answer. -/
inductive LockedSection where
  | isIpBanned (nowMs : ℤ) (banned : Bool)
  | banIp (nowMs : ℤ)
  | tryAcquireWsSlot (acquired : Bool)
  | checkAndConsumeHttpQps (nowMs : ℤ) (allowed : Bool)
  | releaseWsSlot
  deriving DecidableEq

namespace GatewayConnection

variable (config : ProxyConfig) (c : GatewayConnection)

/-- The address that the limits go by. -/
def clientIp : CppString := GatewayServer.clientIpOf config.security c.peerIp c.request

def hasOrigin : Bool := !c.request.origin.isEmpty

def originAllowed : Bool := config.security.isOriginAllowed c.request.origin

/-- Where a request goes that is not refused by its origin or by a ban. -/
def route : ConnectionStage :=
  if c.request.method = .options then .closed .noContent
  else if c.request.isUpgrade ∧ (parseRouteInfo c.request.target).path = str "/ws/game" then
    if ¬ c.hasOrigin ∨ ¬ c.originAllowed config then
      .closed (.rejected 403 "origin_not_allowed")
    else .acquiring
  else .consuming

/-- The handler of an HTTP request. -/
def endpoint : GatewayHandling :=
  let path := (parseRouteInfo c.request.target).path
  if c.request.method = .post ∧ path = str "/api/auth/login-ticket" then .loginTicket
  else if c.request.method = .get ∧ path = str "/api/session/refresh" then .sessionRefresh
  else .notFound

/-- One step of the thread. -/
def advance (event : ThreadEvent) (stage : ConnectionStage) (g : GatewayServer) :
    GatewayServer × ConnectionStage × Option LockedSection :=
  match stage, event with
  | .accepted, .goOn nowMs =>
    if c.hasOrigin ∧ ¬ c.originAllowed config then
      (g, .closed (.rejected 403 "origin_not_allowed"), none)
    else
      let (g, banned) := g.isIpBanned (c.clientIp config) nowMs
      (g, if banned then .closed (.rejected 429 "ip_banned") else c.route config,
        some (.isIpBanned nowMs banned))
  | .acquiring, .goOn _ =>
    let (g, acquired) := g.tryAcquireWsSlot config.security (c.clientIp config)
    (g, if acquired then .proxy [] else .banning (.rejected 429 "ws_conn_limited"),
      some (.tryAcquireWsSlot acquired))
  | .consuming, .goOn nowMs =>
    let (g, allowed) := g.checkAndConsumeHttpQps config.security (c.clientIp config) nowMs
    (g, if allowed then .closed c.endpoint else .banning (.rejected 429 "http_qps_limited"),
      some (.checkAndConsumeHttpQps nowMs allowed))
  | .banning handling, .goOn nowMs =>
    (g.banIp config.security (c.clientIp config) nowMs, .closed handling, some (.banIp nowMs))
  | .proxy window, .goOn nowMs =>
    let (g, banned) := g.isIpBanned (c.clientIp config) nowMs
    (g, if banned then .releasing else .limiting window, some (.isIpBanned nowMs banned))
  | .proxy _, .proxyEnds => (g, .releasing, none)
  | .limiting window, .goOn nowMs =>
    let window := window.dropWhile fun t => 1000 ≤ nowMs - t
    if config.maxWsMessagesPerSec ≤ window.length then
      (g.banIp config.security (c.clientIp config) nowMs, .releasing, some (.banIp nowMs))
    else (g, .proxy (window ++ [nowMs]), none)
  | .releasing, .goOn _ =>
    (g.releaseWsSlot (c.clientIp config), .closed (.webSocketProxy (c.clientIp config)),
      some .releaseWsSlot)
  | .proxy _, .throws    => (g, .closed (.webSocketProxy (c.clientIp config)), none)
  | .limiting _, .throws => (g, .closed (.webSocketProxy (c.clientIp config)), none)
  | stage, _             => (g, stage, none)

/-- The stage after a connection was handled without a break. -/
def stageOf : GatewayHandling → ConnectionStage
  | .webSocketProxy _ => .proxy []
  | handling          => .closed handling

/-- The thread goes on some steps without a break. -/
def goesOn (nowMs : ℤ) : ℕ → ConnectionStage → GatewayServer → GatewayServer × ConnectionStage
  | 0, stage, g     => (g, stage)
  | n + 1, stage, g =>
    goesOn nowMs n (c.advance config (.goOn nowMs) stage g).2.1
      (c.advance config (.goOn nowMs) stage g).1

/-- A frame comes in. -/
def frame (askedMs nowMs : ℤ) (window : List ℤ) (g : GatewayServer) :
    GatewayServer × ConnectionStage :=
  let (g, stage, _) := c.advance config (.goOn askedMs) (.proxy window) g
  match stage with
  | .limiting window =>
    let (g, stage, _) := c.advance config (.goOn nowMs) (.limiting window) g
    (g, stage)
  | stage            => (g, stage)

end GatewayConnection

/-! ### Without a break -/

namespace GatewayConnection

variable {config : ProxyConfig} {c : GatewayConnection}

/-- The origin of the connection is an obstacle, or it is not. -/
lemma advance_accepted (config : ProxyConfig) (c : GatewayConnection) (nowMs : ℤ)
    (g : GatewayServer) :
    c.advance config (.goOn nowMs) .accepted g =
      if c.hasOrigin ∧ ¬ c.originAllowed config then
        (g, .closed (.rejected 403 "origin_not_allowed"), none)
      else
        ((g.isIpBanned (c.clientIp config) nowMs).1,
          if (g.isIpBanned (c.clientIp config) nowMs).2 then .closed (.rejected 429 "ip_banned")
          else c.route config,
          some (.isIpBanned nowMs (g.isIpBanned (c.clientIp config) nowMs).2)) := rfl

lemma advance_acquiring (config : ProxyConfig) (c : GatewayConnection) (nowMs : ℤ)
    (g : GatewayServer) :
    c.advance config (.goOn nowMs) .acquiring g =
      ((g.tryAcquireWsSlot config.security (c.clientIp config)).1,
        if (g.tryAcquireWsSlot config.security (c.clientIp config)).2 then .proxy []
        else .banning (.rejected 429 "ws_conn_limited"),
        some (.tryAcquireWsSlot (g.tryAcquireWsSlot config.security (c.clientIp config)).2)) := rfl

lemma advance_consuming (config : ProxyConfig) (c : GatewayConnection) (nowMs : ℤ)
    (g : GatewayServer) :
    c.advance config (.goOn nowMs) .consuming g =
      ((g.checkAndConsumeHttpQps config.security (c.clientIp config) nowMs).1,
        if (g.checkAndConsumeHttpQps config.security (c.clientIp config) nowMs).2 then
          .closed c.endpoint
        else .banning (.rejected 429 "http_qps_limited"),
        some (.checkAndConsumeHttpQps nowMs
          (g.checkAndConsumeHttpQps config.security (c.clientIp config) nowMs).2)) := rfl

lemma advance_banning (config : ProxyConfig) (c : GatewayConnection) (nowMs : ℤ)
    (handling : GatewayHandling) (g : GatewayServer) :
    c.advance config (.goOn nowMs) (.banning handling) g =
      (g.banIp config.security (c.clientIp config) nowMs, .closed handling,
        some (.banIp nowMs)) := rfl

lemma advance_limiting (config : ProxyConfig) (c : GatewayConnection) (nowMs : ℤ)
    (window : List ℤ) (g : GatewayServer) :
    c.advance config (.goOn nowMs) (.limiting window) g =
      if config.maxWsMessagesPerSec ≤ (prune 1000 nowMs window).length then
        (g.banIp config.security (c.clientIp config) nowMs, .releasing, some (.banIp nowMs))
      else (g, .proxy (prune 1000 nowMs window ++ [nowMs]), none) := rfl

/-- A thread that nobody interrupts does what `HandleGatewayConnection` does. -/
lemma goesOn_eq (config : ProxyConfig) (c : GatewayConnection) (nowMs : ℤ) (g : GatewayServer) :
    ∃ n, c.goesOn config nowMs n .accepted g =
      ((g.handleGatewayConnection config.security nowMs c.peerIp c.request).1,
        stageOf (g.handleGatewayConnection config.security nowMs c.peerIp c.request).2) := by
  have hask := advance_accepted config c nowMs g
  simp only [GatewayServer.handleGatewayConnection]
  split_ifs with horigin hbanned hoptions hupgrade hmissing hslot hrate hpost hget
  · rw [if_pos (show c.hasOrigin = true ∧ ¬ c.originAllowed config = true from horigin)] at hask
    exact ⟨1, by simp only [goesOn, hask, stageOf]⟩
  all_goals rw [if_neg (show ¬ (c.hasOrigin = true ∧ ¬ c.originAllowed config = true) from horigin)]
    at hask
  · exact ⟨1, by simp only [goesOn, hask, clientIp, hbanned, if_true, stageOf]⟩
  all_goals simp only [clientIp, hbanned, if_false, Bool.false_eq_true] at hask
  · exact ⟨1, by simp only [goesOn, hask, route, hoptions, if_true, stageOf]⟩
  · have hroute : c.route config = .closed (.rejected 403 "origin_not_allowed") := by
      rw [route, if_neg hoptions, if_pos hupgrade]
      exact if_pos hmissing
    exact ⟨1, by simp only [goesOn, hask, hroute, stageOf]⟩
  · have hroute : c.route config = .acquiring := by
      rw [route, if_neg hoptions, if_pos hupgrade]
      exact if_neg hmissing
    refine ⟨2, ?_⟩
    simp only [goesOn, hask, hroute, advance_acquiring, clientIp, hslot, if_true, stageOf]
  · have hroute : c.route config = .acquiring := by
      rw [route, if_neg hoptions, if_pos hupgrade]
      exact if_neg hmissing
    refine ⟨3, ?_⟩
    simp only [goesOn, hask, hroute, advance_acquiring, advance_banning, clientIp, hslot, if_false,
      stageOf, Bool.false_eq_true]
  all_goals
    have hroute : c.route config = .consuming := by
      rw [route, if_neg hoptions, if_neg hupgrade]
  · have hendpoint : c.endpoint = .loginTicket := if_pos hpost
    refine ⟨2, ?_⟩
    simp only [goesOn, hask, hroute, advance_consuming, clientIp, hrate, if_true, hendpoint,
      stageOf]
  · have hendpoint : c.endpoint = .sessionRefresh := by
      rw [endpoint, if_neg hpost, if_pos hget]
    refine ⟨2, ?_⟩
    simp only [goesOn, hask, hroute, advance_consuming, clientIp, hrate, if_true, hendpoint,
      stageOf]
  · have hendpoint : c.endpoint = .notFound := by rw [endpoint, if_neg hpost, if_neg hget]
    refine ⟨2, ?_⟩
    simp only [goesOn, hask, hroute, advance_consuming, clientIp, hrate, if_true, hendpoint,
      stageOf]
  · refine ⟨3, ?_⟩
    simp only [goesOn, hask, hroute, advance_consuming, advance_banning, clientIp, hrate, if_false,
      stageOf, Bool.false_eq_true]

/-- A frame is judged as in the loop of a session. -/
lemma frame_eq (config : ProxyConfig) (c : GatewayConnection) (askedMs nowMs : ℤ)
    (window : List ℤ) (g : GatewayServer) :
    c.frame config askedMs nowMs window g =
      ((judgeFrame config (c.clientIp config) g window askedMs nowMs).1,
        if (judgeFrame config (c.clientIp config) g window askedMs nowMs).2.2.isSome then .releasing
        else .proxy (judgeFrame config (c.clientIp config) g window askedMs nowMs).2.1) := by
  simp only [frame, advance, judgeFrame]
  by_cases hbanned : (g.isIpBanned (c.clientIp config) askedMs).2 = true
  · simp [hbanned]
  · simp only [hbanned, if_false, Bool.false_eq_true]
    by_cases hfull : config.maxWsMessagesPerSec ≤
        (window.dropWhile fun t => decide (1000 ≤ nowMs - t)).length
    · simp [hfull]
    · simp [hfull]

end GatewayConnection

/-! ### Addresses apart -/

/-- The tables have the same entries for an address. -/
structure SameFor (ip : CppString) (g g' : GatewayServer) : Prop where
  ban : g.bannedUntilMsByIp.lookup ip = g'.bannedUntilMsByIp.lookup ip
  rate : g.httpRateByIp.lookup ip = g'.httpRateByIp.lookup ip
  slots : g.wsConnByIp.lookup ip = g'.wsConnByIp.lookup ip

lemma SameFor.refl (ip : CppString) (g : GatewayServer) : SameFor ip g g := ⟨rfl, rfl, rfl⟩

namespace GatewayServer

variable {ip : CppString}

lemma local_isIpBanned (ip : CppString) (nowMs : ℤ) :
    Local SameFor ip fun g => g.isIpBanned ip nowMs where
  own g g' h := by
    rw [isIpBanned, isIpBanned, h.ban]
    cases g'.bannedUntilMsByIp.lookup ip with
    | none => exact ⟨rfl, h⟩
    | some bannedUntil =>
      dsimp only
      split_ifs
      · exact ⟨rfl, by simp, h.rate, h.slots⟩
      · exact ⟨rfl, h⟩
  other j hj g g' h := by
    rw [isIpBanned]
    cases g.bannedUntilMsByIp.lookup ip with
    | none => exact h
    | some bannedUntil =>
      dsimp only
      split_ifs
      · exact ⟨by rw [lookup_erase, if_neg hj]; exact h.ban, h.rate, h.slots⟩
      · exact h

lemma local_banIp (config : GatewaySecurityConfig) (ip : CppString) (nowMs : ℤ) :
    Local SameFor ip fun g => (g.banIp config ip nowMs, ()) where
  own g g' h := ⟨rfl, by simp [banIp], h.rate, h.slots⟩
  other j hj g g' h :=
    ⟨by rw [banIp, lookup_insert, if_neg hj]; exact h.ban, h.rate, h.slots⟩

lemma local_checkAndConsumeHttpQps (config : GatewaySecurityConfig) (ip : CppString)
    (nowMs : ℤ) : Local SameFor ip fun g => g.checkAndConsumeHttpQps config ip nowMs where
  own g g' h := by
    have hwindow : at' g.httpRateByIp ip [] = at' g'.httpRateByIp ip [] := by
      rw [at', at', h.rate]
    rw [checkAndConsumeHttpQps, checkAndConsumeHttpQps, hwindow]
    split_ifs
    · exact ⟨rfl, h.ban, by simp, h.slots⟩
    · exact ⟨rfl, h.ban, by simp, h.slots⟩
  other j hj g g' h := by
    simp only [checkAndConsumeHttpQps]
    split_ifs
    · exact ⟨h.ban, by rw [lookup_insert, if_neg hj]; exact h.rate, h.slots⟩
    · exact ⟨h.ban, by rw [lookup_insert, if_neg hj]; exact h.rate, h.slots⟩

lemma local_tryAcquireWsSlot (config : GatewaySecurityConfig) (ip : CppString) :
    Local SameFor ip fun g => g.tryAcquireWsSlot config ip where
  own g g' h := by
    have hcount : at' g.wsConnByIp ip 0 = at' g'.wsConnByIp ip 0 := by
      rw [at', at', h.slots]
    rw [tryAcquireWsSlot, tryAcquireWsSlot, touch, touch, hcount]
    split_ifs
    · exact ⟨rfl, h.ban, h.rate, by simp⟩
    · exact ⟨rfl, h.ban, h.rate, by simp⟩
  other j hj g g' h := by
    simp only [tryAcquireWsSlot]
    split_ifs
    · exact ⟨h.ban, h.rate, by rw [touch, lookup_insert, if_neg hj]; exact h.slots⟩
    · exact ⟨h.ban, h.rate, by rw [lookup_insert, if_neg hj]; exact h.slots⟩

lemma local_releaseWsSlot (ip : CppString) :
    Local SameFor ip fun g => (g.releaseWsSlot ip, ()) where
  own g g' h := by
    rw [releaseWsSlot, releaseWsSlot, h.slots]
    cases g'.wsConnByIp.lookup ip with
    | none => exact ⟨rfl, h⟩
    | some count =>
      dsimp only
      split_ifs
      · exact ⟨rfl, h.ban, h.rate, by simp⟩
      · exact ⟨rfl, h.ban, h.rate, by simp⟩
  other j hj g g' h := by
    rw [releaseWsSlot]
    cases g.wsConnByIp.lookup ip with
    | none => exact h
    | some count =>
      dsimp only
      split_ifs
      · exact ⟨h.ban, h.rate, by rw [lookup_erase, if_neg hj]; exact h.slots⟩
      · exact ⟨h.ban, h.rate, by rw [lookup_insert, if_neg hj]; exact h.slots⟩

end GatewayServer

namespace GatewayConnection

open GatewayServer

/-- What a thread does concerns its own address. -/
lemma local_advance (config : ProxyConfig) (c : GatewayConnection) (event : ThreadEvent)
    (stage : ConnectionStage) :
    Local SameFor (c.clientIp config) fun g => c.advance config event stage g := by
  cases event with
  | goOn nowMs =>
    cases stage with
    | accepted =>
      simp only [advance_accepted]
      split_ifs
      · exact Local.pure _
      · exact (local_isIpBanned (c.clientIp config) nowMs).map fun banned =>
          ((if banned then .closed (.rejected 429 "ip_banned") else c.route config,
            some (.isIpBanned nowMs banned)) : ConnectionStage × Option LockedSection)
    | acquiring =>
      exact (local_tryAcquireWsSlot config.security (c.clientIp config)).map fun acquired =>
        ((if acquired then .proxy [] else .banning (.rejected 429 "ws_conn_limited"),
          some (.tryAcquireWsSlot acquired)) : ConnectionStage × Option LockedSection)
    | consuming =>
      exact (local_checkAndConsumeHttpQps config.security (c.clientIp config) nowMs).map
        fun allowed =>
          ((if allowed then .closed c.endpoint else .banning (.rejected 429 "http_qps_limited"),
            some (.checkAndConsumeHttpQps nowMs allowed)) : ConnectionStage × Option LockedSection)
    | banning handling =>
      exact (local_banIp config.security (c.clientIp config) nowMs).map fun _ =>
        ((.closed handling, some (.banIp nowMs)) : ConnectionStage × Option LockedSection)
    | proxy window =>
      exact (local_isIpBanned (c.clientIp config) nowMs).map fun banned =>
        ((if banned then .releasing else .limiting window, some (.isIpBanned nowMs banned)) :
          ConnectionStage × Option LockedSection)
    | limiting window =>
      simp only [advance]
      split_ifs
      · exact (local_banIp config.security (c.clientIp config) nowMs).map fun _ =>
          ((.releasing, some (.banIp nowMs)) : ConnectionStage × Option LockedSection)
      · exact Local.pure _
    | releasing =>
      exact (local_releaseWsSlot (c.clientIp config)).map fun _ =>
        ((.closed (.webSocketProxy (c.clientIp config)), some .releaseWsSlot) :
          ConnectionStage × Option LockedSection)
    | closed handling => exact Local.pure _
  | proxyEnds => cases stage <;> exact Local.pure _
  | throws => cases stage <;> exact Local.pure _

end GatewayConnection

end DdzServer
