import DdzServer.Gateway.GatewayServer
import DdzServer.Lib.SlidingWindow

/-!
# The rate of HTTP requests

Every address has a sliding window of its own: `CheckAndConsumeHttpQps` admits exactly as many
requests of an address within a second as the limit allows, whatever the others do.
-/

namespace DdzServer

open SlidingWindow UnorderedMap

/-- A call of `CheckAndConsumeHttpQps`. -/
structure HttpCall where
  clientIp : CppString
  nowMs : ℤ
  deriving DecidableEq

namespace GatewayServer

variable (config : GatewaySecurityConfig) (g : GatewayServer) (call : HttpCall)

/-- The gateway after a call. -/
def afterCall : GatewayServer := (g.checkAndConsumeHttpQps config call.clientIp call.nowMs).1

/-- The answer to a call. -/
def accepts : Bool := (g.checkAndConsumeHttpQps config call.clientIp call.nowMs).2

/-- The times that are kept for an address. -/
def window (clientIp : CppString) : List ℤ := at' g.httpRateByIp clientIp []

end GatewayServer

/-- The gateway, and the calls it has accepted. -/
structure HttpHistory where
  gateway : GatewayServer := {}
  accepted : List HttpCall := []

namespace HttpHistory

/-- One call. -/
def call (config : GatewaySecurityConfig) (h : HttpHistory) (c : HttpCall) : HttpHistory where
  gateway := h.gateway.afterCall config c
  accepted := if h.gateway.accepts config c then h.accepted ++ [c] else h.accepted

/-- Calls from the start of the gateway. -/
def run (config : GatewaySecurityConfig) (calls : List HttpCall) : HttpHistory :=
  calls.foldl (call config) {}

lemma run_append (config : GatewaySecurityConfig) (calls : List HttpCall) (c : HttpCall) :
    run config (calls ++ [c]) = (run config calls).call config c := by
  rw [run, List.foldl_append]
  rfl

end HttpHistory

/-! ### Every address on its own -/

variable {config : GatewaySecurityConfig} {g : GatewayServer} {call : HttpCall}

/-- How many requests an address may make. -/
def GatewaySecurityConfig.httpLimit (config : GatewaySecurityConfig) : ℕ :=
  config.maxHttpQpsPerIp.toNat

lemma window_insert (g : GatewayServer) (ip clientIp : CppString) (window : List ℤ) :
    ({ g with httpRateByIp := Finmap.insert ip window g.httpRateByIp } : GatewayServer).window
      clientIp = if clientIp = ip then window else g.window clientIp :=
  at'_insert _ _ _ _ _

/-- A call is one of the limiter of its address. -/
lemma check_spec (config : GatewaySecurityConfig) (g : GatewayServer) (call : HttpCall)
    (clientIp : CppString) :
    g.accepts config call =
        (admitCall config.httpLimit 1000 call.nowMs (g.window call.clientIp)).2 ∧
      (g.afterCall config call).window clientIp =
        if clientIp = call.clientIp then
          (admitCall config.httpLimit 1000 call.nowMs (g.window call.clientIp)).1
        else g.window clientIp := by
  have hprune : (at' g.httpRateByIp call.clientIp []).dropWhile
      (fun t => decide (1000 ≤ call.nowMs - t)) =
        prune 1000 call.nowMs (g.window call.clientIp) := by
    rw [prune, GatewayServer.window]
  have hfull : config.maxHttpQpsPerIp ≤ (prune 1000 call.nowMs (g.window call.clientIp)).length ↔
      config.httpLimit ≤ (prune 1000 call.nowMs (g.window call.clientIp)).length :=
    Int.toNat_le.symm
  rw [GatewayServer.accepts, GatewayServer.afterCall, GatewayServer.checkAndConsumeHttpQps, hprune,
    admitCall]
  by_cases hlimit : config.httpLimit ≤ (prune 1000 call.nowMs (g.window call.clientIp)).length
  · simp only [if_pos (hfull.mpr hlimit), if_pos hlimit, window_insert, and_self]
  · simp only [if_neg (mt hfull.mp hlimit), if_neg hlimit, window_insert, and_self]

namespace HttpHistory

/-- The times of the calls of an address. -/
def timesOf (calls : List HttpCall) (clientIp : CppString) : List ℤ :=
  (calls.filter fun c => c.clientIp = clientIp).map HttpCall.nowMs

lemma timesOf_append (calls : List HttpCall) (c : HttpCall) (clientIp : CppString) :
    timesOf (calls ++ [c]) clientIp =
      if clientIp = c.clientIp then timesOf calls clientIp ++ [c.nowMs]
      else timesOf calls clientIp := by
  rw [timesOf, List.filter_append, List.map_append]
  split_ifs with hip
  · simp [timesOf, hip]
  · simp [timesOf, Ne.symm hip]

/-- The limiter of an address after the calls. -/
def limiter (config : GatewaySecurityConfig) (calls : List HttpCall) (clientIp : CppString) :
    Limiter ℤ := Limiter.run config.httpLimit 1000 (timesOf calls clientIp)

/-- The gateway runs one limiter for each address. -/
theorem run_refines (config : GatewaySecurityConfig) (calls : List HttpCall)
    (clientIp : CppString) :
    (run config calls).gateway.window clientIp = (limiter config calls clientIp).window ∧
      timesOf (run config calls).accepted clientIp = (limiter config calls clientIp).accepted := by
  induction calls using List.reverseRecOn generalizing clientIp with
  | nil => exact ⟨rfl, rfl⟩
  | append_singleton calls c ih =>
    obtain ⟨haccepts, hafter⟩ := check_spec config (run config calls).gateway c clientIp
    rw [(ih c.clientIp).1] at haccepts hafter
    obtain ⟨hwindow, haccepted⟩ := ih clientIp
    rw [run_append, call]
    by_cases hip : clientIp = c.clientIp
    · have hlimiter : limiter config (calls ++ [c]) clientIp =
          (limiter config calls clientIp).call config.httpLimit 1000 c.nowMs := by
        rw [limiter, timesOf_append, if_pos hip, Limiter.run_append]
        rfl
      rw [if_pos hip, ← hip] at hafter
      rw [← hip] at haccepts
      rw [hlimiter, Limiter.call, haccepts]
      refine ⟨hafter, ?_⟩
      dsimp only
      split_ifs with hok
      · rw [timesOf_append, if_pos hip, haccepted]
      · exact haccepted
    · have hlimiter : limiter config (calls ++ [c]) clientIp = limiter config calls clientIp := by
        rw [limiter, timesOf_append, if_neg hip]
        rfl
      rw [if_neg hip] at hafter
      rw [hlimiter]
      refine ⟨hafter.trans hwindow, ?_⟩
      dsimp only
      split_ifs with hok
      · rw [timesOf_append, if_neg hip, haccepted]
      · exact haccepted

/-- The answer to a call depends on the calls of its address alone. -/
lemma accepts_eq (config : GatewaySecurityConfig) (calls : List HttpCall) (c : HttpCall) :
    (run config calls).gateway.accepts config c =
      (admitCall config.httpLimit 1000 c.nowMs (limiter config calls c.clientIp).window).2 := by
  rw [(check_spec config _ c c.clientIp).1, (run_refines config calls c.clientIp).1]

end HttpHistory

open HttpHistory

/-- The limiter is an exact sliding window. After calls whose times do not go backwards, no window
of a second has more accepted calls of an address than the limit; the next call is refused only if
the window that ends with it has as many; and the calls of other addresses make no difference. -/
theorem http_rate_exact (config : GatewaySecurityConfig) (calls : List HttpCall)
    (hsorted : (calls.map HttpCall.nowMs).Pairwise (· ≤ ·)) :
    (∀ clientIp t, ((timesOf (run config calls).accepted clientIp).filter
        fun x => t - 1000 < x ∧ x ≤ t).length ≤ config.maxHttpQpsPerIp) ∧
      ∀ c : HttpCall, (∀ c' ∈ calls, c'.nowMs ≤ c.nowMs) →
        ((run config calls).gateway.accepts config c = false →
          ((timesOf (run config calls).accepted c.clientIp).filter
            fun x => c.nowMs - 1000 < x ∧ x ≤ c.nowMs).length = config.maxHttpQpsPerIp) ∧
        (run config calls).gateway.accepts config c =
          (run config
            (calls.filter fun c' => c'.clientIp = c.clientIp)).gateway.accepts config c := by
  have hlimit : (config.httpLimit : ℤ) = config.maxHttpQpsPerIp :=
    Int.toNat_of_nonneg config.http_bounds.1.le
  have htimes : ∀ clientIp, (timesOf calls clientIp).Pairwise (· ≤ ·) := fun clientIp =>
    hsorted.sublist (List.filter_sublist.map HttpCall.nowMs)
  refine ⟨fun clientIp t => ?_, fun c hlast => ⟨fun hrefused => ?_, ?_⟩⟩
  · rw [(run_refines config calls clientIp).2, ← hlimit, Nat.cast_le]
    exact Limiter.length_inside_le (htimes clientIp) t
  · have hexact :
        Limiter.Exact config.httpLimit 1000 c.nowMs (limiter config calls c.clientIp) := by
      refine Limiter.exact_run (htimes c.clientIp) fun x hx => ?_
      obtain ⟨c', hc', rfl⟩ := List.mem_map.mp hx
      exact hlast c' (List.mem_of_mem_filter hc')
    rw [accepts_eq] at hrefused
    rw [(run_refines config calls c.clientIp).2, ← hlimit, Nat.cast_inj]
    exact hexact.refused le_rfl hrefused
  · have hsame : timesOf (calls.filter fun c' => c'.clientIp = c.clientIp) c.clientIp =
        timesOf calls c.clientIp := by
      simp only [timesOf, List.filter_filter, Bool.and_self]
    rw [accepts_eq, accepts_eq, limiter, limiter, hsame]

/-- One address makes three requests, the limit being two. -/
def burst : List HttpCall := [⟨str "10.0.0.1", 0⟩, ⟨str "10.0.0.1", 500⟩, ⟨str "10.0.0.1", 999⟩]

theorem http_rate_exact_burst :
    (burst.map HttpCall.nowMs).Pairwise (· ≤ ·) ∧
      (run { maxHttpQpsPerIp := 2 } burst).gateway.accepts { maxHttpQpsPerIp := 2 }
        ⟨str "10.0.0.1", 999⟩ = false ∧
      ((timesOf (run { maxHttpQpsPerIp := 2 } burst).accepted (str "10.0.0.1")).filter
        fun x => (999 : ℤ) - 1000 < x ∧ x ≤ 999).length = (2 : ℤ) := by
  have hsorted : (burst.map HttpCall.nowMs).Pairwise (· ≤ ·) := by decide
  have hrefused : (run { maxHttpQpsPerIp := 2 } burst).gateway.accepts { maxHttpQpsPerIp := 2 }
      ⟨str "10.0.0.1", 999⟩ = false := by decide +kernel
  exact ⟨hsorted, hrefused,
    ((http_rate_exact { maxHttpQpsPerIp := 2 } burst hsorted).2 ⟨str "10.0.0.1", 999⟩
      (by decide)).1 hrefused⟩

end DdzServer
