import DdzServer.Gateway.HttpRate
import DdzServer.Gateway.Traffic

/-!
# What the gateway knows of an address

The locked sections of an address, in their order, say what the next one answers: a client is banned
for a fixed time after its last violation, its requests are limited by a sliding window, and its
WebSocket sessions are counted. This holds however the threads of the connections interleave.
-/

namespace DdzServer

open UnorderedMap SlidingWindow Interleaving Separation

/-! ### What the history of an address says -/

namespace LockedSection

/-- The clock, where the section reads it. -/
def time? : LockedSection → Option ℤ
  | .isIpBanned nowMs _             => some nowMs
  | .banIp nowMs                    => some nowMs
  | .checkAndConsumeHttpQps nowMs _ => some nowMs
  | _                               => none

def ban? : LockedSection → Option ℤ
  | .banIp nowMs => some nowMs
  | _            => none

def allowed? : LockedSection → Option ℤ
  | .checkAndConsumeHttpQps nowMs true => some nowMs
  | _                                  => none

def slotChange : LockedSection → ℤ
  | .tryAcquireWsSlot true => 1
  | .releaseWsSlot         => -1
  | _                      => 0

end LockedSection

/-- How many slots are taken. -/
def slotsTaken (history : List LockedSection) : ℤ := (history.map LockedSection.slotChange).sum

/-- The last violation. -/
def lastBan (history : List LockedSection) : Option ℤ :=
  (history.filterMap LockedSection.ban?).getLast?

/-- The requests that were let through. -/
def allowedTimes (history : List LockedSection) : List ℤ :=
  history.filterMap LockedSection.allowed?

/-- A section answers what the earlier sections of its address say. -/
def LockedSection.Right (config : GatewaySecurityConfig) (history : List LockedSection) :
    LockedSection → Prop
  | .isIpBanned nowMs banned =>
    banned = true ↔ ∃ v, lastBan history = some v ∧ nowMs < v + config.banSecondsOnAbuse * 1000
  | .checkAndConsumeHttpQps nowMs allowed =>
    allowed = true ↔ ((allowedTimes history).filter
      fun t => nowMs - 1000 < t ∧ t ≤ nowMs).length < config.maxHttpQpsPerIp
  | .tryAcquireWsSlot acquired =>
    acquired = true ↔ slotsTaken history < config.maxWsConnectionsPerIp
  | _ => True

@[simp] lemma slotsTaken_concat (history : List LockedSection) (x : LockedSection) :
    slotsTaken (history ++ [x]) = slotsTaken history + x.slotChange := by
  simp [slotsTaken]

lemma allowedTimes_concat (history : List LockedSection) (x : LockedSection) :
    allowedTimes (history ++ [x]) = allowedTimes history ++ x.allowed?.toList := by
  rw [allowedTimes, List.filterMap_append]
  cases hx : x.allowed? <;> simp [allowedTimes, hx]

lemma lastBan_concat (history : List LockedSection) (x : LockedSection) :
    lastBan (history ++ [x]) = x.ban?.or (lastBan history) := by
  rw [lastBan, List.filterMap_append]
  cases hx : x.ban? <;> simp [lastBan, hx]

/-- The tables hold what the history of an address says, at a time when all of it is past. -/
structure Follows (config : GatewaySecurityConfig) (ip : CppString) (clock : ℤ)
    (history : List LockedSection) (g : GatewayServer) : Prop where
  banned : ∀ bannedUntil, g.bannedUntilMsByIp.lookup ip = some bannedUntil →
    ∃ v, lastBan history = some v ∧ bannedUntil = v + config.banSecondsOnAbuse * 1000
  free : g.bannedUntilMsByIp.lookup ip = none →
    ∀ v, lastBan history = some v → v + config.banSecondsOnAbuse * 1000 ≤ clock
  rate : Limiter.Exact config.httpLimit 1000 clock ⟨g.window ip, allowedTimes history⟩
  slots : at' g.wsConnByIp ip 0 = slotsTaken history

namespace Follows

variable {config : GatewaySecurityConfig} {ip : CppString} {clock nowMs : ℤ}
  {history : List LockedSection} {g g' : GatewayServer}

lemma start (config : GatewaySecurityConfig) (ip : CppString) (clock : ℤ) :
    Follows config ip clock [] {} where
  banned _ h := by cases h
  free _ _ h := by cases h
  rate := Limiter.exact_empty _ _ _
  slots := rfl

lemma mono (h : Follows config ip clock history g) (hle : clock ≤ nowMs) :
    Follows config ip nowMs history g where
  banned := h.banned
  free hnone v hv := (h.free hnone v hv).trans hle
  rate := h.rate.mono hle
  slots := h.slots

/-- Other addresses do not matter. -/
lemma congr (h : Follows config ip clock history g) (hsame : SameFor ip g' g) :
    Follows config ip clock history g' where
  banned := by
    rw [hsame.ban]
    exact h.banned
  free := by
    rw [hsame.ban]
    exact h.free
  rate := by
    rw [GatewayServer.window, at', hsame.rate]
    exact h.rate
  slots := by
    rw [at', hsame.slots]
    exact h.slots

/-- A section that is about the slots, or changes nothing. -/
lemma aside (h : Follows config ip clock history g) {x : LockedSection} (hx : x.ban? = none)
    (hx' : x.allowed? = none) (hban : g'.bannedUntilMsByIp = g.bannedUntilMsByIp)
    (hrate : g'.httpRateByIp = g.httpRateByIp)
    (hslots : at' g'.wsConnByIp ip 0 = at' g.wsConnByIp ip 0 + x.slotChange) :
    Follows config ip clock (history ++ [x]) g' where
  banned := by
    rw [lastBan_concat, hx, Option.none_or, hban]
    exact h.banned
  free := by
    rw [lastBan_concat, hx, Option.none_or, hban]
    exact h.free
  rate := by
    rw [allowedTimes_concat, hx', Option.toList_none, List.append_nil, GatewayServer.window, hrate]
    exact h.rate
  slots := by rw [slotsTaken_concat, hslots, h.slots]

/-- The client is banned as long as its last violation is not too old. -/
lemma isIpBanned (h : Follows config ip nowMs history g) :
    (LockedSection.isIpBanned nowMs (g.isIpBanned ip nowMs).2).Right config history ∧
      Follows config ip nowMs (history ++ [.isIpBanned nowMs (g.isIpBanned ip nowMs).2])
        (g.isIpBanned ip nowMs).1 := by
  have hsame : ∀ answer, Follows config ip nowMs (history ++ [.isIpBanned nowMs answer]) g :=
    fun answer => h.aside rfl rfl rfl rfl (Int.add_zero _).symm
  rw [LockedSection.Right, GatewayServer.isIpBanned]
  cases hlookup : g.bannedUntilMsByIp.lookup ip with
  | none =>
    refine ⟨⟨fun hfalse => by simp at hfalse, ?_⟩, hsame false⟩
    rintro ⟨v, hv, hlt⟩
    exact absurd (h.free hlookup v hv) (not_le.mpr hlt)
  | some bannedUntil =>
    obtain ⟨v, hv, rfl⟩ := h.banned _ hlookup
    dsimp only
    split_ifs with hexpired
    · refine ⟨⟨fun hfalse => by simp at hfalse, ?_⟩, ?_⟩
      · rintro ⟨v', hv', hlt⟩
        obtain rfl := Option.some.inj (hv.symm.trans hv')
        exact absurd hexpired (not_le.mpr hlt)
      · refine ⟨fun _ hsome => ?_, fun _ v' hv' => ?_, (hsame false).rate, (hsame false).slots⟩
        · simp at hsome
        · rw [lastBan_concat] at hv'
          obtain rfl := Option.some.inj (hv.symm.trans hv')
          exact hexpired
    · exact ⟨⟨fun _ => ⟨v, hv, not_le.mp hexpired⟩, fun _ => rfl⟩, hsame true⟩

lemma banIp (h : Follows config ip nowMs history g) :
    Follows config ip nowMs (history ++ [.banIp nowMs]) (g.banIp config ip nowMs) where
  banned bannedUntil hsome := by
    refine ⟨nowMs, by rw [lastBan_concat, LockedSection.ban?, Option.some_or], ?_⟩
    simpa [GatewayServer.banIp, eq_comm] using hsome
  free hnone := by simp [GatewayServer.banIp] at hnone
  rate := by
    rw [allowedTimes_concat]
    exact (List.append_nil (allowedTimes history)).symm ▸ h.rate
  slots := by
    rw [slotsTaken_concat]
    exact h.slots.trans (Int.add_zero _).symm

/-- A request is let through if fewer than the limit were, within the last second. -/
lemma checkAndConsumeHttpQps (h : Follows config ip nowMs history g) :
    (LockedSection.checkAndConsumeHttpQps nowMs
        (g.checkAndConsumeHttpQps config ip nowMs).2).Right config history ∧
      Follows config ip nowMs
        (history ++ [.checkAndConsumeHttpQps nowMs (g.checkAndConsumeHttpQps config ip nowMs).2])
        (g.checkAndConsumeHttpQps config ip nowMs).1 := by
  obtain ⟨hanswer, hwindow⟩ := check_spec config g ⟨ip, nowMs⟩ ip
  rw [if_pos rfl] at hwindow
  have htables : (g.checkAndConsumeHttpQps config ip nowMs).1.bannedUntilMsByIp =
      g.bannedUntilMsByIp ∧
      (g.checkAndConsumeHttpQps config ip nowMs).1.wsConnByIp = g.wsConnByIp := by
    rw [GatewayServer.checkAndConsumeHttpQps]
    split_ifs <;> exact ⟨rfl, rfl⟩
  change (g.checkAndConsumeHttpQps config ip nowMs).2 = _ at hanswer
  refine ⟨?_, ?_, ?_, ?_, ?_⟩
  · have hlimit : (config.httpLimit : ℤ) = config.maxHttpQpsPerIp :=
      Int.toNat_of_nonneg config.http_bounds.1.le
    rw [LockedSection.Right, hanswer, admitCall, h.rate.prune_eq le_rfl, ← hlimit, Nat.cast_lt]
    dsimp only
    split_ifs with hfull
    · exact ⟨fun hfalse => by simp at hfalse, fun hlt => absurd hfull (not_le.mpr hlt)⟩
    · exact ⟨fun _ => not_le.mp hfull, fun _ => rfl⟩
  · rw [htables.1, lastBan_concat]
    exact h.banned
  · rw [htables.1, lastBan_concat]
    exact h.free
  · have hcall := h.rate.call (le_refl nowMs)
    rw [allowedTimes_concat, hanswer]
    change (g.checkAndConsumeHttpQps config ip nowMs).1.window ip = _ at hwindow
    rw [hwindow]
    simp only [Limiter.call] at hcall
    cases hok : (admitCall config.httpLimit 1000 nowMs (g.window ip)).2 with
    | true =>
      rw [hok] at hcall
      exact hcall
    | false =>
      rw [hok] at hcall
      exact (List.append_nil (allowedTimes history)).symm ▸ hcall
  · rw [htables.2, h.slots, slotsTaken_concat]
    exact (Int.add_zero _).symm

/-- A session is let in if fewer slots than the limit are taken. -/
lemma tryAcquireWsSlot (h : Follows config ip clock history g) :
    (LockedSection.tryAcquireWsSlot (g.tryAcquireWsSlot config ip).2).Right config history ∧
      Follows config ip clock (history ++ [.tryAcquireWsSlot (g.tryAcquireWsSlot config ip).2])
        (g.tryAcquireWsSlot config ip).1 := by
  rw [LockedSection.Right, ← h.slots]
  simp only [GatewayServer.tryAcquireWsSlot]
  split_ifs with hfull
  · refine ⟨⟨fun hfalse => by simp at hfalse, fun hlt => absurd hfull (not_le.mpr hlt)⟩, ?_⟩
    exact h.aside rfl rfl rfl rfl (by simp [LockedSection.slotChange])
  · refine ⟨⟨fun _ => not_le.mp hfull, fun _ => rfl⟩, ?_⟩
    exact h.aside rfl rfl rfl rfl (by simp [LockedSection.slotChange, at'_insert])

lemma releaseWsSlot (h : Follows config ip clock history g) (hpos : 0 < slotsTaken history) :
    Follows config ip clock (history ++ [.releaseWsSlot]) (g.releaseWsSlot ip) := by
  have hslots := h.slots
  cases hlookup : g.wsConnByIp.lookup ip with
  | none =>
    rw [at', hlookup, Option.getD_none] at hslots
    omega
  | some count =>
    rw [at', hlookup, Option.getD_some] at hslots
    rw [GatewayServer.releaseWsSlot, hlookup]
    dsimp only
    split_ifs with hlast
    · refine h.aside rfl rfl rfl rfl ?_
      simp only [at', lookup_erase, hlookup, LockedSection.slotChange, if_true, Option.getD_none,
        Option.getD_some]
      omega
    · refine h.aside rfl rfl rfl rfl ?_
      simp only [at', lookup_insert, hlookup, LockedSection.slotChange, if_true, Option.getD_some]
      omega

end Follows

/-! ### Slots and threads -/

namespace ConnectionStage

/-- The thread has a slot to give back. -/
def holdsSlot : ConnectionStage → Bool
  | .proxy _ | .limiting _ | .releasing => true
  | _                                   => false

def isClosed : ConnectionStage → Bool
  | .closed _ => true
  | _         => false

end ConnectionStage

namespace GatewayConnection

variable {config : ProxyConfig} {c : GatewayConnection} {clock : ℤ}
  {history : List LockedSection}

/-- A thread takes a slot when it enters the proxy, and gives it back when it is closed after. -/
lemma advance_slot (config : ProxyConfig) (c : GatewayConnection) (event : ThreadEvent)
    (stage : ConnectionStage) (g : GatewayServer) :
    (stage = .acquiring ∧
        (c.advance config event stage g).2.2 = some (.tryAcquireWsSlot true) ∧
        (c.advance config event stage g).2.1.holdsSlot = true) ∨
      (stage = .releasing ∧ (c.advance config event stage g).2.2 = some .releaseWsSlot ∧
        (c.advance config event stage g).2.1.isClosed = true ∧
        (c.advance config event stage g).2.1.holdsSlot = false) ∨
      ((∀ x, (c.advance config event stage g).2.2 = some x → x.slotChange = 0) ∧
        ((c.advance config event stage g).2.1.holdsSlot = true → stage.holdsSlot = true) ∧
        ((stage.holdsSlot || stage.isClosed) = true →
          ((c.advance config event stage g).2.1.holdsSlot ||
            (c.advance config event stage g).2.1.isClosed) = true)) := by
  cases event with
  | goOn nowMs =>
    cases stage with
    | accepted =>
      right; right
      rw [advance_accepted]
      by_cases horigin : c.hasOrigin = true ∧ ¬ c.originAllowed config = true
      · rw [if_pos horigin]
        exact ⟨fun x hx => (by cases hx), fun h => (by cases h), fun h => (by cases h)⟩
      · rw [if_neg horigin]
        refine ⟨fun x hx => Option.some.inj hx ▸ rfl, fun hholds => ?_, fun h => (by cases h)⟩
        dsimp only [route] at hholds
        split_ifs at hholds <;> cases hholds
    | acquiring =>
      rw [advance_acquiring]
      cases hacquired : (g.tryAcquireWsSlot config.security (c.clientIp config)).2 with
      | true => exact Or.inl ⟨rfl, rfl, rfl⟩
      | false =>
        refine Or.inr (Or.inr ⟨fun x hx => ?_, fun h => h, fun h => (by cases h)⟩)
        exact Option.some.inj hx ▸ rfl
    | consuming =>
      right; right
      rw [advance_consuming]
      refine ⟨fun x hx => Option.some.inj hx ▸ ?_, fun hholds => ?_, fun h => (by cases h)⟩
      · rfl
      · dsimp only at hholds
        split_ifs at hholds <;> cases hholds
    | banning handling =>
      exact Or.inr (Or.inr
        ⟨fun x hx => Option.some.inj hx ▸ rfl, fun h => h, fun h => (by cases h)⟩)
    | proxy window =>
      right; right
      refine ⟨fun x hx => Option.some.inj hx ▸ rfl, fun _ => rfl, fun _ => ?_⟩
      simp only [advance]
      split_ifs <;> rfl
    | limiting window =>
      right; right
      rw [advance_limiting]
      by_cases hfull : config.maxWsMessagesPerSec ≤ (prune 1000 nowMs window).length
      · rw [if_pos hfull]
        exact ⟨fun x hx => Option.some.inj hx ▸ rfl, fun _ => rfl, fun _ => rfl⟩
      · rw [if_neg hfull]
        exact ⟨fun x hx => (by cases hx), fun _ => rfl, fun _ => rfl⟩
    | releasing => exact Or.inr (Or.inl ⟨rfl, rfl, rfl, rfl⟩)
    | closed handling =>
      exact Or.inr (Or.inr ⟨fun x hx => (by cases hx), fun h => h, fun h => h⟩)
  | proxyEnds =>
    right; right
    cases stage <;> simp [advance, ConnectionStage.holdsSlot, ConnectionStage.isClosed]
  | throws =>
    right; right
    cases stage <;> simp [advance, ConnectionStage.holdsSlot, ConnectionStage.isClosed]

/-- The thread of an address goes on. -/
lemma follows_advance {stage : ConnectionStage} {g : GatewayServer} (event : ThreadEvent)
    (h : Follows config.security (c.clientIp config) clock history g)
    (hpos : stage = .releasing → 0 < slotsTaken history) :
    ((c.advance config event stage g).2.2 = none → (c.advance config event stage g).1 = g) ∧
      ∀ x, (c.advance config event stage g).2.2 = some x →
        (∀ t, x.time? = some t → t = clock) →
          x.Right config.security history ∧
            Follows config.security (c.clientIp config) clock (history ++ [x])
              (c.advance config event stage g).1 := by
  cases event with
  | goOn nowMs =>
    cases stage with
    | accepted =>
      rw [advance_accepted]
      by_cases horigin : c.hasOrigin = true ∧ ¬ c.originAllowed config = true
      · rw [if_pos horigin]
        exact ⟨fun _ => rfl, fun x hx => (by cases hx)⟩
      · rw [if_neg horigin]
        refine ⟨fun hnone => (by cases hnone), fun x hx htime => ?_⟩
        obtain rfl := Option.some.inj hx
        obtain rfl := htime nowMs rfl
        exact h.isIpBanned
    | acquiring =>
      refine ⟨fun hnone => (by cases hnone), fun x hx _ => ?_⟩
      obtain rfl := Option.some.inj hx
      exact h.tryAcquireWsSlot
    | consuming =>
      refine ⟨fun hnone => (by cases hnone), fun x hx htime => ?_⟩
      obtain rfl := Option.some.inj hx
      obtain rfl := htime nowMs rfl
      exact h.checkAndConsumeHttpQps
    | banning handling =>
      refine ⟨fun hnone => (by cases hnone), fun x hx htime => ?_⟩
      obtain rfl := Option.some.inj hx
      obtain rfl := htime nowMs rfl
      exact ⟨trivial, h.banIp⟩
    | proxy window =>
      refine ⟨fun hnone => (by cases hnone), fun x hx htime => ?_⟩
      obtain rfl := Option.some.inj hx
      obtain rfl := htime nowMs rfl
      exact h.isIpBanned
    | limiting window =>
      rw [advance_limiting]
      by_cases hfull : config.maxWsMessagesPerSec ≤ (prune 1000 nowMs window).length
      · rw [if_pos hfull]
        refine ⟨fun hnone => (by cases hnone), fun x hx htime => ?_⟩
        obtain rfl := Option.some.inj hx
        obtain rfl := htime nowMs rfl
        exact ⟨trivial, h.banIp⟩
      · rw [if_neg hfull]
        exact ⟨fun _ => rfl, fun x hx => (by cases hx)⟩
    | releasing =>
      refine ⟨fun hnone => (by cases hnone), fun x hx _ => ?_⟩
      obtain rfl := Option.some.inj hx
      exact ⟨trivial, h.releaseWsSlot (hpos rfl)⟩
    | closed handling => exact ⟨fun _ => rfl, fun x hx => (by cases hx)⟩
  | proxyEnds => cases stage <;> exact ⟨fun _ => rfl, fun x hx => (by cases hx)⟩
  | throws => cases stage <;> exact ⟨fun _ => rfl, fun x hx => (by cases hx)⟩

end GatewayConnection

/-! ### All connections -/

section Traffic

open GatewayConnection

variable {ι : Type} [DecidableEq ι] (config : ProxyConfig) (connection : ι → GatewayConnection)

/-- The threads of the gateway, before any connection has come. -/
def idleGateway : Threads ι GatewayServer ConnectionStage where
  shared := {}
  threads := fun _ => .accepted

/-- A step of one thread, and its locked section. -/
def trafficStep : Threads ι GatewayServer ConnectionStage → ι × ThreadEvent →
    Threads ι GatewayServer ConnectionStage × Option LockedSection :=
  threadStep fun i event stage g => (connection i).advance config event stage g

/-- The locked sections of an address, in their order. -/
def sectionsOf (ip : CppString) (trace : List ((ι × ThreadEvent) × Option LockedSection)) :
    List LockedSection :=
  trace.filterMap fun x => if (connection x.1.1).clientIp config = ip then x.2 else none

/-- What the clock said. -/
def clockReadings (history : List LockedSection) : List ℤ :=
  history.filterMap LockedSection.time?

/-- The threads of an address that have a slot, with those that an exception has closed. -/
def Holders (ip : CppString) (history : List LockedSection)
    (m : Threads ι GatewayServer ConnectionStage) : Prop :=
  ∃ s : Finset ι, (s.card : ℤ) = slotsTaken history ∧
    ∀ i, (connection i).clientIp config = ip →
      ((m.threads i).holdsSlot = true → i ∈ s) ∧
      (i ∈ s → ((m.threads i).holdsSlot || (m.threads i).isClosed) = true)

/-- The tables and the threads, after sections of an address. -/
structure TrafficSound (ip : CppString) (history : List LockedSection)
    (m : Threads ι GatewayServer ConnectionStage) : Prop where
  follows : ∀ clock, (∀ t ∈ clockReadings history, t ≤ clock) →
    Follows config.security ip clock history m.shared
  right : ∀ before x after, history = before ++ x :: after → x.Right config.security before
  holders : Holders config connection ip history m

variable {config connection} {ip : CppString} {history : List LockedSection}
  {m : Threads ι GatewayServer ConnectionStage} {a : ι × ThreadEvent}

omit [DecidableEq ι] in
lemma trafficSound_start (config : ProxyConfig) (connection : ι → GatewayConnection)
    (ip : CppString) : TrafficSound config connection ip [] idleGateway where
  follows clock _ := Follows.start _ _ _
  right before x after h := by simp at h
  holders := ⟨∅, rfl, fun i _ => ⟨fun h => (by cases h), fun h => by simp at h⟩⟩

/-- A thread of another address. -/
lemma TrafficSound.step_other (h : TrafficSound config connection ip history m)
    (hip : (connection a.1).clientIp config ≠ ip) :
    TrafficSound config connection ip history (trafficStep config connection m a).1 where
  follows clock hclock := (h.follows clock hclock).congr
    ((local_advance config (connection a.1) a.2 (m.threads a.1)).other ip (Ne.symm hip) _ _
      (SameFor.refl ip m.shared))
  right := h.right
  holders := by
    obtain ⟨s, hcard, hs⟩ := h.holders
    refine ⟨s, hcard, fun i hi => ?_⟩
    have hne : i ≠ a.1 := by
      rintro rfl
      exact hip hi
    rw [trafficStep, threadStep, Threads.set_threads_of_ne _ hne]
    exact hs i hi

/-- The threads that have a slot, after a step of one of them. -/
lemma Holders.step (h : Holders config connection ip history m)
    (hip : (connection a.1).clientIp config = ip) :
    Holders config connection ip (history ++ (trafficStep config connection m a).2.toList)
      (trafficStep config connection m a).1 := by
  obtain ⟨s, hcard, hs⟩ := h
  obtain ⟨hin, hout⟩ := hs a.1 hip
  have hslot := advance_slot config (connection a.1) a.2 (m.threads a.1) m.shared
  rw [trafficStep, threadStep]
  generalize (connection a.1).advance config a.2 (m.threads a.1) m.shared = out at hslot ⊢
  rcases hslot with ⟨hstage, hsection, hnew⟩ | ⟨hstage, hsection, hclosed, hnew⟩ |
    ⟨hchange, hback, hkeeps⟩
  · have hnotin : a.1 ∉ s := fun hmem => by
      have hold := hout hmem
      rw [hstage] at hold
      cases hold
    refine ⟨insert a.1 s, ?_, fun i hi => ?_⟩
    · simp only [hsection, Option.toList_some, slotsTaken_concat, LockedSection.slotChange,
        Finset.card_insert_of_notMem hnotin, Nat.cast_add, Nat.cast_one, hcard]
    · by_cases hia : i = a.1
      · subst hia
        simp [hnew]
      · rw [Threads.set_threads_of_ne _ hia, Finset.mem_insert, or_iff_right hia]
        exact hs i hi
  · have hmem : a.1 ∈ s := hin (by rw [hstage]; rfl)
    refine ⟨s.erase a.1, ?_, fun i hi => ?_⟩
    · have hcardpos := Finset.card_pos.mpr ⟨_, hmem⟩
      simp only [hsection, Option.toList_some, slotsTaken_concat, LockedSection.slotChange,
        Finset.card_erase_of_mem hmem]
      omega
    · by_cases hia : i = a.1
      · subst hia
        simp [hnew]
      · rw [Threads.set_threads_of_ne _ hia, Finset.mem_erase, and_iff_right hia]
        exact hs i hi
  · refine ⟨s, ?_, fun i hi => ?_⟩
    · rw [hcard]
      cases hsection : out.2.2 with
      | none => rw [Option.toList_none, List.append_nil]
      | some x => rw [Option.toList_some, slotsTaken_concat, hchange x hsection, Int.add_zero]
    · by_cases hia : i = a.1
      · subst hia
        rw [Threads.set_threads_self]
        exact ⟨fun hnew => hin (hback hnew), fun hmem => hkeeps (hout hmem)⟩
      · rw [Threads.set_threads_of_ne _ hia]
        exact hs i hi

/-- What was right of every section stays so. -/
lemma right_concat {P : List LockedSection → LockedSection → Prop} {x : LockedSection}
    (hall : ∀ before y after, history = before ++ y :: after → P before y) (hx : P history x) :
    ∀ before y after, history ++ [x] = before ++ y :: after → P before y := by
  intro before y after heq
  rcases List.eq_nil_or_concat after with rfl | ⟨after, z, rfl⟩
  · obtain ⟨rfl, hxy⟩ := List.append_inj' heq rfl
    obtain rfl := List.singleton_inj.mp hxy
    exact hx
  · rw [List.concat_eq_append, ← List.cons_append, ← List.append_assoc] at heq
    obtain ⟨rfl, -⟩ := List.append_inj' heq rfl
    exact hall before y after rfl

/-- A thread of the address. -/
lemma TrafficSound.step_own (h : TrafficSound config connection ip history m)
    (hip : (connection a.1).clientIp config = ip)
    (hsorted : (clockReadings (history ++ (trafficStep config connection m a).2.toList)).Pairwise
      (· ≤ ·)) :
    TrafficSound config connection ip (history ++ (trafficStep config connection m a).2.toList)
      (trafficStep config connection m a).1 := by
  have hpos : m.threads a.1 = .releasing → 0 < slotsTaken history := by
    intro hstage
    obtain ⟨s, hcard, hs⟩ := h.holders
    have hmem : a.1 ∈ s := (hs a.1 hip).1 (by rw [hstage]; rfl)
    have hcardpos := Finset.card_pos.mpr ⟨_, hmem⟩
    omega
  have hholders := h.holders.step hip
  subst hip
  have hadvance := fun clock hclock => follows_advance a.2 (h.follows clock hclock) hpos
  rw [trafficStep, threadStep] at hsorted hholders ⊢
  generalize (connection a.1).advance config a.2 (m.threads a.1) m.shared = out
    at hsorted hholders hadvance ⊢
  obtain ⟨g, stage, x⟩ := out
  cases x with
  | none =>
    rw [Option.toList_none, List.append_nil] at hholders ⊢
    refine ⟨fun clock hclock => ?_, h.right, hholders⟩
    obtain rfl := (hadvance clock hclock).1 rfl
    exact h.follows clock hclock
  | some x =>
    have hreadings : clockReadings (history ++ [x]) = clockReadings history ++ x.time?.toList := by
      rw [clockReadings, List.filterMap_append]
      cases hx : x.time? <;> simp [clockReadings, hx]
    rw [Option.toList_some] at hsorted hholders ⊢
    rw [hreadings, List.pairwise_append] at hsorted
    cases htime : x.time? with
    | none =>
      -- the section does not look at the clock
      have hanswer := fun clock hclock =>
        (hadvance clock hclock).2 x rfl fun t ht => by
          rw [htime] at ht
          cases ht
      obtain ⟨bound, hbound⟩ := (List.finite_toSet (clockReadings history)).bddAbove
      refine ⟨fun clock hclock => ?_, right_concat h.right (hanswer bound fun t ht => hbound ht).1,
        hholders⟩
      exact (hanswer clock fun t ht => hclock t (hreadings ▸ List.mem_append_left _ ht)).2
    | some nowMs =>
      have hpast : ∀ t ∈ clockReadings history, t ≤ nowMs := fun t ht =>
        hsorted.2.2 t ht nowMs (by simp [htime])
      obtain ⟨hright, hfollows⟩ := (hadvance nowMs hpast).2 x rfl fun t ht =>
        Option.some.inj (ht.symm.trans htime)
      refine ⟨fun clock hclock => ?_, right_concat h.right hright, hholders⟩
      exact hfollows.mono (hclock nowMs (by simp [hreadings, htime]))

/-! ### Whole runs -/

/-- The steps of the threads from the start of the gateway, each with its locked section. -/
def traffic (config : ProxyConfig) (connection : ι → GatewayConnection)
    (l : List (ι × ThreadEvent)) :
    Threads ι GatewayServer ConnectionStage × List ((ι × ThreadEvent) × Option LockedSection) :=
  run (trafficStep config connection) idleGateway l

/-- One more step. -/
lemma traffic_concat (config : ProxyConfig) (connection : ι → GatewayConnection)
    (l : List (ι × ThreadEvent)) (a : ι × ThreadEvent) :
    traffic config connection (l ++ [a]) =
      ((trafficStep config connection (traffic config connection l).1 a).1,
        (traffic config connection l).2 ++
          [(a, (trafficStep config connection (traffic config connection l).1 a).2)]) :=
  run_concat _ _ _ _

omit [DecidableEq ι] in
lemma sectionsOf_concat (config : ProxyConfig) (connection : ι → GatewayConnection)
    (ip : CppString) (trace : List ((ι × ThreadEvent) × Option LockedSection))
    (a : ι × ThreadEvent) (x : Option LockedSection) :
    sectionsOf config connection ip (trace ++ [(a, x)]) =
      sectionsOf config connection ip trace ++
        if (connection a.1).clientIp config = ip then x.toList else [] := by
  rw [sectionsOf, List.filterMap_append]
  split_ifs with hip
  · cases x <;> simp [sectionsOf, hip]
  · simp [sectionsOf, hip]

lemma trafficSound_run {l : List (ι × ThreadEvent)}
    (hsorted : (clockReadings (sectionsOf config connection ip
      (traffic config connection l).2)).Pairwise (· ≤ ·)) :
    TrafficSound config connection ip (sectionsOf config connection ip
      (traffic config connection l).2) (traffic config connection l).1 := by
  induction l using List.reverseRecOn with
  | nil => exact trafficSound_start config connection ip
  | append_singleton l a ih =>
    rw [traffic_concat, sectionsOf_concat] at hsorted ⊢
    have hbefore := ih (hsorted.sublist ((List.sublist_append_left _ _).filterMap _))
    by_cases hip : (connection a.1).clientIp config = ip
    · rw [if_pos hip] at hsorted ⊢
      exact hbefore.step_own hip hsorted
    · rw [if_neg hip, List.append_nil]
      exact hbefore.step_other hip

/-- However the threads of the connections interleave, those of an address take the steps that they
would take alone. If the clock does not go backwards between the sections of an address, the address
is banned for the fixed time after its last violation, a request is let through if fewer than the
limit were within the last second, and a session if fewer slots than the limit are taken. -/
theorem gateway_traffic (config : ProxyConfig) (connection : ι → GatewayConnection)
    (l : List (ι × ThreadEvent)) (ip : CppString) :
    ((traffic config connection l).2.filter fun x => (connection x.1.1).clientIp config = ip) =
        (traffic config connection
          (l.filter fun a => (connection a.1).clientIp config = ip)).2 ∧
      (∀ i, (connection i).clientIp config = ip →
        (traffic config connection l).1.threads i =
          (traffic config connection
            (l.filter fun a => (connection a.1).clientIp config = ip)).1.threads i) ∧
      ((clockReadings (sectionsOf config connection ip
          (traffic config connection l).2)).Pairwise (· ≤ ·) →
        ∀ before x after,
          sectionsOf config connection ip (traffic config connection l).2 =
            before ++ x :: after → x.Right config.security before) := by
  have hlocal : ∀ a : ι × ThreadEvent, Local (Alike SameFor fun i => (connection i).clientIp config)
      ((connection a.1).clientIp config) fun m => trafficStep config connection m a :=
    Local.thread fun i event stage => local_advance config (connection i) event stage
  obtain ⟨htrace, hsame⟩ := run_filter (k := ip) hlocal
    (s := idleGateway) (t := idleGateway) ⟨SameFor.refl ip _, fun _ _ => rfl⟩ l
  exact ⟨htrace, hsame.2, fun hsorted => (trafficSound_run hsorted).right⟩

/-- The requests of two clients, the first of which asks too much. -/
def twoClients : ℕ → GatewayConnection
  | 2 => ⟨str "10.0.0.2", { target := str "/api/session/refresh" }⟩
  | _ => ⟨str "10.0.0.1", { target := str "/api/session/refresh" }⟩

/-- Two requests within a second. -/
def twoRequests : ProxyConfig where
  security := { maxHttpQpsPerIp := 2 }

/-- The third request of the first client is refused and the client banned, while the other client
is served; the next request finds the ban. -/
def bannedInBetween : List (ℕ × ThreadEvent) :=
  [(0, .goOn 1000), (0, .goOn 1000), (1, .goOn 1200), (1, .goOn 1200), (3, .goOn 1500),
    (2, .goOn 1600), (3, .goOn 1500), (2, .goOn 1600), (3, .goOn 1500), (4, .goOn 31499),
    (5, .goOn 31500)]

theorem gateway_traffic_banned :
    sectionsOf twoRequests twoClients (str "10.0.0.1")
        (traffic twoRequests twoClients bannedInBetween).2 =
      [.isIpBanned 1000 false, .checkAndConsumeHttpQps 1000 true, .isIpBanned 1200 false,
        .checkAndConsumeHttpQps 1200 true, .isIpBanned 1500 false,
        .checkAndConsumeHttpQps 1500 false, .banIp 1500, .isIpBanned 31499 true,
        .isIpBanned 31500 false] ∧
      (LockedSection.isIpBanned 31499 true).Right twoRequests.security
        [.isIpBanned 1000 false, .checkAndConsumeHttpQps 1000 true, .isIpBanned 1200 false,
          .checkAndConsumeHttpQps 1200 true, .isIpBanned 1500 false,
          .checkAndConsumeHttpQps 1500 false, .banIp 1500] := by
  have hsections : sectionsOf twoRequests twoClients (str "10.0.0.1")
      (traffic twoRequests twoClients bannedInBetween).2 =
        [.isIpBanned 1000 false, .checkAndConsumeHttpQps 1000 true, .isIpBanned 1200 false,
          .checkAndConsumeHttpQps 1200 true, .isIpBanned 1500 false,
          .checkAndConsumeHttpQps 1500 false, .banIp 1500, .isIpBanned 31499 true,
          .isIpBanned 31500 false] := by
    decide +kernel
  refine ⟨hsections, (gateway_traffic twoRequests twoClients bannedInBetween
    (str "10.0.0.1")).2.2 ?_ _ _ [.isIpBanned 31500 false] hsections⟩
  rw [hsections]
  decide

end Traffic

end DdzServer
