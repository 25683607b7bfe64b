import DdzServer.Client.Kv
import DdzServer.Login.IssuedTokens
import Mathlib.Algebra.Order.Floor.Ring

/-!
# The expiry of a token on both sides

The server issues and verifies tokens with `NowMs`, the steady clock. The browser compares the
expiry it was told with `Date.now`, the wall clock. An instant is a number of milliseconds, with
fractions, since the epoch of the steady clock; the wall clock is ahead of it by a constant.
-/

namespace DdzServer

open JsString

variable {α : Type*} [Field α] [LinearOrder α] [IsStrictOrderedRing α] [FloorRing α]

/-! ### The two clocks -/

/-- `NowMs`; `duration_cast` cuts off towards zero. -/
def nowMsAt (instant : α) : ℤ := if 0 ≤ instant then ⌊instant⌋ else ⌈instant⌉

namespace Client

/-- `Date.now`. -/
def dateNow (wallClock : α) : ℤ := ⌊wallClock⌋

/-- What the browser keeps of a login. -/
structure AuthPersist where
  playerId : ℤ := 0
  token : JsString := []
  tokenExpireAtMs : ℤ := 0
  deriving DecidableEq

/-- `hasRecoverableSession`. -/
def hasRecoverableSession (auth : AuthPersist) (dateNow : ℤ) : Bool :=
  0 < auth.playerId && !auth.token.isEmpty && dateNow < auth.tokenExpireAtMs

/-- `tokenExpireAtMs` after a response with the expiry of a token. -/
def readExpireAtMs (expireAtMs : ℤ) : ℤ := parseI64 (some (ofAscii (toStr expireAtMs))) 0

/-- What is kept of a player and a token. -/
def persist (playerId : ℤ) (issued : TokenIssueResult) : AuthPersist where
  playerId := playerId
  token := ofAscii issued.token
  tokenExpireAtMs := readExpireAtMs issued.expireAtMs

/-- An expiry up to `2 ^ 53` is read as it is. -/
lemma readExpireAtMs_eq {expireAtMs : ℤ} (h : |expireAtMs| ≤ 2 ^ 53) :
    readExpireAtMs expireAtMs = expireAtMs := parseI64_toStr h 0

end Client

/-! ### Agreement -/

/-- From the issue on, but for the millisecond of the expiry, the browser takes the token for valid
exactly if the server does not report it expired. -/
def ExpiryAgrees (auth : AuthTokenService) (call : IssueCall) (requiredPurpose : CppString)
    (issuedAt ahead : α) : Prop :=
  ∀ instant, issuedAt ≤ instant → nowMsAt instant ≠ call.result.expireAtMs →
    (Client.hasRecoverableSession (Client.persist call.playerId call.result)
        (Client.dateNow (instant + ahead)) = true ↔
      (auth.verify call.result.token (nowMsAt instant) requiredPurpose).expired = false)

variable {auth : AuthTokenService} {call : IssueCall} {requiredPurpose : CppString}
  {instant issuedAt ahead : α}

/-- The server's clock before and after a time that is not negative. -/
lemma nowMsAt_lt {n : ℤ} (hn : 0 < n) : nowMsAt instant < n ↔ instant < n := by
  rw [nowMsAt]
  split_ifs with hpos
  · exact Int.floor_lt
  · have hneg : instant < 0 := not_le.mp hpos
    have hcast : (0 : α) < n := by exact_mod_cast hn
    have hceil : ⌈instant⌉ ≤ 0 := Int.ceil_le.mpr (by simpa using hneg.le)
    exact iff_of_true (hceil.trans_lt hn) (hneg.trans hcast)

lemma lt_nowMsAt {n : ℤ} (hn : 0 < n) : n < nowMsAt instant ↔ (n : α) + 1 ≤ instant := by
  rw [← not_le, ← Int.lt_add_one_iff, nowMsAt_lt (by omega), not_lt]
  push_cast
  rfl

/-- What the server says of an issued token. -/
lemma IssueCall.Proper.expired_verify (h : call.Proper auth.secret)
    (hpurpose : requiredPurpose = [] ∨ requiredPurpose = call.purpose) (nowMs : ℤ) :
    (auth.verify call.result.token nowMs requiredPurpose).expired = false ↔
      nowMs ≤ call.expireAtMs := by
  have hallowed : ¬ (requiredPurpose ≠ [] ∧ call.purpose ≠ requiredPurpose) := by
    rintro ⟨hne, hother⟩
    exact hother (hpurpose.resolve_left hne).symm
  rw [h.verify, if_neg hallowed]
  split_ifs with hold
  · exact iff_of_false (by simp) (not_le.mpr hold)
  · exact iff_of_true rfl (not_lt.mp hold)

/-- What the browser says of it. -/
lemma IssueCall.Proper.hasRecoverableSession_persist (h : call.Proper auth.secret) (dateNow : ℤ) :
    Client.hasRecoverableSession (Client.persist call.playerId call.result) dateNow = true ↔
      dateNow < Client.readExpireAtMs call.expireAtMs := by
  have htoken : (ofAscii call.result.token).isEmpty = false := by
    rw [IssueCall.result_eq h.player.1]
    simp [ofAscii, str]
  have hexpire : call.result.expireAtMs = call.expireAtMs := by
    rw [IssueCall.result_eq h.player.1]
  simp only [Client.hasRecoverableSession, Client.persist, htoken, hexpire, h.player.1,
    decide_true, Bool.not_false, Bool.true_and, decide_eq_true_eq]

lemma IssueCall.Proper.expireAtMs_pos (h : call.Proper auth.secret) : 0 < call.expireAtMs := by
  have hnow := h.now
  have httl := h.ttl
  rw [IssueCall.expireAtMs]
  omega

omit [IsStrictOrderedRing α] in
/-- Agreement in terms of instants. -/
lemma expiryAgrees_iff_instants (h : call.Proper auth.secret)
    (hpurpose : requiredPurpose = [] ∨ requiredPurpose = call.purpose) :
    ExpiryAgrees auth call requiredPurpose issuedAt ahead ↔
      ∀ instant, issuedAt ≤ instant → nowMsAt instant ≠ call.expireAtMs →
        (instant + ahead < Client.readExpireAtMs call.expireAtMs ↔
          nowMsAt instant < call.expireAtMs) := by
  have hexpire : call.result.expireAtMs = call.expireAtMs := by
    rw [IssueCall.result_eq h.player.1]
  rw [ExpiryAgrees, hexpire]
  refine forall_congr' fun instant => forall_congr' fun _ => forall_congr' fun hne => ?_
  rw [h.hasRecoverableSession_persist, h.expired_verify hpurpose, Client.dateNow, Int.floor_lt,
    hne.le_iff_lt]

/-- Browser and server agree on the expiry of a token exactly when the wall clock is behind the
steady clock by one millisecond at most. Beyond `2 ^ 53` the rounding of the expiry in the browser
shifts the window. -/
theorem expiryAgrees_iff (h : call.Proper auth.secret)
    (hpurpose : requiredPurpose = [] ∨ requiredPurpose = call.purpose)
    (hissued : nowMsAt issuedAt = call.nowMs) :
    ExpiryAgrees auth call requiredPurpose issuedAt ahead ↔
      ((Client.readExpireAtMs call.expireAtMs - call.expireAtMs : ℤ) : α) - 1 ≤ ahead ∧
        ahead ≤ (Client.readExpireAtMs call.expireAtMs - call.expireAtMs : ℤ) := by
  have hpos := h.expireAtMs_pos
  have hbefore : issuedAt < call.expireAtMs := by
    rw [← nowMsAt_lt hpos, hissued, IssueCall.expireAtMs]
    have httl := h.ttl
    omega
  rw [expiryAgrees_iff_instants h hpurpose]
  push_cast
  constructor
  · intro hagree
    constructor
    · -- a millisecond after the expiry the server reports it
      have hlate := hagree (call.expireAtMs + 1) (by linarith) ((lt_nowMsAt hpos).mpr le_rfl).ne'
      by_contra hahead
      have hnow := hlate.mp (by linarith)
      exact absurd ((nowMsAt_lt hpos).mp hnow) (by linarith)
    · -- just before the expiry it does not
      by_contra hahead
      have hsoon : max issuedAt (Client.readExpireAtMs call.expireAtMs - ahead) <
          call.expireAtMs := max_lt hbefore (by linarith)
      have hnow := (nowMsAt_lt hpos).mpr hsoon
      have hvalid := (hagree _ (le_max_left _ _) hnow.ne).mpr hnow
      have hmax := le_max_right issuedAt ((Client.readExpireAtMs call.expireAtMs : α) - ahead)
      linarith
  · rintro ⟨hlow, hhigh⟩ instant - hne
    rcases lt_or_gt_of_ne hne with hlt | hgt
    · have hinstant := (nowMsAt_lt hpos).mp hlt
      exact iff_of_true (by linarith) hlt
    · have hinstant := (lt_nowMsAt hpos).mp hgt
      exact iff_of_false (by linarith) (not_lt.mpr hgt.le)

/-- A session token of player 7, issued one second after the epoch of the steady clock. -/
def secondOneToken : IssueCall := .sessionToken {} 7 1000

lemma secondOneToken_proper : secondOneToken.Proper ({} : AuthTokenService).secret :=
  ⟨rfl, by decide, by decide, by decide, by decide⟩

/-- With clocks of one epoch both sides agree. -/
theorem expiryAgrees_same_epoch :
    ExpiryAgrees {} secondOneToken AuthTokenService.purposeSession (1000 : ℚ) 0 := by
  have hread : Client.readExpireAtMs secondOneToken.expireAtMs = secondOneToken.expireAtMs :=
    Client.readExpireAtMs_eq (by decide)
  refine (expiryAgrees_iff secondOneToken_proper (Or.inr rfl) (by decide +kernel)).mpr ?_
  rw [hread, sub_self]
  norm_num

/-- The wall clock counts from another epoch: the browser takes a new token for expired. -/
theorem new_token_expired_in_browser :
    ¬ ∀ ahead : ℚ, ExpiryAgrees {} secondOneToken AuthTokenService.purposeSession 1000 ahead := by
  intro h
  have hagree := (expiryAgrees_iff_instants secondOneToken_proper (Or.inr rfl)).mp
    (h 1700000000000) 1000 le_rfl (by decide +kernel)
  rw [Client.readExpireAtMs_eq (by decide)] at hagree
  have hnow : nowMsAt (1000 : ℚ) < secondOneToken.expireAtMs := by decide +kernel
  have hvalid := hagree.mpr hnow
  norm_num [secondOneToken, IssueCall.expireAtMs, IssueCall.nowMs, IssueCall.service] at hvalid

end DdzServer
