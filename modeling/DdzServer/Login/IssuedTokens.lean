import DdzServer.Login.AuthTokenService
import DdzServer.Util.DecimalText

/-!
# Issued tokens

What `Verify` accepts is what was issued. That nobody else can sign a payload is an assumption about
the text that is verified; the rest follows from the format of the tokens.
-/

namespace DdzServer

/-- A call that issues a token. -/
inductive IssueCall where
  | loginTicket (service : AuthTokenService) (playerId nowMs : ℤ)
  | sessionToken (service : AuthTokenService) (playerId nowMs : ℤ)

namespace IssueCall

def service : IssueCall → AuthTokenService
  | .loginTicket service _ _  => service
  | .sessionToken service _ _ => service

def playerId : IssueCall → ℤ
  | .loginTicket _ playerId _  => playerId
  | .sessionToken _ playerId _ => playerId

def nowMs : IssueCall → ℤ
  | .loginTicket _ _ nowMs  => nowMs
  | .sessionToken _ _ nowMs => nowMs

def purpose : IssueCall → CppString
  | .loginTicket _ _ _  => AuthTokenService.purposeLogin
  | .sessionToken _ _ _ => AuthTokenService.purposeSession

/-- What the call returns. -/
def result : IssueCall → TokenIssueResult
  | .loginTicket service playerId nowMs  => (service.issueLoginTicket playerId nowMs).2
  | .sessionToken service playerId nowMs => (service.issueSessionToken playerId nowMs).2

/-- The call is made with the secret, for a player, and its times fit into 64 bits. -/
structure Proper (secret : CppString) (call : IssueCall) : Prop where
  secret : call.service.secret = secret
  player : 0 < call.playerId ∧ call.playerId ≤ 2 ^ 63 - 1
  now : 0 ≤ call.nowMs
  ttl : 0 < call.service.ttlSeconds
  expiry : call.nowMs + call.service.ttlSeconds * 1000 ≤ 2 ^ 63 - 1

def expireAtMs (call : IssueCall) : ℤ := call.nowMs + call.service.ttlSeconds * 1000

def nonce (call : IssueCall) : CppString :=
  (call.service.generateNonce call.playerId call.nowMs).2

/-- The parts of the payload that the call signs. -/
def parts (call : IssueCall) : List CppString :=
  [str "v2", call.purpose, toStr call.playerId, toStr call.expireAtMs, call.nonce]

/-- The text that the call signs. -/
def payload (call : IssueCall) : CppString := AuthTokenService.dotted call.parts

end IssueCall

namespace AuthTokenService

/-! ### Dots -/

/-- Parts without dots are found again in the text they are joined to. -/
lemma splitOn_dotted {parts : List CppString} (hne : parts ≠ [])
    (hdots : ∀ part ∈ parts, 46 ∉ part) : (dotted parts).splitOn 46 = parts :=
  List.splitOn_intercalate 46 hdots hne

/-- A signature is cut off at the last dot. -/
lemma splitOn_signed (payload : CppString) {sig : CppString} (hsig : 46 ∉ sig) :
    (payload ++ str "." ++ sig).splitOn 46 = payload.splitOn 46 ++ [sig] := by
  rw [List.append_assoc, show str "." ++ sig = 46 :: sig from rfl,
    List.splitOn_append_cons_self, List.splitOn_eq_singleton hsig]

lemma dot_not_mem_sign (auth : AuthTokenService) (payload : CppString) :
    46 ∉ auth.sign payload := by
  intro hdot
  have hbounds := Sha256.bounds_of_mem_sha256Hex hdot
  revert hbounds
  decide

lemma dot_not_mem_toStr (n : ℤ) : 46 ∉ toStr n := not_mem_toStr (by decide) (by decide) n

lemma isValidPurpose_of_call (call : IssueCall) : isValidPurpose call.purpose = true := by
  have hlogin : isValidPurpose purposeLogin = true := by decide +kernel
  have hsession : isValidPurpose purposeSession = true := by decide +kernel
  cases call with
  | loginTicket => exact hlogin
  | sessionToken => exact hsession

end AuthTokenService

/-! ### What a call issues -/

namespace IssueCall

open AuthTokenService

variable {secret : CppString} {call : IssueCall}

lemma dot_not_mem_parts (call : IssueCall) : ∀ part ∈ call.parts, 46 ∉ part := by
  have hlogin : 46 ∉ purposeLogin := by decide +kernel
  have hsession : 46 ∉ purposeSession := by decide +kernel
  have hpurpose : 46 ∉ call.purpose := by
    cases call with
    | loginTicket => exact hlogin
    | sessionToken => exact hsession
  have hseq : 46 ∉ decimal call.service.nonceSeq := fun h => by
    have hdigit := isDigit_of_mem_decimal h
    revert hdigit
    decide
  have hunderscore : 46 ∉ str "_" := by decide
  have hnonce : 46 ∉ call.nonce := by
    simp only [nonce, generateNonce, List.mem_append, not_or]
    exact ⟨⟨⟨⟨dot_not_mem_toStr _, hunderscore⟩, dot_not_mem_toStr _⟩, hunderscore⟩, hseq⟩
  simp only [parts, List.forall_mem_cons]
  exact ⟨by decide, hpurpose, dot_not_mem_toStr _, dot_not_mem_toStr _, hnonce, by simp⟩

lemma result_eq (hplayer : 0 < call.playerId) :
    call.result =
      ⟨call.payload ++ str "." ++ call.service.sign call.payload, call.expireAtMs⟩ := by
  have hissue : ¬ (call.playerId ≤ 0 ∨ ¬ isValidPurpose call.purpose = true) := by
    rw [isValidPurpose_of_call]
    simp [hplayer]
  cases call with
  | loginTicket service playerId nowMs =>
    exact congrArg Prod.snd (if_neg hissue)
  | sessionToken service playerId nowMs =>
    exact congrArg Prod.snd (if_neg hissue)

lemma splitOn_token (hplayer : 0 < call.playerId) :
    call.result.token.splitOn 46 = call.parts ++ [call.service.sign call.payload] := by
  rw [result_eq hplayer, splitOn_signed _ (dot_not_mem_sign _ _), payload,
    splitOn_dotted (by simp [parts]) call.dot_not_mem_parts]

/-- The numbers of a token are read back. -/
lemma Proper.parseIds (h : call.Proper secret) :
    AuthTokenService.parseIds (toStr call.playerId) (toStr call.expireAtMs) =
      some (call.playerId, call.expireAtMs) := by
  obtain ⟨-, ⟨hpos, hmax⟩, hnow, httl, hexpiry⟩ := h
  have hexpire : 0 < call.expireAtMs := by
    unfold expireAtMs
    omega
  rw [AuthTokenService.parseIds, parseI64Strict_toStr (by omega) hmax,
    parseI64Strict_toStr (n := call.expireAtMs) (by omega) hexpiry]
  exact if_neg (by omega)

lemma Proper.parseToken (h : call.Proper secret) :
    AuthTokenService.parseToken call.result.token =
      some ⟨call.purpose, call.payload, call.service.sign call.payload, call.playerId,
        call.expireAtMs⟩ := by
  have hpurpose := isValidPurpose_of_call call
  rw [AuthTokenService.parseToken, splitOn_token h.player.1]
  simp only [parts, List.cons_append, List.nil_append, hpurpose, h.parseIds]
  rfl

/-- What `Verify` answers to an issued token. -/
lemma Proper.verify {auth : AuthTokenService} (h : call.Proper auth.secret) (nowMs : ℤ)
    (requiredPurpose : CppString) :
    auth.verify call.result.token nowMs requiredPurpose =
      if requiredPurpose ≠ [] ∧ call.purpose ≠ requiredPurpose then {}
      else if call.expireAtMs < nowMs then { expired := true }
      else { ok := true, playerId := call.playerId, purpose := call.purpose } := by
  have hsign : call.service.sign call.payload = auth.sign call.payload := by
    rw [sign, sign, h.secret]
  rw [AuthTokenService.verify, h.parseToken]
  simp [hsign]

end IssueCall

/-! ### What is accepted -/

namespace AuthTokenService

variable {auth : AuthTokenService} {calls : Set IssueCall} {t : CppString}

/-- The text carries a correct signature only for a payload that one of the calls has signed. -/
def Unforged (auth : AuthTokenService) (calls : Set IssueCall) (t : CppString) : Prop :=
  ∀ payload, t = payload ++ str "." ++ auth.sign payload → ∃ call ∈ calls, payload = call.payload

/-- A token taken apart is its payload and its signature. -/
lemma eq_signed_of_parseToken {token : TokenParts} (h : parseToken t = some token) :
    t = token.payload ++ str "." ++ token.sig := by
  have hjoin : ∀ parts : List CppString, t.splitOn 46 = parts → dotted parts = t := by
    rintro parts rfl
    exact List.intercalate_splitOn 46
  unfold parseToken at h
  split at h
  next hsplit =>
    split_ifs at h
    obtain ⟨ids, -, rfl⟩ := Option.map_eq_some_iff.mp h
    rw [← hjoin _ hsplit]
    simp [dotted, List.intercalate_cons_cons]
  next hsplit =>
    split_ifs at h
    obtain ⟨ids, -, rfl⟩ := Option.map_eq_some_iff.mp h
    rw [← hjoin _ hsplit]
    simp [dotted, List.intercalate_cons_cons]
  · cases h

/-- A text that no call has issued is refused, and not reported as expired. -/
lemma verify_of_not_issued (hcalls : ∀ call ∈ calls, call.Proper auth.secret)
    (hunforged : auth.Unforged calls t) (hissued : ∀ call ∈ calls, call.result.token ≠ t)
    (nowMs : ℤ) (requiredPurpose : CppString) : auth.verify t nowMs requiredPurpose = {} := by
  unfold verify
  split
  · rfl
  next token hparse =>
    split_ifs with hpurpose hsig
    · rfl
    · rfl
    all_goals
      -- the signature is right, so a call has signed the payload, and its token is the text
      have ht := eq_signed_of_parseToken hparse
      rw [not_not.mp hsig] at ht
      obtain ⟨call, hcall, hpayload⟩ := hunforged _ ht
      have hproper := hcalls call hcall
      have hsign : call.service.sign call.payload = auth.sign call.payload := by
        rw [sign, sign, hproper.secret]
      refine absurd ?_ (hissued call hcall)
      rw [IssueCall.result_eq hproper.player.1, hsign, ht, hpayload]

/-- What is verified was issued: `Verify` accepts a text for a player and a purpose exactly if a
call has issued it to them, the purpose is the required one, and it has not expired. A token of one
purpose never passes for the other one, only issued tokens expire, and the old format verifies
nothing. -/
theorem verify_iff_issued (hcalls : ∀ call ∈ calls, call.Proper auth.secret)
    (hunforged : auth.Unforged calls t) (nowMs : ℤ) (requiredPurpose : CppString) :
    (∀ playerId purpose,
      ((auth.verify t nowMs requiredPurpose).ok = true ∧
          (auth.verify t nowMs requiredPurpose).playerId = playerId ∧
          (auth.verify t nowMs requiredPurpose).purpose = purpose) ↔
        ∃ call ∈ calls, call.result.token = t ∧ call.playerId = playerId ∧
          call.purpose = purpose ∧ (requiredPurpose = [] ∨ requiredPurpose = purpose) ∧
          nowMs ≤ call.result.expireAtMs) ∧
    ((auth.verify t nowMs requiredPurpose).expired = true →
      ∃ call ∈ calls, call.result.token = t) ∧
    (∀ call ∈ calls, call.result.token = t → requiredPurpose ≠ [] →
      call.purpose ≠ requiredPurpose → auth.verify t nowMs requiredPurpose = {}) ∧
    ∀ rest, t.splitOn 46 = str "v1" :: rest → auth.verify t nowMs requiredPurpose = {} := by
  by_cases hissued : ∃ call ∈ calls, call.result.token = t
  · have hverify : ∀ call ∈ calls, call.result.token = t →
        auth.verify t nowMs requiredPurpose =
          if requiredPurpose ≠ [] ∧ call.purpose ≠ requiredPurpose then {}
          else if call.expireAtMs < nowMs then { expired := true }
          else { ok := true, playerId := call.playerId, purpose := call.purpose } := by
      rintro call hcall rfl
      exact (hcalls call hcall).verify nowMs requiredPurpose
    have hexpire : ∀ call ∈ calls, call.result.expireAtMs = call.expireAtMs := fun call hcall => by
      rw [IssueCall.result_eq (hcalls call hcall).player.1]
    obtain ⟨call, hcall, ht⟩ := hissued
    refine ⟨fun playerId purpose => ?_, fun _ => ⟨call, hcall, ht⟩, ?_, ?_⟩
    · constructor
      · rw [hverify call hcall ht]
        split_ifs with hpurpose hold
        · rintro ⟨hok, -⟩
          cases hok
        · rintro ⟨hok, -⟩
          cases hok
        · rintro ⟨-, rfl, rfl⟩
          refine ⟨call, hcall, ht, rfl, rfl, ?_, ?_⟩
          · by_cases hempty : requiredPurpose = []
            · exact Or.inl hempty
            · exact Or.inr (by_contra fun hne => hpurpose ⟨hempty, Ne.symm hne⟩)
          · rw [hexpire call hcall]
            exact not_lt.mp hold
      · rintro ⟨call', hcall', ht', rfl, rfl, hpurpose, hnow⟩
        rw [hexpire call' hcall'] at hnow
        have hallowed : ¬ (requiredPurpose ≠ [] ∧ call'.purpose ≠ requiredPurpose) := by
          rintro ⟨hempty, hne⟩
          exact hne (hpurpose.resolve_left hempty).symm
        rw [hverify call' hcall' ht', if_neg hallowed, if_neg (not_lt.mpr hnow)]
        exact ⟨rfl, rfl, rfl⟩
    · intro call' hcall' ht' hempty hne
      rw [hverify call' hcall' ht', if_pos ⟨hempty, hne⟩]
    · intro rest hsplit
      rw [← ht, IssueCall.splitOn_token (hcalls call hcall).player.1] at hsplit
      exact absurd (List.cons.inj hsplit).1 (by decide)
  · have hnone : auth.verify t nowMs requiredPurpose = {} :=
      verify_of_not_issued hcalls hunforged (fun call hcall ht => hissued ⟨call, hcall, ht⟩) _ _
    rw [hnone]
    refine ⟨fun playerId purpose => ?_, ?_, fun _ _ _ _ _ => rfl, fun _ _ => rfl⟩
    · constructor
      · rintro ⟨hok, -⟩
        cases hok
      · rintro ⟨call, hcall, ht, -⟩
        exact absurd ⟨call, hcall, ht⟩ hissued
    · intro hexpired
      cases hexpired

/-- The ticket that a call issues carries its own signature and no other one. -/
lemma unforged_token {call : IssueCall} (hproper : call.Proper auth.secret) :
    auth.Unforged {call} call.result.token := by
  intro payload ht
  have hsign : call.service.sign call.payload = auth.sign call.payload := by
    rw [sign, sign, hproper.secret]
  rw [IssueCall.result_eq hproper.player.1, hsign] at ht
  have hlength : (auth.sign call.payload).length = (auth.sign payload).length := by
    rw [sign, sign, Sha256.length_sha256Hex, Sha256.length_sha256Hex]
  have hfront := (List.append_inj' ht hlength).1
  exact ⟨call, rfl, (List.append_inj' hfront rfl).1.symm⟩

/-- A login ticket for player 1 is accepted as one. -/
theorem verify_iff_issued_login_ticket :
    ∃ call : IssueCall, call.Proper (str "dev_change_me") ∧
      ({} : AuthTokenService).Unforged {call} call.result.token ∧
      (({} : AuthTokenService).verify call.result.token 0 purposeLogin).ok = true ∧
      (({} : AuthTokenService).verify call.result.token 0 purposeLogin).playerId = 1 ∧
      ({} : AuthTokenService).verify call.result.token 0 purposeSession = {} := by
  have hproper : (IssueCall.loginTicket {} 1 0).Proper ({} : AuthTokenService).secret :=
    ⟨rfl, by decide, by decide, by decide, by decide⟩
  have hcalls : ∀ call ∈ ({IssueCall.loginTicket {} 1 0} : Set IssueCall),
      call.Proper ({} : AuthTokenService).secret := by
    rintro call rfl
    exact hproper
  obtain ⟨hlogin, -, -, -⟩ :=
    verify_iff_issued hcalls (unforged_token hproper) 0 purposeLogin
  obtain ⟨-, -, hsession, -⟩ :=
    verify_iff_issued hcalls (unforged_token hproper) 0 purposeSession
  obtain ⟨hok, hplayer, -⟩ := (hlogin 1 purposeLogin).mpr
    ⟨_, rfl, rfl, rfl, rfl, Or.inr rfl, by decide +kernel⟩
  exact ⟨_, hproper, unforged_token hproper, hok, hplayer,
    hsession _ rfl rfl (by decide) (by decide)⟩

end AuthTokenService

end DdzServer
