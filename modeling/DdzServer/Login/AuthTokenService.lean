import DdzServer.Util.Sha256

/-!
# Error codes and signed tokens

`service/login/auth_token_service.cpp`. A token is a payload and its signature, separated by dots.
The nonces come from one counter of the process; the service carries it here.
-/

namespace DdzServer

inductive ErrorCode where
  | ok | unknownError | invalidPacket | invalidToken | notLogin | alreadyLogin | tokenExpired
  | invalidPlayerState | playerAlreadyMatching | playerAlreadyInRoom
  | matchModeInvalid | matchCancelFailed | matchTimeout
  | roomNotFound | settlementFailed
  | reconnectRoomMismatch | snapshotVersionConflict | offlineTimeoutLose
  deriving DecidableEq

structure TokenIssueResult where
  token : CppString := []
  expireAtMs : ℤ := 0
  deriving DecidableEq

structure TokenVerifyResult where
  ok : Bool := false
  expired : Bool := false
  playerId : ℤ := 0
  purpose : CppString := []
  deriving DecidableEq

structure AuthTokenService where
  secret : CppString := str "dev_change_me"
  ttlSeconds : ℤ := 604800
  nonceSeq : ℕ := 1

namespace AuthTokenService

def purposeLogin : CppString := str "login"

def purposeSession : CppString := str "session"

def isValidPurpose (purpose : CppString) : Bool :=
  !purpose.isEmpty && purpose.all fun ch =>
    97 ≤ ch ∧ ch ≤ 122 ∨ 65 ≤ ch ∧ ch ≤ 90 ∨ 48 ≤ ch ∧ ch ≤ 57 ∨ ch = 95 ∨ ch = 45

/-- Parts joined by dots. -/
def dotted (parts : List CppString) : CppString := List.intercalate (str ".") parts

def sign (auth : AuthTokenService) (payload : CppString) : CppString :=
  Sha256.sha256Hex (auth.secret ++ str "|" ++ payload ++ str "|" ++ auth.secret)

/-- `GenerateNonce`, with the counter advanced; it has 64 bits. -/
def generateNonce (auth : AuthTokenService) (playerId nowMs : ℤ) : AuthTokenService × CppString :=
  ({ auth with nonceSeq := (auth.nonceSeq + 1) % 2 ^ 64 },
    toStr playerId ++ str "_" ++ toStr nowMs ++ str "_" ++ decimal auth.nonceSeq)

def issueWithPurpose (auth : AuthTokenService) (playerId nowMs : ℤ) (purpose : CppString) :
    AuthTokenService × TokenIssueResult :=
  if playerId ≤ 0 ∨ ¬ isValidPurpose purpose then
    (auth, {})
  else
    let expireAtMs := nowMs + auth.ttlSeconds * 1000
    let (auth', nonce) := auth.generateNonce playerId nowMs
    let payload := dotted [str "v2", purpose, toStr playerId, toStr expireAtMs, nonce]
    (auth', { token := payload ++ str "." ++ auth.sign payload, expireAtMs := expireAtMs })

def issueLoginTicket (auth : AuthTokenService) (playerId nowMs : ℤ) :
    AuthTokenService × TokenIssueResult :=
  auth.issueWithPurpose playerId nowMs purposeLogin

def issueSessionToken (auth : AuthTokenService) (playerId nowMs : ℤ) :
    AuthTokenService × TokenIssueResult :=
  auth.issueWithPurpose playerId nowMs purposeSession

/-- The numbers of a token: the player and the expiry, both positive. -/
def parseIds (player expire : CppString) : Option (ℤ × ℤ) :=
  match parseI64Strict player, parseI64Strict expire with
  | some playerId, some expireAtMs =>
    if playerId ≤ 0 ∨ expireAtMs ≤ 0 then none else some (playerId, expireAtMs)
  | _, _ => none

/-- A token taken apart: its purpose, the text that is signed, the signature and the numbers. -/
structure TokenParts where
  purpose : CppString
  payload : CppString
  sig : CppString
  playerId : ℤ
  expireAtMs : ℤ

/-- The two formats `Verify` accepts; the old one has session tokens only. -/
def parseToken (token : CppString) : Option TokenParts :=
  match token.splitOn 46 with
  | [v, player, expire, nonce, sig] =>
    if v ≠ str "v1" then none
    else
      (parseIds player expire).map fun ids =>
        ⟨purposeSession, dotted [v, player, expire, nonce], sig, ids.1, ids.2⟩
  | [v, purpose, player, expire, nonce, sig] =>
    if v ≠ str "v2" ∨ ¬ isValidPurpose purpose then none
    else
      (parseIds player expire).map fun ids =>
        ⟨purpose, dotted [v, purpose, player, expire, nonce], sig, ids.1, ids.2⟩
  | _ => none

/-- `Verify`; an empty `requiredPurpose` accepts every purpose. -/
def verify (auth : AuthTokenService) (token : CppString) (nowMs : ℤ)
    (requiredPurpose : CppString) : TokenVerifyResult :=
  match parseToken token with
  | none   => {}
  | some t =>
    if requiredPurpose ≠ [] ∧ t.purpose ≠ requiredPurpose then {}
    else if t.sig ≠ auth.sign t.payload then {}
    else if t.expireAtMs < nowMs then { expired := true }
    else { ok := true, playerId := t.playerId, purpose := t.purpose }

lemma not_expired_of_verify {auth : AuthTokenService} {token requiredPurpose : CppString}
    {nowMs : ℤ} (h : (auth.verify token nowMs requiredPurpose).ok = true) :
    ¬ (auth.verify token nowMs requiredPurpose).expired = true := by
  unfold verify at h ⊢
  split at h
  · cases h
  · split_ifs at h ⊢
    simp

/-- A verified player has a positive id. -/
lemma playerId_pos_of_verify {auth : AuthTokenService} {token purpose : CppString} {nowMs : ℤ}
    (h : (auth.verify token nowMs purpose).ok = true) :
    0 < (auth.verify token nowMs purpose).playerId := by
  have hids : ∀ {player expire ids}, parseIds player expire = some ids → 0 < ids.1 := by
    intro player expire ids hids
    unfold parseIds at hids
    split at hids
    · split_ifs at hids with hpos
      cases hids
      dsimp only
      omega
    · cases hids
  have hparse : ∀ {t}, parseToken token = some t → 0 < t.playerId := by
    intro t ht
    unfold parseToken at ht
    split at ht
    · split_ifs at ht
      obtain ⟨ids, hids', rfl⟩ := Option.map_eq_some_iff.mp ht
      exact hids hids'
    · split_ifs at ht
      obtain ⟨ids, hids', rfl⟩ := Option.map_eq_some_iff.mp ht
      exact hids hids'
    · cases ht
  unfold verify at h ⊢
  split at h
  · cases h
  next t ht =>
    split_ifs at h ⊢
    exact hparse ht

/-- A session token is issued to every positive id. -/
lemma issueSessionToken_token_ne_nil (auth : AuthTokenService) {playerId : ℤ} (nowMs : ℤ)
    (h : 0 < playerId) : (auth.issueSessionToken playerId nowMs).2.token ≠ [] := by
  have hpurpose : isValidPurpose purposeSession = true := by decide +kernel
  have hcond : ¬ (playerId ≤ 0 ∨ ¬ isValidPurpose purposeSession = true) := by
    rw [hpurpose]
    simp [h]
  rw [issueSessionToken, issueWithPurpose, if_neg hcond]
  simp [generateNonce, str]

end AuthTokenService

end DdzServer
