import DdzServer.Client.Stores
import DdzServer.Login.AuthTokenService

/-!
# Requests of the lobby

`startMatch` and `cancelMatch` of `stores/session.ts`: what the browser does with the responses to
its requests. A response belongs to the request with its number; it is put aside when the browser
does not wait for it any more.
-/

namespace DdzServer

open JsString

/-- The number of an error code. -/
def ErrorCode.toInt : ErrorCode → ℤ
  | .ok                      => 0
  | .unknownError            => 1
  | .invalidPacket           => 2
  | .invalidToken            => 3
  | .notLogin                => 4
  | .alreadyLogin            => 5
  | .tokenExpired            => 6
  | .invalidPlayerState      => 1002
  | .playerAlreadyMatching   => 1003
  | .playerAlreadyInRoom     => 1004
  | .matchModeInvalid        => 2001
  | .matchCancelFailed       => 2002
  | .matchTimeout            => 2003
  | .roomNotFound            => 3001
  | .settlementFailed        => 5002
  | .reconnectRoomMismatch   => 6003
  | .snapshotVersionConflict => 6004
  | .offlineTimeoutLose      => 6005

namespace Client

/-- `toErrorCode`. A text that is infinite for the browser is an unknown error here. -/
def toErrorCode (value : Option JsString) : ℚ := (value.bind toNumber).getD 1

/-- A request of the lobby that waits for its response. -/
inductive LobbyRequest where
  | startMatch | cancelMatch
  deriving DecidableEq

namespace Stores

/-- What `startMatch` does when it has its response. -/
def matchStarted (s : Stores) (kv : KvObject) : Stores :=
  if toErrorCode (kv.get "code") ≠ 0 then s
  else { s with lobby := { s.lobby with matching := true, timeoutNotified := false } }

/-- What `cancelMatch` does when it has its response. -/
def matchCancelled (s : Stores) (kv : KvObject) : Stores :=
  if toErrorCode (kv.get "code") ≠ 0 then s
  else { s with lobby := { s.lobby with matching := false } }

def answered (s : Stores) (kv : KvObject) : LobbyRequest → Stores
  | .startMatch  => s.matchStarted kv
  | .cancelMatch => s.matchCancelled kv

end Stores

/-- A message of the server to a browser. -/
inductive Message where
  | push (msg : Push) (body : CppString)
  | response (seqId : ℤ) (body : CppString)
  deriving DecidableEq

/-- A browser: its stores, the requests it waits for, and the number of its next request. -/
structure Browser where
  stores : Stores := {}
  pending : UnorderedMap ℤ LobbyRequest := ∅
  nextSeq : ℤ := 1

namespace Browser

variable (b : Browser)

/-- The browser waits for the response to the request `seqId`, its last one. -/
def register (seqId : ℤ) (request : LobbyRequest) : Browser :=
  { b with
    pending := Finmap.insert seqId request b.pending
    nextSeq := seqId + 1 }

/-- `sendRequest`. -/
def sendRequest (request : LobbyRequest) : Browser := b.register b.nextSeq request

/-- A request that has waited for too long is given up. -/
def requestTimeout (seqId : ℤ) : Browser := { b with pending := Finmap.erase seqId b.pending }

/-- `handleMessage`. A response that nobody waits for is passed on to `handlePush`, which ignores
it. -/
def handleMessage : Message → Browser
  | .push msg body       =>
    match receivedBody body with
    | none      => b
    | some body => { b with stores := b.stores.handlePush msg body }
  | .response seqId body =>
    match receivedBody body, b.pending.lookup seqId with
    | some body, some request =>
      { b with
        stores := b.stores.answered (parseKv body) request
        pending := Finmap.erase seqId b.pending }
    | _, _ => b

end Browser

end Client

/-! ### Codes -/

/-- The body of a response that says nothing but its code. -/
def codeBody (code : ErrorCode) : CppString := buildKvBody [(str "code", toStr code.toInt)]

namespace ErrorCode

lemma toInt_eq_zero {code : ErrorCode} : code.toInt = 0 ↔ code = .ok := by
  cases code <;> decide

lemma toInt_le (code : ErrorCode) : |code.toInt| ≤ 2 ^ 53 := by
  cases code <;> decide

end ErrorCode

lemma isCarried_code (code : ErrorCode) : IsCarried [(str "code", toStr code.toInt)] where
  nodup_keys := List.nodup_singleton _
  keys := by
    have hkey : str "code" ≠ [] ∧ IsPlain (str "code") ∧ 61 ∉ str "code" := by decide +kernel
    simpa using hkey
  values := by simpa using isPlain_toStr code.toInt

lemma receivedBody_codeBody (code : ErrorCode) :
    receivedBody (codeBody code) = some (ofAscii (codeBody code)) :=
  (isCarried_code code).receivedBody_body

/-- The browser reads the code of a response. -/
lemma toErrorCode_codeBody (code : ErrorCode) :
    Client.toErrorCode ((parseKv (ofAscii (codeBody code))).get "code") = (code.toInt : ℚ) := by
  have hget : (parseKv (ofAscii (codeBody code))).get "code" = some (ofAscii (toStr code.toInt)) :=
    (isCarried_code code).get_of_mem (by decide) List.mem_cons_self
  rw [hget, Client.toErrorCode, Option.bind_some, toNumber_toStr code.toInt_le,
    Option.getD_some]

namespace Client

open ErrorCode

/-- A match request that is confirmed. -/
lemma matchStarted_code (s : Stores) (code : ErrorCode) :
    s.matchStarted (parseKv (ofAscii (codeBody code))) =
      if code = .ok then
        { s with lobby := { s.lobby with matching := true, timeoutNotified := false } }
      else s := by
  simp only [Stores.matchStarted, toErrorCode_codeBody, Int.cast_eq_zero, ne_eq, toInt_eq_zero,
    ite_not]

lemma matchCancelled_code (s : Stores) (code : ErrorCode) :
    s.matchCancelled (parseKv (ofAscii (codeBody code))) =
      if code = .ok then { s with lobby := { s.lobby with matching := false } } else s := by
  simp only [Stores.matchCancelled, toErrorCode_codeBody, Int.cast_eq_zero, ne_eq, toInt_eq_zero,
    ite_not]

/-- What the browser does with a response it waits for. -/
lemma handleMessage_code {b : Browser} {seqId : ℤ} {request : LobbyRequest}
    (h : b.pending.lookup seqId = some request) (code : ErrorCode) :
    b.handleMessage (.response seqId (codeBody code)) =
      { b with
        stores := b.stores.answered (parseKv (ofAscii (codeBody code))) request
        pending := Finmap.erase seqId b.pending } := by
  simp only [Browser.handleMessage, receivedBody_codeBody, h]

/-! ### Browsers whose lobbies go on alike -/

/-- The body of a response confirms its request. -/
def Confirms (body : CppString) : Prop :=
  ∃ text, receivedBody body = some text ∧ toErrorCode ((parseKv text).get "code") = 0

/-- Two browsers have the same lobby, and wait for the same requests but for those in `S`. -/
structure AlikeBut (S : Set ℤ) (b b' : Browser) : Prop where
  lobby : b.stores.lobby = b'.stores.lobby
  pending : ∀ seqId ∉ S, b.pending.lookup seqId = b'.pending.lookup seqId

variable {S : Set ℤ} {b b' : Browser}

/-- What a push does to the lobby depends on the lobby alone. -/
lemma lobby_handlePush {s s' : Stores} (h : s.lobby = s'.lobby) (msg : Push) (body : JsString) :
    (s.handlePush msg body).lobby = (s'.handlePush msg body).lobby := by
  cases msg <;> simp only [Stores.handlePush, h]

lemma lobby_answered {s s' : Stores} (h : s.lobby = s'.lobby) (kv : KvObject)
    (request : LobbyRequest) : (s.answered kv request).lobby = (s'.answered kv request).lobby := by
  cases request with
  | startMatch =>
    simp only [Stores.answered, Stores.matchStarted]
    split_ifs
    · exact h
    · rw [h]
  | cancelMatch =>
    simp only [Stores.answered, Stores.matchCancelled]
    split_ifs
    · exact h
    · rw [h]

/-- A response that confirms nothing leaves the stores as they are. -/
lemma answered_of_not_confirms {body : CppString} {text : JsString}
    (htext : receivedBody body = some text) (h : ¬ Confirms body) (s : Stores)
    (request : LobbyRequest) : s.answered (parseKv text) request = s := by
  have hcode : toErrorCode ((parseKv text).get "code") ≠ 0 := fun hzero => h ⟨text, htext, hzero⟩
  cases request with
  | startMatch => exact if_pos hcode
  | cancelMatch => exact if_pos hcode

lemma lookup_erase_congr {pending pending' : UnorderedMap ℤ LobbyRequest}
    (h : ∀ seqId ∉ S, pending.lookup seqId = pending'.lookup seqId) (seqId : ℤ) :
    ∀ other ∉ S,
      (Finmap.erase seqId pending).lookup other = (Finmap.erase seqId pending').lookup other := by
  intro other hother
  rw [UnorderedMap.lookup_erase, UnorderedMap.lookup_erase, h other hother]

/-- A message keeps browsers alike, unless it confirms one of the requests in `S`. -/
lemma AlikeBut.handleMessage (h : AlikeBut S b b') {msg : Message}
    (hmsg : ∀ seqId ∈ S, ∀ body, msg = .response seqId body → ¬ Confirms body) :
    AlikeBut S (b.handleMessage msg) (b'.handleMessage msg) := by
  cases msg with
  | push msg body =>
    simp only [Browser.handleMessage]
    cases receivedBody body with
    | none => exact h
    | some text => exact ⟨lobby_handlePush h.lobby msg text, h.pending⟩
  | response seqId body =>
    simp only [Browser.handleMessage]
    cases htext : receivedBody body with
    | none => exact h
    | some text =>
      by_cases hS : seqId ∈ S
      · -- whoever waits for this response learns nothing from it
        have hsame := answered_of_not_confirms htext (hmsg seqId hS body rfl)
        have herase : ∀ pending : UnorderedMap ℤ LobbyRequest, ∀ other ∉ S,
            (Finmap.erase seqId pending).lookup other = pending.lookup other := by
          intro pending other hother
          rw [UnorderedMap.lookup_erase, if_neg]
          rintro rfl
          exact hother hS
        cases b.pending.lookup seqId with
        | none =>
          cases b'.pending.lookup seqId with
          | none => exact h
          | some request' =>
            refine ⟨?_, fun other hother => ?_⟩
            · rw [h.lobby]
              exact congrArg Stores.lobby (hsame _ _).symm
            · rw [h.pending other hother, herase _ other hother]
        | some request =>
          cases b'.pending.lookup seqId with
          | none =>
            refine ⟨?_, fun other hother => ?_⟩
            · rw [← h.lobby]
              exact congrArg Stores.lobby (hsame _ _)
            · rw [← h.pending other hother]
              exact herase _ other hother
          | some request' =>
            refine ⟨?_, lookup_erase_congr h.pending seqId⟩
            dsimp only
            rw [hsame, hsame, h.lobby]
      · rw [h.pending seqId hS]
        cases b'.pending.lookup seqId with
        | none => exact h
        | some request =>
          exact ⟨lobby_answered h.lobby _ request, lookup_erase_congr h.pending seqId⟩

lemma AlikeBut.foldl (h : AlikeBut S b b') (msgs : List Message)
    (hmsgs : ∀ seqId ∈ S, ∀ body, .response seqId body ∈ msgs → ¬ Confirms body) :
    AlikeBut S (msgs.foldl Browser.handleMessage b) (msgs.foldl Browser.handleMessage b') := by
  induction msgs generalizing b b' with
  | nil => exact h
  | cons msg msgs ih =>
    refine ih (h.handleMessage fun seqId hS body hmsg => ?_) fun seqId hS body hmem => ?_
    · exact hmsgs seqId hS body (hmsg ▸ List.mem_cons_self)
    · exact hmsgs seqId hS body (List.mem_cons_of_mem _ hmem)

/-- A browser that gives a request up. -/
lemma alikeBut_requestTimeout (b : Browser) (seqId : ℤ) :
    AlikeBut {seqId} (b.requestTimeout seqId) b := by
  refine ⟨rfl, fun other hother => ?_⟩
  rw [Browser.requestTimeout, UnorderedMap.lookup_erase, if_neg (by simpa using hother)]

lemma confirms_codeBody {code : ErrorCode} : Confirms (codeBody code) ↔ code = .ok := by
  rw [Confirms, receivedBody_codeBody]
  simp only [Option.some.injEq, exists_eq_left', toErrorCode_codeBody, Int.cast_eq_zero,
    toInt_eq_zero]

/-- A browser that is refused a request. -/
lemma alikeBut_refusal (b : Browser) (seqId : ℤ) {code : ErrorCode} (h : code ≠ .ok) :
    AlikeBut {seqId} (b.handleMessage (.response seqId (codeBody code))) b := by
  cases hpending : b.pending.lookup seqId with
  | none =>
    simp only [Browser.handleMessage, receivedBody_codeBody, hpending]
    exact ⟨rfl, fun _ _ => rfl⟩
  | some request =>
    rw [handleMessage_code hpending,
      answered_of_not_confirms (receivedBody_codeBody code) (mt confirms_codeBody.mp h)]
    refine ⟨rfl, fun other hother => ?_⟩
    rw [UnorderedMap.lookup_erase, if_neg (by simpa using hother)]

/-- The number of the next request is the browser's own. -/
lemma nextSeq_handleMessage (b : Browser) (msg : Message) :
    (b.handleMessage msg).nextSeq = b.nextSeq := by
  cases msg with
  | push msg body =>
    simp only [Browser.handleMessage]
    cases receivedBody body <;> rfl
  | response seqId body =>
    simp only [Browser.handleMessage]
    cases receivedBody body with
    | none => rfl
    | some text => cases b.pending.lookup seqId <;> rfl

/-- A request that is sent now has nothing to do with the responses to other ones. -/
lemma handleMessage_register (b : Browser) {seqId : ℤ} (request : LobbyRequest) {msg : Message}
    (h : ∀ body, msg ≠ .response seqId body) :
    (b.register seqId request).handleMessage msg =
      (b.handleMessage msg).register seqId request := by
  cases msg with
  | push msg body =>
    simp only [Browser.handleMessage]
    cases receivedBody body <;> rfl
  | response other body =>
    have hother : other ≠ seqId := by
      rintro rfl
      exact h body rfl
    have hlookup : (b.register seqId request).pending.lookup other = b.pending.lookup other := by
      rw [Browser.register, UnorderedMap.lookup_insert, if_neg hother]
    simp only [Browser.handleMessage, hlookup]
    cases receivedBody body with
    | none => rfl
    | some text =>
      cases b.pending.lookup other with
      | none => rfl
      | some request' =>
        have herase : Finmap.erase other (Finmap.insert seqId request b.pending) =
            Finmap.insert seqId request (Finmap.erase other b.pending) := by
          refine Finmap.ext_lookup fun a => ?_
          simp only [UnorderedMap.lookup_erase, UnorderedMap.lookup_insert]
          split_ifs with ha ha'
          · exact absurd (ha.symm.trans ha') hother
          · rfl
          · rfl
          · rfl
        simp only [Browser.register, herase]

end Client

end DdzServer
