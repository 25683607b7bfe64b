import DdzServer.Server.ServerRun

/-!
# Player actions

The dispatch of `MSG_PLAYER_ACTION_REQ` in `server/game_server.cpp`: the player of the connection
acts in the room that the request names, and a game that is over is settled.
-/

namespace DdzServer

/-- `std::stoll` where the text behind the number is ignored. -/
def stollPrefix (text : CppString) : Option ℤ := (stoll text).map Prod.fst

/-- The items that `std::getline` reads: nothing follows a comma at the end. -/
def cardItems (text : CppString) : List CppString :=
  let items := text.splitOn 44
  if items.getLast? = some [] then items.dropLast else items

/-- `ParseCardList`; an empty item is no number. -/
def parseCardList (text : CppString) : Option (List ℤ) :=
  (cardItems text).mapM fun item => (parseI64Strict item).map toInt32

/-- `static_cast<PlayerActionType>`, where the value has a name. -/
def PlayerActionType.ofInt : ℤ → Option PlayerActionType
  | 1 => some .callScore
  | 2 => some .robLandlord
  | 3 => some .playCards
  | 4 => some .pass
  | _ => none

/-- The request of an action, with the one field that its type reads. -/
def parseActionRequest (kv : KvMap) (actionType : PlayerActionType) : Option PlayerActionRequest :=
  match actionType with
  | .callScore =>
    ((kv.lookup (str "score")).bind stollPrefix).map fun score =>
      { actionType := actionType, callScore := toInt32 score }
  | .robLandlord =>
    ((kv.lookup (str "rob")).bind stollPrefix).map fun rob =>
      { actionType := actionType, rob := toInt32 rob }
  | .playCards =>
    ((kv.lookup (str "cards")).bind parseCardList).map fun cards =>
      { actionType := actionType, cards := cards }
  | .pass => some { actionType := actionType }

/-- The room and the request that the body of an action names. -/
def parsePlayerAction (body : CppString) : Option (ℤ × PlayerActionRequest) :=
  let kv := parseKvBody body
  match (kv.lookup (str "room_id")).bind stollPrefix,
    (kv.lookup (str "action_type")).bind stollPrefix with
  | some roomId, some actionType =>
    if roomId ≤ 0 then none
    else
      ((PlayerActionType.ofInt (toInt32 actionType)).bind (parseActionRequest kv)).map fun req =>
        (roomId, req)
  | _, _ => none

/-- Whether one text occurs in another one. -/
def containsText (text part : String) : Bool := text.toList.tails.any part.toList.isPrefixOf

/-- `NormalizeActionReason`. -/
def normalizeActionReason (actionErr : String) : String :=
  if actionErr = "not player turn" then "not_your_turn"
  else if containsText actionErr "action not allowed" then "action_not_allowed"
  else if actionErr = "invalid card combo" then "invalid_combo"
  else if actionErr = "combo cannot beat previous" then "cannot_beat_previous"
  else if actionErr = "cards not in hand" then "cards_not_in_hand"
  else if containsText actionErr "invalid" then "invalid_packet"
  else "action_failed"

/-- The answer to an action. -/
structure PlayerActionReply where
  code : ErrorCode := .ok
  reason : String := "ok"
  playerId : ℤ := 0
  result : Option PlayerActionResult := none
  recordId : ℤ := 0
  deriving DecidableEq

namespace GameServer

variable (s : GameServer)

/-- The room, the player and the request that the dispatch passes on. -/
def requestedAction (connectionId : ℤ) (body : CppString) : Option (ℤ × ℤ × PlayerActionRequest) :=
  match s.sessions.getPlayerIdByConnection connectionId with
  | none          => none
  | some senderId => (parsePlayerAction body).map fun action => (action.1, senderId, action.2)

/-- The settlement of a game that an action has ended. -/
def settleGameOver (roomId senderId : ℤ) (result : PlayerActionResult) (nowMs : ℤ) :
    GameServer × PlayerActionReply :=
  let reply : PlayerActionReply := { playerId := senderId, result := some result }
  if result.gameOver then
    let (s, settled) :=
      s.settleByServerResult ⟨roomId, result.winnerPlayerId, result.baseCoin⟩ nowMs
    if settled.code = .ok then
      (s, { reply with recordId := settled.recordId })
    else
      (s, { reply with code := settled.code, reason := "settlement_failed" })
  else
    (s, reply)

/-- The dispatch of `MSG_PLAYER_ACTION_REQ`; `nowMs` is the time of a settlement. -/
def handlePlayerAction (rng : Shuffler) (connectionId : ℤ) (body : CppString) (nowMs : ℤ) :
    GameServer × PlayerActionReply :=
  match s.sessions.getPlayerIdByConnection connectionId with
  | none          => (s, { code := .notLogin, reason := "not_login" })
  | some senderId =>
    match parsePlayerAction body with
    | none               =>
      (s, { code := .invalidPacket, reason := "invalid_packet", playerId := senderId })
    | some (roomId, req) =>
      let (rooms, reply) := s.rooms.applyPlayerAction rng roomId senderId req
      let s := { s with rooms := rooms }
      match reply with
      | .error err =>
        (s,
          { code := .invalidPlayerState
            reason := normalizeActionReason err
            playerId := senderId })
      | .ok result => s.settleGameOver roomId senderId result nowMs

variable {s : GameServer} {rng : Shuffler} {connectionId nowMs : ℤ} {body : CppString}

/-- Without a player or a readable request nothing happens. -/
lemma handlePlayerAction_of_none (h : s.requestedAction connectionId body = none) :
    (s.handlePlayerAction rng connectionId body nowMs).1 = s := by
  unfold requestedAction at h
  unfold handlePlayerAction
  split at h
  · rfl
  next senderId hconn =>
    simp only [Option.map_eq_none_iff.mp h]

/-- An action is one call of the rooms, and a settlement where it ends the game. -/
lemma handlePlayerAction_of_some (rng : Shuffler) (nowMs : ℤ) {roomId senderId : ℤ}
    {req : PlayerActionRequest}
    (h : s.requestedAction connectionId body = some (roomId, senderId, req)) :
    s.sessions.getPlayerIdByConnection connectionId = some senderId ∧
      ∃ settled : List ServerOp, (∀ op ∈ settled, ∃ d, op = .settle d nowMs) ∧
        (s.handlePlayerAction rng connectionId body nowMs).1 =
          settled.foldl (apply rng)
            (s.apply rng (.inRoom ⟨.applyPlayerAction roomId senderId req, rfl⟩)) := by
  unfold requestedAction at h
  split at h
  · cases h
  next sender hconn =>
    obtain ⟨action, haction, heq⟩ := Option.map_eq_some_iff.mp h
    cases heq
    refine ⟨hconn, ?_⟩
    simp only [handlePlayerAction, hconn, haction]
    split
    · exact ⟨[], by simp, rfl⟩
    next result _ =>
      simp only [settleGameOver]
      split_ifs
      · exact ⟨[.settle ⟨action.1, result.winnerPlayerId, result.baseCoin⟩ nowMs], by simp, rfl⟩
      · exact ⟨[.settle ⟨action.1, result.winnerPlayerId, result.baseCoin⟩ nowMs], by simp, rfl⟩
      · exact ⟨[], by simp, rfl⟩

end GameServer

end DdzServer
