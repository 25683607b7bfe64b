import DdzServer.Client.Lobby
import DdzServer.Server.RoomPush
import DdzServer.Settlement.SettlementService

/-!
# Notifications

The bodies that `GameServer` builds for its notifications, and what the lobby of the browser makes
of them.
-/

namespace DdzServer

open JsString

/-- A notification of the server to one player. -/
inductive Notification where
  | matchSuccess (roomId mode : ℤ) (players : List ℤ)
  | matchTimeout (mode : ℤ)
  | room (message : RoomMessage)
  | privateHand (roomId playerId : ℤ) (cards : List ℤ) (snapshotVersion : ℤ)
  | gameOver (roomId winnerPlayerId : ℤ) (player : SettlementPlayerResult)
  | gameResult (roomId winnerPlayerId : ℤ) (player : SettlementPlayerResult)

namespace Notification

def push : Notification → Client.Push
  | matchSuccess _ _ _  => .matchSuccessNotify
  | matchTimeout _      => .matchTimeoutNotify
  | room message        => message.push
  | privateHand _ _ _ _ => .privateHandNotify
  | gameOver _ _ _      => .gameOverNotify
  | gameResult _ _ _    => .gameResultPush

/-- The fields of `NotifyGameOver`, which are sent twice. -/
def gameOverFields (roomId winnerPlayerId : ℤ) (player : SettlementPlayerResult) :
    List (CppString × CppString) :=
  [(str "room_id", toStr roomId),
   (str "winner_player_id", toStr winnerPlayerId),
   (str "coin_change", toStr player.changeAmount),
   (str "after_coin", toStr player.afterCoin)]

def fields : Notification → List (CppString × CppString)
  | matchSuccess roomId mode players =>
    [(str "room_id", toStr roomId),
     (str "mode", toStr mode),
     (str "players", joinNumberList players)]
  | matchTimeout mode =>
    [(str "code", toStr ErrorCode.matchTimeout.toInt),
     (str "mode", toStr mode)]
  | room message => message.fields
  | privateHand roomId playerId cards snapshotVersion =>
    [(str "room_id", toStr roomId),
     (str "player_id", toStr playerId),
     (str "cards", joinNumberList cards),
     (str "card_count", toStr cards.length),
     (str "snapshot_version", toStr snapshotVersion)]
  | gameOver roomId winnerPlayerId player   => gameOverFields roomId winnerPlayerId player
  | gameResult roomId winnerPlayerId player => gameOverFields roomId winnerPlayerId player

def body (n : Notification) : CppString := buildKvBody n.fields

/-- The message that is sent. -/
def message (n : Notification) : Client.Message := .push n.push n.body

/-- The lobby of the browser takes notice of the notification. -/
def IsLobby : Notification → Prop
  | matchSuccess _ _ _ => True
  | matchTimeout _     => True
  | _                  => False

instance : DecidablePred IsLobby
  | matchSuccess _ _ _  => isTrue trivial
  | matchTimeout _      => isTrue trivial
  | room _              => isFalse id
  | privateHand _ _ _ _ => isFalse id
  | gameOver _ _ _      => isFalse id
  | gameResult _ _ _    => isFalse id

lemma isCarried_matchSuccess (roomId mode : ℤ) (players : List ℤ) :
    IsCarried (matchSuccess roomId mode players).fields where
  nodup_keys := by
    simp only [fields, List.map_cons, List.map_nil]
    decide +kernel
  keys := by
    have hkeys : ∀ key ∈ [str "room_id", str "mode", str "players"],
        key ≠ [] ∧ IsPlain key ∧ 61 ∉ key := by decide +kernel
    exact fun f hf => hkeys f.1 (List.mem_map_of_mem hf)
  values := by simp [fields, isPlain_toStr, isPlain_joinNumberList]

lemma isCarried_matchTimeout (mode : ℤ) : IsCarried (matchTimeout mode).fields where
  nodup_keys := by
    simp only [fields, List.map_cons, List.map_nil]
    decide +kernel
  keys := by
    have hkeys : ∀ key ∈ [str "code", str "mode"], key ≠ [] ∧ IsPlain key ∧ 61 ∉ key := by
      decide +kernel
    exact fun f hf => hkeys f.1 (List.mem_map_of_mem hf)
  values := by simp [fields, isPlain_toStr]

end Notification

/-! ### The lobby -/

namespace Client

/-- What the lobby shows: whether the player waits for a match, and the room of the last one. -/
def LobbyStore.shown (lobby : LobbyStore) : Bool × ℤ := (lobby.matching, lobby.matchedRoomId)

open Notification

/-- A success ends the waiting and names the room. -/
lemma shown_matchSuccess (b : Browser) {roomId : ℤ} (h : |roomId| ≤ 2 ^ 53) (mode : ℤ)
    (players : List ℤ) :
    (b.handleMessage (matchSuccess roomId mode players).message).stores.lobby.shown =
      (false, roomId) := by
  have hcarried := isCarried_matchSuccess roomId mode players
  have hget : (parseKv (ofAscii (buildKvBody (matchSuccess roomId mode players).fields))).get
      "room_id" = some (ofAscii (toStr roomId)) :=
    hcarried.get_of_mem (by decide) (List.mem_cons_self)
  simp only [message, Browser.handleMessage, Notification.body, hcarried.receivedBody_body,
    Notification.push, Stores.handlePush, LobbyStore.shown, hget, parseI64_toStr h]

/-- A timeout ends the waiting. -/
lemma shown_matchTimeout (b : Browser) (mode : ℤ) :
    (b.handleMessage (matchTimeout mode).message).stores.lobby.shown =
      (false, b.stores.lobby.matchedRoomId) := by
  simp only [message, Browser.handleMessage, Notification.body,
    (isCarried_matchTimeout mode).receivedBody_body, Notification.push, Stores.handlePush,
    LobbyStore.shown]

/-- The other notifications do not reach the lobby. -/
lemma lobby_of_not_isLobby (b : Browser) {n : Notification} (h : ¬ n.IsLobby) :
    (b.handleMessage n.message).stores.lobby = b.stores.lobby := by
  rw [message, Browser.handleMessage]
  cases receivedBody n.body with
  | none => rfl
  | some body =>
    cases n with
    | matchSuccess => exact absurd trivial h
    | matchTimeout => exact absurd trivial h
    | room message => cases message <;> rfl
    | privateHand => rfl
    | gameOver => rfl
    | gameResult => rfl

/-- Notifications are no responses. -/
lemma requests_of_notification (b : Browser) (n : Notification) :
    (b.handleMessage n.message).pending = b.pending ∧
      (b.handleMessage n.message).nextSeq = b.nextSeq := by
  rw [message, Browser.handleMessage]
  cases receivedBody n.body <;> exact ⟨rfl, rfl⟩

end Client

end DdzServer
