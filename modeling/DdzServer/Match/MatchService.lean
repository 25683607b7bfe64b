import DdzServer.Server.GameServer
import DdzServer.Util.KvCodec

/-!
# Match requests

`service/match/match_service.cpp`: players enter and leave the queue, and three waiting players
become a room.
-/

namespace DdzServer

structure MatchResult where
  code : ErrorCode := .unknownError
  playerId : ℤ := 0
  mode : ℤ := 0
  matched : Bool := false
  roomId : ℤ := 0
  matchedPlayers : List ℤ := []
  deriving DecidableEq

structure CancelMatchResult where
  code : ErrorCode := .unknownError
  playerId : ℤ := 0
  deriving DecidableEq

structure MatchTimeoutEvent where
  playerId : ℤ := 0
  mode : ℤ := 0
  deriving DecidableEq

/-- `MatchService::ParseMode`: three players are the only mode that can be asked for. -/
def parseMode (body : CppString) : Option ℤ :=
  match (parseKvBody body).lookup (str "mode") with
  | none      => none
  | some text =>
    match stoi text with
    | some (mode, _) => if mode = 3 then some mode else none
    | none           => none

namespace GameServer

variable (s : GameServer)

/-- One round of the loop that sends matched players to their room. -/
def enterRoom (roomId : ℤ) (s : GameServer) (playerId : ℤ) : GameServer :=
  { s with
    sessions := (s.sessions.setRoomId playerId roomId).1
    players := s.players.forceState playerId .inRoom }

/-- `HandleMatch` for a player in the lobby. -/
def joinQueue (playerId mode nowMs : ℤ) : GameServer × MatchResult :=
  let result : MatchResult := { playerId := playerId, mode := mode }
  let coin := ((s.players.getPlayer playerId).map PlayerData.coin).getD 0
  let (matching, joined) := s.matching.join ⟨playerId, nowMs, coin, mode⟩
  if ¬ joined then
    ({ s with matching := matching }, { result with code := .playerAlreadyMatching })
  else
    let (players, wasSet) := s.players.setState playerId .matching
    if ¬ wasSet then
      ({ s with matching := (matching.cancel playerId).1, players := players },
        { result with code := .invalidPlayerState })
    else
      match matching.tryPopMatchedPlayers mode with
      | (matching, none)         =>
        ({ s with matching := matching, players := players }, { result with code := .ok })
      | (matching, some matched) =>
        let (rooms, roomId) := s.rooms.createRoom mode matched
        (matched.foldl (enterRoom roomId)
            { s with matching := matching, players := players, rooms := rooms },
          { result with
            code := .ok
            matched := true
            roomId := roomId
            matchedPlayers := matched })

/-- `MatchService::HandleMatch`. -/
def handleMatch (connectionId : ℤ) (body : CppString) (nowMs : ℤ) : GameServer × MatchResult :=
  match s.sessions.getPlayerIdByConnection connectionId with
  | none          => (s, { code := .notLogin })
  | some playerId =>
    match parseMode body with
    | none      => (s, { code := .matchModeInvalid, playerId := playerId })
    | some mode =>
      let state := s.players.getState playerId
      if state ≠ .lobby then
        if state = .inRoom ∨ state = .playing ∨ state = .settlement then
          (s, { code := .playerAlreadyInRoom, playerId := playerId, mode := mode })
        else
          (s, { code := .invalidPlayerState, playerId := playerId, mode := mode })
      else
        s.joinQueue playerId mode nowMs

/-- `MatchService::HandleCancelMatch`. -/
def handleCancelMatch (connectionId : ℤ) : GameServer × CancelMatchResult :=
  match s.sessions.getPlayerIdByConnection connectionId with
  | none          => (s, { code := .notLogin })
  | some playerId =>
    if s.players.getState playerId ≠ .matching then
      (s, { code := .invalidPlayerState, playerId := playerId })
    else
      let (matching, cancelled) := s.matching.cancel playerId
      if ¬ cancelled then
        ({ s with matching := matching }, { code := .matchCancelFailed, playerId := playerId })
      else
        ({ s with matching := matching, players := s.players.forceState playerId .lobby },
          { code := .ok, playerId := playerId })

/-- One round of the loop over the players who waited too long. -/
def leaveQueue (players : PlayerManager) (p : MatchPlayer) : PlayerManager :=
  if players.getState p.playerId = .matching then players.forceState p.playerId .lobby else players

/-- `MatchService::HandleMatchTimeout`. -/
def handleMatchTimeout (nowMs timeoutMs : ℤ) : GameServer × List MatchTimeoutEvent :=
  let (matching, late) := s.matching.popTimeoutPlayers nowMs timeoutMs
  ({ s with matching := matching, players := late.foldl leaveQueue s.players },
    late.map fun p => ⟨p.playerId, p.mode⟩)

end GameServer

end DdzServer
