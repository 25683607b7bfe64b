import DdzServer.Lib.UnorderedMap
import Mathlib.Tactic.Common

/-!
# Match queues

`service/match/match_manager.cpp`: a queue of waiting players for each mode, and an index of the
players who wait.
-/

namespace DdzServer

structure MatchPlayer where
  playerId : ℤ := 0
  joinTimeMs : ℤ := 0
  coin : ℤ := 0
  mode : ℤ := 0
  deriving DecidableEq

structure MatchManager where
  queueThree : List MatchPlayer := []
  queueFour : List MatchPlayer := []
  matchingIndex : UnorderedMap ℤ ℤ := ∅
  deriving DecidableEq

namespace MatchManager

def requiredCount (mode : ℤ) : ℕ := if mode = 3 then 3 else if mode = 4 then 4 else 0

/-- `QueueByMode`: no queue for the modes that do not exist. -/
def queueByMode (m : MatchManager) (mode : ℤ) : Option (List MatchPlayer) :=
  if mode = 3 then some m.queueThree else if mode = 4 then some m.queueFour else none

/-- The queue of a mode replaced. -/
def setQueue (m : MatchManager) (mode : ℤ) (q : List MatchPlayer) : MatchManager :=
  if mode = 3 then { m with queueThree := q }
  else if mode = 4 then { m with queueFour := q }
  else m

def join (m : MatchManager) (player : MatchPlayer) : MatchManager × Bool :=
  if m.matchingIndex.lookup player.playerId ≠ none then
    (m, false)
  else
    match m.queueByMode player.mode with
    | none   => (m, false)
    | some q =>
      ({ m.setQueue player.mode (q ++ [player]) with
          matchingIndex := Finmap.insert player.playerId player.mode m.matchingIndex }, true)

def cancel (m : MatchManager) (playerId : ℤ) : MatchManager × Bool :=
  match m.matchingIndex.lookup playerId with
  | none      => (m, false)
  | some mode =>
    let index := Finmap.erase playerId m.matchingIndex
    match m.queueByMode mode with
    | none   => ({ m with matchingIndex := index }, false)
    | some q =>
      ({ m.setQueue mode (q.filter fun p => p.playerId ≠ playerId) with
          matchingIndex := index }, true)

def eraseIndex (index : UnorderedMap ℤ ℤ) (players : List ℤ) : UnorderedMap ℤ ℤ :=
  players.foldl (fun t pid => Finmap.erase pid t) index

def tryPopMatchedPlayers (m : MatchManager) (mode : ℤ) : MatchManager × Option (List ℤ) :=
  let need := requiredCount mode
  match m.queueByMode mode with
  | none   => (m, none)
  | some q =>
    if need = 0 ∨ q.length < need then
      (m, none)
    else
      let players := (q.take need).map MatchPlayer.playerId
      ({ m.setQueue mode (q.drop need) with
          matchingIndex := eraseIndex m.matchingIndex players }, some players)

/-- Whether a waiting player has waited too long. -/
def isTimedOut (nowMs timeoutMs : ℤ) (p : MatchPlayer) : Bool := timeoutMs ≤ nowMs - p.joinTimeMs

def popTimeoutPlayers (m : MatchManager) (nowMs timeoutMs : ℤ) : MatchManager × List MatchPlayer :=
  if timeoutMs ≤ 0 then
    (m, [])
  else
    let late := isTimedOut nowMs timeoutMs
    let out := m.queueThree.filter late ++ m.queueFour.filter late
    ({ queueThree := m.queueThree.filter fun p => ¬ late p
       queueFour := m.queueFour.filter fun p => ¬ late p
       matchingIndex := eraseIndex m.matchingIndex (out.map MatchPlayer.playerId) }, out)

end MatchManager

end DdzServer
