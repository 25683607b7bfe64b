import DdzServer.Room.Basic
import DdzServer.Rule.RuleEngine
import Mathlib.Data.List.OfFn

/-!
# What an action does to a room

The body of `RoomManager::ApplyPlayerAction` and the operations that mark a player or a room, for
the room they are called on. A rejected action returns the room as well: some rejections come after
fields of the room were written.
-/

namespace DdzServer

/-- `std::shuffle` over a `std::mt19937_64` with the given seed. -/
structure Shuffler where
  shuffle : ℕ → List ℤ → List ℤ
  perm : ∀ seed deck, (shuffle seed deck).Perm deck

/-- The shuffler that leaves the cards in order, for runs on fixed inputs. -/
def Shuffler.sorted : Shuffler := ⟨fun _ cards => cards, fun _ cards => .refl cards⟩

/-- The order `SortCards` sorts by. -/
def cardBefore (a b : ℤ) : Prop :=
  cardRank a < cardRank b ∨ cardRank a = cardRank b ∧ a ≤ b

instance : DecidableRel cardBefore := fun a b =>
  inferInstanceAs (Decidable (cardRank a < cardRank b ∨ cardRank a = cardRank b ∧ a ≤ b))

/-- `SortCards`. -/
def sortCards (cards : List ℤ) : List ℤ := cards.insertionSort cardBefore

/-- The numbers of cards that `RemoveCards` counts first. -/
def countCards (hand : List ℤ) : UnorderedMap ℤ ℕ :=
  hand.foldl (fun cnt c => Finmap.insert c (UnorderedMap.at' cnt c 0 + 1) cnt) ∅

/-- The first loop of `RemoveCards`: whether the counted cards contain the given ones. -/
def takeCounted : UnorderedMap ℤ ℕ → List ℤ → Bool
  | _,   []      => true
  | cnt, c :: cs =>
    match cnt.lookup c with
    | some (n + 1) => takeCounted (Finmap.insert c n cnt) cs
    | _            => false

/-- The second loop of `RemoveCards`. -/
def eraseCards : List ℤ → List ℤ → List ℤ × Bool
  | hand, []      => (hand, true)
  | hand, c :: cs => if c ∈ hand then eraseCards (hand.erase c) cs else (hand, false)

/-- `RemoveCards`: the hand afterwards, and whether the cards were removed. -/
def removeCards (hand cards : List ℤ) : List ℤ × Bool :=
  if takeCounted (countCards hand) cards then eraseCards hand cards else (hand, false)

namespace Room

/-- `NextOperator`. -/
def nextOperator (room : Room) (currentPlayerId : ℤ) : ℤ :=
  match room.players.dropWhile (· ≠ currentPlayerId) with
  | _ :: next :: _ => next
  | _              => room.players.headD 0

/-- The cards 0..53. -/
def deck : List ℤ := List.ofFn fun i : Fin 54 => (i : ℤ)

/-- One round of the loop that deals 51 cards. -/
def dealCard (players cards : List ℤ) (hands : UnorderedMap ℤ (List ℤ)) (i : ℕ) :
    UnorderedMap ℤ (List ℤ) :=
  let pid := players.getD (i % 3) 0
  Finmap.insert pid (UnorderedMap.at' hands pid [] ++ [cards.getD i 0]) hands

/-- The hands after the three loops of `DealCards` over the shuffled cards. -/
def dealHands (players cards : List ℤ) (hands : UnorderedMap ℤ (List ℤ)) :
    UnorderedMap ℤ (List ℤ) :=
  let cleared := players.foldl (fun h pid => Finmap.insert pid [] h) hands
  let dealt := (List.range 51).foldl (dealCard players cards) cleared
  players.foldl (fun h pid => Finmap.insert pid (sortCards (UnorderedMap.at' h pid [])) h) dealt

/-- The seed of the shuffle, an unsigned 64-bit number. -/
def dealSeed (room : Room) : ℕ := ((room.roomId * 7919 + 97) % 2 ^ 64).toNat

/-- `DealCards`. -/
def dealCards (rng : Shuffler) (room : Room) : Room :=
  if room.players.length ≠ 3 ∨ room.dealt then
    room
  else
    let cards := rng.shuffle room.dealSeed deck
    { room with
      hands := dealHands room.players cards room.hands
      landlordBottomCards := [cards.getD 51 0, cards.getD 52 0, cards.getD 53 0]
      dealt := true }

/-- The first action of the operator takes a room out of `WaitStart`, whatever the action is. -/
def startGame (rng : Shuffler) (room : Room) : Room :=
  if room.state = .waitStart then dealCards rng { room with state := .callScore } else room

/-- What a call returns besides the room: an error text or the result. -/
abbrev ActionReply := Except String PlayerActionResult

def reject (room : Room) (err : String) : Room × ActionReply := (room, .error err)

/-- The end of every accepted action that does not end the game. -/
def accept (room : Room) : Room × ActionReply :=
  (room.bumpSnapshotVersion true,
    .ok { snapshot := (room.bumpSnapshotVersion true).makeSnapshot })

/-! ### Calling -/

def recordCall (room : Room) (playerId score : ℤ) : Room :=
  { room with
    highestCallScore := if room.highestCallScore < score then score else room.highestCallScore
    highestCallPlayerId :=
      if room.highestCallScore < score then playerId else room.highestCallPlayerId
    stateActionCount := room.stateActionCount + 1 }

/-- The caller of the highest score, or the first player when nobody called. -/
def highestCaller (room : Room) : ℤ :=
  if room.highestCallPlayerId = 0 ∧ room.players ≠ [] then
    room.players.headD 0
  else
    room.highestCallPlayerId

/-- The last call opens the bidding for the landlord. -/
def endCalls (room : Room) : Room :=
  { room with
    state := .robLandlord
    stateActionCount := 0
    highestCallPlayerId := room.highestCaller
    baseCoin := max 1 room.highestCallScore
    currentOperatorPlayerId := room.highestCaller }

/-- The branch of `ApplyPlayerAction` for `CallScore`. -/
def actCallScore (room : Room) (playerId : ℤ) (request : PlayerActionRequest) :
    Room × ActionReply :=
  if request.actionType ≠ .callScore then
    room.reject "action not allowed in CALL_SCORE"
  else if request.callScore < 0 ∨ 3 < request.callScore then
    room.reject "invalid call score"
  else
    let called := room.recordCall playerId request.callScore
    if request.callScore = 3 ∨ (called.players.length : ℤ) ≤ called.stateActionCount then
      accept called.endCalls
    else
      accept { called with currentOperatorPlayerId := called.nextOperator playerId }

/-! ### Robbing -/

def recordRob (room : Room) (playerId rob : ℤ) : Room :=
  { room with
    landlordPlayerId := if rob = 1 then playerId else room.landlordPlayerId
    baseCoin := if rob = 1 then max 1 room.baseCoin * 2 else room.baseCoin
    stateActionCount := room.stateActionCount + 1 }

/-- Who is landlord when the robbing ends: the last one who robbed, else the highest caller, else
the first player. -/
def finalLandlord (room : Room) : ℤ :=
  let landlord :=
    if room.landlordPlayerId = 0 then room.highestCallPlayerId else room.landlordPlayerId
  if landlord = 0 ∧ room.players ≠ [] then room.players.headD 0 else landlord

/-- The landlord takes up the bottom cards and leads. -/
def startPlaying (room : Room) (hand : List ℤ) : Room :=
  { room with
    hands :=
      Finmap.insert room.landlordPlayerId (sortCards (hand ++ room.landlordBottomCards)) room.hands
    state := .playing
    stateActionCount := 0
    currentOperatorPlayerId := room.landlordPlayerId
    lastPlayCards := []
    lastPlayPlayerId := 0
    consecutivePassCount := 0 }

/-- The branch of `ApplyPlayerAction` for `RobLandlord`. -/
def actRobLandlord (room : Room) (playerId : ℤ) (request : PlayerActionRequest) :
    Room × ActionReply :=
  if request.actionType ≠ .robLandlord then
    room.reject "action not allowed in ROB_LANDLORD"
  else if request.rob ≠ 0 ∧ request.rob ≠ 1 then
    room.reject "invalid rob flag"
  else
    let robbed := room.recordRob playerId request.rob
    if (robbed.players.length : ℤ) ≤ robbed.stateActionCount then
      let crowned := { robbed with landlordPlayerId := robbed.finalLandlord }
      match crowned.hands.lookup crowned.landlordPlayerId with
      | none      => crowned.reject "landlord hand not found"
      | some hand => accept (crowned.startPlaying hand)
    else
      accept { robbed with currentOperatorPlayerId := robbed.nextOperator playerId }

/-! ### Playing -/

/-- Everyone else passed: the last player leads again. -/
def clearTable (room : Room) : Room :=
  { room with
    currentOperatorPlayerId := room.lastPlayPlayerId
    lastPlayCards := []
    lastPlayPlayerId := 0
    consecutivePassCount := 0 }

/-- The branch of `ApplyPlayerAction` for a pass in `Playing`. -/
def actPass (room : Room) (playerId : ℤ) (request : PlayerActionRequest) : Room × ActionReply :=
  if request.cards ≠ [] then
    room.reject "pass should not carry cards"
  else if room.lastPlayCards = [] then
    room.reject "cannot pass on empty table"
  else if room.lastPlayPlayerId = playerId then
    room.reject "leading player cannot pass"
  else
    let passed := { room with consecutivePassCount := room.consecutivePassCount + 1 }
    if (passed.players.length : ℤ) - 1 ≤ passed.consecutivePassCount then
      accept passed.clearTable
    else
      accept { passed with currentOperatorPlayerId := passed.nextOperator playerId }

/-- The cards leave the hand and lie on the table. -/
def putCards (room : Room) (playerId : ℤ) (cards hand : List ℤ) : Room :=
  { room with
    hands := Finmap.insert playerId hand room.hands
    lastPlayCards := cards
    lastPlayPlayerId := playerId
    consecutivePassCount := 0 }

/-- The end of an action that leaves its player without cards. -/
def acceptGameOver (room : Room) (playerId : ℤ) : Room × ActionReply :=
  let ended :=
    { room with state := .settling, currentOperatorPlayerId := playerId }.bumpSnapshotVersion true
  (ended,
    .ok {
      snapshot := ended.makeSnapshot
      gameOver := true
      winnerPlayerId := playerId
      baseCoin := max 1 ended.baseCoin })

/-- Whether the cards may be played on what lies on the table. -/
def beatsTable (room : Room) (playerId : ℤ) (cards : List ℤ) : Bool :=
  room.lastPlayCards = [] ∨ room.lastPlayPlayerId = playerId ∨
    canBeat (analyze cards) (analyze room.lastPlayCards)

/-- The branch of `ApplyPlayerAction` for cards played from the player's hand. -/
def actPlayCards (room : Room) (playerId : ℤ) (cards hand : List ℤ) : Room × ActionReply :=
  if ¬ (analyze cards).valid then
    room.reject "invalid card combo"
  else if ¬ room.beatsTable playerId cards then
    room.reject "combo cannot beat previous"
  else
    let (rest, removed) := removeCards hand cards
    if ¬ removed then
      { room with hands := Finmap.insert playerId rest room.hands }.reject "cards not in hand"
    else
      let put := room.putCards playerId cards rest
      if rest = [] then
        put.acceptGameOver playerId
      else
        accept { put with currentOperatorPlayerId := put.nextOperator playerId }

/-- The branch of `ApplyPlayerAction` for `Playing`. -/
def actPlaying (room : Room) (playerId : ℤ) (request : PlayerActionRequest) :
    Room × ActionReply :=
  if request.actionType = .pass then
    room.actPass playerId request
  else if request.actionType ≠ .playCards then
    room.reject "action not allowed in PLAYING"
  else if request.cards = [] then
    room.reject "play cards cannot be empty"
  else
    match room.hands.lookup playerId with
    | none      => room.reject "player hand not found"
    | some hand => room.actPlayCards playerId request.cards hand

/-- `RoomManager::ApplyPlayerAction` from the point where the room was found. -/
def applyPlayerAction (rng : Shuffler) (room : Room) (playerId : ℤ)
    (request : PlayerActionRequest) : Room × ActionReply :=
  if playerId ∉ room.players then
    room.reject "player not in room"
  else if room.currentOperatorPlayerId ≠ playerId then
    room.reject "not player turn"
  else if room.state = .settling ∨ room.state = .finished then
    room.reject "room state not allow action"
  else
    let started := room.startGame rng
    match started.state with
    | .callScore   => started.actCallScore playerId request
    | .robLandlord => started.actRobLandlord playerId request
    | .playing     => started.actPlaying playerId request
    | _            => started.reject "room state not playable"

/-- The card a trustee answers the table with: the first single of the hand that beats it. -/
def trusteeCard (room : Room) (playerId : ℤ) : Option ℤ :=
  (room.hand playerId).find? fun c =>
    (analyze [c]).valid && canBeat (analyze [c]) (analyze room.lastPlayCards)

/-- The request `RoomManager::ApplyTrusteeAction` makes for the operator, or an error text. -/
def trusteeRequest (room : Room) (playerId : ℤ) : Except String PlayerActionRequest :=
  if room.currentOperatorPlayerId ≠ playerId then
    .error "not trustee player turn"
  else
    match room.state with
    | .callScore   => .ok { actionType := .callScore, callScore := 0 }
    | .robLandlord => .ok { actionType := .robLandlord, rob := 0 }
    | .playing     =>
      if room.lastPlayCards = [] ∨ room.lastPlayPlayerId = playerId then
        match room.hand playerId with
        | []     => .error "trustee hand empty"
        | c :: _ => .ok { actionType := .playCards, cards := [c] }
      else
        match room.trusteeCard playerId with
        | some c => .ok { actionType := .playCards, cards := [c] }
        | none   => .ok { actionType := .pass }
    | _ => .error "room state not support trustee action"

/-! ### Marks -/

/-- `RoomManager::MarkPlayerOffline` on the room of the player: the room, and what is returned. -/
def markPlayerOffline (room : Room) (playerId offlineAtMs : ℤ) : Room × Bool :=
  match room.onlineByPlayer.lookup playerId with
  | none => (room, false)
  | some isOnline =>
    -- the subscript is read only for a player who is offline already
    let offlineAt :=
      if isOnline then room.offlineAtMsByPlayer
      else UnorderedMap.touch room.offlineAtMsByPlayer playerId 0
    if ¬ isOnline ∧ 0 < room.offlineAtMs playerId then
      ({ room with offlineAtMsByPlayer := offlineAt }, true)
    else
      ({ room with
          onlineByPlayer := Finmap.insert playerId false room.onlineByPlayer
          offlineAtMsByPlayer := Finmap.insert playerId offlineAtMs offlineAt
        }.bumpSnapshotVersion false, true)

/-- `RoomManager::MarkPlayerOnline` on the room of the player. -/
def markPlayerOnline (room : Room) (playerId : ℤ) : Room × Bool :=
  match room.onlineByPlayer.lookup playerId with
  | none => (room, false)
  | some isOnline =>
    let trustees :=
      if isOnline then UnorderedMap.touch room.trusteeByPlayer playerId false
      else room.trusteeByPlayer
    if isOnline ∧ ¬ room.trustee playerId then
      ({ room with
          trusteeByPlayer := trustees
          offlineAtMsByPlayer := Finmap.insert playerId 0 room.offlineAtMsByPlayer }, true)
    else
      ({ room with
          onlineByPlayer := Finmap.insert playerId true room.onlineByPlayer
          trusteeByPlayer := Finmap.insert playerId false trustees
          offlineAtMsByPlayer := Finmap.insert playerId 0 room.offlineAtMsByPlayer
        }.bumpSnapshotVersion false, true)

/-- `RoomManager::MarkPlayerTrustee` on the room of the player. -/
def markPlayerTrustee (room : Room) (playerId : ℤ) (trustee : Bool) : Room × Bool :=
  match room.trusteeByPlayer.lookup playerId with
  | none => (room, false)
  | some isTrustee =>
    if isTrustee = trustee then
      (room, true)
    else
      ({ room with
          trusteeByPlayer := Finmap.insert playerId trustee room.trusteeByPlayer
        }.bumpSnapshotVersion false, true)

/-- `RoomManager::MarkSettling` on a room. -/
def markSettling (room : Room) : Room :=
  { room with state := .settling }.bumpSnapshotVersion false

/-- `RoomManager::MarkFinished` on a room. -/
def markFinished (room : Room) : Room :=
  { room with state := .finished }.bumpSnapshotVersion false

/-- `RoomManager::PickWinnerForOfflineLose` on a room. -/
def pickWinnerForOfflineLose (room : Room) (loserPlayerId : ℤ) : Option ℤ :=
  room.players.find? (· ≠ loserPlayerId)

end Room

end DdzServer
