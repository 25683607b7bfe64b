import DdzServer.Server.Agreement
import DdzServer.Server.RoomPush

/-!
# Hidden hands

Every player is sent no hand but his own. The cards are shuffled with a seed that is made of the id
of the room, though, and `MATCH_SUCCESS_NOTIFY` tells everybody this id and the order of the
players: who has read it can deal the cards again.
-/

namespace DdzServer

open UnorderedMap

/-! ### The hands that are dealt -/

/-- The hand of a player that `DealCards` makes for a room, from nothing but its id and players. -/
def dealtHand (rng : Shuffler) (roomId : ℤ) (players : List ℤ) (playerId : ℤ) : List ℤ :=
  let room : Room := { roomId := roomId, players := players }
  at' (Room.dealHands players (rng.shuffle room.dealSeed Room.deck) ∅) playerId []

namespace Room

variable {rng : Shuffler} {room room' : Room} {players : List ℤ}

/-- Two tables of hands give the players the same cards. -/
def SameHands (players : List ℤ) (hands hands' : UnorderedMap ℤ (List ℤ)) : Prop :=
  ∀ q ∈ players, at' hands q [] = at' hands' q []

lemma SameHands.insert {hands hands' : UnorderedMap ℤ (List ℤ)} (h : SameHands players hands hands')
    {hand hand' : List ℤ} (hhand : hand = hand') (pid : ℤ) :
    SameHands players (Finmap.insert pid hand hands) (Finmap.insert pid hand' hands') := by
  intro q hq
  rw [at'_insert, at'_insert, hhand, h q hq]

/-- After the first loop everybody's hand is empty. -/
lemma at'_cleared (l : List ℤ) (hands : UnorderedMap ℤ (List ℤ)) (q : ℤ) :
    at' (l.foldl (fun h pid => Finmap.insert pid [] h) hands) q [] =
      if q ∈ l then [] else at' hands q [] := by
  induction l generalizing hands with
  | nil => simp
  | cons pid l ih =>
    rw [List.foldl_cons, ih, at'_insert]
    by_cases hq : q = pid <;> simp [hq]

lemma SameHands.dealCards {hands hands' : UnorderedMap ℤ (List ℤ)} (hlen : players.length = 3)
    (h : SameHands players hands hands') (cards : List ℤ) (n : ℕ) :
    SameHands players ((List.range n).foldl (dealCard players cards) hands)
      ((List.range n).foldl (dealCard players cards) hands') := by
  induction n with
  | zero => exact h
  | succ n ih =>
    rw [List.range_succ, List.foldl_append, List.foldl_append]
    have hlt : n % 3 < players.length := by omega
    have hmem : players.getD (n % 3) 0 ∈ players := by
      rw [List.getD_eq_getElem _ _ hlt]
      exact List.getElem_mem hlt
    exact ih.insert (by rw [ih _ hmem]) _

lemma SameHands.sortHands (l : List ℤ) (hl : l ⊆ players) {hands hands' : UnorderedMap ℤ (List ℤ)}
    (h : SameHands players hands hands') :
    SameHands players
      (l.foldl (fun h pid => Finmap.insert pid (sortCards (at' h pid [])) h) hands)
      (l.foldl (fun h pid => Finmap.insert pid (sortCards (at' h pid [])) h) hands') := by
  induction l generalizing hands hands' with
  | nil => exact h
  | cons pid l ih =>
    obtain ⟨hpid, hl⟩ := List.cons_subset.mp hl
    exact ih hl (h.insert (by rw [h pid hpid]) pid)

/-- What was in the hands before the deal does not matter. -/
lemma sameHands_dealHands (hlen : players.length = 3) (cards : List ℤ)
    (hands hands' : UnorderedMap ℤ (List ℤ)) :
    SameHands players (dealHands players cards hands) (dealHands players cards hands') := by
  have hcleared : SameHands players
      (players.foldl (fun h pid => Finmap.insert pid [] h) hands)
      (players.foldl (fun h pid => Finmap.insert pid [] h) hands') := by
    intro q hq
    rw [at'_cleared, at'_cleared, if_pos hq, if_pos hq]
  exact (hcleared.dealCards hlen cards 51).sortHands players (List.Subset.refl _)

lemma dealt_of_rule {playerId : ℤ} {request : PlayerActionRequest} {written : Room} {ended : Bool}
    (h : ActionRule room playerId request written ended) : written.dealt = room.dealt := by
  cases h <;> rfl

lemma dealt_of_rejectRule {playerId : ℤ} {request : PlayerActionRequest} {written : Room}
    (h : RejectRule room playerId request written) : written.dealt = room.dealt := by
  cases h <;> rfl

/-- A first action moves no cards. -/
lemma hands_of_rule {playerId : ℤ} {request : PlayerActionRequest} {written : Room} {ended : Bool}
    (h : ActionRule room playerId request written ended) (hstate : room.state = .callScore) :
    written.hands = room.hands := by
  cases h with
  | callNext => rfl
  | callLast => rfl
  | robNext hs => simp [hstate] at hs
  | robLast hs => simp [hstate] at hs
  | passNext hs => simp [hstate] at hs
  | passLast hs => simp [hstate] at hs
  | play hs => simp [hstate] at hs
  | playLast hs => simp [hstate] at hs

lemma hands_of_rejectRule {playerId : ℤ} {request : PlayerActionRequest} {written : Room}
    (h : RejectRule room playerId request written) (hstate : room.state = .callScore) :
    written.hands = room.hands := by
  cases h with
  | unchanged => rfl
  | noLandlordHand hs => simp [hstate] at hs

/-- The start of a game is the only moment at which cards are dealt. -/
lemma startGame_deals (rng : Shuffler) (hbefore : room.dealt = false)
    (hafter : (room.startGame rng).dealt = true) :
    (room.startGame rng).state = .callScore ∧
      ∀ q ∈ room.players, (room.startGame rng).hand q =
        dealtHand rng room.roomId room.players q := by
  by_cases hw : room.state = .waitStart
  · by_cases hlen : room.players.length = 3
    · rw [startGame_of_undealt rng hw hlen hbefore]
      exact ⟨rfl, sameHands_dealHands hlen _ _ _⟩
    · rw [startGame, if_pos hw, dealCards, if_pos (Or.inl hlen)] at hafter
      simp [hbefore] at hafter
  · rw [startGame_of_ne hw, hbefore] at hafter
    cases hafter

end Room

/-- A step that deals the cards of a room gives everybody the hand that belongs to the id and the
players of the room. -/
lemma RoomStep.hand_of_deal {rng : Shuffler} {room room' : Room}
    {accepted : Option (PlayerActionRequest × PlayerActionResult)}
    (h : RoomStep rng room accepted room') (hbefore : room.dealt = false)
    (hafter : room'.dealt = true) :
    ∀ q ∈ room.players, room'.hand q = dealtHand rng room.roomId room.players q := by
  cases h with
  | unchanged => simp [hbefore] at hafter
  | accepted hact hrule =>
    obtain ⟨written, ended, hrule, rfl, rfl⟩ := hrule
    obtain ⟨hstate, hhands⟩ := Room.startGame_deals rng hbefore
      ((Room.dealt_of_rule hrule).symm.trans hafter)
    have hsame : written.hands = (room.startGame rng).hands := Room.hands_of_rule hrule hstate
    intro q hq
    rw [← hhands q hq, Room.hand, Room.hand, ← hsame]
    rfl
  | rejected hact hrule =>
    obtain ⟨hstate, hhands⟩ := Room.startGame_deals rng hbefore
      ((Room.dealt_of_rejectRule hrule).symm.trans hafter)
    intro q hq
    rw [← hhands q hq, Room.hand, Room.hand, Room.hands_of_rejectRule hrule hstate]
  | presence => simp [hbefore] at hafter
  | settling => simp [Room.markSettling, Room.bumpSnapshotVersion, hbefore] at hafter
  | finished => simp [Room.markFinished, Room.bumpSnapshotVersion, hbefore] at hafter

/-! ### What a player is told -/

/-- A message about a room to one player. -/
inductive PlayerMessage where
  | matchSuccess (roomId mode : ℤ) (players : List ℤ)
  | room (message : RoomMessage)
  | privateHand (roomId : ℤ) (cards : List ℤ) (snapshotVersion : ℤ)
  | playerReconnect (roomId playerId : ℤ)

/-- The room, the mode and the players of a `MATCH_SUCCESS_NOTIFY`. -/
def PlayerMessage.matched : PlayerMessage → Option (ℤ × ℤ × List ℤ)
  | .matchSuccess roomId mode players => some (roomId, mode, players)
  | _ => none

/-- What the last `MATCH_SUCCESS_NOTIFY` said. -/
def lastMatch (log : List PlayerMessage) : Option (ℤ × ℤ × List ℤ) :=
  (log.filterMap PlayerMessage.matched).getLast?

namespace GameServer

section Messages

variable (s : GameServer) (playerId : ℤ)

def isConnected : Bool := (s.sessions.getConnectionIdByPlayer playerId).isSome

/-- What `NotifyMatchSuccess` sends to the player. -/
def notifyMatchSuccess (roomId mode : ℤ) (players : List ℤ) : List PlayerMessage :=
  if playerId ∈ players ∧ s.isConnected playerId then [.matchSuccess roomId mode players] else []

/-- A message to the players of a room, as far as it is for the player. -/
def notifyRoom (roomId : ℤ) (message : PlayerMessage) : List PlayerMessage :=
  match s.rooms.getRoomById roomId with
  | none      => []
  | some room => if playerId ∈ room.players ∧ s.isConnected playerId then [message] else []

def notifyRoomStatePush (roomId : ℤ) (snapshot : RoomSnapshot) : List PlayerMessage :=
  s.notifyRoom playerId roomId (.room (.statePush snapshot))

/-- `NotifyRoomStatePushV2` with the snapshot of the room. -/
def notifyRoomStatePushV2 (roomId : ℤ) : List PlayerMessage :=
  match s.rooms.buildPushSnapshotV2ByRoomId roomId with
  | none          => []
  | some snapshot => s.notifyRoom playerId roomId (.room (.statePushV2 snapshot))

def notifyPrivateHandByConnection (roomId snapshotVersion : ℤ) : List PlayerMessage :=
  if roomId ≤ 0 then []
  else
    match (s.rooms.getRoomById roomId).bind fun room => room.hands.lookup playerId with
    | none       => []
    | some cards => [.privateHand roomId cards snapshotVersion]

def notifyPrivateHandsInRoom (roomId snapshotVersion : ℤ) : List PlayerMessage :=
  match s.rooms.getRoomById roomId with
  | none      => []
  | some room =>
    if room.dealt ∧ playerId ∈ room.players ∧ s.isConnected playerId then
      s.notifyPrivateHandByConnection playerId roomId snapshotVersion
    else []

/-- What the player is sent after an accepted action. -/
def notifyAction (roomId : ℤ) (snapshot : RoomSnapshot) : List PlayerMessage :=
  s.notifyRoomStatePush playerId roomId snapshot ++ s.notifyRoomStatePushV2 playerId roomId ++
    s.notifyPrivateHandsInRoom playerId roomId snapshot.snapshotVersion

/-- What the player is sent when `backId` comes back to a room. -/
def notifyRejoin (backId roomId : ℤ) (snapshot : RoomSnapshot) : List PlayerMessage :=
  let s := { s with rooms := (s.rooms.markPlayerOnline backId).1 }
  if playerId = backId then
    [.room (.snapshotNotify snapshot)] ++
      s.notifyPrivateHandByConnection playerId roomId snapshot.snapshotVersion ++
      s.notifyRoomStatePushV2 playerId roomId
  else
    s.notifyRoomStatePushV2 playerId roomId ++
      s.notifyRoom playerId roomId (.playerReconnect roomId backId)

/-- What an operation sends to the player. -/
def messages (rng : Shuffler) : ServerOp → List PlayerMessage
  | .login connectionId body nowMs redis =>
    let (s, r) := s.handleLogin connectionId body nowMs redis
    if r.code = .ok ∧ r.reconnectMode ∧ 0 < r.roomId then
      match s.rooms.buildSnapshotByRoomId r.roomId with
      | none          => []
      | some snapshot => s.notifyRejoin playerId r.playerId r.roomId snapshot
    else []
  | .reconnect connectionId body nowMs redis =>
    let (s, r) := s.handleReconnect connectionId body nowMs redis
    if r.code = .ok ∨ r.code = .snapshotVersionConflict then
      match r.snapshot with
      | none          => []
      | some snapshot => s.notifyRejoin playerId r.playerId snapshot.roomId snapshot
    else []
  | .requestMatch connectionId body nowMs =>
    let (s, r) := s.handleMatch connectionId body nowMs
    if r.matched then s.notifyMatchSuccess playerId r.roomId r.mode r.matchedPlayers else []
  | .inRoom ⟨.applyPlayerAction roomId pid request, _⟩ =>
    match s.rooms.applyPlayerAction rng roomId pid request with
    | (_, .error _)          => []
    | (rooms, .ok result) => { s with rooms := rooms }.notifyAction playerId roomId result.snapshot
  | .inRoom ⟨.applyTrusteeAction roomId pid, _⟩ =>
    match s.rooms.applyTrusteeAction rng roomId pid with
    | (_, .error _)          => []
    | (rooms, .ok result) => { s with rooms := rooms }.notifyAction playerId roomId result.snapshot
  | _ => []

end Messages

/-- All that a run sends to the player about rooms. -/
def told (rng : Shuffler) (playerId : ℤ) (s : GameServer) (ops : List ServerOp) :
    List PlayerMessage :=
  Run.history (step rng) (fun s op _ log => log ++ s.messages playerId rng op) s ops []

/-- The operation deals the cards of the room. -/
structure Deals (rng : Shuffler) (s : GameServer) (op : ServerOp) (room : Room) : Prop where
  before : ∃ undealt, s.rooms.rooms.find room.roomId = some undealt ∧ undealt.dealt = false
  live : (s.apply rng op).rooms.rooms.find room.roomId = some room
  dealt : room.dealt = true

/-- A run at whose end the cards of a room are dealt. -/
structure DealtRun (rng : Shuffler) (auth : AuthTokenService) (redisEnabled : Bool) where
  ops : List ServerOp
  op : ServerOp
  room : Room
  deals : ∃ s, Run.exec (step rng) (start auth redisEnabled) ops = some s ∧ s.Deals rng op room

namespace DealtRun

variable {rng : Shuffler} {auth : AuthTokenService} {redisEnabled : Bool}

/-- What the player was told by the end of the deal. -/
def told (run : DealtRun rng auth redisEnabled) (playerId : ℤ) : List PlayerMessage :=
  GameServer.told rng playerId (start auth redisEnabled) (run.ops ++ [run.op])

/-- The player was sent the same messages by the end of both deals, and among them the
`MATCH_SUCCESS_NOTIFY` of the room, and was dealt the same cards. -/
structure Alike (run run' : DealtRun rng auth redisEnabled) (playerId : ℤ) : Prop where
  told : run'.told playerId = run.told playerId
  matched : lastMatch (run.told playerId) =
    some (run.room.roomId, run.room.mode, run.room.players)
  matched' : lastMatch (run'.told playerId) =
    some (run'.room.roomId, run'.room.mode, run'.room.players)
  hand : run'.room.hand playerId = run.room.hand playerId

/-- Another run that the player cannot tell from this one has other hands for the others. -/
def Hidden (run : DealtRun rng auth redisEnabled) (playerId : ℤ) : Prop :=
  ∃ run', run.Alike run' playerId ∧
    ∃ q ∈ run.room.players, q ≠ playerId ∧ run'.room.hand q ≠ run.room.hand q

end DealtRun

/-! ### The deal of a server -/

variable {rng : Shuffler} {s : GameServer} {op : ServerOp} {room : Room}

/-- An operation on the rooms that deals cards. -/
lemma hand_of_roomOp (rng : Shuffler) {m : RoomManager} (rop : RoomOp) {undealt : Room}
    (hbefore : m.rooms.find room.roomId = some undealt) (hundealt : undealt.dealt = false)
    (hlive : (m.apply rng rop).rooms.find room.roomId = some room) (hdealt : room.dealt = true) :
    ∀ q ∈ room.players, room.hand q = dealtHand rng room.roomId room.players q := by
  have hstep := RoomManager.step_of_find rop hbefore hlive
  have hhands := hstep.hand_of_deal hundealt hdealt
  rw [← hstep.players, ← hstep.roomId] at hhands
  exact hhands

lemma dealt_of_settle {s' : GameServer} {d : ServerSettlementDecision} {nowMs : ℤ}
    {result : SettlementResult} (hrule : SettleRule s d nowMs s' result) {r : ℤ} {before : Room}
    (hbefore : s.rooms.rooms.find r = some before) (hlive : s'.rooms.rooms.find r = some room) :
    room.dealt = before.dealt := by
  have hmark : (s.rooms.markSettling d.roomId).1.rooms.find r =
      some (if d.roomId = r then before.markSettling else before) := by
    rw [RoomManager.find_markSettling, hbefore]
    split_ifs <;> rfl
  have hsame : (if d.roomId = r then before.markSettling else before).dealt = before.dealt := by
    split_ifs <;> rfl
  cases hrule with
  | invalid => rw [Option.some.inj (hbefore.symm.trans hlive)]
  | busy => rw [Option.some.inj (hbefore.symm.trans hlive)]
  | notFound => rw [Option.some.inj (hbefore.symm.trans hlive)]
  | failed => rw [← Option.some.inj (hmark.symm.trans hlive), hsame]
  | @settled gone =>
    change ((_ : RoomManager).destroyRoom gone.roomId).1.rooms.find r = some room at hlive
    rw [RoomManager.find_destroyRoom] at hlive
    split_ifs at hlive with hr
    rw [RoomManager.find_markFinished, if_neg (Ne.symm hr), hmark] at hlive
    rw [← Option.some.inj hlive, hsame]

/-- The hands that an operation deals. -/
theorem Deals.hand_eq (h : s.Deals rng op room) :
    ∀ q ∈ room.players, room.hand q = dealtHand rng room.roomId room.players q := by
  obtain ⟨⟨undealt, hbefore, hundealt⟩, hlive, hdealt⟩ := h
  -- operations that leave the room as it is deal nothing
  have hsame : (s.apply rng op).rooms.rooms.find room.roomId = some undealt →
      ∀ q ∈ room.players, room.hand q = dealtHand rng room.roomId room.players q := by
    intro hroom
    obtain rfl := Option.some.inj (hroom.symm.trans hlive)
    simp [hundealt] at hdealt
  cases op with
  | inRoom rop => exact hand_of_roomOp rng rop hbefore hundealt hlive hdealt
  | connectionClosed connectionId nowMs offlineAtMs =>
    rw [apply, onConnectionClosed] at hlive hsame
    cases hconn : s.sessions.getPlayerIdByConnection connectionId with
    | none =>
      rw [hconn] at hsame
      exact hsame hbefore
    | some p =>
      rw [hconn] at hlive
      exact hand_of_roomOp rng (.markPlayerOffline p offlineAtMs) hbefore hundealt hlive hdealt
  | settle d nowMs =>
    have heq := dealt_of_settle (settle_rule s d nowMs) hbefore hlive
    rw [hundealt, hdealt] at heq
    cases heq
  | requestMatch connectionId body nowMs =>
    have hrule := match_rule s connectionId body nowMs
    rw [apply] at hlive hsame
    generalize (s.handleMatch connectionId body nowMs).1 = s' at hrule hlive hsame
    cases hrule with
    | refused => exact hsame hbefore
    | waiting => exact hsame hbefore
    | @matched playerId player =>
      exact hand_of_roomOp rng
        (.createRoom 3 ((s.waitingWith player playerId nowMs).matching.waiting.take 3)) hbefore
        hundealt hlive hdealt
  | login connectionId body nowMs redis =>
    refine hsame ?_
    rw [apply]
    cases hp : s.loginPlayer body nowMs with
    | none => rwa [(handleLogin_of_none connectionId redis hp).1]
    | some p => rwa [(handleLogin_of_some connectionId redis hp).2.1]
  | reconnect connectionId body nowMs redis =>
    refine hsame ?_
    rw [apply]
    cases hp : s.reconnectPlayer body nowMs redis with
    | none => rwa [(handleReconnect_of_none connectionId hp).1]
    | some p =>
      obtain ⟨session, -, heq, -⟩ := handleReconnect_of_some connectionId hp
      rwa [heq]
  | sessionRefresh body nowMs redis =>
    obtain ⟨auth, heq⟩ := handleSessionRefresh_fst s body nowMs redis
    exact hsame (by rwa [apply, heq])
  | heartbeat => exact hsame hbefore
  | cancelMatch connectionId =>
    have hrule := cancel_rule s connectionId
    rw [apply] at hsame
    generalize (s.handleCancelMatch connectionId).1 = s' at hrule hsame
    cases hrule <;> exact hsame hbefore
  | matchTimeout => exact hsame hbefore
  | setTxFailpoint => exact hsame hbefore

/-! ### Nothing is hidden -/

/-- Who is told the same has the same cards dealt. -/
lemma DealtRun.Alike.hand_eq {auth : AuthTokenService} {redisEnabled : Bool}
    {run run' : DealtRun rng auth redisEnabled} {playerId : ℤ} (h : run.Alike run' playerId) {q : ℤ}
    (hq : q ∈ run.room.players) : run'.room.hand q = run.room.hand q := by
  have hmatched := h.matched'
  rw [h.told, h.matched, Option.some.injEq] at hmatched
  obtain ⟨hid, hrest⟩ := Prod.mk.inj hmatched
  obtain ⟨-, hplayers⟩ := Prod.mk.inj hrest
  obtain ⟨s, -, hdeals⟩ := run.deals
  obtain ⟨s', -, hdeals'⟩ := run'.deals
  rw [hdeals.hand_eq q hq, hdeals'.hand_eq q (hplayers ▸ hq), hid, hplayers]

/-- In no run that deals cards are the other hands hidden from a player: any other run in which the
player gets the same messages, the notification of the room among them, deals the same cards to
everybody. -/
theorem hands_never_hidden {auth : AuthTokenService} {redisEnabled : Bool}
    (run : DealtRun rng auth redisEnabled) (playerId : ℤ) : ¬ run.Hidden playerId := by
  rintro ⟨run', halike, q, hq, -, hne⟩
  exact hne (halike.hand_eq hq)

/-- The first of three players calls. -/
def openingCall : ServerOp :=
  .inRoom ⟨.applyPlayerAction 1 1 { actionType := .callScore, callScore := 1 }, rfl⟩

/-- The room of the three players after the first call. -/
def calledRoom : Room :=
  (((matchRun.foldl (apply .sorted) (start {} false)).apply .sorted openingCall).rooms.rooms.find
    1).getD {}

lemma deals_openingCall :
    (matchRun.foldl (apply .sorted) (start {} false)).Deals .sorted openingCall calledRoom := by
  have hfacts : calledRoom.roomId = 1 ∧ calledRoom.dealt = true ∧
      ((matchRun.foldl (apply .sorted) (start {} false)).rooms.rooms.find 1).map
        Room.dealt = some false ∧
      (((matchRun.foldl (apply .sorted) (start {} false)).apply .sorted
        openingCall).rooms.rooms.find 1).isSome := by
    decide +kernel
  obtain ⟨hid, hdealt, hbefore, hlive⟩ := hfacts
  refine ⟨?_, ?_, hdealt⟩
  · rw [hid]
    exact Option.map_eq_some_iff.mp hbefore
  · obtain ⟨room, hroom⟩ := Option.isSome_iff_exists.mp hlive
    rw [hid, hroom, calledRoom, hroom]
    rfl

/-- The run that deals the cards of the first room. -/
def calledRun : DealtRun .sorted {} false where
  ops := matchRun
  op := openingCall
  room := calledRoom
  deals := ⟨_, Run.exec_total _ _ _, deals_openingCall⟩

/-- The first player is told of the room, and the other two hands are not hidden from him. -/
theorem hands_known_after_first_call :
    1 ∈ calledRun.room.players ∧ calledRun.Alike calledRun 1 ∧ ¬ calledRun.Hidden 1 := by
  have hfacts : 1 ∈ calledRun.room.players ∧ lastMatch (calledRun.told 1) =
      some (calledRun.room.roomId, calledRun.room.mode, calledRun.room.players) := by
    decide +kernel
  refine ⟨hfacts.1, ⟨rfl, hfacts.2, hfacts.2, rfl⟩, ?_⟩
  rintro ⟨run', halike, q, hq, -, hne⟩
  exact hne (halike.hand_eq hq)

end GameServer

end DdzServer
