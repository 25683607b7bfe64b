import DdzServer.Room.Position

/-!
# The game of a room

A room plays the game: the actions it has accepted are a play from its deal, and in the position
they lead to it accepts exactly the legal moves.
-/

namespace DdzServer

open ClimbingGame Room RoomManager UnorderedMap

namespace Room

variable {rng : Shuffler} {room room' : Room} {playerId : ℤ} {request : PlayerActionRequest}
  {p : Position ℤ}

/-! ### The deal -/

/-- Seventeen cards for each seat, and three on the bottom. -/
structure IsDeal (p : Position ℤ) : Prop where
  hands : ∀ seat, (p.hands seat).card = 17
  bottom : p.bottom.card = 3
  cards : (List.ofFn p.hands).sum + p.bottom = deck
  stage : p.stage = .calling firstSeat 0 0

/-- The position of a room whose game has just begun. -/
def dealtPosition (room : Room) : Position ℤ where
  hands seat := room.hand (room.playerAt seat)
  bottom := room.landlordBottomCards
  stage := .calling firstSeat 0 0

lemma HasTrio.ofFn_playerAt (h : room.HasTrio) : List.ofFn room.playerAt = room.players := by
  refine List.ext_getElem (by simp [h.1]) fun i hi hi' => ?_
  rw [List.getElem_ofFn, playerAt, List.getD_eq_getElem]

lemma startGame_newRoom (rng : Shuffler) {roomId mode : ℤ} {players : List ℤ}
    (hlen : players.length = 3) :
    let cards := rng.shuffle (newRoom roomId mode players).dealSeed deck
    (newRoom roomId mode players).startGame rng =
      { newRoom roomId mode players with
        state := .callScore
        hands := dealHands players cards ∅
        landlordBottomCards := [cards.getD 51 0, cards.getD 52 0, cards.getD 53 0]
        dealt := true } :=
  startGame_of_undealt rng rfl hlen rfl

/-- A new room deals the deck. -/
lemma isDeal_newRoom (rng : Shuffler) (roomId mode : ℤ) {players : List ℤ}
    (hlen : players.length = 3) (hnd : players.Nodup) :
    IsDeal ((newRoom roomId mode players).startGame rng).dealtPosition := by
  have htrio : (newRoom roomId mode players).HasTrio := ⟨hlen, hnd⟩
  have hofFn : List.ofFn (newRoom roomId mode players).playerAt = players := htrio.ofFn_playerAt
  rw [startGame_newRoom rng hlen]
  have hperm := rng.perm (newRoom roomId mode players).dealSeed deck
  generalize rng.shuffle (newRoom roomId mode players).dealSeed deck = cards at hperm
  have hcards : cards.length = 54 := by rw [hperm.length_eq, length_deck]
  have hhand : ∀ seat, (at' (dealHands players cards ∅)
      ((newRoom roomId mode players).playerAt seat) []).length = 17 := fun seat =>
    length_dealHands hlen hnd (htrio.playerAt_mem seat) _
  refine ⟨hhand, rfl, ?_, rfl⟩
  have hhands : (List.ofFn fun seat => Multiset.ofList (at' (dealHands players cards ∅)
      ((newRoom roomId mode players).playerAt seat) [])).sum =
        handCards players (dealHands players cards ∅) := by
    have hmap : (players.map fun pid => Multiset.ofList (at' (dealHands players cards ∅) pid [])) =
        List.ofFn fun seat => Multiset.ofList (at' (dealHands players cards ∅)
          ((newRoom roomId mode players).playerAt seat) []) := by
      conv_lhs => arg 2; rw [← hofFn]
      rw [List.map_ofFn]
      rfl
    rw [← hmap]
    rfl
  have hbottom : cards.drop 51 = [cards.getD 51 0, cards.getD 52 0, cards.getD 53 0] := by
    refine List.ext_getElem (by simp [hcards]) fun i hi hi' => ?_
    rw [List.getElem_drop]
    match i, hi' with
    | 0, _ | 1, _ | 2, _ => simp [hcards]
  change (List.ofFn fun seat => Multiset.ofList (at' (dealHands players cards ∅)
      ((newRoom roomId mode players).playerAt seat) [])).sum +
    Multiset.ofList [cards.getD 51 0, cards.getD 52 0, cards.getD 53 0] = (deck : Multiset ℤ)
  rw [hhands, handCards_dealHands hnd hlen (by omega), ← hbottom, Multiset.coe_add,
    List.take_append_drop, Multiset.coe_eq_coe]
  exact hperm

/-- The game of a new room is at its deal. -/
lemma isAt_newRoom (rng : Shuffler) (roomId mode : ℤ) {players : List ℤ}
    (hlen : players.length = 3) (hnd : players.Nodup) :
    ((newRoom roomId mode players).startGame rng).IsAt
      ((newRoom roomId mode players).startGame rng).dealtPosition := by
  have htrio : (newRoom roomId mode players).HasTrio := ⟨hlen, hnd⟩
  rw [startGame_newRoom rng hlen]
  refine ⟨fun seat => ?_, rfl, rfl, rfl, by decide, ?_, rfl, Or.inr ⟨rfl, rfl⟩, rfl⟩
  · obtain ⟨hand, hhand⟩ := Option.ne_none_iff_exists'.mp
      (lookup_dealHands_ne_none (rng.shuffle (newRoom roomId mode players).dealSeed deck) ∅
        (htrio.playerAt_mem seat))
    exact ⟨hand, hhand, (congrArg _ (hand_of_lookup hhand)).symm⟩
  · rw [goRound_zero]
    obtain ⟨a, b, c, rfl⟩ := List.length_eq_three.mp hlen
    rfl

/-! ### Every step of a room -/

/-- The action is the move of its player's seat. -/
def IsMoveOf (players : List ℤ) (a : AcceptedAction) (m : Seat × Move ℤ) : Prop :=
  players.getD m.1.val 0 = a.playerId ∧ moveOf a.request = some m.2

/-- The log of a room is a play of the game; as long as the room takes actions, it is where this
play leads. -/
structure PlaysFrom (room : Room) (rng : Shuffler) (start : Position ℤ)
    (log : List AcceptedAction) : Prop where
  trio : room.HasTrio
  pos : ∀ q ∈ room.players, 0 < q
  wf : room.WellFormed
  game : ∃ moves p, List.Forall₂ (IsMoveOf room.players) log moves ∧
    Play fightTheLandlord start moves p ∧ (¬ room.state.IsOver → (room.startGame rng).IsAt p)

/-- Who is online, and the numbers of the snapshots, say nothing about the game. -/
lemma IsAt.present (h : room.IsAt p) (online trustee : UnorderedMap ℤ Bool)
    (offlineAtMs : UnorderedMap ℤ ℤ) (version seq : ℤ) :
    IsAt { room with
      onlineByPlayer := online
      trusteeByPlayer := trustee
      offlineAtMsByPlayer := offlineAtMs
      snapshotVersion := version
      lastActionSeq := seq } p := by
  refine ⟨h.hands, h.bottom, ?_⟩
  have hstage := h.stage
  cases hp : p.stage <;> rw [hp] at hstage
  case calling =>
    exact ⟨hstage.1, hstage.2, hstage.3, hstage.4, hstage.5, hstage.6, hstage.7⟩
  case robbing =>
    exact ⟨hstage.1, hstage.2, hstage.3, hstage.4, hstage.5, hstage.6, hstage.7, hstage.8⟩
  case leading =>
    exact ⟨hstage.1, hstage.2, hstage.3, hstage.4, hstage.5, hstage.6⟩
  case following =>
    exact ⟨hstage.1, hstage.2, hstage.3, hstage.4, hstage.5, hstage.6, hstage.7, hstage.8,
      hstage.9, hstage.10⟩
  case won =>
    exact ⟨hstage.1, hstage.2, hstage.3, hstage.4, hstage.5⟩

lemma startGame_present (rng : Shuffler) (room : Room) (online trustee : UnorderedMap ℤ Bool)
    (offlineAtMs : UnorderedMap ℤ ℤ) (version : ℤ) :
    startGame rng { room with
      onlineByPlayer := online
      trusteeByPlayer := trustee
      offlineAtMsByPlayer := offlineAtMs
      snapshotVersion := version } =
    { room.startGame rng with
      onlineByPlayer := online
      trusteeByPlayer := trustee
      offlineAtMsByPlayer := offlineAtMs
      snapshotVersion := version } := by
  simp only [startGame, dealCards]
  split_ifs <;> rfl

/-- The rules leave a room that has begun its game. -/
lemma ActionRule.state_ne {written : Room} {ended : Bool}
    (h : ActionRule room playerId request written ended) : written.state ≠ .waitStart := by
  cases h with
  | callNext hs => simp [recordCall, hs]
  | callLast => simp [endCalls]
  | robNext hs => simp [recordRob, hs]
  | robLast => simp [startPlaying]
  | passNext hs => simp [hs]
  | passLast hs => simp [clearTable, hs]
  | play hs => simp [putCards, hs]
  | playLast => simp

lemma startGame_startGame (rng : Shuffler) (room : Room) :
    (room.startGame rng).startGame rng = room.startGame rng := by
  refine startGame_of_ne ?_
  by_cases hw : room.state = .waitStart
  · rw [startGame_state rng hw]
    decide
  · rwa [startGame_of_ne hw]

lemma startGame_ne_settling (rng : Shuffler) (h : room.state ≠ .settling) :
    (room.startGame rng).state ≠ .settling := by
  by_cases hw : room.state = .waitStart
  · rw [startGame_state rng hw]
    decide
  · rwa [startGame_of_ne hw]

/-- Where the operator of an open room sits. -/
lemma IsAt.seat_of_canAct (h : (room.startGame rng).IsAt p) (hact : room.CanAct playerId) :
    ∃ seat, p.stage.turn = some seat ∧ (room.startGame rng).playerAt seat = playerId ∧
      (room.startGame rng).currentOperatorPlayerId = (room.startGame rng).playerAt seat := by
  obtain ⟨seat, hseat, hturn⟩ := h.turn (startGame_ne_settling rng hact.notSettling)
  refine ⟨seat, hseat, ?_, hturn⟩
  rw [← hturn, startGame_currentOperator, hact.turn]

end Room

open Room

/-- An accepted action goes on with the play, and nothing else changes it. -/
theorem RoomStep.playsFrom {rng : Shuffler} {room room' : Room} {log : List AcceptedAction}
    {start : Position ℤ} {accepted : Option (PlayerActionRequest × PlayerActionResult)}
    (roomId : ℤ) (h : RoomStep rng room accepted room') (hI : room.PlaysFrom rng start log) :
    room'.PlaysFrom rng start (log ++ logged roomId room accepted) := by
  obtain ⟨htrio, hpos, hwf, moves, p, hmoves, hplay, hat⟩ := hI
  have hplayers := h.players
  have hmoves' : List.Forall₂ (IsMoveOf room'.players) log moves := hplayers ▸ hmoves
  refine ⟨h.hasTrio.mpr htrio, hplayers ▸ hpos, h.wellFormed htrio hwf, ?_⟩
  cases h with
  | unchanged =>
    rw [logged_none, List.append_nil]
    exact ⟨moves, p, hmoves', hplay, hat⟩
  | @accepted playerId request _ result hact hrule =>
    obtain ⟨written, ended, hrule, rfl, -⟩ := hrule
    have hstart := hat fun hover => hover.elim hact.notSettling hact.notFinished
    have hstarted := startGame_players rng room
    obtain ⟨seat, hseat, hplayer, hturn⟩ := hstart.seat_of_canAct hact
    rw [← hplayer] at hrule
    obtain ⟨move, p', hmove, hlegal, hwritten⟩ := hstart.rule ((hasTrio_startGame rng).mpr htrio)
      (hstarted.symm ▸ hpos) hseat hturn hrule
    refine ⟨moves ++ [(seat, move)], p', List.rel_append hmoves' (.cons ⟨?_, hmove⟩ .nil),
      .concat hplay hlegal, fun _ => ?_⟩
    · rw [hplayers, ← hstarted]
      exact hplayer.trans hact.turn.symm
    · have hbegun : (written.bumpSnapshotVersion true).state ≠ .waitStart := hrule.state_ne
      rw [startGame_of_ne hbegun]
      exact hwritten.present _ _ _ _ _
  | rejected hact hrule =>
    -- such an action leaves the deal and nothing else
    have hmem := hact.mem
    rw [← startGame_players rng] at hmem
    have htrio' := (hasTrio_startGame rng).mpr htrio
    have hroom := ((hwf.startGame htrio).rejectRule htrio' hmem hrule).1
    rw [logged_none, List.append_nil]
    refine ⟨moves, p, hmoves', hplay, fun _ => ?_⟩
    rw [hroom, startGame_startGame]
    exact hat fun hover => hover.elim hact.notSettling hact.notFinished
  | presence =>
    rw [logged_none, List.append_nil]
    refine ⟨moves, p, hmoves', hplay, fun hopen => ?_⟩
    rw [startGame_present]
    exact (hat hopen).present _ _ _ _ _
  | settling =>
    rw [logged_none, List.append_nil]
    exact ⟨moves, p, hmoves', hplay, fun hopen => absurd (Or.inl rfl) hopen⟩
  | finished =>
    rw [logged_none, List.append_nil]
    exact ⟨moves, p, hmoves', hplay, fun hopen => absurd (Or.inr rfl) hopen⟩

/-! ### The game of every run -/

/-- What a result says of the stage that its action has led to. -/
def PlayerActionResult.Announces (result : PlayerActionResult) (playerId : ℤ) : Stage ℤ → Prop
  | .won _ stake _ =>
    result.gameOver = true ∧ result.winnerPlayerId = playerId ∧ result.baseCoin = stake
  | _              => result.gameOver = false

namespace Room

variable {rng : Shuffler} {room : Room} {playerId : ℤ} {request : PlayerActionRequest}
  {p : Position ℤ}

/-- The written room is over when the result says so. -/
lemma IsAt.announces {written : Room} {ended : Bool} (h : written.IsAt p)
    (hrule : ActionRule room playerId request written ended) :
    ((written.bumpSnapshotVersion true).actionResult playerId ended).Announces playerId
      p.stage := by
  have hover := hrule.isOver_iff
  have hstage := h.stage
  cases hp : p.stage <;> rw [hp] at hstage
  case won landlord stake winner =>
    have hended : ended = true := hover.mp (Or.inl hstage.state)
    refine ⟨hended, if_pos hended, ?_⟩
    have hbase : written.baseCoin = stake := hstage.base
    have hstake := hstage.stake_pos
    refine (if_pos hended).trans ?_
    change max 1 written.baseCoin = _
    rw [hbase]
    exact max_eq_right (by omega)
  all_goals
    have hnot : ¬ written.state.IsOver := by
      rw [hstage.state]
      simp [RoomState.IsOver]
    exact Bool.eq_false_iff.mpr (mt hover.mpr hnot)

/-- The room accepts exactly the legal moves of a position. A result says whether its move wins. -/
structure Referees (room : Room) (rng : Shuffler) (p : Position ℤ) : Prop where
  sound : ∀ playerId request result, (room.applyPlayerAction rng playerId request).2 = .ok result →
    request.PassesBare ∧ ∃ seat move p', room.players.getD seat.val 0 = playerId ∧
      moveOf request = some move ∧ Legal fightTheLandlord p seat move p' ∧
      result.Announces playerId p'.stage
  complete : ∀ seat request move p', moveOf request = some move → request.PassesBare →
    Legal fightTheLandlord p seat move p' →
    ∃ result, (room.applyPlayerAction rng (room.players.getD seat.val 0) request).2 = .ok result

/-- In a position of the game a room accepts exactly the legal moves. -/
theorem IsAt.referees (h : (room.startGame rng).IsAt p) (htrio : room.HasTrio)
    (hpos : ∀ q ∈ room.players, 0 < q) (hwf : room.WellFormed) (hopen : ¬ room.state.IsOver) :
    room.Referees rng p := by
  have hstarted := startGame_players rng room
  have htrio' := (hasTrio_startGame rng).mpr htrio
  constructor
  · intro playerId request result hok
    obtain ⟨hact, written, ended, hrule, hroom, hresult⟩ := accepted_of_apply (Prod.ext rfl hok)
    obtain ⟨seat, hseat, hplayer, hturn⟩ := h.seat_of_canAct hact
    rw [← hplayer] at hrule
    obtain ⟨move, p', hmove, hlegal, hwritten⟩ :=
      h.rule htrio' (hstarted.symm ▸ hpos) hseat hturn hrule
    refine ⟨((ok_iff_rule rng hact request).mp ⟨result, hok⟩).1, seat, move, p', ?_, hmove, hlegal,
      ?_⟩
    · rw [← hstarted]
      exact hplayer
    · rw [hresult, hroom, ← hplayer]
      exact hwritten.announces hrule
  · intro seat request move p' hmove hbare hlegal
    obtain ⟨seat', hseat', hturn⟩ :=
      h.turn (startGame_ne_settling rng fun hs => hopen (Or.inl hs))
    obtain rfl : seat = seat' := Option.some.inj (hlegal.turn.symm.trans hseat')
    have hat : (room.startGame rng).playerAt seat = room.players.getD seat.val 0 := by
      rw [playerAt, hstarted]
    have hact : room.CanAct (room.players.getD seat.val 0) := by
      refine ⟨?_, ?_, fun hs => hopen (Or.inl hs), fun hs => hopen (Or.inr hs)⟩
      · rw [← hat, ← hstarted]
        exact htrio'.playerAt_mem seat
      · rw [← startGame_currentOperator rng, hturn, hat]
    have hrules := h.exists_rule htrio' (hwf.startGame htrio) hmove hlegal
    rw [hat] at hrules
    exact (ok_iff_rule rng hact request).mpr ⟨hbare, hrules⟩

end Room

namespace RoomManager

variable {rng : Shuffler} {m m₀ : RoomManager} {mode : ℤ} {players : List ℤ} {ops : List RoomOp}

/-- The room of three distinct players is created with a deal of the deck. Whatever is done to the
rooms then, the actions that it has accepted are a play of the game from this deal; and as long as
it is neither settled nor finished, it accepts exactly the legal moves of the position to which the
play has led, and announces the winner and the stake when one of them wins. -/
theorem room_plays_game (hlen : players.length = 3) (hnd : players.Nodup)
    (hpos : ∀ q ∈ players, 0 < q)
    (hrun : Run.exec (step rng) (m₀.createRoom mode players).1 ops = some m) :
    let roomId := (m₀.createRoom mode players).2
    let log := actionsOn roomId
      (Run.history (step rng) (recordAccepted rng) (m₀.createRoom mode players).1 ops [])
    ∃ deal moves p, IsDeal deal ∧ List.Forall₂ (IsMoveOf players) log moves ∧
      Play fightTheLandlord deal moves p ∧
      ∀ room, m.rooms.find roomId = some room → ¬ room.state.IsOver →
        room.players = players ∧ room.Referees rng p := by
  intro roomId log
  let deal := ((newRoom m₀.rooms.nextId mode players).startGame rng).dealtPosition
  obtain ⟨room, ⟨hplayers, hplays⟩, hlive⟩ := created_history
    (I := fun room log => room.players = players ∧ room.PlaysFrom rng deal log)
    ⟨rfl, ⟨hlen, hnd⟩, hpos, wellFormed_newRoom _ _ _, [], deal, .nil, .nil,
      fun _ => isAt_newRoom rng _ _ hlen hnd⟩
    (fun room accepted room' log hI h => ⟨h.players.trans hI.1, h.playsFrom _ hI.2⟩) hrun
  obtain ⟨htrio, hpos', hwf, moves, p, hmoves, hplay, hat⟩ := hplays
  refine ⟨deal, moves, p, isDeal_newRoom rng _ _ hlen hnd, hplayers ▸ hmoves, hplay, ?_⟩
  intro room' hfind hopen
  obtain rfl := hlive room' hfind
  exact ⟨hplayers, (hat hopen).referees htrio hpos' hwf hopen⟩

/-- After a call of 3 the game of players 1, 2 and 3 is one move from its deal. -/
theorem room_plays_game_after_call :
    ∃ m room, Run.exec (step .sorted) (createRoom {} 3 [1, 2, 3]).1
        [.applyPlayerAction 1 1 { callScore := 3 }] = some m ∧
      m.rooms.find 1 = some room ∧ room.state = .robLandlord ∧
      ∃ deal moves p, IsDeal deal ∧ moves.length = 1 ∧ Play fightTheLandlord deal moves p ∧
        room.Referees .sorted p := by
  have hfacts : ((Run.exec (step .sorted) (createRoom {} 3 [1, 2, 3]).1
      [.applyPlayerAction 1 1 { callScore := 3 }]).map fun m =>
        (m.rooms.find 1).map Room.state) = some (some .robLandlord) := by decide +kernel
  have hlog : (actionsOn 1 (Run.history (step .sorted) (recordAccepted .sorted)
      (createRoom {} 3 [1, 2, 3]).1 [.applyPlayerAction 1 1 { callScore := 3 }] [])).length =
        1 := by
    decide +kernel
  obtain ⟨m, hm, hroom⟩ := Option.map_eq_some_iff.mp hfacts
  obtain ⟨room, hfind, hstate⟩ := Option.map_eq_some_iff.mp hroom
  obtain ⟨deal, moves, p, hdeal, hmoves, hplay, hlive⟩ :=
    room_plays_game (by decide) (by decide) (by decide) hm
  refine ⟨m, room, hm, hfind, hstate, deal, moves, p, hdeal, ?_, hplay,
    (hlive room hfind (by simp [RoomState.IsOver, hstate])).2⟩
  rw [← hmoves.length_eq]
  exact hlog

end RoomManager

end DdzServer
