import DdzServer.Room.GameLength
import DdzServer.Room.GameOver

/-!
# Trustees

`ApplyTrusteeAction` picks an action that the checks of `ApplyPlayerAction` let through, whatever
lies on the table. So a game that is left to trustees goes on, and since it is finite it ends.
-/

namespace DdzServer

open Room RoomManager UnorderedMap

lemma cardRank_ne_zero {c : ℤ} (h0 : 0 ≤ c) (h53 : c ≤ 53) : cardRank c ≠ 0 := by
  unfold cardRank
  split_ifs <;> omega

/-- Every single card is a combo. -/
lemma analyze_single_valid {c : ℤ} (h : c ∈ Room.deck) : (analyze [c]).valid = true := by
  obtain ⟨h0, h53⟩ := mem_deck.mp h
  have hrank := (cardRank_ne_zero h0 h53).symm
  simp [analyze, hrank]

namespace Room

variable {rng : Shuffler} {room room' : Room} {playerId : ℤ} {request : PlayerActionRequest}
  {log : List AcceptedAction}

/-- The states in which the operator is asked for an action after the deal. -/
def OnTurn (room : Room) : Prop :=
  room.state = .callScore ∨ room.state = .robLandlord ∨ room.state = .playing

/-! ### The operator -/

lemma HasTrio.nextOperator_mem (h : room.HasTrio) (hp : playerId ∈ room.players) :
    room.nextOperator playerId ∈ room.players := by
  rw [h.nextOperator_eq hp]
  exact h.seatAfter_mem playerId 1

/-- The turn always goes to a player. -/
lemma operator_mem_rule {written : Room} {ended : Bool} (hwf : room.WellFormed)
    (htrio : room.HasTrio) (htrick : room.InTrick log) (hp : playerId ∈ room.players)
    (hrule : ActionRule room playerId request written ended) :
    written.currentOperatorPlayerId ∈ written.players := by
  have hnext := htrio.nextOperator_mem hp
  cases hrule with
  | callNext => exact hnext
  | callLast =>
    change (room.recordCall playerId request.callScore).highestCaller ∈
      (room.recordCall playerId request.callScore).players
    refine highestCaller_mem htrio.ne_nil ?_
    simp only [recordCall]
    split_ifs
    · exact Or.inr hp
    · exact hwf.caller
  | robNext => exact hnext
  | robLast => exact hwf.finalLandlord_mem htrio hp request.rob
  | passNext => exact hnext
  | passLast hs htype htable =>
    obtain ⟨prev, -, -, -, hplayer, hmem, -⟩ := (htrick.table hs).follow_of_ne htrio htable
    rw [← hplayer] at hmem
    exact hmem
  | play => exact hnext
  | playLast => exact hp

/-- All that the choice of a trustee rests on. -/
structure Playable (room : Room) (log : List AcceptedAction) : Prop where
  game : room.GameInvariant log
  ends : room.EndsOnce log
  operator : room.currentOperatorPlayerId ∈ room.players
  conserved : ∃ played merged, room.Conserved played merged

lemma playable_newRoom (roomId mode : ℤ) {players : List ℤ} (hlen : players.length = 3)
    (hnd : players.Nodup) : (newRoom roomId mode players).Playable [] where
  game := ⟨⟨hlen, hnd⟩, wellFormed_newRoom _ _ _, inTrick_newRoom _ _ _, budget_newRoom _ _ _⟩
  ends := endsOnce_newRoom _ _ _
  operator := by
    obtain ⟨a, b, c, rfl⟩ := List.length_eq_three.mp hlen
    exact List.mem_cons_self
  conserved := ⟨0, False, conserved_newRoom _ _ _⟩

lemma mem_handCards (h : room.HasTrio) {p c : ℤ} (hp : p ∈ room.players) (hc : c ∈ room.hand p) :
    c ∈ handCards room.players room.hands := by
  have hsplit := handCards_insert h.2 hp room.hands []
  rw [Multiset.coe_nil, add_zero] at hsplit
  rw [← hsplit]
  exact Multiset.mem_add.mpr (Or.inr (Multiset.mem_coe.mpr hc))

/-- Everyone holds cards of the deck. -/
lemma Playable.mem_deck (h : room.Playable log) (hturn : room.OnTurn) {p c : ℤ}
    (hp : p ∈ room.players) (hc : c ∈ room.hand p) : c ∈ deck := by
  obtain ⟨played, merged, hcons⟩ := h.conserved
  obtain ⟨hmerged, hunmerged⟩ := hcons.cards (h.game.wellFormed.dealt hturn)
  have hmem := mem_handCards h.game.trio hp hc
  rw [← Multiset.mem_coe]
  by_cases hm : merged
  · rw [← hmerged hm]
    exact Multiset.mem_add.mpr (Or.inl hmem)
  · rw [← hunmerged hm, add_assoc]
    exact Multiset.mem_add.mpr (Or.inl hmem)

end Room

/-- Every step keeps what the choice of a trustee rests on. -/
theorem RoomStep.playable {rng : Shuffler} {room room' : Room} {log : List AcceptedAction}
    {accepted : Option (PlayerActionRequest × PlayerActionResult)} (roomId : ℤ)
    (h : RoomStep rng room accepted room') (hI : room.Playable log) :
    room'.Playable (log ++ logged roomId room accepted) := by
  have hgame := h.gameInvariant roomId hI.game
  obtain ⟨⟨htrio, hwf, htrick, -⟩, hends, hoperator, played, merged, hcons⟩ := hI
  refine ⟨hgame, h.endsOnce roomId htrio hwf hends, ?_,
    ⟨_, _, h.conserved htrio hwf hcons⟩⟩
  have hstarted : (room.startGame rng).currentOperatorPlayerId ∈ (room.startGame rng).players := by
    rwa [startGame_currentOperator, startGame_players]
  have htrio' := (hasTrio_startGame rng).mpr htrio
  cases h with
  | unchanged => exact hoperator
  | accepted hact hrule =>
    obtain ⟨written, ended, hrule, rfl, -⟩ := hrule
    have hp := hact.mem
    rw [← startGame_players rng] at hp
    have hmem := operator_mem_rule (hwf.startGame htrio) htrio' (htrick.startGame rng) hp hrule
    exact hmem
  | rejected hact hrule =>
    have hp := hact.mem
    rw [← startGame_players rng] at hp
    rwa [((hwf.startGame htrio).rejectRule htrio' hp hrule).1]
  | presence => exact hoperator
  | settling => exact hoperator
  | finished => exact hoperator

/-! ### The choice is accepted -/

namespace Room

variable {rng : Shuffler} {room room' : Room} {playerId : ℤ} {request : PlayerActionRequest}
  {log : List AcceptedAction}

lemma OnTurn.startGame (rng : Shuffler) (h : room.OnTurn) : room.startGame rng = room := by
  refine startGame_of_ne fun hw => ?_
  rcases h with h | h | h <;> rw [h] at hw <;> cases hw

/-- A request of the operator gets to the branch of its phase. -/
lemma applyPlayerAction_of_onTurn (rng : Shuffler)
    (hp : room.currentOperatorPlayerId ∈ room.players) (request : PlayerActionRequest) :
    (room.state = .callScore → room.applyPlayerAction rng room.currentOperatorPlayerId request =
      room.actCallScore room.currentOperatorPlayerId request) ∧
    (room.state = .robLandlord → room.applyPlayerAction rng room.currentOperatorPlayerId request =
      room.actRobLandlord room.currentOperatorPlayerId request) ∧
    (room.state = .playing → room.applyPlayerAction rng room.currentOperatorPlayerId request =
      room.actPlaying room.currentOperatorPlayerId request) := by
  have hstart : room.OnTurn → room.startGame rng = room := fun h => h.startGame rng
  refine ⟨fun hs => ?_, fun hs => ?_, fun hs => ?_⟩
  · simp [applyPlayerAction, hp, hs, hstart (Or.inl hs)]
  · simp [applyPlayerAction, hp, hs, hstart (Or.inr (Or.inl hs))]
  · simp [applyPlayerAction, hp, hs, hstart (Or.inr (Or.inr hs))]

/-- No score is a call. -/
lemma accepts_call (playerId : ℤ) :
    ∃ result, (room.actCallScore playerId { actionType := .callScore, callScore := 0 }).2 =
      .ok result := by
  simp only [actCallScore]
  split_ifs
  · simp_all
  · simp_all
  · exact ⟨_, rfl⟩
  · exact ⟨_, rfl⟩

/-- Not to rob is an answer, since the landlord has a hand. -/
lemma accepts_rob (hwf : room.WellFormed) (htrio : room.HasTrio) (hp : playerId ∈ room.players)
    (hs : room.state = .robLandlord) :
    ∃ result, (room.actRobLandlord playerId { actionType := .robLandlord, rob := 0 }).2 =
      .ok result := by
  simp only [actRobLandlord]
  split_ifs
  · simp_all
  · simp_all
  · have hhand := hwf.hands (hwf.dealt (Or.inr (Or.inl hs))) _ (hwf.finalLandlord_mem htrio hp 0)
    split
    next hnone => exact absurd hnone hhand
    next => exact ⟨_, rfl⟩
  · exact ⟨_, rfl⟩

/-- A single card of the hand that may be played is accepted. -/
lemma accepts_single {c : ℤ} (hc : c ∈ room.hand playerId) (hdeck : c ∈ deck)
    (hbeats : room.beatsTable playerId [c] = true) :
    ∃ result, (room.actPlaying playerId { actionType := .playCards, cards := [c] }).2 =
      .ok result := by
  simp only [actPlaying]
  rw [if_neg (by simp), if_neg (by simp), if_neg (by simp)]
  split
  next hnone =>
    rw [Room.hand, at', hnone] at hc
    cases hc
  next hand hhand =>
    rw [hand_of_lookup hhand] at hc
    simp only [actPlayCards, removeCards_eq, analyze_single_valid hdeck, hbeats]
    rw [if_neg (by simp), if_neg (by simp), if_pos (List.singleton_subperm_iff.mpr hc)]
    dsimp only
    rw [if_neg (by simp)]
    split_ifs
    · exact ⟨_, rfl⟩
    · exact ⟨_, rfl⟩

/-- A pass is accepted when another player's cards lie on the table. -/
lemma accepts_pass (htable : room.lastPlayCards ≠ []) (hlead : room.lastPlayPlayerId ≠ playerId) :
    ∃ result, (room.actPlaying playerId { actionType := .pass }).2 = .ok result := by
  simp only [actPlaying, actPass]
  rw [if_pos trivial, if_neg (by simp), if_neg htable, if_neg hlead]
  split_ifs
  · exact ⟨_, rfl⟩
  · exact ⟨_, rfl⟩

/-- The request that a trustee makes is accepted. -/
theorem Playable.accepts_trustee (rng : Shuffler) (h : room.Playable log) (hturn : room.OnTurn) :
    ∃ request result, room.trusteeRequest room.currentOperatorPlayerId = .ok request ∧
      (room.applyPlayerAction rng room.currentOperatorPlayerId request).2 = .ok result := by
  have hp := h.operator
  obtain ⟨htrio, hwf, htrick, -⟩ := h.game
  have happly := applyPlayerAction_of_onTurn rng hp
  rw [trusteeRequest, if_neg (not_not.mpr rfl)]
  rcases hturn with hs | hs | hs
  · obtain ⟨result, hresult⟩ := room.accepts_call room.currentOperatorPlayerId
    simp only [hs]
    exact ⟨_, result, rfl, by rw [(happly _).1 hs, hresult]⟩
  · obtain ⟨result, hresult⟩ := accepts_rob hwf htrio hp hs
    simp only [hs]
    exact ⟨_, result, rfl, by rw [(happly _).2.1 hs, hresult]⟩
  · have hne := h.ends.hands (Or.inr (Or.inr hs)) _ hp
    have hdeck : ∀ c ∈ room.hand room.currentOperatorPlayerId, c ∈ deck := fun c hc =>
      h.mem_deck (Or.inr (Or.inr hs)) hp hc
    simp only [hs]
    split_ifs with hlead
    · -- the trustee leads its first card
      cases hhand : room.hand room.currentOperatorPlayerId with
      | nil => exact absurd hhand hne
      | cons c rest =>
        have hc : c ∈ room.hand room.currentOperatorPlayerId := hhand ▸ List.mem_cons_self
        have hbeats : room.beatsTable room.currentOperatorPlayerId [c] = true := by
          simp only [beatsTable, decide_eq_true_eq]
          tauto
        obtain ⟨result, hresult⟩ := accepts_single hc (hdeck c hc) hbeats
        exact ⟨_, result, rfl, by rw [(happly _).2.2 hs, hresult]⟩
    · obtain ⟨htable, hleader⟩ := not_or.mp hlead
      cases hcard : room.trusteeCard room.currentOperatorPlayerId with
      | some c =>
        have hc : c ∈ room.hand room.currentOperatorPlayerId := List.mem_of_find?_eq_some hcard
        have hchosen := List.find?_some hcard
        rw [Bool.and_eq_true] at hchosen
        have hbeats : room.beatsTable room.currentOperatorPlayerId [c] = true := by
          simp only [beatsTable, hchosen.2, or_true, decide_true]
        obtain ⟨result, hresult⟩ := accepts_single hc (hdeck c hc) hbeats
        exact ⟨_, result, rfl, by rw [(happly _).2.2 hs, hresult]⟩
      | none =>
        obtain ⟨result, hresult⟩ := accepts_pass htable hleader
        exact ⟨_, result, rfl, by rw [(happly _).2.2 hs, hresult]⟩

/-- The game goes on until it is over. -/
lemma ActionRule.onTurn {written : Room}
    (hrule : ActionRule room playerId request written false) : written.OnTurn := by
  cases hrule with
  | callNext hs => exact Or.inl hs
  | callLast => exact Or.inr (Or.inl rfl)
  | robNext hs => exact Or.inr (Or.inl hs)
  | robLast => exact Or.inr (Or.inr rfl)
  | passNext hs => exact Or.inr (Or.inr hs)
  | passLast hs => exact Or.inr (Or.inr hs)
  | play hs => exact Or.inr (Or.inr hs)

end Room

lemma RoomStep.onTurn {rng : Shuffler} {room room' : Room} {request : PlayerActionRequest}
    {result : PlayerActionResult} (h : RoomStep rng room (some (request, result)) room')
    (hover : result.gameOver = false) : room'.OnTurn := by
  cases h with
  | accepted hact hrule =>
    obtain ⟨written, ended, hrule, rfl, rfl⟩ := hrule
    obtain rfl : ended = false := hover
    exact hrule.onTurn

/-! ### A game left to trustees -/

namespace RoomManager

variable {rng : Shuffler} {m : RoomManager}

/-- Whose turn it is in a room. -/
def operatorOf (m : RoomManager) (roomId : ℤ) : ℤ :=
  ((m.rooms.find roomId).map (·.currentOperatorPlayerId)).getD 0

/-- A trustee acts for whoever is on turn. -/
def trusteeTurn (rng : Shuffler) (m : RoomManager) (roomId : ℤ) : RoomManager × Room.ActionReply :=
  m.applyTrusteeAction rng roomId (m.operatorOf roomId)

/-- The manager after `n` turns of trustees in one room. -/
def afterTurns (rng : Shuffler) (m : RoomManager) (roomId : ℤ) : ℕ → RoomManager
  | 0     => m
  | n + 1 => afterTurns rng (m.trusteeTurn rng roomId).1 roomId n

/-- One turn: the trustee's action is accepted, and what it rests on is kept. -/
lemma trusteeTurn_step (rng : Shuffler) {roomId : ℤ} {room : Room} {log : List AcceptedAction}
    (hfind : m.rooms.find roomId = some room) (hI : room.Playable log) (hturn : room.OnTurn) :
    ∃ result room' a, (m.trusteeTurn rng roomId).2 = .ok result ∧
      (m.trusteeTurn rng roomId).1.rooms.find roomId = some room' ∧
      room'.Playable (log ++ [a]) ∧ (result.gameOver = false → room'.OnTurn) := by
  obtain ⟨request, result, hrequest, hresult⟩ := hI.accepts_trustee rng hturn
  have hoperator : m.operatorOf roomId = room.currentOperatorPlayerId := by
    simp [operatorOf, hfind]
  have hreply : (m.trusteeTurn rng roomId).2 = .ok result := by
    rw [trusteeTurn, hoperator]
    simp only [applyTrusteeAction, hfind, hrequest]
    rw [applyPlayerAction_reply hfind, hresult]
  have haccepted : m.acceptedAction rng (.applyTrusteeAction roomId (m.operatorOf roomId)) =
      some ⟨roomId, m.operatorOf roomId, request, result⟩ := by
    rw [trusteeTurn] at hreply
    rw [hoperator] at hreply ⊢
    simp only [acceptedAction, hfind, hrequest, hreply]
  obtain ⟨room₁, room', hfind₁, hfind', hstep⟩ := step_of_acceptedAction haccepted
  obtain rfl := Option.some.inj (hfind.symm.trans hfind₁)
  exact ⟨result, room', _, hreply, hfind', hstep.playable roomId hI, hstep.onTurn⟩

/-- Left to trustees the game ends: every turn uses up one of the turns it has left. -/
lemma gameOver_of_trustees {roomId : ℤ} {room : Room} {log : List AcceptedAction}
    (hfind : m.rooms.find roomId = some room) (hI : room.Playable log) (hturn : room.OnTurn) :
    ∃ n result, ((m.afterTurns rng roomId n).trusteeTurn rng roomId).2 = .ok result ∧
      result.gameOver = true := by
  obtain ⟨fuel, hfuel⟩ : ∃ fuel, 168 - log.length = fuel := ⟨_, rfl⟩
  induction fuel generalizing m room log with
  | zero =>
    obtain ⟨result, room', a, hreply, -, hI', -⟩ := trusteeTurn_step rng hfind hI hturn
    have := hI'.game.length_le
    have := length_eq_countOf (log ++ [a])
    simp only [List.length_append, List.length_singleton] at this
    omega
  | succ fuel ih =>
    obtain ⟨result, room', a, hreply, hfind', hI', hturn'⟩ :=
      trusteeTurn_step rng hfind hI hturn
    cases hover : result.gameOver with
    | true => exact ⟨0, result, hreply, hover⟩
    | false =>
      obtain ⟨n, result', hreply', hover'⟩ := ih hfind' hI' (hturn' hover) (by
        rw [List.length_append, List.length_singleton]
        omega)
      exact ⟨n + 1, result', hreply', hover'⟩

/-- Trustees never stall: in every game of three distinct players the trustee's action for the
operator is accepted, and trustees that act for everyone bring the game to its end. -/
theorem trustee_never_stalls {m₀ : RoomManager} {mode : ℤ} {players : List ℤ} {ops : List RoomOp}
    {room : Room} (hlen : players.length = 3) (hnd : players.Nodup)
    (hrun : Run.exec (step rng) (m₀.createRoom mode players).1 ops = some m)
    (hroom : m.rooms.find (m₀.createRoom mode players).2 = some room)
    (hstate : room.state = .callScore ∨ room.state = .robLandlord ∨ room.state = .playing) :
    let roomId := (m₀.createRoom mode players).2
    (∃ result, (m.applyTrusteeAction rng roomId room.currentOperatorPlayerId).2 = .ok result) ∧
      ∃ n result, ((m.afterTurns rng roomId n).trusteeTurn rng roomId).2 = .ok result ∧
        result.gameOver = true := by
  intro roomId
  obtain ⟨room₁, hI, hlive⟩ := created_history (I := Room.Playable)
    (playable_newRoom _ _ hlen hnd) (fun _ _ _ _ hI h => h.playable _ hI) hrun
  obtain rfl := hlive room hroom
  obtain ⟨result, -, -, hreply, -⟩ := trusteeTurn_step rng hroom hI hstate
  have hoperator : m.operatorOf roomId = room.currentOperatorPlayerId := by
    simp [operatorOf, roomId, hroom]
  rw [trusteeTurn, hoperator] at hreply
  exact ⟨⟨result, hreply⟩, gameOver_of_trustees hroom hI hstate⟩

/-- Trustees take the game from a human's first call to its end. -/
theorem trustee_never_stalls_after_call :
    let m := (createRoom {} 3 [1, 2, 3]).1
    ∃ m' room, Run.exec (step .sorted) m [.applyPlayerAction 1 1 { callScore := 1 }] = some m' ∧
      m'.rooms.find 1 = some room ∧ room.state = .callScore ∧
      ∃ n result, ((m'.afterTurns .sorted 1 n).trusteeTurn .sorted 1).2 = .ok result ∧
        result.gameOver = true := by
  intro m
  have hlive : ((Run.exec (step .sorted) m [.applyPlayerAction 1 1 { callScore := 1 }]).bind
      fun m' => m'.rooms.find 1).any (fun room => room.state = .callScore) = true := by
    decide +kernel
  obtain ⟨room, hroom, hstate⟩ := (Option.any_eq_true _ _).mp hlive
  obtain ⟨m', hrun, hfind⟩ := Option.bind_eq_some_iff.mp hroom
  have hcalling := of_decide_eq_true hstate
  exact ⟨m', room, hrun, hfind, hcalling,
    (trustee_never_stalls rfl (by decide) hrun hfind (Or.inl hcalling)).2⟩

end RoomManager

end DdzServer
