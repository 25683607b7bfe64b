import DdzServer.Room.GameOver
import DdzServer.Room.Trick

/-!
# The auction

The calls and the answers to the robbing in the log of a room, and what they make of the landlord,
the base coin and the hands when the play opens.
-/

namespace DdzServer

open Room UnorderedMap

namespace RoomManager

variable {players : List ℤ} {calls robs log : List AcceptedAction} {a : AcceptedAction}
  {front : ℤ}

/-! ### Calls and robs of a log -/

/-- The highest score called. -/
def maxScore (calls : List AcceptedAction) : ℤ := (calls.map (·.request.callScore)).foldl max 0

/-- The first caller of the highest score, or the first player if nobody called. -/
def topCaller (calls : List AcceptedAction) (front : ℤ) : ℤ :=
  if maxScore calls = 0 then front
  else ((calls.find? (·.request.callScore = maxScore calls)).map (·.playerId)).getD front

/-- How many players robbed. -/
def robCount (robs : List AcceptedAction) : ℕ := robs.countP (·.request.rob = 1)

/-- The last player who robbed, or the caller if nobody did. -/
def lastRobber (robs : List AcceptedAction) (caller : ℤ) : ℤ :=
  ((robs.reverse.find? (·.request.rob = 1)).map (·.playerId)).getD caller

/-- The calls, in seat order: they end with the first 3 or with the third call. -/
structure CallPhase (players : List ℤ) (calls : List AcceptedAction) : Prop where
  areCalls : ∀ a ∈ calls, a.request.IsCall
  seats : calls.map (·.playerId) = players.take calls.length
  ends : ∃ before last, calls = before ++ [last] ∧ (∀ a ∈ before, a.request.callScore ≠ 3) ∧
    (last.request.callScore = 3 ∨ calls.length = 3)

/-- The answers to the robbing: one of each player, in seat order from the first on. -/
structure RobPhase (players : List ℤ) (first : ℤ) (robs : List AcceptedAction) : Prop where
  areRobs : ∀ a ∈ robs, a.request.IsRob
  seats : robs.map (·.playerId) = players.rotate (players.idxOf first)

lemma maxScore_concat (calls : List AcceptedAction) (a : AcceptedAction) :
    maxScore (calls ++ [a]) = max (maxScore calls) a.request.callScore := by
  simp [maxScore]

lemma maxScore_nonneg (calls : List AcceptedAction) : 0 ≤ maxScore calls := by
  induction calls using List.reverseRecOn with
  | nil => exact le_rfl
  | append_singleton calls a ih =>
    rw [maxScore_concat]
    exact ih.trans (le_max_left _ _)

lemma le_maxScore (ha : a ∈ calls) : a.request.callScore ≤ maxScore calls := by
  induction calls using List.reverseRecOn with
  | nil => cases ha
  | append_singleton calls b ih =>
    rw [maxScore_concat]
    rcases List.mem_append.mp ha with ha | ha
    · exact (ih ha).trans (le_max_left _ _)
    · rw [List.mem_singleton.mp ha]
      exact le_max_right _ _

lemma maxScore_le (h : ∀ a ∈ calls, a.request.IsCall) : maxScore calls ≤ 3 := by
  induction calls using List.reverseRecOn with
  | nil => decide
  | append_singleton calls b ih =>
    rw [maxScore_concat]
    exact max_le (ih fun a ha => h a (List.mem_append_left _ ha)) (h b (by simp)).2.2

/-- Someone called the highest score. -/
lemma find_maxScore (h : maxScore calls ≠ 0) :
    ∃ a, calls.find? (·.request.callScore = maxScore calls) = some a := by
  have hmem : ∃ a ∈ calls, a.request.callScore = maxScore calls := by
    induction calls using List.reverseRecOn with
    | nil => exact absurd rfl h
    | append_singleton calls b ih =>
      rw [maxScore_concat] at h ⊢
      rcases le_total (maxScore calls) b.request.callScore with hle | hle
      · exact ⟨b, by simp, (max_eq_right hle).symm⟩
      · rw [max_eq_left hle] at h ⊢
        obtain ⟨a, ha, heq⟩ := ih h
        exact ⟨a, List.mem_append_left _ ha, heq⟩
  refine Option.isSome_iff_exists.mp (List.find?_isSome.mpr ?_)
  simpa using hmem

lemma topCaller_of_ne (h : maxScore calls ≠ 0) :
    ∃ a ∈ calls, ∀ front, topCaller calls front = a.playerId := by
  obtain ⟨a, hfind⟩ := find_maxScore h
  refine ⟨a, List.mem_of_find?_eq_some hfind, fun front => ?_⟩
  rw [topCaller, if_neg h, hfind]
  rfl

/-- A higher score makes its caller the first one. -/
lemma topCaller_concat (calls : List AcceptedAction) (a : AcceptedAction) (front : ℤ) :
    topCaller (calls ++ [a]) front =
      if maxScore calls < a.request.callScore then a.playerId else topCaller calls front := by
  have hnonneg := maxScore_nonneg calls
  rw [topCaller, maxScore_concat]
  split_ifs with hzero hlt hlt
  · rw [max_eq_right hlt.le] at hzero
    omega
  · rw [max_eq_left (not_lt.mp hlt)] at hzero
    rw [topCaller, if_pos hzero]
  · have hnone : calls.find? (·.request.callScore = a.request.callScore) = none := by
      refine List.find?_eq_none.mpr fun b hb heq => ?_
      have := le_maxScore hb
      rw [of_decide_eq_true heq] at this
      omega
    rw [max_eq_right hlt.le, List.find?_append, hnone]
    simp
  · rw [max_eq_left (not_lt.mp hlt)] at hzero ⊢
    obtain ⟨b, hfind⟩ := find_maxScore hzero
    rw [topCaller, if_neg hzero, List.find?_append, hfind]
    rfl

lemma robCount_concat (robs : List AcceptedAction) (a : AcceptedAction) :
    robCount (robs ++ [a]) = robCount robs + if a.request.rob = 1 then 1 else 0 := by
  rw [robCount, List.countP_append, List.countP_singleton, robCount]
  simp

lemma lastRobber_concat (robs : List AcceptedAction) (a : AcceptedAction) (caller : ℤ) :
    lastRobber (robs ++ [a]) caller =
      if a.request.rob = 1 then a.playerId else lastRobber robs caller := by
  simp only [lastRobber, List.reverse_append, List.reverse_cons, List.reverse_nil, List.nil_append,
    List.singleton_append, List.find?_cons]
  by_cases ha : a.request.rob = 1
  · simp [ha]
  · simp [ha]

/-- The last robber is one of the players, if there is one. -/
lemma lastRobber_cases (robs : List AcceptedAction) :
    (∀ caller, lastRobber robs caller = caller) ∨
      ∃ a ∈ robs, ∀ caller, lastRobber robs caller = a.playerId := by
  cases hfind : robs.reverse.find? (·.request.rob = 1) with
  | none =>
    refine Or.inl fun caller => ?_
    rw [lastRobber, hfind]
    rfl
  | some a =>
    refine Or.inr ⟨a, List.mem_reverse.mp (List.mem_of_find?_eq_some hfind), fun caller => ?_⟩
    rw [lastRobber, hfind]
    rfl

end RoomManager

open RoomManager

namespace Room

variable {rng : Shuffler} {room room' : Room} {playerId first : ℤ} {request : PlayerActionRequest}
  {log calls robs actions : List AcceptedAction} {a : AcceptedAction}

/-! ### Seat order -/

/-- The actions are made in seat order from a player on. -/
def InSeats (room : Room) (first : ℤ) (actions : List AcceptedAction) : Prop :=
  actions.map (·.playerId) = (List.range actions.length).map (room.seatAfter first)

lemma inSeats_nil (room : Room) (first : ℤ) : room.InSeats first [] := rfl

lemma InSeats.concat (h : room.InSeats first actions)
    (ha : a.playerId = room.seatAfter first actions.length) :
    room.InSeats first (actions ++ [a]) := by
  rw [InSeats, List.map_append, h, List.length_append, List.length_singleton, List.range_succ,
    List.map_append, List.map_singleton, List.map_singleton, ha]

lemma InSeats.mem (h : room.InSeats first actions) (htrio : room.HasTrio) (ha : a ∈ actions) :
    a.playerId ∈ room.players := by
  have hmem : a.playerId ∈ actions.map (·.playerId) := List.mem_map_of_mem ha
  rw [h] at hmem
  obtain ⟨k, -, hk⟩ := List.mem_map.mp hmem
  rw [← hk]
  exact htrio.seatAfter_mem first k

lemma HasTrio.seatAfter_zero (h : room.HasTrio) (hp : playerId ∈ room.players) :
    room.seatAfter playerId 0 = playerId := by
  have hlt := List.idxOf_lt_length_of_mem hp
  rw [seatAfter, Nat.add_zero, Nat.mod_eq_of_lt (h.1 ▸ hlt), List.getD_eq_getElem _ _ hlt]
  exact List.getElem_idxOf hlt

/-- Going round the table from a player is rotating the players. -/
lemma HasTrio.map_seatAfter (h : room.HasTrio) (first : ℤ) {n : ℕ} (hn : n ≤ 3) :
    (List.range n).map (room.seatAfter first) =
      (room.players.rotate (room.players.idxOf first)).take n := by
  refine List.ext_getElem (by simp [h.1, hn]) fun i hi hi' => ?_
  have hlt : (room.players.idxOf first + i) % 3 < room.players.length := by
    rw [h.1]
    exact Nat.mod_lt _ (by decide)
  rw [List.getElem_map, List.getElem_range, List.getElem_take, List.getElem_rotate, seatAfter,
    List.getD_eq_getElem _ _ hlt]
  congr 1
  rw [h.1, add_comm]

lemma HasTrio.front_mem (h : room.HasTrio) : room.players.headD 0 ∈ room.players := by
  obtain ⟨p, ps, hps⟩ := List.exists_cons_of_ne_nil h.ne_nil
  simp [hps]

lemma HasTrio.idxOf_front (h : room.HasTrio) : room.players.idxOf (room.players.headD 0) = 0 := by
  obtain ⟨p, ps, hps⟩ := List.exists_cons_of_ne_nil h.ne_nil
  simp [hps]

/-! ### Seventeen cards each -/

lemma eq_getD_iff {players : List ℤ} (hnd : players.Nodup) {p : ℤ} (hp : p ∈ players) {i : ℕ}
    (hi : i < players.length) : p = players.getD i 0 ↔ players.idxOf p = i := by
  rw [List.getD_eq_getElem _ _ hi]
  constructor
  · rintro rfl
    exact hnd.idxOf_getElem i hi
  · rintro rfl
    exact (List.getElem_idxOf hi).symm

/-- A player gets every third card. -/
lemma length_dealCard {players cards : List ℤ} (hlen : players.length = 3) (hnd : players.Nodup)
    {p : ℤ} (hp : p ∈ players) (hands : UnorderedMap ℤ (List ℤ)) (k : ℕ) :
    (at' ((List.range k).foldl (dealCard players cards) hands) p []).length =
      (at' hands p []).length + (k + 2 - players.idxOf p) / 3 := by
  have hidx := List.idxOf_lt_length_of_mem hp
  induction k with
  | zero =>
    simp only [List.range_zero, List.foldl_nil]
    omega
  | succ k ih =>
    have hk : k % 3 < players.length := by omega
    rw [List.range_succ, List.foldl_append, List.foldl_cons, List.foldl_nil, dealCard, at'_insert]
    split_ifs with hturn
    · have hseat := (eq_getD_iff hnd hp hk).mp hturn
      rw [← hturn, List.length_append, ih, List.length_singleton]
      omega
    · have hseat := mt (eq_getD_iff hnd hp hk).mpr hturn
      rw [ih]
      omega

lemma length_dealHands {players cards : List ℤ} (hlen : players.length = 3) (hnd : players.Nodup)
    {p : ℤ} (hp : p ∈ players) (hands : UnorderedMap ℤ (List ℤ)) :
    (at' (dealHands players cards hands) p []).length = 17 := by
  have hidx := List.idxOf_lt_length_of_mem hp
  have hclear : at' (players.foldl (fun h pid => Finmap.insert pid [] h) hands) p [] = [] := by
    rw [at', lookup_foldl_insert (fun _ => []), if_pos hp]
    rfl
  rw [dealHands, (at'_sortHands _ _ _).length_eq, length_dealCard hlen hnd hp, hclear,
    List.length_nil]
  omega

/-- Until the landlord takes up the bottom cards everyone holds 17 cards. -/
def DealtEvenly (room : Room) : Prop :=
  room.state = .callScore ∨ room.state = .robLandlord →
    (∀ p ∈ room.players, (room.hand p).length = 17) ∧ room.landlordBottomCards.length = 3

lemma DealtEvenly.startGame (rng : Shuffler) (h : room.DealtEvenly) (hwf : room.WellFormed)
    (htrio : room.HasTrio) : (room.startGame rng).DealtEvenly := by
  by_cases hw : room.state = .waitStart
  · rw [startGame_of_undealt rng hw htrio.1 (hwf.undealt hw)]
    exact fun _ => ⟨fun p hp => length_dealHands htrio.1 htrio.2 hp _, rfl⟩
  · rwa [startGame_of_ne hw]

lemma DealtEvenly.rule {written : Room} {ended : Bool} (h : room.DealtEvenly)
    (hrule : ActionRule room playerId request written ended) : written.DealtEvenly := by
  intro hstate
  cases hrule with
  | callNext hs => exact h (Or.inl hs)
  | callLast hs => exact h (Or.inl hs)
  | robNext hs => exact h (Or.inr hs)
  | robLast => rcases hstate with hs | hs <;> cases hs
  | passNext hs => exact absurd hstate (by simp [hs])
  | passLast hs => exact absurd hstate (by simp [clearTable, hs])
  | play hs => exact absurd hstate (by simp [putCards, hs])
  | playLast => rcases hstate with hs | hs <;> cases hs

/-! ### The stages of the auction -/

/-- Who is first asked whether he robs. -/
def firstAsked (room : Room) (calls : List AcceptedAction) : ℤ :=
  topCaller calls (room.players.headD 0)

/-- The calls so far, in a room that is not yet at the robbing. -/
structure Calling (room : Room) (calls : List AcceptedAction) : Prop where
  areCalls : ∀ a ∈ calls, a.request.IsCall
  noThree : ∀ a ∈ calls, a.request.callScore ≠ 3
  short : calls.length < 3
  seats : room.InSeats (room.players.headD 0) calls
  turn : room.currentOperatorPlayerId = room.seatAfter (room.players.headD 0) calls.length
  count : room.stateActionCount = calls.length
  score : room.highestCallScore = maxScore calls
  caller : room.highestCallPlayerId = topCaller calls 0
  landlord : room.landlordPlayerId = 0

/-- All calls are made, and some answers to the robbing. -/
structure Robbing (room : Room) (calls robs : List AcceptedAction) : Prop where
  called : CallPhase room.players calls
  asked : room.firstAsked calls ∈ room.players
  areRobs : ∀ a ∈ robs, a.request.IsRob
  short : robs.length < 3
  seats : room.InSeats (room.firstAsked calls) robs
  turn : room.currentOperatorPlayerId = room.seatAfter (room.firstAsked calls) robs.length
  count : room.stateActionCount = robs.length
  caller : room.highestCallPlayerId = room.firstAsked calls
  landlord : room.landlordPlayerId = lastRobber robs 0
  base : room.baseCoin = max 1 (maxScore calls) * 2 ^ robCount robs

/-- What the calls and robs made of the room. -/
structure AuctionOutcome (room : Room) (calls robs : List AcceptedAction) : Prop where
  called : CallPhase room.players calls
  robbed : RobPhase room.players (room.firstAsked calls) robs
  landlord : room.landlordPlayerId = lastRobber robs (room.firstAsked calls)
  base : room.baseCoin = max 1 (maxScore calls) * 2 ^ robCount robs

/-- The landlord leads with 20 cards, and the others hold 17. -/
structure Opening (room : Room) : Prop where
  turn : room.currentOperatorPlayerId = room.landlordPlayerId
  landlord : (room.hand room.landlordPlayerId).length = 20
  others : ∀ p ∈ room.players, p ≠ room.landlordPlayerId → (room.hand p).length = 17

/-- How far the auction is after a log. -/
inductive AuctionStage (room : Room) (log : List AcceptedAction) : Prop
  | calling (hstate : room.state = .waitStart ∨ room.state = .callScore) (h : room.Calling log)
  | robbing (hstate : room.state = .robLandlord) (calls robs : List AcceptedAction)
      (hlog : log = calls ++ robs) (h : room.Robbing calls robs)
  | playing (hstate : room.state = .playing) (calls robs rest : List AcceptedAction)
      (hlog : log = calls ++ robs ++ rest) (h : room.AuctionOutcome calls robs)
      (hrest : ∀ a ∈ rest, a.request.actionType = .playCards ∨ a.request.actionType = .pass)
      (hopening : rest = [] → room.Opening)
  | closed (hstate : room.state = .settling ∨ room.state = .finished)

lemma auctionStage_newRoom (roomId mode : ℤ) {players : List ℤ}
    (htrio : (newRoom roomId mode players).HasTrio) :
    (newRoom roomId mode players).AuctionStage [] := by
  refine .calling (Or.inl rfl) ⟨?_, ?_, by decide, inSeats_nil _ _, ?_, rfl, rfl, rfl, rfl⟩
  · intro a ha
    cases ha
  · intro a ha
    cases ha
  · exact (htrio.seatAfter_zero htrio.front_mem).symm

/-! ### Calls -/

/-- An accepted call is recorded as the log has it. -/
lemma Calling.recordCall (h : room.Calling calls) (hplayer : a.playerId = playerId)
    (hrequest : a.request = request) (hturn : room.currentOperatorPlayerId = playerId) :
    room.InSeats (room.players.headD 0) (calls ++ [a]) ∧
      (room.recordCall playerId request.callScore).highestCallScore = maxScore (calls ++ [a]) ∧
      (room.recordCall playerId request.callScore).highestCallPlayerId =
        topCaller (calls ++ [a]) 0 := by
  refine ⟨h.seats.concat ?_, ?_, ?_⟩
  · rw [hplayer, ← hturn, h.turn]
  · rw [maxScore_concat, ← h.score, hrequest]
    simp only [Room.recordCall]
    split_ifs with hlt
    · exact (max_eq_right hlt.le).symm
    · exact (max_eq_left (not_lt.mp hlt)).symm
  · rw [topCaller_concat, ← h.score, ← h.caller, hrequest, hplayer]
    rfl

lemma areCalls_concat (h : ∀ b ∈ calls, b.request.IsCall) (ha : a.request.IsCall) :
    ∀ b ∈ calls ++ [a], b.request.IsCall := by
  intro b hb
  rcases List.mem_append.mp hb with hb | hb
  · exact h b hb
  · rwa [List.mem_singleton.mp hb]

lemma Calling.next (h : room.Calling calls) (htrio : room.HasTrio)
    (hplayer : a.playerId = playerId) (hrequest : a.request = request)
    (hturn : room.currentOperatorPlayerId = playerId) (hcall : request.IsCall)
    (hne : request.callScore ≠ 3) (hnext : room.stateActionCount + 1 < room.players.length) :
    Calling { room.recordCall playerId request.callScore with
      currentOperatorPlayerId := room.nextOperator playerId } (calls ++ [a]) := by
  obtain ⟨hseats, hscore, hcaller⟩ := h.recordCall hplayer hrequest hturn
  have hcount := h.count
  have hlen : (calls ++ [a]).length = calls.length + 1 := by simp
  refine ⟨areCalls_concat h.areCalls (hrequest ▸ hcall), ?_, ?_, hseats, ?_, ?_, hscore, hcaller,
    h.landlord⟩
  · intro b hb
    rcases List.mem_append.mp hb with hb | hb
    · exact h.noThree b hb
    · rwa [List.mem_singleton.mp hb, hrequest]
  · rw [htrio.1] at hnext
    omega
  · change room.nextOperator playerId = room.seatAfter (room.players.headD 0) _
    rw [← hturn, h.turn, hlen]
    exact htrio.nextOperator_seatAfter _ _
  · change room.stateActionCount + 1 = _
    rw [hlen, hcount]
    rfl

/-- The top caller is a player. -/
lemma firstAsked_mem (htrio : room.HasTrio)
    (hmem : ∀ b ∈ calls, b.playerId ∈ room.players) : room.firstAsked calls ∈ room.players := by
  by_cases hzero : maxScore calls = 0
  · rw [firstAsked, topCaller, if_pos hzero]
    exact htrio.front_mem
  · obtain ⟨b, hb, heq⟩ := topCaller_of_ne hzero
    rw [firstAsked, heq]
    exact hmem b hb

/-- The last call settles who is asked first, and the base coin. -/
lemma Calling.last (h : room.Calling calls) (htrio : room.HasTrio)
    (hpos : ∀ p ∈ room.players, 0 < p) (hplayer : a.playerId = playerId)
    (hrequest : a.request = request) (hturn : room.currentOperatorPlayerId = playerId)
    (hcall : request.IsCall)
    (hlast : request.callScore = 3 ∨ (room.players.length : ℤ) ≤ room.stateActionCount + 1) :
    (room.recordCall playerId request.callScore).endCalls.Robbing (calls ++ [a]) [] := by
  obtain ⟨hseats, hscore, hcaller⟩ := h.recordCall hplayer hrequest hturn
  have hcount := h.count
  have hshort := h.short
  have hlen : (calls ++ [a]).length = calls.length + 1 := by simp
  have hmem : ∀ b ∈ calls ++ [a], b.playerId ∈ room.players := fun b hb => hseats.mem htrio hb
  have hasked := firstAsked_mem htrio hmem
  have htop : (room.recordCall playerId request.callScore).highestCaller =
      room.firstAsked (calls ++ [a]) := by
    rw [highestCaller, hcaller, firstAsked]
    by_cases hzero : maxScore (calls ++ [a]) = 0
    · have hzeros : ∀ front, topCaller (calls ++ [a]) front = front := fun _ => if_pos hzero
      rw [hzeros, hzeros, if_pos ⟨rfl, htrio.ne_nil⟩]
      rfl
    · obtain ⟨b, hb, heq⟩ := topCaller_of_ne hzero
      rw [heq, heq, if_neg fun hz => (hpos _ (hmem b hb)).ne' hz.1]
  refine ⟨⟨areCalls_concat h.areCalls (hrequest ▸ hcall), ?_, calls, a, rfl, h.noThree, ?_⟩,
    hasked, ?_, by decide, inSeats_nil _ _, ?_, rfl, htop, h.landlord, ?_⟩
  · change _ = room.players.take _
    rw [hseats, htrio.map_seatAfter _ (by omega), htrio.idxOf_front, List.rotate_zero]
  · rw [hrequest]
    refine hlast.imp_right fun hle => ?_
    rw [htrio.1] at hle
    omega
  · intro b hb
    cases hb
  · exact htop.trans (htrio.seatAfter_zero hasked).symm
  · change max 1 (room.recordCall playerId request.callScore).highestCallScore = _
    rw [hscore]
    exact (mul_one _).symm

/-! ### Robs -/

/-- An accepted answer is recorded as the log has it. -/
lemma Robbing.recordRob (h : room.Robbing calls robs) (hplayer : a.playerId = playerId)
    (hrequest : a.request = request) (hturn : room.currentOperatorPlayerId = playerId) :
    room.InSeats (room.firstAsked calls) (robs ++ [a]) ∧
      (room.recordRob playerId request.rob).landlordPlayerId = lastRobber (robs ++ [a]) 0 ∧
      (room.recordRob playerId request.rob).baseCoin =
        max 1 (maxScore calls) * 2 ^ robCount (robs ++ [a]) := by
  refine ⟨h.seats.concat ?_, ?_, ?_⟩
  · rw [hplayer, ← hturn, h.turn]
  · rw [lastRobber_concat, ← h.landlord, hrequest, hplayer]
    rfl
  · have hbase : 1 ≤ room.baseCoin := by
      rw [h.base]
      exact one_le_mul_of_one_le_of_one_le (le_max_left _ _) (one_le_pow₀ (by decide))
    rw [robCount_concat, hrequest]
    simp only [Room.recordRob]
    split_ifs
    · rw [max_eq_right hbase, h.base, pow_succ, mul_assoc]
    · rw [h.base, Nat.add_zero]

lemma areRobs_concat (h : ∀ b ∈ robs, b.request.IsRob) (ha : a.request.IsRob) :
    ∀ b ∈ robs ++ [a], b.request.IsRob := by
  intro b hb
  rcases List.mem_append.mp hb with hb | hb
  · exact h b hb
  · rwa [List.mem_singleton.mp hb]

lemma Robbing.next (h : room.Robbing calls robs) (htrio : room.HasTrio)
    (hplayer : a.playerId = playerId) (hrequest : a.request = request)
    (hturn : room.currentOperatorPlayerId = playerId) (hrob : request.IsRob)
    (hnext : room.stateActionCount + 1 < room.players.length) :
    Robbing { room.recordRob playerId request.rob with
      currentOperatorPlayerId := room.nextOperator playerId } calls (robs ++ [a]) := by
  obtain ⟨hseats, hlandlord, hbase⟩ := h.recordRob hplayer hrequest hturn
  have hcount := h.count
  have hlen : (robs ++ [a]).length = robs.length + 1 := by simp
  refine ⟨h.called, h.asked, areRobs_concat h.areRobs (hrequest ▸ hrob), ?_, hseats, ?_, ?_,
    h.caller, hlandlord, hbase⟩
  · rw [htrio.1] at hnext
    omega
  · change room.nextOperator playerId = room.seatAfter (room.firstAsked calls) _
    rw [← hturn, h.turn, hlen]
    exact htrio.nextOperator_seatAfter _ _
  · change room.stateActionCount + 1 = _
    rw [hlen, hcount]
    rfl

/-- The last answer decides who is landlord. -/
lemma Robbing.finalLandlord_eq (h : room.Robbing calls robs) (htrio : room.HasTrio)
    (hpos : ∀ p ∈ room.players, 0 < p) (hplayer : a.playerId = playerId)
    (hrequest : a.request = request) (hturn : room.currentOperatorPlayerId = playerId) :
    (room.recordRob playerId request.rob).finalLandlord =
      lastRobber (robs ++ [a]) (room.firstAsked calls) := by
  obtain ⟨hseats, hlandlord, -⟩ := h.recordRob hplayer hrequest hturn
  have hcaller : (room.recordRob playerId request.rob).highestCallPlayerId =
      room.firstAsked calls := h.caller
  rw [finalLandlord, hlandlord, hcaller]
  rcases lastRobber_cases (robs ++ [a]) with hnone | ⟨b, hb, heq⟩
  · have hasked := (hpos _ h.asked).ne'
    rw [hnone, hnone, if_pos rfl, if_neg fun hz => hasked hz.1]
  · have hb := (hpos _ (hseats.mem htrio hb)).ne'
    rw [heq, heq, if_neg hb, if_neg fun hz => hb hz.1]

/-- The last answer opens the play. -/
lemma Robbing.last {hand : List ℤ} (h : room.Robbing calls robs) (htrio : room.HasTrio)
    (hpos : ∀ p ∈ room.players, 0 < p) (hplayer : a.playerId = playerId)
    (hrequest : a.request = request) (hturn : room.currentOperatorPlayerId = playerId)
    (hrob : request.IsRob) (hlast : (room.players.length : ℤ) ≤ room.stateActionCount + 1) :
    AuctionOutcome ({ room.recordRob playerId request.rob with
      landlordPlayerId := (room.recordRob playerId request.rob).finalLandlord
      }.startPlaying hand) calls (robs ++ [a]) := by
  obtain ⟨hseats, -, hbase⟩ := h.recordRob hplayer hrequest hturn
  refine ⟨h.called, ⟨areRobs_concat h.areRobs (hrequest ▸ hrob), ?_⟩,
    h.finalLandlord_eq htrio hpos hplayer hrequest hturn, hbase⟩
  have hlen : (robs ++ [a]).length = 3 := by
    have hcount := h.count
    have hshort := h.short
    rw [htrio.1] at hlast
    rw [List.length_append, List.length_singleton]
    omega
  have hrotate : (room.players.rotate (room.players.idxOf (room.firstAsked calls))).length ≤ 3 := by
    rw [List.length_rotate, htrio.1]
  change _ = room.players.rotate (room.players.idxOf (room.firstAsked calls))
  rw [hseats, hlen, htrio.map_seatAfter _ le_rfl, List.take_of_length_le hrotate]

/-- The landlord takes up three cards. -/
lemma DealtEvenly.opening {hand : List ℤ} {landlord : ℤ} (h : room.DealtEvenly)
    (hstate : room.state = .robLandlord) (hlandlord : landlord ∈ room.players)
    (hhand : room.hands.lookup landlord = some hand) :
    Opening ({ room.recordRob playerId request.rob with
      landlordPlayerId := landlord }.startPlaying hand) := by
  obtain ⟨hhands, hbottom⟩ := h (Or.inr hstate)
  refine ⟨rfl, ?_, fun p hp hne => ?_⟩
  · have hfull := hhands landlord hlandlord
    rw [hand_of_lookup hhand] at hfull
    change (at' (Finmap.insert landlord (sortCards (hand ++ room.landlordBottomCards)) room.hands)
      landlord []).length = 20
    rw [at'_insert, if_pos rfl, length_sortCards, List.length_append, hfull, hbottom]
  · change (at' (Finmap.insert landlord (sortCards (hand ++ room.landlordBottomCards)) room.hands)
      p []).length = 17
    have hother : p ≠ landlord := hne
    rw [at'_insert, if_neg hother]
    exact hhands p hp

/-! ### Every step -/

lemma AuctionStage.calling_inv (h : room.AuctionStage log)
    (hstate : room.state = .waitStart ∨ room.state = .callScore) : room.Calling log := by
  cases h with
  | calling _ h => exact h
  | robbing hs => exact absurd hstate (by simp [hs])
  | playing hs => exact absurd hstate (by simp [hs])
  | closed hs => rcases hs with hs | hs <;> exact absurd hstate (by simp [hs])

lemma AuctionStage.robbing_inv (h : room.AuctionStage log) (hstate : room.state = .robLandlord) :
    ∃ calls robs, log = calls ++ robs ∧ room.Robbing calls robs := by
  cases h with
  | calling hs => rcases hs with hs | hs <;> exact absurd hstate (by simp [hs])
  | robbing _ calls robs hlog h => exact ⟨calls, robs, hlog, h⟩
  | playing hs => exact absurd hstate (by simp [hs])
  | closed hs => rcases hs with hs | hs <;> exact absurd hstate (by simp [hs])

lemma AuctionStage.playing_inv (h : room.AuctionStage log) (hstate : room.state = .playing) :
    ∃ calls robs rest, log = calls ++ robs ++ rest ∧ room.AuctionOutcome calls robs ∧
      (∀ a ∈ rest, a.request.actionType = .playCards ∨ a.request.actionType = .pass) ∧
      (rest = [] → room.Opening) := by
  cases h with
  | calling hs => rcases hs with hs | hs <;> exact absurd hstate (by simp [hs])
  | robbing hs => exact absurd hstate (by simp [hs])
  | playing _ calls robs rest hlog h hrest hopening =>
    exact ⟨calls, robs, rest, hlog, h, hrest, hopening⟩
  | closed hs => rcases hs with hs | hs <;> exact absurd hstate (by simp [hs])

/-- A play or a pass comes after the auction. -/
lemma AuctionStage.turn (h : room.AuctionStage log) (hstate : room.state = .playing)
    (ha : a.request.actionType = .playCards ∨ a.request.actionType = .pass)
    (hstate' : room'.state = .playing) (hplayers : room'.players = room.players)
    (hlandlord : room'.landlordPlayerId = room.landlordPlayerId)
    (hbase : room'.baseCoin = room.baseCoin) : room'.AuctionStage (log ++ [a]) := by
  obtain ⟨calls, robs, rest, rfl, houtcome, hrest, -⟩ := h.playing_inv hstate
  obtain ⟨hcalled, hrobbed, hlast, hcoin⟩ := houtcome
  have hasked : room'.firstAsked calls = room.firstAsked calls := by
    rw [firstAsked, firstAsked, hplayers]
  refine .playing hstate' calls robs (rest ++ [a]) (List.append_assoc _ _ _) ?_ ?_ ?_
  · refine ⟨hplayers ▸ hcalled, ?_, ?_, hbase.trans hcoin⟩
    · rwa [hasked, hplayers]
    · rw [hasked, hlandlord, hlast]
  · intro b hb
    rcases List.mem_append.mp hb with hb | hb
    · exact hrest b hb
    · rwa [List.mem_singleton.mp hb]
  · intro hnil
    simp at hnil

/-- An accepted action of the operator takes the auction one step further. -/
lemma AuctionStage.rule {written : Room} {ended : Bool} (h : room.AuctionStage log)
    (hwf : room.WellFormed) (htrio : room.HasTrio) (hpos : ∀ p ∈ room.players, 0 < p)
    (hdealt : room.DealtEvenly) (hp : playerId ∈ room.players) (hplayer : a.playerId = playerId)
    (hrequest : a.request = request) (hturn : room.currentOperatorPlayerId = playerId)
    (hrule : ActionRule room playerId request written ended) :
    written.AuctionStage (log ++ [a]) := by
  cases hrule with
  | callNext hs hcall hne hnext =>
    have hcalling := h.calling_inv (Or.inr hs)
    exact .calling (Or.inr hs) (hcalling.next htrio hplayer hrequest hturn hcall hne hnext)
  | callLast hs hcall hlast =>
    have hcalling := h.calling_inv (Or.inr hs)
    exact .robbing rfl (log ++ [a]) [] (List.append_nil _).symm
      (hcalling.last htrio hpos hplayer hrequest hturn hcall hlast)
  | robNext hs hrob hnext =>
    obtain ⟨calls, robs, rfl, hrobbing⟩ := h.robbing_inv hs
    exact .robbing hs calls (robs ++ [a]) (List.append_assoc _ _ _)
      (hrobbing.next htrio hplayer hrequest hturn hrob hnext)
  | robLast hs hrob hlast hand hhand =>
    obtain ⟨calls, robs, rfl, hrobbing⟩ := h.robbing_inv hs
    refine .playing rfl calls (robs ++ [a]) [] (by simp)
      (hrobbing.last htrio hpos hplayer hrequest hturn hrob hlast) ?_ fun _ =>
      hdealt.opening hs (hwf.finalLandlord_mem htrio hp request.rob) hhand
    intro b hb
    cases hb
  | passNext hs htype =>
    exact h.turn hs (Or.inr (hrequest ▸ htype)) hs rfl rfl rfl
  | passLast hs htype =>
    exact h.turn hs (Or.inr (hrequest ▸ htype)) hs rfl rfl rfl
  | play hs htype =>
    exact h.turn hs (Or.inl (hrequest ▸ htype)) hs rfl rfl rfl
  | playLast => exact .closed (Or.inl rfl)

/-- The deal makes no call. -/
lemma AuctionStage.startGame (rng : Shuffler) (h : room.AuctionStage log) :
    (room.startGame rng).AuctionStage log := by
  by_cases hw : room.state = .waitStart
  · obtain ⟨_, _, _, heq⟩ := startGame_of_eq rng hw
    obtain ⟨h₁, h₂, h₃, h₄, h₅, h₆, h₇, h₈, h₉⟩ := h.calling_inv (Or.inl hw)
    rw [heq]
    exact .calling (Or.inr rfl) ⟨h₁, h₂, h₃, h₄, h₅, h₆, h₇, h₈, h₉⟩
  · rwa [startGame_of_ne hw]

/-- Presence and versions do not matter. -/
lemma AuctionStage.presence (h : room.AuctionStage log) (online trustee : UnorderedMap ℤ Bool)
    (offlineAtMs : UnorderedMap ℤ ℤ) (version seq : ℤ) :
    AuctionStage { room with
      onlineByPlayer := online
      trusteeByPlayer := trustee
      offlineAtMsByPlayer := offlineAtMs
      snapshotVersion := version
      lastActionSeq := seq } log := by
  cases h with
  | calling hs h =>
    obtain ⟨h₁, h₂, h₃, h₄, h₅, h₆, h₇, h₈, h₉⟩ := h
    exact .calling hs ⟨h₁, h₂, h₃, h₄, h₅, h₆, h₇, h₈, h₉⟩
  | robbing hs calls robs hlog h =>
    obtain ⟨h₁, h₂, h₃, h₄, h₅, h₆, h₇, h₈, h₉, h₁₀⟩ := h
    exact .robbing hs calls robs hlog ⟨h₁, h₂, h₃, h₄, h₅, h₆, h₇, h₈, h₉, h₁₀⟩
  | playing hs calls robs rest hlog h hrest hopening =>
    obtain ⟨h₁, h₂, h₃, h₄⟩ := h
    refine .playing hs calls robs rest hlog ⟨h₁, h₂, h₃, h₄⟩ hrest fun hnil => ?_
    obtain ⟨hturn, hlandlord, hothers⟩ := hopening hnil
    exact ⟨hturn, hlandlord, hothers⟩
  | closed hs => exact .closed hs

/-- All that the outcome of the auction rests on. -/
structure InAuction (room : Room) (log : List AcceptedAction) : Prop where
  trio : room.HasTrio
  positive : ∀ p ∈ room.players, 0 < p
  wellFormed : room.WellFormed
  dealt : room.DealtEvenly
  stage : room.AuctionStage log

lemma inAuction_newRoom (roomId mode : ℤ) {players : List ℤ} (hlen : players.length = 3)
    (hnd : players.Nodup) (hpos : ∀ p ∈ players, 0 < p) :
    (newRoom roomId mode players).InAuction [] where
  trio := ⟨hlen, hnd⟩
  positive := hpos
  wellFormed := wellFormed_newRoom _ _ _
  dealt h := by rcases h with h | h <;> cases h
  stage := auctionStage_newRoom _ _ ⟨hlen, hnd⟩

lemma InAuction.startGame (rng : Shuffler) (h : room.InAuction log) :
    (room.startGame rng).InAuction log where
  trio := (hasTrio_startGame rng).mpr h.trio
  positive := by
    rw [startGame_players]
    exact h.positive
  wellFormed := h.wellFormed.startGame h.trio
  dealt := h.dealt.startGame rng h.wellFormed h.trio
  stage := h.stage.startGame rng

end Room

/-- Every step of a room keeps the auction as the log says. -/
theorem RoomStep.inAuction {rng : Shuffler} {room room' : Room} {log : List AcceptedAction}
    {accepted : Option (PlayerActionRequest × PlayerActionResult)} (roomId : ℤ)
    (h : RoomStep rng room accepted room') (hI : room.InAuction log) :
    room'.InAuction (log ++ logged roomId room accepted) := by
  have hstage : room'.DealtEvenly ∧ room'.AuctionStage (log ++ logged roomId room accepted) := by
    obtain ⟨htrio, hpos, hwf, hdealt, hstage⟩ := hI.startGame rng
    cases h with
    | unchanged => exact ⟨hI.dealt, by simpa using hI.stage⟩
    | @accepted playerId request _ result hact hrule =>
      obtain ⟨written, ended, hrule, rfl, -⟩ := hrule
      obtain rfl := hact.turn
      have hp := hact.mem
      rw [← startGame_players rng] at hp
      have hdealt' := hdealt.rule hrule
      have hstage' := hstage.rule hwf htrio hpos hdealt hp
        (a := ⟨roomId, room.currentOperatorPlayerId, request, result⟩) rfl rfl
        (startGame_currentOperator rng room) hrule
      exact ⟨hdealt', hstage'.presence _ _ _ _ _⟩
    | rejected hact hrule =>
      have hp := hact.mem
      rw [← startGame_players rng] at hp
      rw [(hwf.rejectRule htrio hp hrule).1, logged_none, List.append_nil]
      exact ⟨hdealt, hstage⟩
    | presence =>
      rw [logged_none, List.append_nil]
      have hdealt' := hI.dealt
      exact ⟨hdealt', hI.stage.presence _ _ _ _ _⟩
    | settling =>
      refine ⟨fun hs => ?_, .closed (Or.inl rfl)⟩
      rcases hs with hs | hs <;> cases hs
    | finished =>
      refine ⟨fun hs => ?_, .closed (Or.inr rfl)⟩
      rcases hs with hs | hs <;> cases hs
  exact ⟨h.hasTrio.mpr hI.trio, h.players.symm ▸ hI.positive, h.wellFormed hI.trio hI.wellFormed,
    hstage.1, hstage.2⟩

namespace Room

variable {room : Room} {calls robs : List AcceptedAction}

/-- A double for each rob, on a score of at most 3. -/
lemma AuctionOutcome.base_bounds (h : room.AuctionOutcome calls robs) (htrio : room.HasTrio) :
    1 ≤ room.baseCoin ∧ room.baseCoin ≤ 24 := by
  have hscore : 1 ≤ max 1 (maxScore calls) ∧ max 1 (maxScore calls) ≤ 3 :=
    ⟨le_max_left _ _, max_le (by decide) (maxScore_le h.called.areCalls)⟩
  have hcount : robCount robs ≤ 3 := by
    have hlen := congrArg List.length h.robbed.seats
    rw [List.length_map, List.length_rotate, htrio.1] at hlen
    exact hlen ▸ List.countP_le_length
  have hpow : (1 : ℤ) ≤ 2 ^ robCount robs ∧ (2 : ℤ) ^ robCount robs ≤ 8 :=
    ⟨one_le_pow₀ (by decide), (pow_le_pow_right₀ (by decide) hcount).trans (by decide)⟩
  rw [h.base]
  constructor
  · exact one_le_mul_of_one_le_of_one_le hscore.1 hpow.1
  · calc max 1 (maxScore calls) * 2 ^ robCount robs
        ≤ 3 * 8 := mul_le_mul hscore.2 hpow.2 (by omega) (by decide)
      _ = 24 := by decide

end Room

namespace RoomManager

variable {rng : Shuffler} {m : RoomManager}

/-- The outcome of the auction in every game that reaches `Playing`: the log is the calls, one
answer of each player to the robbing, and the turns since; the calls and answers say who is
landlord and what the base coin is, and the landlord opens with 20 cards against 17. -/
theorem auction_outcome {m₀ : RoomManager} {mode : ℤ} {players : List ℤ} {ops : List RoomOp}
    {room : Room} (hlen : players.length = 3) (hnd : players.Nodup) (hpos : ∀ p ∈ players, 0 < p)
    (hrun : Run.exec (step rng) (m₀.createRoom mode players).1 ops = some m)
    (hroom : m.rooms.find (m₀.createRoom mode players).2 = some room)
    (hstate : room.state = .playing) :
    let log := actionsOn (m₀.createRoom mode players).2
      (Run.history (step rng) (recordAccepted rng) (m₀.createRoom mode players).1 ops [])
    room.players = players ∧ ∃ calls robs turns, log = calls ++ robs ++ turns ∧
      room.AuctionOutcome calls robs ∧ 1 ≤ room.baseCoin ∧ room.baseCoin ≤ 24 ∧
      (∀ a ∈ turns, a.request.actionType = .playCards ∨ a.request.actionType = .pass) ∧
      (turns = [] → room.Opening) := by
  intro log
  obtain ⟨room₁, ⟨hplayers, hI⟩, hlive⟩ := created_history
    (I := fun room log => room.players = players ∧ room.InAuction log)
    ⟨rfl, inAuction_newRoom _ _ hlen hnd hpos⟩
    (fun _ _ _ _ hI h => ⟨h.players.trans hI.1, h.inAuction _ hI.2⟩) hrun
  obtain rfl := hlive room hroom
  obtain ⟨calls, robs, turns, hlog, houtcome, hturns, hopening⟩ := hI.stage.playing_inv hstate
  obtain ⟨hlow, hhigh⟩ := houtcome.base_bounds hI.trio
  exact ⟨hplayers, calls, robs, turns, hlog, houtcome, hlow, hhigh, hturns, hopening⟩

/-- The first player calls 2, the third one calls 2 as well, and the second one robs. -/
theorem auction_outcome_of_rob :
    let ops : List RoomOp := [.applyPlayerAction 1 1 { callScore := 2 }, .applyTrusteeAction 1 2,
      .applyPlayerAction 1 3 { callScore := 2 }, .applyTrusteeAction 1 1,
      .applyPlayerAction 1 2 { actionType := .robLandlord, rob := 1 }, .applyTrusteeAction 1 3]
    ∃ m room, Run.exec (step .sorted) (createRoom {} 3 [1, 2, 3]).1 ops = some m ∧
      m.rooms.find 1 = some room ∧ room.landlordPlayerId = 2 ∧ room.baseCoin = 4 ∧
      ∃ calls robs, room.AuctionOutcome calls robs := by
  intro ops
  have hlive : ((Run.exec (step .sorted) (createRoom {} 3 [1, 2, 3]).1
      [.applyPlayerAction 1 1 { callScore := 2 }, .applyTrusteeAction 1 2,
        .applyPlayerAction 1 3 { callScore := 2 }, .applyTrusteeAction 1 1,
        .applyPlayerAction 1 2 { actionType := .robLandlord, rob := 1 },
        .applyTrusteeAction 1 3]).bind fun m => m.rooms.find 1).any
      (fun room => room.state = .playing ∧ room.landlordPlayerId = 2 ∧ room.baseCoin = 4) =
        true := by
    decide +kernel
  obtain ⟨room, hroom, hdecide⟩ := (Option.any_eq_true _ _).mp hlive
  obtain ⟨m, hrun, hfind⟩ := Option.bind_eq_some_iff.mp hroom
  obtain ⟨hstate, hlandlord, hbase⟩ := of_decide_eq_true hdecide
  obtain ⟨-, calls, robs, -, -, houtcome, -⟩ :=
    auction_outcome rfl (by decide) (by decide) hrun hfind hstate
  exact ⟨m, room, hrun, hfind, hlandlord, hbase, calls, robs, houtcome⟩

end RoomManager

end DdzServer
