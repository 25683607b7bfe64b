import DdzServer.Room.TrickOrder
import DdzServer.Room.TrusteePlay

/-!
# The choice of a trustee

`ApplyTrusteeAction` takes the first card of the hand that does. The hands are kept in the order of
`SortCards`, so the first card is the lowest; and a single beats nothing but singles.
-/

namespace DdzServer

open Room RoomManager UnorderedMap

/-! ### Hands in order -/

/-- The strict order of the cards, by rank and then by number. -/
def cardLess (a b : ℤ) : Prop := cardRank a < cardRank b ∨ cardRank a = cardRank b ∧ a < b

instance : Std.Total cardBefore where
  total a b := by
    unfold cardBefore
    omega

instance : IsTrans ℤ cardBefore where
  trans a b c hab hbc := by
    unfold cardBefore at *
    omega

lemma cardLess_of_cardBefore {a b : ℤ} (h : cardBefore a b) (hne : a ≠ b) : cardLess a b := by
  unfold cardBefore at h
  unfold cardLess
  omega

lemma cardRank_le_of_cardBefore {a b : ℤ} (h : cardBefore a b) : cardRank a ≤ cardRank b := by
  rcases h with hlt | ⟨heq, -⟩
  · exact hlt.le
  · exact heq.le

lemma pairwise_sortCards (cards : List ℤ) : (sortCards cards).Pairwise cardBefore :=
  List.pairwise_insertionSort cardBefore cards

namespace Room

variable {rng : Shuffler} {room room' : Room} {playerId : ℤ} {request : PlayerActionRequest}
  {log : List AcceptedAction}

/-- Every player's hand is in the order of `SortCards`. -/
def HandsSorted (room : Room) : Prop := ∀ p ∈ room.players, (room.hand p).Pairwise cardBefore

/-- The last loop of `DealCards` sorts the hands it goes over, and keeps those in order. -/
lemma pairwise_sortHands {l : List ℤ} {p : ℤ} (hands : UnorderedMap ℤ (List ℤ))
    (h : p ∈ l ∨ (at' hands p []).Pairwise cardBefore) :
    (at' (l.foldl (fun h pid => Finmap.insert pid (sortCards (at' h pid [])) h) hands) p
      []).Pairwise cardBefore := by
  induction l generalizing hands with
  | nil => exact h.resolve_left (List.not_mem_nil)
  | cons q l ih =>
    rw [List.foldl_cons]
    refine ih _ ?_
    rw [at'_insert]
    by_cases hq : p = q
    · rw [if_pos hq]
      exact Or.inr (pairwise_sortCards _)
    · rw [if_neg hq]
      exact h.imp_left fun hp => (List.mem_cons.mp hp).resolve_left hq

lemma HandsSorted.startGame (rng : Shuffler) (h : room.HandsSorted) :
    (room.startGame rng).HandsSorted := by
  by_cases hw : room.state = .waitStart
  · rw [Room.startGame, if_pos hw, dealCards]
    split_ifs
    · exact h
    · intro p hp
      exact pairwise_sortHands _ (Or.inl hp)
  · rwa [startGame_of_ne hw]

/-- A player gets a new hand that is in order. -/
lemma HandsSorted.insert {hand : List ℤ} (h : room.HandsSorted) (hhand : hand.Pairwise cardBefore)
    (hplayers : room'.players = room.players)
    (hhands : room'.hands = Finmap.insert playerId hand room.hands) : room'.HandsSorted := by
  intro p hp
  rw [Room.hand, hhands, at'_insert]
  split_ifs
  · exact hhand
  · exact h p (hplayers ▸ hp)

/-- Cards that are removed leave the rest in order, and the bottom cards are sorted in. -/
lemma HandsSorted.rule {written : Room} {ended : Bool} (h : room.HandsSorted)
    (hp : playerId ∈ room.players) (hrule : ActionRule room playerId request written ended) :
    written.HandsSorted := by
  have hrest : ∀ hand, room.hands.lookup playerId = some hand →
      (hand.diff request.cards).Pairwise cardBefore := by
    intro hand hhand
    have hsorted := h playerId hp
    rw [hand_of_lookup hhand] at hsorted
    exact hsorted.sublist (List.diff_sublist _ _)
  cases hrule with
  | callNext => exact h
  | callLast => exact h
  | robNext => exact h
  | robLast _ _ _ hand => exact h.insert (pairwise_sortCards _) rfl rfl
  | passNext => exact h
  | passLast => exact h
  | play _ _ _ hand hhand => exact h.insert (hrest hand hhand) rfl rfl
  | playLast _ _ _ hand hhand _ _ _ hnil => exact h.insert (hnil ▸ hrest hand hhand) rfl rfl

end Room

lemma RoomStep.handsSorted {rng : Shuffler} {room room' : Room}
    {accepted : Option (PlayerActionRequest × PlayerActionResult)}
    (h : RoomStep rng room accepted room') (hsorted : room.HandsSorted) : room'.HandsSorted := by
  cases h with
  | unchanged => exact hsorted
  | accepted hact hrule =>
    obtain ⟨written, ended, hrule, rfl, -⟩ := hrule
    have hp := hact.mem
    rw [← startGame_players rng] at hp
    have hwritten := (hsorted.startGame rng).rule hp hrule
    exact hwritten
  | rejected hact hrule =>
    cases hrule with
    | unchanged => exact hsorted.startGame rng
    | noLandlordHand => exact hsorted.startGame rng
  | presence => exact hsorted
  | settling => exact hsorted
  | finished => exact hsorted

namespace Room

variable {room : Room} {playerId : ℤ} {request : PlayerActionRequest} {log : List AcceptedAction}

/-- No card is twice in a hand. -/
lemma Playable.hand_nodup (h : room.Playable log) (hdealt : room.dealt = true)
    (hp : playerId ∈ room.players) : (room.hand playerId).Nodup := by
  obtain ⟨played, merged, hcons⟩ := h.conserved
  obtain ⟨hmerged, hunmerged⟩ := hcons.cards hdealt
  have hsplit := handCards_insert h.game.trio.2 hp room.hands []
  rw [Multiset.coe_nil, add_zero] at hsplit
  have hle : (room.hand playerId : Multiset ℤ) ≤ handCards room.players room.hands :=
    hsplit ▸ Multiset.le_add_left _ _
  have hdeck : handCards room.players room.hands ≤ (deck : Multiset ℤ) := by
    by_cases hm : merged
    · rw [← hmerged hm]
      exact Multiset.le_add_right _ _
    · rw [← hunmerged hm, add_assoc]
      exact Multiset.le_add_right _ _
  exact Multiset.coe_nodup.mp
    (Multiset.nodup_of_le (hle.trans hdeck) (Multiset.coe_nodup.mpr nodup_deck))

/-! ### The cheapest single -/

/-- `c` has the lowest rank of the cards of a hand that have a property. -/
def IsLowest (hand : List ℤ) (p : ℤ → Prop) (c : ℤ) : Prop :=
  c ∈ hand ∧ p c ∧ ∀ d ∈ hand, p d → cardRank c ≤ cardRank d

/-- A card beats, as a single, what lies on the table. -/
def BeatsAlone (room : Room) (c : ℤ) : Prop :=
  canBeat (analyze [c]) (analyze room.lastPlayCards) = true

/-- The cheapest single that the table allows the player, or a pass where it allows none. -/
inductive CheapestSingle (room : Room) (playerId : ℤ) : PlayerActionRequest → Prop
  | lead {c : ℤ} (htable : room.lastPlayCards = [])
      (h : IsLowest (room.hand playerId) (fun _ => True) c) :
      CheapestSingle room playerId { actionType := .playCards, cards := [c] }
  | beat {c : ℤ} (htable : (analyze room.lastPlayCards).type = .single)
      (h : IsLowest (room.hand playerId) room.BeatsAlone c) :
      CheapestSingle room playerId { actionType := .playCards, cards := [c] }
  | yield (htable : (analyze room.lastPlayCards).type = .single)
      (h : ∀ c ∈ room.hand playerId, ¬ room.BeatsAlone c) :
      CheapestSingle room playerId { actionType := .pass }
  | other (htable : room.lastPlayCards ≠ []) (h : (analyze room.lastPlayCards).type ≠ .single) :
      CheapestSingle room playerId { actionType := .pass }

lemma analyze_single {c : ℤ} (h : c ∈ deck) : analyze [c] = ⟨.single, cardRank c, 1, true⟩ := by
  obtain ⟨h0, h53⟩ := mem_deck.mp h
  have hrank := (cardRank_ne_zero h0 h53).symm
  simp [analyze, hrank]

/-- A single beats nothing but singles. -/
lemma BeatsAlone.type {c : ℤ} (h : room.BeatsAlone c) (hc : c ∈ deck)
    (htable : (analyze room.lastPlayCards).IsResult) :
    (analyze room.lastPlayCards).type = .single := by
  have htype : (analyze [c]).type = .single := by rw [analyze_single hc]
  have hrule := (canBeat_iff ⟨analyze_single_valid hc, _, rfl⟩ htable).mp h
  cases hrule with
  | rocket ha => cases htype.symm.trans ha
  | bomb ha => cases htype.symm.trans ha
  | higher heq => exact heq.symm.trans htype

/-- The first card in order that has a property is the lowest. -/
lemma isLowest_of_find? {hand : List ℤ} {f : ℤ → Bool} {p : ℤ → Prop} {c : ℤ}
    (hsorted : hand.Pairwise cardBefore) (hfind : hand.find? f = some c)
    (hf : ∀ d ∈ hand, f d = true ↔ p d) : IsLowest hand p c := by
  obtain ⟨hc, before, after, rfl, hbefore⟩ := List.find?_eq_some_iff_append.mp hfind
  refine ⟨by simp, (hf c (by simp)).mp hc, fun d hd hpd => ?_⟩
  have hafter := (List.pairwise_append.mp hsorted).2.1
  rcases List.mem_append.mp hd with hd' | hd'
  · have := hbefore d hd'
    rw [(hf d hd).mpr hpd] at this
    cases this
  · rcases List.mem_cons.mp hd' with rfl | hd'
    · exact le_rfl
    · exact cardRank_le_of_cardBefore (List.rel_of_pairwise_cons hafter hd')

/-- The request that a trustee makes in `Playing` is the cheapest one. -/
lemma Playable.cheapest (h : room.Playable log) (hvalid : PlaysValid log)
    (hsorted : room.HandsSorted) (hs : room.state = .playing)
    (hrequest : room.trusteeRequest room.currentOperatorPlayerId = .ok request) :
    room.CheapestSingle room.currentOperatorPlayerId request := by
  have hp := h.operator
  have hdeck : ∀ c ∈ room.hand room.currentOperatorPlayerId, c ∈ deck := fun c hc =>
    h.mem_deck (Or.inr (Or.inr hs)) hp hc
  have hne := h.ends.hands (Or.inr (Or.inr hs)) _ hp
  have hhand := hsorted _ hp
  rw [trusteeRequest, if_neg (not_not.mpr rfl)] at hrequest
  simp only [hs] at hrequest
  by_cases htable : room.lastPlayCards = []
  · rw [if_pos (Or.inl htable)] at hrequest
    cases hcards : room.hand room.currentOperatorPlayerId with
    | nil => exact absurd hcards hne
    | cons c rest =>
      simp only [hcards, Except.ok.injEq] at hrequest
      subst hrequest
      refine .lead htable ?_
      rw [hcards] at hhand ⊢
      exact isLowest_of_find? (f := fun _ => true) hhand rfl (by simp)
  · obtain ⟨prev, hprev, -, hcards, hplayer, -, -, -, hother⟩ :=
      (h.game.trick.table hs).follow_of_ne h.game.trio htable
    have hresult : (analyze room.lastPlayCards).IsResult := by
      obtain ⟨hplay, -⟩ := List.find?_eq_some_iff_append.mp hprev
      rw [hcards]
      exact hvalid prev (List.mem_reverse.mp (List.mem_of_find?_eq_some hprev)) hplay
    have hlead : ¬ (room.lastPlayCards = [] ∨
        room.lastPlayPlayerId = room.currentOperatorPlayerId) := by
      rw [hplayer]
      exact not_or.mpr ⟨htable, hother.symm⟩
    rw [if_neg hlead] at hrequest
    -- the cards of the hand are valid singles
    have hiff : ∀ c ∈ room.hand room.currentOperatorPlayerId,
        ((analyze [c]).valid && canBeat (analyze [c]) (analyze room.lastPlayCards)) = true ↔
          room.BeatsAlone c := by
      intro c hc
      rw [analyze_single_valid (hdeck c hc), Bool.true_and, BeatsAlone]
    cases hcard : room.trusteeCard room.currentOperatorPlayerId with
    | some c =>
      simp only [hcard, Except.ok.injEq] at hrequest
      subst hrequest
      have hlowest := isLowest_of_find? hhand hcard hiff
      exact .beat (hlowest.2.1.type (hdeck c hlowest.1) hresult) hlowest
    | none =>
      simp only [hcard, Except.ok.injEq] at hrequest
      subst hrequest
      by_cases htype : (analyze room.lastPlayCards).type = .single
      · refine .yield htype fun c hc hbeats => ?_
        exact List.find?_eq_none.mp hcard c hc ((hiff c hc).mpr hbeats)
      · exact .other htable htype

end Room

namespace RoomManager

variable {rng : Shuffler} {m : RoomManager}

/-- Every hand is strictly increasing in rank and number, and a trustee plays the cheapest single
that the table allows, or passes. -/
theorem trustee_plays_cheapest {ops : List RoomOp} {roomId : ℤ} {room : Room}
    (hrun : Run.exec (step rng) {} ops = some m) (hroom : m.rooms.find roomId = some room)
    (htrio : room.HasTrio) :
    (room.dealt = true → ∀ p ∈ room.players,
      ∃ hand, room.hands.lookup p = some hand ∧ hand.Pairwise cardLess) ∧
    (room.state = .playing → ∃ request result,
      room.CheapestSingle room.currentOperatorPlayerId request ∧
      m.applyTrusteeAction rng roomId room.currentOperatorPlayerId =
        m.applyPlayerAction rng roomId room.currentOperatorPlayerId request ∧
      (m.applyPlayerAction rng roomId room.currentOperatorPlayerId request).2 = .ok result) := by
  obtain ⟨log, hI, hvalid, hsorted⟩ := room_invariant
    (I := fun room => room.HasTrio →
      ∃ log, room.Playable log ∧ PlaysValid log ∧ room.HandsSorted)
    (fun roomId mode players htrio => ⟨[], playable_newRoom _ _ htrio.1 htrio.2,
      (fun _ ha => by cases ha), fun _ _ => List.Pairwise.nil⟩)
    (fun room accepted room' hI h htrio => by
      obtain ⟨log, hplayable, hvalid, hsorted⟩ := hI (h.hasTrio.mp htrio)
      exact ⟨_, h.playable roomId hplayable, h.playsValid roomId hvalid, h.handsSorted hsorted⟩)
    (by simp) hrun roomId room hroom htrio
  constructor
  · intro hdealt p hp
    obtain ⟨hand, hhand⟩ := Option.ne_none_iff_exists'.mp (hI.game.wellFormed.hands hdealt p hp)
    have hbefore := hsorted p hp
    have hnodup := hI.hand_nodup hdealt hp
    rw [hand_of_lookup hhand] at hbefore hnodup
    exact ⟨hand, hhand, hbefore.imp₂ (fun a b => cardLess_of_cardBefore) hnodup⟩
  · intro hs
    obtain ⟨request, result, hrequest, hresult⟩ :=
      hI.accepts_trustee rng (Or.inr (Or.inr hs))
    refine ⟨request, result, hI.cheapest hvalid hsorted hs hrequest, ?_, ?_⟩
    · simp only [applyTrusteeAction, hroom, hrequest]
    · rw [applyPlayerAction_reply hroom, hresult]

/-- A trustee leads for the landlord, who was the only caller. -/
theorem trustee_plays_cheapest_of_landlord :
    ∃ m room request, Run.exec (step .sorted) {} [.createRoom 3 [1, 2, 3],
        .applyPlayerAction 1 1 { callScore := 3 }, .applyTrusteeAction 1 1,
        .applyTrusteeAction 1 2, .applyTrusteeAction 1 3] = some m ∧
      m.rooms.find 1 = some room ∧ room.lastPlayCards = [] ∧ room.CheapestSingle 1 request := by
  have hlive : ((Run.exec (step .sorted) {} [.createRoom 3 [1, 2, 3],
        .applyPlayerAction 1 1 { callScore := 3 }, .applyTrusteeAction 1 1,
        .applyTrusteeAction 1 2, .applyTrusteeAction 1 3]).bind fun m => m.rooms.find 1).any
      (fun room => room.players = [1, 2, 3] ∧ room.state = .playing ∧
        room.currentOperatorPlayerId = 1 ∧ room.lastPlayCards = []) = true := by
    decide +kernel
  obtain ⟨room, hroom, hdecide⟩ := (Option.any_eq_true _ _).mp hlive
  obtain ⟨m, hrun, hfind⟩ := Option.bind_eq_some_iff.mp hroom
  obtain ⟨hplayers, hstate, hturn, htable⟩ := of_decide_eq_true hdecide
  have htrio : room.HasTrio := by
    rw [HasTrio, hplayers]
    decide
  obtain ⟨request, -, hcheapest, -⟩ := (trustee_plays_cheapest hrun hfind htrio).2 hstate
  exact ⟨m, room, request, hrun, hfind, htable, hturn ▸ hcheapest⟩

end RoomManager

end DdzServer
