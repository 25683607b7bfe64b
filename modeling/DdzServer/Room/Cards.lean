import DdzServer.Room.Action
import Mathlib.Algebra.Order.Sub.Unbundled.Basic
import Mathlib.Data.List.FinRange
import Mathlib.Data.List.GetD

/-!
# Cards that are sorted, dealt and removed

What `SortCards`, `RemoveCards` and `DealCards` do to the cards as bags.
-/

namespace DdzServer

open UnorderedMap

lemma sortCards_perm (cards : List ℤ) : (sortCards cards).Perm cards :=
  List.perm_insertionSort cardBefore cards

@[simp] lemma coe_sortCards (cards : List ℤ) : (sortCards cards : Multiset ℤ) = cards :=
  Multiset.coe_eq_coe.mpr (sortCards_perm cards)

@[simp] lemma length_sortCards (cards : List ℤ) : (sortCards cards).length = cards.length :=
  (sortCards_perm cards).length_eq

/-! ### `RemoveCards` -/

/-- The count of a card that the first loop of `RemoveCards` starts from. -/
lemma at'_countCards (hand : List ℤ) (c : ℤ) : at' (countCards hand) c 0 = hand.count c := by
  have key : ∀ cnt : UnorderedMap ℤ ℕ,
      at' (hand.foldl (fun cnt c => Finmap.insert c (at' cnt c 0 + 1) cnt) cnt) c 0 =
        at' cnt c 0 + hand.count c := by
    induction hand with
    | nil => simp
    | cons x hand ih =>
      intro cnt
      rw [List.foldl_cons, ih, at'_insert, List.count_cons]
      by_cases hx : c = x
      · subst hx
        simp
        omega
      · simp [hx, Ne.symm hx]
  simpa [countCards, at'] using key ∅

lemma takeCounted_iff (cnt : UnorderedMap ℤ ℕ) (cards : List ℤ) :
    takeCounted cnt cards = true ↔ ∀ c, cards.count c ≤ at' cnt c 0 := by
  induction cards generalizing cnt with
  | nil => simp [takeCounted]
  | cons x cards ih =>
    simp only [takeCounted]
    split
    case h_1 n hx =>
      have hxn : at' cnt x 0 = n + 1 := by simp [at', hx]
      rw [ih]
      refine forall_congr' fun c => ?_
      rw [at'_insert, List.count_cons]
      by_cases hc : c = x
      · subst hc
        simp [hxn]
      · simp [hc, Ne.symm hc]
    case h_2 hx =>
      have hx0 : at' cnt x 0 = 0 := by
        rw [at']
        rcases h : cnt.lookup x with _ | _ | n
        · rfl
        · rfl
        · exact absurd h (hx n)
      simp only [Bool.false_eq_true, false_iff, not_forall, not_le]
      exact ⟨x, by simp [hx0]⟩

lemma eraseCards_of_subperm {hand cards : List ℤ} (h : cards.Subperm hand) :
    eraseCards hand cards = (hand.diff cards, true) := by
  induction cards generalizing hand with
  | nil => simp [eraseCards]
  | cons c cards ih =>
    have hc : c ∈ hand := h.subset List.mem_cons_self
    rw [eraseCards, if_pos hc, List.diff_cons]
    refine ih ?_
    have := h.erase c
    rwa [List.erase_cons_head] at this

/-- The second loop of `RemoveCards` never fails: the cards are removed all together or not at
all. -/
theorem removeCards_eq (hand cards : List ℤ) :
    removeCards hand cards =
      if cards.Subperm hand then (hand.diff cards, true) else (hand, false) := by
  have htake : takeCounted (countCards hand) cards = true ↔ cards.Subperm hand := by
    rw [takeCounted_iff, List.subperm_ext_iff]
    simp only [at'_countCards]
    refine ⟨fun h c _ => h c, fun h c => ?_⟩
    by_cases hc : c ∈ cards
    · exact h c hc
    · simp [List.count_eq_zero_of_not_mem hc]
  rw [removeCards]
  by_cases h : cards.Subperm hand
  · rw [if_pos h, if_pos (htake.mpr h), eraseCards_of_subperm h]
  · rw [if_neg h, if_neg (mt htake.mp h)]

/-- The removed cards and the rest make up the hand. -/
lemma add_coe_diff {hand cards : List ℤ} (h : cards.Subperm hand) :
    (cards : Multiset ℤ) + (hand.diff cards : List ℤ) = hand := by
  rw [← Multiset.coe_sub]
  exact add_tsub_cancel_of_le (Multiset.coe_le.mpr h)

/-! ### `DealCards` -/

/-- The cards that the listed players hold together. -/
def handCards (players : List ℤ) (hands : UnorderedMap ℤ (List ℤ)) : Multiset ℤ :=
  sumOver (fun hand : List ℤ => (hand : Multiset ℤ)) [] players hands

/-- A new hand replaces the old one among the cards held. -/
lemma handCards_insert {players : List ℤ} {pid : ℤ} (hnd : players.Nodup) (hp : pid ∈ players)
    (hands : UnorderedMap ℤ (List ℤ)) (hand : List ℤ) :
    handCards players (Finmap.insert pid hand hands) + (at' hands pid [] : List ℤ) =
      handCards players hands + (hand : Multiset ℤ) :=
  sumOver_insert (fun hand : List ℤ => (hand : Multiset ℤ)) [] hnd hp hands hand

lemma handCards_insert_of_perm {players : List ℤ} {pid : ℤ} (hnd : players.Nodup)
    (hp : pid ∈ players) (hands : UnorderedMap ℤ (List ℤ)) {hand : List ℤ}
    (h : hand.Perm (at' hands pid [])) :
    handCards players (Finmap.insert pid hand hands) = handCards players hands := by
  have := handCards_insert hnd hp hands hand
  rwa [Multiset.coe_eq_coe.mpr h, add_left_inj] at this

namespace Room

lemma length_deck : deck.length = 54 := by simp [deck]

lemma nodup_deck : deck.Nodup := by
  refine List.nodup_ofFn.mpr fun i j h => ?_
  exact Fin.ext (by exact_mod_cast h)

lemma mem_deck {c : ℤ} : c ∈ deck ↔ 0 ≤ c ∧ c ≤ 53 := by
  simp only [deck, List.mem_ofFn]
  constructor
  · rintro ⟨i, rfl⟩
    omega
  · rintro ⟨h0, h53⟩
    exact ⟨⟨c.toNat, by omega⟩, by simp [h0]⟩

/-- After `k` rounds the first `k` cards are dealt. -/
lemma handCards_dealCard {players cards : List ℤ} (hnd : players.Nodup) (hlen : players.length = 3)
    (hands : UnorderedMap ℤ (List ℤ)) {k : ℕ} (hk : k ≤ cards.length) :
    handCards players ((List.range k).foldl (dealCard players cards) hands) =
      handCards players hands + (cards.take k : List ℤ) := by
  induction k with
  | zero => simp
  | succ k ih =>
    set dealt := (List.range k).foldl (dealCard players cards) hands with hdealt
    have hp : players.getD (k % 3) 0 ∈ players := by
      have : k % 3 < players.length := by omega
      rw [List.getD_eq_getElem _ _ this]
      exact List.getElem_mem this
    have hc : cards.take (k + 1) = cards.take k ++ [cards.getD k 0] := by
      have : k < cards.length := hk
      rw [List.getD_eq_getElem _ _ this, List.take_succ_eq_append_getElem this]
    have hround := handCards_insert hnd hp dealt
      (at' dealt (players.getD (k % 3) 0) [] ++ [cards.getD k 0])
    rw [← Multiset.coe_add, add_comm (Multiset.ofList (at' dealt _ [])), ← add_assoc,
      add_left_inj] at hround
    rw [List.range_succ, List.foldl_append, ← hdealt, hc, ← Multiset.coe_add, ← add_assoc,
      ← ih (by omega)]
    exact hround

/-- The dealt hands hold the first 51 cards together. -/
theorem handCards_dealHands {players cards : List ℤ} (hnd : players.Nodup)
    (hlen : players.length = 3) (hcards : 51 ≤ cards.length) (hands : UnorderedMap ℤ (List ℤ)) :
    handCards players (dealHands players cards hands) = (cards.take 51 : List ℤ) := by
  have hsort : ∀ (l : List ℤ) (h : UnorderedMap ℤ (List ℤ)), l ⊆ players →
      handCards players
        (l.foldl (fun h pid => Finmap.insert pid (sortCards (at' h pid [])) h) h) =
      handCards players h := by
    intro l
    induction l with
    | nil => intros; rfl
    | cons p l ih =>
      intro h hl
      rw [List.foldl_cons, ih _ (List.subset_of_cons_subset hl)]
      exact handCards_insert_of_perm hnd (hl List.mem_cons_self) h (sortCards_perm _)
  have hclear :
      handCards players (players.foldl (fun h pid => Finmap.insert pid [] h) hands) = 0 := by
    refine List.sum_eq_zero (M := Multiset ℤ) fun x hx => ?_
    obtain ⟨p, hp, rfl⟩ := List.mem_map.mp hx
    rw [at', lookup_foldl_insert (fun _ => []), if_pos hp]
    rfl
  rw [dealHands, hsort _ _ (List.Subset.refl _), handCards_dealCard hnd hlen _ hcards, hclear,
    zero_add]

lemma lookup_dealHands_ne_none {players : List ℤ} (cards : List ℤ)
    (hands : UnorderedMap ℤ (List ℤ)) {pid : ℤ} (hp : pid ∈ players) :
    (dealHands players cards hands).lookup pid ≠ none :=
  (lookup_foldl_insert_ne_none id _ _ _ _).mpr (Or.inr ⟨pid, hp, rfl⟩)

end Room

end DdzServer
