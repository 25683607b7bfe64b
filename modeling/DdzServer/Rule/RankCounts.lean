import DdzServer.Rule.ComboOrder
import Mathlib.Algebra.BigOperators.Group.List.Lemmas
import Mathlib.Data.Int.Interval
import Mathlib.Tactic.Ring

/-!
# Sequences of ranks, and how often ranks occur

What `IsConsecutive` and `IsValidSequenceRanks` check of a sorted list of ranks, and what the map
`cnt` says of the cards it was made of.
-/

namespace DdzServer

/-! ### Consecutive ranks -/

/-- `w` consecutive ranks up to `k`. -/
def block (k : ℤ) (w : ℕ) : Finset ℤ := (Finset.range w).image fun i : ℕ => k - i

lemma mem_block_iff {k r : ℤ} {w : ℕ} : r ∈ block k w ↔ k - w < r ∧ r ≤ k := by
  rw [block, Finset.mem_image]
  constructor
  · rintro ⟨i, hi, rfl⟩
    have := Finset.mem_range.mp hi
    omega
  · rintro ⟨hlt, hle⟩
    exact ⟨(k - r).toNat, Finset.mem_range.mpr (by omega), by omega⟩

/-- The ranks of a block are none of 2 and the jokers. -/
def InSequence (k : ℤ) (w : ℕ) : Prop := 3 ≤ k - w + 1 ∧ k ≤ 14

/-- `w` consecutive ranks from `lo` on. -/
def consecutive (lo : ℤ) : ℕ → List ℤ
  | 0     => []
  | w + 1 => lo :: consecutive (lo + 1) w

@[simp] lemma length_consecutive (lo : ℤ) (w : ℕ) : (consecutive lo w).length = w := by
  induction w generalizing lo with
  | zero => rfl
  | succ w ih => simp [consecutive, ih]

@[simp] lemma mem_consecutive {lo r : ℤ} {w : ℕ} :
    r ∈ consecutive lo w ↔ lo ≤ r ∧ r < lo + w := by
  induction w generalizing lo with
  | zero => simp [consecutive]
  | succ w ih =>
    rw [consecutive, List.mem_cons, ih]
    omega

lemma pairwise_consecutive (lo : ℤ) (w : ℕ) : (consecutive lo w).Pairwise (· < ·) := by
  induction w generalizing lo with
  | zero => exact List.Pairwise.nil
  | succ w ih =>
    refine List.pairwise_cons.mpr ⟨fun r hr => ?_, ih (lo + 1)⟩
    have := (mem_consecutive.mp hr).1
    omega

lemma getLastD_consecutive (lo d : ℤ) (w : ℕ) :
    (consecutive lo (w + 1)).getLastD d = lo + w := by
  induction w generalizing lo d with
  | zero => simp [consecutive]
  | succ w ih =>
    rw [consecutive, List.getLastD_cons, ih]
    push_cast
    ring

lemma maxRank_consecutive {lo : ℤ} (h : 0 ≤ lo) (w : ℕ) :
    maxRank (consecutive lo (w + 1)) = lo + w := by
  have hfold : ∀ (w : ℕ) (lo d : ℤ), d ≤ lo →
      (consecutive lo (w + 1)).foldl max d = lo + w := by
    intro w
    induction w with
    | zero =>
      intro lo d hd
      simp [consecutive, hd]
    | succ w ih =>
      intro lo d hd
      rw [consecutive, List.foldl_cons, max_eq_right hd, ih (lo + 1) lo (by omega)]
      push_cast
      ring
  exact hfold w lo 0 h

variable {l : List ℤ} {k : ℤ} {w : ℕ}

lemma isConsecutive_iff (l : List ℤ) :
    isConsecutive l = true ↔ l ≠ [] ∧ ∀ x ∈ l.zip l.tail, x.2 = x.1 + 1 := decide_eq_true_iff

lemma isConsecutive_cons (a : ℤ) (l : List ℤ) :
    isConsecutive (a :: l) = true ↔ a :: l = consecutive a (l.length + 1) := by
  induction l generalizing a with
  | nil => simp [isConsecutive, consecutive]
  | cons b l ih =>
    have hstep : isConsecutive (a :: b :: l) = true ↔
        b = a + 1 ∧ isConsecutive (b :: l) = true := by
      rw [isConsecutive_iff, isConsecutive_iff]
      simp
    rw [hstep, ih]
    constructor
    · rintro ⟨rfl, heq⟩
      rw [heq]
      simp [consecutive]
    · intro heq
      rw [List.length_cons, consecutive, consecutive, List.cons.injEq, List.cons.injEq] at heq
      obtain ⟨-, rfl, heq⟩ := heq
      refine ⟨rfl, ?_⟩
      rw [consecutive, ← heq]

lemma isConsecutive_consecutive (lo : ℤ) (w : ℕ) :
    isConsecutive (consecutive lo (w + 1)) = true := by
  rw [consecutive, isConsecutive_cons, length_consecutive, consecutive]

/-- A sorted list of the ranks of a block. -/
lemma eq_consecutive_of_toFinset (hs : l.Pairwise (· < ·)) (h : l.toFinset = block k w) :
    l = consecutive (k - w + 1) w := by
  refine List.Perm.eq_of_pairwise' (r := (· ≤ ·)) (hs.imp le_of_lt)
    ((pairwise_consecutive _ _).imp le_of_lt) ?_
  have hnodup := (pairwise_consecutive (k - w + 1) w).imp ne_of_lt
  refine (List.perm_ext_iff_of_nodup (hs.imp ne_of_lt) hnodup).mpr fun r => ?_
  rw [← List.mem_toFinset, h, mem_block_iff, mem_consecutive]
  omega

lemma toFinset_consecutive (k : ℤ) (w : ℕ) : (consecutive (k - w + 1) w).toFinset = block k w := by
  ext r
  rw [List.mem_toFinset, mem_consecutive, mem_block_iff]
  omega

/-- The two checks of a sequence. -/
lemma isSequence_iff (l : List ℤ) :
    isConsecutive l = true ∧ isValidSequenceRanks l = true ↔
      ∃ k w, l = consecutive (k - (w + 1 : ℕ) + 1) (w + 1) ∧ InSequence k (w + 1) := by
  constructor
  · rintro ⟨hcons, hvalid⟩
    cases l with
    | nil => simp [isConsecutive] at hcons
    | cons a l =>
      rw [isConsecutive_cons] at hcons
      have hlast : (a :: l).getLastD 0 = a + l.length := by
        rw [hcons, getLastD_consecutive]
      simp only [isValidSequenceRanks, hlast, List.headD_cons, ne_eq, reduceCtorEq,
        not_false_eq_true, true_and, decide_eq_true_eq] at hvalid
      have heq : a + l.length - (l.length + 1 : ℕ) + 1 = a := by
        push_cast
        ring
      refine ⟨a + l.length, l.length, ?_, ?_, hvalid.2⟩
      · rw [heq]
        exact hcons
      · rw [heq]
        exact hvalid.1
  · rintro ⟨k, w, rfl, hlow, hhigh⟩
    refine ⟨isConsecutive_consecutive _ _, ?_⟩
    rw [isValidSequenceRanks, getLastD_consecutive]
    simp only [consecutive, List.headD_cons, ne_eq, reduceCtorEq, not_false_eq_true, true_and,
      decide_eq_true_eq]
    push_cast at hlow ⊢
    omega

/-! ### The map `cnt` -/

/-- The number of cards of a rank. -/
def profile (cards : List ℤ) (r : ℤ) : ℕ := (cards.map cardRank).count r

/-- Every rank that occurs at all occurs `c` or `d` times. -/
def OnlyCounts (cards : List ℤ) (c d : ℕ) : Prop := ∀ kv ∈ rankCounts cards, kv.2 = c ∨ kv.2 = d

variable {cards : List ℤ} {c d : ℕ}

lemma sortedRanks_perm (cards : List ℤ) : (sortedRanks cards).Perm (cards.map cardRank) :=
  List.perm_insertionSort _ _

lemma pairwise_sortedRanks (cards : List ℤ) : (sortedRanks cards).Pairwise (· ≤ ·) :=
  List.pairwise_insertionSort _ _

lemma length_sortedRanks (cards : List ℤ) : (sortedRanks cards).length = cards.length := by
  rw [(sortedRanks_perm cards).length_eq, List.length_map]

lemma count_sortedRanks (cards : List ℤ) (r : ℤ) :
    (sortedRanks cards).count r = profile cards r := (sortedRanks_perm cards).count_eq r

lemma rankCounts_eq (cards : List ℤ) :
    rankCounts cards = (sortedRanks cards).dedup.map fun r => (r, profile cards r) := by
  simp only [rankCounts, countRanks, count_sortedRanks]

lemma mem_dedup_iff (r : ℤ) : r ∈ (sortedRanks cards).dedup ↔ 0 < profile cards r := by
  rw [List.mem_dedup, ← count_sortedRanks, List.count_pos_iff]

lemma mem_rankCounts {kv : ℤ × ℕ} :
    kv ∈ rankCounts cards ↔ 0 < kv.2 ∧ kv.2 = profile cards kv.1 := by
  rw [rankCounts_eq, List.mem_map]
  constructor
  · rintro ⟨r, hr, rfl⟩
    exact ⟨(mem_dedup_iff r).mp hr, rfl⟩
  · rintro ⟨hpos, heq⟩
    exact ⟨kv.1, (mem_dedup_iff _).mpr (heq ▸ hpos), by rw [← heq]⟩

lemma mem_ranksWith (hc : 0 < c) {r : ℤ} : r ∈ ranksWith cards c ↔ profile cards r = c := by
  simp only [ranksWith, collectRanksByCount, List.mem_map, List.mem_filter, decide_eq_true_eq]
  constructor
  · rintro ⟨kv, ⟨hkv, rfl⟩, rfl⟩
    exact (mem_rankCounts.mp hkv).2.symm
  · intro h
    exact ⟨(r, c), ⟨mem_rankCounts.mpr ⟨hc, h.symm⟩, rfl⟩, rfl⟩

lemma pairwise_dedup (cards : List ℤ) : (sortedRanks cards).dedup.Pairwise (· < ·) := by
  have hle : (sortedRanks cards).dedup.Pairwise (· ≤ ·) :=
    (pairwise_sortedRanks cards).sublist (List.dedup_sublist _)
  have hne : (sortedRanks cards).dedup.Pairwise (· ≠ ·) := List.nodup_dedup _
  exact (hle.and hne).imp fun h => lt_of_le_of_ne h.1 h.2

lemma map_fst_rankCounts (cards : List ℤ) :
    (rankCounts cards).map Prod.fst = (sortedRanks cards).dedup := by
  rw [rankCounts_eq, List.map_map]
  exact List.map_id _

lemma pairwise_ranksWith (cards : List ℤ) (c : ℕ) : (ranksWith cards c).Pairwise (· < ·) := by
  refine (pairwise_dedup cards).sublist ?_
  rw [← map_fst_rankCounts]
  exact List.filter_sublist.map _

lemma nodup_ranksWith (cards : List ℤ) (c : ℕ) : (ranksWith cards c).Nodup :=
  (pairwise_ranksWith cards c).imp ne_of_lt

lemma length_ranksWith (cards : List ℤ) (c : ℕ) :
    (ranksWith cards c).length = (rankCounts cards).countP fun kv => kv.2 = c := by
  rw [ranksWith, collectRanksByCount, List.length_map, List.countP_eq_length_filter]

/-- The counts add up to the number of cards. -/
lemma sum_rankCounts (cards : List ℤ) : ((rankCounts cards).map Prod.snd).sum = cards.length := by
  rw [rankCounts, countRanks, List.map_map, ← length_sortedRanks]
  exact List.sum_map_count_dedup_eq_length _

lemma sum_map_snd_of_counts {cnt : RankCounts} (hcd : c ≠ d)
    (h : ∀ kv ∈ cnt, kv.2 = c ∨ kv.2 = d) :
    (cnt.map Prod.snd).sum =
      c * cnt.countP (fun kv => kv.2 = c) + d * cnt.countP (fun kv => kv.2 = d) := by
  induction cnt with
  | nil => simp
  | cons kv cnt ih =>
    rw [List.map_cons, List.sum_cons, ih fun x hx => h x (List.mem_cons_of_mem _ hx),
      List.countP_cons, List.countP_cons]
    rcases h kv List.mem_cons_self with hkv | hkv
    · simp only [hkv, hcd, decide_true, if_true, decide_false, Bool.false_eq_true, if_false]
      ring
    · simp only [hkv, hcd.symm, decide_true, if_true, decide_false, Bool.false_eq_true, if_false]
      ring

/-- The number of cards, when the ranks occur `c` or `d` times. -/
lemma OnlyCounts.length (h : OnlyCounts cards c d) (hcd : c ≠ d) :
    cards.length = c * (ranksWith cards c).length + d * (ranksWith cards d).length := by
  rw [← sum_rankCounts, sum_map_snd_of_counts hcd h, length_ranksWith, length_ranksWith]

/-- No rank occurs another number of times. -/
lemma OnlyCounts.ranksWith_eq_nil (h : OnlyCounts cards c d) {e : ℕ} (hc : e ≠ c) (hd : e ≠ d) :
    ranksWith cards e = [] := by
  rw [ranksWith, collectRanksByCount, List.map_eq_nil_iff, List.filter_eq_nil_iff]
  intro kv hkv
  rw [decide_eq_true_eq]
  intro he
  rcases h kv hkv with heq | heq
  · exact hc (he.symm.trans heq)
  · exact hd (he.symm.trans heq)

lemma onlyCounts_self : OnlyCounts cards c c ↔ ∀ kv ∈ rankCounts cards, kv.2 = c := by
  simp only [OnlyCounts, or_self]

lemma OnlyCounts.length_self (h : OnlyCounts cards c c) :
    cards.length = c * (ranksWith cards c).length := by
  have hnone : ranksWith cards (c + 1) = [] :=
    h.ranksWith_eq_nil (Nat.succ_ne_self c) (Nat.succ_ne_self c)
  have hboth : OnlyCounts cards c (c + 1) := fun kv hkv => Or.inl (onlyCounts_self.mp h kv hkv)
  have hsum := hboth.length (Nat.succ_ne_self c).symm
  rw [hnone] at hsum
  simpa using hsum

/-- Not all ranks occur `e` times if one occurs `c` times. -/
lemma not_all_counts {e : ℕ} (hne : ranksWith cards c ≠ []) (he : c ≠ e) :
    ¬ ∀ kv ∈ rankCounts cards, kv.2 = e := by
  intro hall
  refine hne (OnlyCounts.ranksWith_eq_nil (onlyCounts_self.mpr hall) he he)

end DdzServer
