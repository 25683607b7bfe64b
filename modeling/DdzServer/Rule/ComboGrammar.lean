import DdzServer.Rule.RankCounts
import Mathlib.Algebra.Order.BigOperators.Group.List

/-!
# The grammar of the combos

A combo by its profile, the number of cards of each rank: a body of ranks that occur equally often,
and wings of other ranks that occur equally often. `Analyze` recognises exactly these.
-/

namespace DdzServer

/-! ### The grammar -/

/-- The ranks of the body occur `size` times, those of the wings `wingSize` times, and no others. -/
structure Consists (m : ℤ → ℕ) (body : Finset ℤ) (size : ℕ) (wings : Finset ℤ) (wingSize : ℕ) :
    Prop where
  disjoint : Disjoint body wings
  count : ∀ r, m r = if r ∈ body then size else if r ∈ wings then wingSize else 0

/-- The profile `m` is a combo of the given type and main rank. -/
inductive IsCombo (m : ℤ → ℕ) : CardComboType → ℤ → Prop
  | single {k : ℤ} (h : Consists m {k} 1 ∅ 0) : IsCombo m .single k
  | pair {k : ℤ} (h : Consists m {k} 2 ∅ 0) : IsCombo m .pair k
  | triple {k : ℤ} (h : Consists m {k} 3 ∅ 0) : IsCombo m .triple k
  | bomb {k : ℤ} (h : Consists m {k} 4 ∅ 0) : IsCombo m .bomb k
  | rocket (h : Consists m {16, 17} 1 ∅ 0) : IsCombo m .rocket 17
  | tripleOne {k a : ℤ} (h : Consists m {k} 3 {a} 1) : IsCombo m .tripleOne k
  | triplePair {k a : ℤ} (h : Consists m {k} 3 {a} 2) : IsCombo m .triplePair k
  | straight {k : ℤ} {w : ℕ} (hw : 5 ≤ w) (hseq : InSequence k w)
      (h : Consists m (block k w) 1 ∅ 0) : IsCombo m .straight k
  | pairStraight {k : ℤ} {w : ℕ} (hw : 3 ≤ w) (hseq : InSequence k w)
      (h : Consists m (block k w) 2 ∅ 0) : IsCombo m .pairStraight k
  | plane {k : ℤ} {w : ℕ} (hw : 2 ≤ w) (hseq : InSequence k w)
      (h : Consists m (block k w) 3 ∅ 0) : IsCombo m .plane k
  | planeSingle {k : ℤ} {w : ℕ} {wings : Finset ℤ} (hw : 2 ≤ w) (hseq : InSequence k w)
      (hwings : wings.card = w) (h : Consists m (block k w) 3 wings 1) : IsCombo m .planeSingle k
  | planePair {k : ℤ} {w : ℕ} {wings : Finset ℤ} (hw : 2 ≤ w) (hseq : InSequence k w)
      (hwings : wings.card = w) (h : Consists m (block k w) 3 wings 2) : IsCombo m .planePair k
  | fourTwoSingles {k : ℤ} {wings : Finset ℤ} (hwings : wings.card = 2)
      (h : Consists m {k} 4 wings 1) : IsCombo m .fourTwoSingles k
  | fourTwoPairs {k : ℤ} {wings : Finset ℤ} (hwings : wings.card = 2)
      (h : Consists m {k} 4 wings 2) : IsCombo m .fourTwoPairs k

variable {l cards : List ℤ} {k : ℤ} {w c d : ℕ}

/-! ### The grammar in terms of `cnt` -/

lemma consists_iff (hc : 0 < c) (hd : 0 < d) (hcd : c ≠ d) {body wings : Finset ℤ} :
    Consists (profile cards) body c wings d ↔
      OnlyCounts cards c d ∧ (ranksWith cards c).toFinset = body ∧
        (ranksWith cards d).toFinset = wings := by
  constructor
  · rintro ⟨hdisj, hcount⟩
    have hbody : ∀ r, profile cards r = c ↔ r ∈ body := by
      intro r
      rw [hcount]
      split_ifs with hb hw
      · exact iff_of_true rfl hb
      · exact iff_of_false hcd.symm hb
      · exact iff_of_false hc.ne hb
    have hwings : ∀ r, profile cards r = d ↔ r ∈ wings := by
      intro r
      rw [hcount]
      split_ifs with hb hw
      · exact iff_of_false hcd fun hw => Finset.disjoint_left.mp hdisj hb hw
      · exact iff_of_true rfl hw
      · exact iff_of_false hd.ne hw
    refine ⟨fun kv hkv => ?_, ?_, ?_⟩
    · obtain ⟨hpos, heq⟩ := mem_rankCounts.mp hkv
      rw [hcount] at heq
      split_ifs at heq
      · exact Or.inl heq
      · exact Or.inr heq
      · omega
    · ext r
      rw [List.mem_toFinset, mem_ranksWith hc, hbody]
    · ext r
      rw [List.mem_toFinset, mem_ranksWith hd, hwings]
  · rintro ⟨honly, rfl, rfl⟩
    constructor
    · rw [Finset.disjoint_left]
      intro r hr hr'
      rw [List.mem_toFinset, mem_ranksWith hc] at hr
      rw [List.mem_toFinset, mem_ranksWith hd] at hr'
      exact hcd (hr.symm.trans hr')
    · intro r
      split_ifs with h₁ h₂
      · exact (mem_ranksWith hc).mp (List.mem_toFinset.mp h₁)
      · exact (mem_ranksWith hd).mp (List.mem_toFinset.mp h₂)
      · rw [List.mem_toFinset, mem_ranksWith hc] at h₁
        rw [List.mem_toFinset, mem_ranksWith hd] at h₂
        by_contra hne
        rcases honly (r, profile cards r) (mem_rankCounts.mpr ⟨Nat.pos_of_ne_zero hne, rfl⟩)
          with h | h
        · exact h₁ h
        · exact h₂ h

lemma consists_self_iff (hc : 0 < c) {body : Finset ℤ} :
    Consists (profile cards) body c ∅ 0 ↔
      (∀ kv ∈ rankCounts cards, kv.2 = c) ∧ (ranksWith cards c).toFinset = body := by
  constructor
  · rintro ⟨-, hcount⟩
    refine ⟨fun kv hkv => ?_, ?_⟩
    · obtain ⟨hpos, heq⟩ := mem_rankCounts.mp hkv
      rw [hcount] at heq
      split_ifs at heq with hb hw
      · exact heq
      · cases hw
      · omega
    · ext r
      rw [List.mem_toFinset, mem_ranksWith hc, hcount]
      split_ifs with hb hw
      · exact iff_of_true rfl hb
      · cases hw
      · exact iff_of_false hc.ne hb
  · rintro ⟨hall, rfl⟩
    refine ⟨Finset.disjoint_empty_right _, fun r => ?_⟩
    split_ifs with h hw
    · exact (mem_ranksWith hc).mp (List.mem_toFinset.mp h)
    · cases hw
    · rw [List.mem_toFinset, mem_ranksWith hc] at h
      by_contra hne
      exact h (hall (r, profile cards r) (mem_rankCounts.mpr ⟨Nat.pos_of_ne_zero hne, rfl⟩))

/-! ### Lists of ranks as bodies and wings -/

lemma toFinset_eq_singleton : (ranksWith cards c).toFinset = {k} ↔ ranksWith cards c = [k] := by
  constructor
  · intro h
    have hcard := congrArg Finset.card h
    rw [List.toFinset_card_of_nodup (nodup_ranksWith cards c), Finset.card_singleton] at hcard
    obtain ⟨a, ha⟩ := List.length_eq_one_iff.mp hcard
    rw [ha] at h ⊢
    have hmem : a ∈ ({k} : Finset ℤ) := h ▸ by simp
    rw [Finset.mem_singleton.mp hmem]
  · intro h
    rw [h]
    rfl

lemma toFinset_eq_block :
    (ranksWith cards c).toFinset = block k w ↔ ranksWith cards c = consecutive (k - w + 1) w := by
  constructor
  · exact eq_consecutive_of_toFinset (pairwise_ranksWith cards c)
  · intro h
    rw [h, toFinset_consecutive]

lemma card_toFinset (cards : List ℤ) (c : ℕ) :
    (ranksWith cards c).toFinset.card = (ranksWith cards c).length :=
  List.toFinset_card_of_nodup (nodup_ranksWith cards c)

/-- When all ranks occur once, they are the sorted ranks. -/
lemma sortedRanks_eq (h : ∀ kv ∈ rankCounts cards, kv.2 = 1) :
    sortedRanks cards = ranksWith cards 1 := by
  have hone : ranksWith cards 1 = (sortedRanks cards).dedup := by
    rw [← map_fst_rankCounts, ranksWith, collectRanksByCount, List.filter_eq_self.mpr]
    intro kv hkv
    rw [decide_eq_true_eq]
    exact h kv hkv
  rw [hone]
  refine ((List.dedup_sublist _).eq_of_length ?_).symm
  rw [← hone, length_sortedRanks, (onlyCounts_self.mpr h).length_self, one_mul]

/-- One rank only. -/
lemma consists_of_replicate (h : sortedRanks cards = List.replicate c k) :
    Consists (profile cards) {k} c ∅ 0 := by
  refine ⟨Finset.disjoint_empty_right _, fun r => ?_⟩
  rw [← count_sortedRanks, h, List.count_replicate]
  by_cases hr : r = k
  · simp [hr]
  · simp [hr, Ne.symm hr]

lemma sortedRanks_eq_replicate (h : Consists (profile cards) {k} c ∅ 0) (hc : 0 < c) :
    sortedRanks cards = List.replicate c k := by
  obtain ⟨hall, hbody⟩ := (consists_self_iff hc).mp h
  rw [toFinset_eq_singleton] at hbody
  rw [List.eq_replicate_iff]
  constructor
  · rw [length_sortedRanks, (onlyCounts_self.mpr hall).length_self, hbody, List.length_singleton,
      mul_one]
  · intro r hr
    have hpos : 0 < profile cards r := by
      rw [← count_sortedRanks]
      exact List.count_pos_iff.mpr hr
    have hcount : profile cards r = c := hall (r, profile cards r) (mem_rankCounts.mpr ⟨hpos, rfl⟩)
    have hmem := (mem_ranksWith hc).mpr hcount
    rw [hbody] at hmem
    exact List.mem_singleton.mp hmem

/-- A single entry of `cnt`. -/
lemma sortedRanks_of_length_one (h : (rankCounts cards).length = 1) :
    ∃ k, sortedRanks cards = List.replicate cards.length k := by
  rw [rankCounts_eq, List.length_map] at h
  obtain ⟨k, hk⟩ := List.length_eq_one_iff.mp h
  refine ⟨k, List.eq_replicate_iff.mpr ⟨length_sortedRanks cards, fun r hr => ?_⟩⟩
  have hmem : r ∈ (sortedRanks cards).dedup := List.mem_dedup.mpr hr
  rw [hk] at hmem
  exact List.mem_singleton.mp hmem

/-! ### What `Analyze` accepts is a combo -/

lemma isCombo_two (hlen : cards.length = 2)
    (heq : (sortedRanks cards).headD 0 = (sortedRanks cards).getLastD 0) :
    IsCombo (profile cards) .pair ((sortedRanks cards).headD 0) := by
  have hlen' : (sortedRanks cards).length = 2 := (length_sortedRanks cards).trans hlen
  obtain ⟨a, b, hab⟩ := List.length_eq_two.mp hlen'
  rw [hab] at heq ⊢
  obtain rfl : a = b := heq
  exact .pair (consists_of_replicate hab)

lemma consists_rocket (h : sortedRanks cards = [16, 17]) :
    Consists (profile cards) {16, 17} 1 ∅ 0 := by
  refine ⟨Finset.disjoint_empty_right _, fun r => ?_⟩
  rw [← count_sortedRanks, h]
  by_cases h16 : r = 16
  · subst h16
    rfl
  · by_cases h17 : r = 17
    · subst h17
      rfl
    · simp [h16, h17, Ne.symm h16, Ne.symm h17]

/-- An entry and the rest of `cnt`. -/
lemma sum_erase_rankCounts {kv : ℤ × ℕ} (h : kv ∈ rankCounts cards) :
    kv.2 + (((rankCounts cards).erase kv).map Prod.snd).sum = cards.length := by
  rw [← sum_rankCounts, ((List.perm_cons_erase h).map Prod.snd).sum_eq]
  rfl

/-- Of four cards three are equal. -/
lemma onlyCounts_of_three (hlen : cards.length = 4) {r : ℤ} (hr : r ∈ ranksWith cards 3) :
    OnlyCounts cards 3 1 := by
  have hprofile := (mem_ranksWith (by decide)).mp hr
  have hmem : (r, 3) ∈ rankCounts cards := mem_rankCounts.mpr ⟨Nat.succ_pos 2, hprofile.symm⟩
  have hsum := sum_erase_rankCounts hmem
  intro kv hkv
  by_cases heq : kv = (r, 3)
  · exact Or.inl (by rw [heq])
  · have hrest : kv.2 ≤ (((rankCounts cards).erase (r, 3)).map Prod.snd).sum :=
      List.le_sum_of_mem (List.mem_map_of_mem ((List.mem_erase_of_ne heq).mpr hkv))
    have hpos := (mem_rankCounts.mp hkv).1
    omega

lemma isCombo_tripleOne {r : ℤ} {rest : List ℤ} (hlen : cards.length = 4)
    (hr : ranksWith cards 3 = r :: rest) : IsCombo (profile cards) .tripleOne r := by
  have honly := onlyCounts_of_three hlen (r := r) (by rw [hr]; exact List.mem_cons_self)
  have hsum := honly.length (by decide)
  rw [hlen, hr, List.length_cons] at hsum
  obtain rfl : rest = [] := List.length_eq_zero_iff.mp (by omega)
  obtain ⟨a, ha⟩ := List.length_eq_one_iff.mp (show (ranksWith cards 1).length = 1 by
    rw [List.length_nil] at hsum
    omega)
  exact .tripleOne ((consists_iff (by decide) (by decide) (by decide)).mpr
    ⟨honly, toFinset_eq_singleton.mpr hr, toFinset_eq_singleton.mpr ha⟩)

lemma ne_nil_of_getLastD {l : List ℤ} (h : 0 < l.getLastD 0) : l ≠ [] := by
  rintro rfl
  exact lt_irrefl _ h

/-- Of five cards three are equal, and the others are a pair. -/
lemma isCombo_triplePair (hlen : cards.length = 5) (htwo : (rankCounts cards).length = 2)
    (h3 : 0 < (ranksWith cards 3).getLastD 0) (h2 : 0 < (ranksWith cards 2).getLastD 0) :
    IsCombo (profile cards) .triplePair ((ranksWith cards 3).getLastD 0) := by
  have hpos3 := List.length_pos_iff.mpr (ne_nil_of_getLastD h3)
  have hpos2 := List.length_pos_iff.mpr (ne_nil_of_getLastD h2)
  have honly : OnlyCounts cards 3 2 := by
    obtain ⟨x, y, hxy⟩ := List.length_eq_two.mp htwo
    rw [length_ranksWith, hxy, List.countP_pos_iff] at hpos3 hpos2
    have hsum := sum_rankCounts cards
    rw [hxy, hlen] at hsum
    simp only [List.map_cons, List.map_nil, List.sum_cons, List.sum_nil, add_zero] at hsum
    simp only [List.mem_cons, List.not_mem_nil, or_false, decide_eq_true_eq,
      exists_eq_or_imp, exists_eq_left] at hpos3 hpos2
    intro kv hkv
    rw [hxy] at hkv
    simp only [List.mem_cons, List.not_mem_nil, or_false] at hkv
    rcases hkv with rfl | rfl
    · omega
    · omega
  have hsum := honly.length (by decide)
  obtain ⟨k, hk⟩ := List.length_eq_one_iff.mp (show (ranksWith cards 3).length = 1 by omega)
  obtain ⟨a, ha⟩ := List.length_eq_one_iff.mp (show (ranksWith cards 2).length = 1 by omega)
  rw [hk]
  exact .triplePair ((consists_iff (by decide) (by decide) (by decide)).mpr
    ⟨honly, toFinset_eq_singleton.mpr hk, toFinset_eq_singleton.mpr ha⟩)

/-- The two checks of a sequence of ranks that occur `c` times. -/
lemma block_of_isSequence (h : isConsecutive (ranksWith cards c) = true ∧
    isValidSequenceRanks (ranksWith cards c) = true) :
    (ranksWith cards c).toFinset =
        block ((ranksWith cards c).getLastD 0) (ranksWith cards c).length ∧
      InSequence ((ranksWith cards c).getLastD 0) (ranksWith cards c).length ∧
      maxRank (ranksWith cards c) = (ranksWith cards c).getLastD 0 := by
  obtain ⟨k, w, heq, hseq⟩ := (isSequence_iff _).mp h
  have hlast : (ranksWith cards c).getLastD 0 = k := by
    rw [heq, getLastD_consecutive]
    push_cast
    ring
  have hlen : (ranksWith cards c).length = w + 1 := by rw [heq, length_consecutive]
  have hlow := hseq.1
  rw [hlast, hlen]
  refine ⟨toFinset_eq_block.mpr heq, hseq, ?_⟩
  rw [heq, maxRank_consecutive (by omega)]
  push_cast
  ring

/-- The checks of a plane with wings. -/
lemma planeChecks_iff (hc3 : c ≠ 3) :
    isPlaneBody (ranksWith cards 3) w = true ∧
        isPlaneWings (rankCounts cards) (ranksWith cards 3) c w = true ↔
      OnlyCounts cards 3 c ∧ (ranksWith cards 3).length = w ∧ (ranksWith cards c).length = w ∧
        isConsecutive (ranksWith cards 3) = true ∧
        isValidSequenceRanks (ranksWith cards 3) = true := by
  have hwings : OnlyCounts cards 3 c →
      ((rankCounts cards).filter fun kv => kv.2 ≠ 3).length = (ranksWith cards c).length := by
    intro honly
    rw [length_ranksWith, List.countP_eq_length_filter]
    refine congrArg List.length (List.filter_congr fun kv hkv => decide_eq_decide.mpr ?_)
    constructor
    · exact fun h => (honly kv hkv).resolve_left h
    · exact fun h => h ▸ hc3
  simp only [isPlaneBody, isPlaneWings, decide_eq_true_eq, List.mem_filter]
  constructor
  · rintro ⟨⟨hlen, hcons, hvalid⟩, hall, hcount⟩
    have honly : OnlyCounts cards 3 c := by
      intro kv hkv
      by_cases h3 : kv.2 = 3
      · exact Or.inl h3
      · exact Or.inr (hall kv ⟨hkv, by simpa using h3⟩).1
    exact ⟨honly, hlen, (hwings honly).symm.trans hcount, hcons, hvalid⟩
  · rintro ⟨honly, hlen, hlen', hcons, hvalid⟩
    refine ⟨⟨hlen, hcons, hvalid⟩, fun kv hkv => ?_, (hwings honly).trans hlen'⟩
    have hne : kv.2 ≠ 3 := hkv.2
    refine ⟨(honly kv hkv.1).resolve_left hne, fun hmem => hne ?_⟩
    rw [(mem_rankCounts.mp hkv.1).2]
    exact (mem_ranksWith (by decide)).mp hmem

/-- The checks of four equal cards with two ranks besides them. -/
lemma isFourWithTwo_iff :
    isFourWithTwo (rankCounts cards) c = true ↔
      OnlyCounts cards 4 c ∧ 0 < (ranksWith cards 4).getLastD 0 ∧
        (ranksWith cards c).length = 2 := by
  rw [length_ranksWith]
  exact decide_eq_true_iff

lemma consists_of_four (h : isFourWithTwo (rankCounts cards) c = true) (hc : 0 < c) (hc4 : c ≠ 4)
    (hlen : cards.length = 4 + c * 2) :
    (ranksWith cards c).toFinset.card = 2 ∧
      Consists (profile cards) {fourRank (rankCounts cards)} 4 (ranksWith cards c).toFinset c := by
  obtain ⟨honly, -, htwo⟩ := isFourWithTwo_iff.mp h
  have hsum := honly.length hc4.symm
  rw [hlen, htwo] at hsum
  obtain ⟨k, hk⟩ := List.length_eq_one_iff.mp (show (ranksWith cards 4).length = 1 by omega)
  have hrank : fourRank (rankCounts cards) = k := by
    change (ranksWith cards 4).getLastD 0 = k
    rw [hk]
    rfl
  rw [card_toFinset, hrank]
  exact ⟨htwo, (consists_iff (by decide) hc hc4.symm).mpr
    ⟨honly, toFinset_eq_singleton.mpr hk, rfl⟩⟩

/-- A plane with wings of `c` equal cards. -/
lemma consists_of_plane (hc : 0 < c) (hc3 : c ≠ 3)
    (h : isPlaneBody (ranksWith cards 3) w = true ∧
      isPlaneWings (rankCounts cards) (ranksWith cards 3) c w = true) :
    InSequence (maxRank (ranksWith cards 3)) w ∧ (ranksWith cards c).toFinset.card = w ∧
      Consists (profile cards) (block (maxRank (ranksWith cards 3)) w) 3
        (ranksWith cards c).toFinset c := by
  obtain ⟨honly, hlen, hlen', hseq⟩ := (planeChecks_iff hc3).mp h
  obtain ⟨hblock, hin, hmax⟩ := block_of_isSequence hseq
  rw [hlen] at hblock hin
  rw [hmax, card_toFinset]
  exact ⟨hin, hlen', (consists_iff (by decide) hc hc3.symm).mpr ⟨honly, hblock, rfl⟩⟩

/-- Five or more cards that are accepted. -/
lemma isCombo_analyzeMany (hlen : 5 ≤ cards.length)
    (h : (analyzeMany cards.length (sortedRanks cards) (rankCounts cards)).valid = true) :
    IsCombo (profile cards)
      (analyzeMany cards.length (sortedRanks cards) (rankCounts cards)).type
      (analyzeMany cards.length (sortedRanks cards) (rankCounts cards)).mainRank := by
  revert h
  unfold analyzeMany
  dsimp only
  split_ifs with htp hst hps hp hws hwp hfs hfp
  · exact fun _ => isCombo_triplePair htp.1 htp.2.1 htp.2.2.1 htp.2.2.2
  · intro _
    obtain ⟨hall, -, hseq⟩ := hst
    have hn := (onlyCounts_self.mpr hall).length_self
    rw [sortedRanks_eq hall] at hseq ⊢
    obtain ⟨hblock, hin, -⟩ := block_of_isSequence hseq
    exact .straight (by omega) hin ((consists_self_iff (by decide)).mpr ⟨hall, hblock⟩)
  · intro _
    obtain ⟨hsix, -, hall, -, hseq⟩ := hps
    have hn := (onlyCounts_self.mpr hall).length_self
    obtain ⟨hblock, hin, -⟩ := block_of_isSequence hseq
    exact .pairStraight (by omega) hin ((consists_self_iff (by decide)).mpr ⟨hall, hblock⟩)
  · intro _
    obtain ⟨-, -, hall, htwo, hseq⟩ := hp
    obtain ⟨hblock, hin, -⟩ := block_of_isSequence hseq
    exact .plane htwo hin ((consists_self_iff (by decide)).mpr ⟨hall, hblock⟩)
  · intro _
    obtain ⟨height, -, hplane⟩ := hws
    obtain ⟨hin, hcard, hcons⟩ := consists_of_plane (by decide) (by decide) hplane
    exact .planeSingle (by omega) hin hcard hcons
  · intro _
    obtain ⟨hten, -, hplane⟩ := hwp
    obtain ⟨hin, hcard, hcons⟩ := consists_of_plane (by decide) (by decide) hplane
    exact .planePair (by omega) hin hcard hcons
  · intro _
    obtain ⟨hcard, hcons⟩ := consists_of_four hfs.2 (by decide) (by decide) hfs.1
    exact .fourTwoSingles hcard hcons
  · intro _
    obtain ⟨hcard, hcons⟩ := consists_of_four hfp.2 (by decide) (by decide) hfp.1
    exact .fourTwoPairs hcard hcons
  · intro h
    cases h

/-- What `Analyze` accepts is a combo of the type and the main rank it says. -/
lemma isCombo_of_valid (h : (analyze cards).valid = true) :
    IsCombo (profile cards) (analyze cards).type (analyze cards).mainRank := by
  revert h
  by_cases hbad : IsBad cards
  · rw [analyze_of_isBad hbad]
    intro h
    cases h
  have hlen' := length_sortedRanks cards
  rcases lengthCases hbad with hlen | hlen | hlen | hlen | hlen
  · rw [analyze_one hbad hlen]
    obtain ⟨a, ha⟩ := List.length_eq_one_iff.mp (hlen'.trans hlen)
    rw [ha]
    exact fun _ => .single (consists_of_replicate ha)
  · rw [analyze_two hbad hlen]
    split_ifs with hrocket hpair
    · exact fun _ => .rocket (consists_rocket hrocket)
    · exact fun _ => isCombo_two hlen hpair
    · intro h
      cases h
  · rw [analyze_three hbad hlen]
    split_ifs with hone
    · obtain ⟨k, hk⟩ := sortedRanks_of_length_one hone
      rw [hlen] at hk
      rw [hk]
      exact fun _ => .triple (consists_of_replicate hk)
    · intro h
      cases h
  · rw [analyze_four hbad hlen]
    split_ifs with hone
    · obtain ⟨k, hk⟩ := sortedRanks_of_length_one hone
      rw [hlen] at hk
      rw [hk]
      exact fun _ => .bomb (consists_of_replicate hk)
    · cases hr : ranksWith cards 3 with
      | nil =>
        intro h
        cases h
      | cons r rest =>
        exact fun _ => isCombo_tripleOne hlen hr
  · rw [analyze_many hbad hlen]
    exact isCombo_analyzeMany hlen

/-! ### `Analyze` accepts every combo -/

/-- The ranks of cards are positive. -/
lemma rank_pos (hbad : ¬ IsBad cards) {r : ℤ} (h : 0 < profile cards r) : 0 < r := by
  obtain ⟨card, hcard, rfl⟩ := List.mem_map.mp (List.count_pos_iff.mp h)
  have hne : cardRank card ≠ 0 := fun h0 => hbad (Or.inr (List.mem_map.mpr ⟨card, hcard, h0⟩))
  unfold cardRank at hne ⊢
  split_ifs at hne ⊢
  all_goals omega

lemma length_of_replicate (h : sortedRanks cards = List.replicate c k) : cards.length = c := by
  rw [← length_sortedRanks, h, List.length_replicate]

lemma length_rankCounts_of_replicate (h : sortedRanks cards = List.replicate c k) (hc : 0 < c) :
    (rankCounts cards).length = 1 := by
  rw [rankCounts_eq, List.length_map, h, List.replicate_dedup hc.ne']
  rfl

lemma length_rankCounts_cons (h : OnlyCounts cards c d) (hcd : c ≠ d) :
    (rankCounts cards).length = (ranksWith cards c).length + (ranksWith cards d).length := by
  rw [length_ranksWith, length_ranksWith]
  have hsplit : ∀ cnt : RankCounts, (∀ kv ∈ cnt, kv.2 = c ∨ kv.2 = d) →
      cnt.length = cnt.countP (fun kv => kv.2 = c) + cnt.countP (fun kv => kv.2 = d) := by
    intro cnt hcnt
    induction cnt with
    | nil => rfl
    | cons kv cnt ih =>
      rw [List.length_cons, List.countP_cons, List.countP_cons,
        ih fun x hx => hcnt x (List.mem_cons_of_mem _ hx)]
      rcases hcnt kv List.mem_cons_self with hkv | hkv
      · simp only [hkv, hcd, decide_true, if_true, decide_false, Bool.false_eq_true, if_false]
        omega
      · simp only [hkv, hcd.symm, decide_true, if_true, decide_false, Bool.false_eq_true, if_false]
        omega
  exact hsplit _ h

/-- One group of equal cards. -/
lemma ranks_of_consists (hc : 0 < c) (h : Consists (profile cards) {k} c ∅ 0) :
    sortedRanks cards = List.replicate c k ∧ cards.length = c ∧
      (rankCounts cards).length = 1 := by
  have hr := sortedRanks_eq_replicate h hc
  exact ⟨hr, length_of_replicate hr, length_rankCounts_of_replicate hr hc⟩

lemma analyze_rocket (hbad : ¬ IsBad cards) (h : Consists (profile cards) {16, 17} 1 ∅ 0) :
    analyze cards = ⟨.rocket, 17, cards.length, true⟩ := by
  obtain ⟨hall, hbody⟩ := (consists_self_iff (by decide)).mp h
  have hranks : ranksWith cards 1 = [16, 17] := by
    have hblock : block 17 2 = {16, 17} := by decide
    rw [← hblock, toFinset_eq_block] at hbody
    exact hbody
  have hlen : cards.length = 2 := by
    rw [(onlyCounts_self.mpr hall).length_self, hranks]
    rfl
  rw [analyze_two hbad hlen, sortedRanks_eq hall, hranks, if_pos rfl, hlen]
  rfl

lemma analyze_tripleOne (hbad : ¬ IsBad cards) {a : ℤ}
    (h : Consists (profile cards) {k} 3 {a} 1) :
    analyze cards = ⟨.tripleOne, k, cards.length, true⟩ := by
  obtain ⟨honly, h3, h1⟩ := (consists_iff (by decide) (by decide) (by decide)).mp h
  rw [toFinset_eq_singleton] at h3 h1
  have hlen : cards.length = 4 := by
    rw [honly.length (by decide), h3, h1]
    rfl
  have htwo : ¬ (rankCounts cards).length = 1 := by
    rw [length_rankCounts_cons honly (by decide), h3, h1]
    simp
  rw [analyze_four hbad hlen, if_neg htwo, h3, hlen]
  rfl

lemma collectRanksByCount_rankCounts (cards : List ℤ) (c : ℕ) :
    collectRanksByCount (rankCounts cards) c = ranksWith cards c := rfl

lemma analyze_triplePair (hbad : ¬ IsBad cards) {a : ℤ}
    (h : Consists (profile cards) {k} 3 {a} 2) :
    analyze cards = ⟨.triplePair, k, cards.length, true⟩ := by
  have hk : 0 < k := rank_pos hbad (by rw [h.count]; simp)
  obtain ⟨honly, h3, h2⟩ := (consists_iff (by decide) (by decide) (by decide)).mp h
  rw [toFinset_eq_singleton] at h3 h2
  have ha : 0 < a := rank_pos hbad (by
    rw [(mem_ranksWith (by decide)).mp (h2 ▸ List.mem_singleton_self a)]
    decide)
  have hlen : cards.length = 5 := by
    rw [honly.length (by decide), h3, h2]
    rfl
  have htwo : (rankCounts cards).length = 2 := by
    rw [length_rankCounts_cons honly (by decide), h3, h2]
    rfl
  rw [analyze_many hbad hlen.ge]
  unfold analyzeMany
  simp only [collectRanksByCount_rankCounts, h3, h2]
  rw [if_pos ⟨hlen, htwo, hk, ha⟩]
  rfl

/-- Without triples or without pairs there is no triple with a pair. -/
lemma not_triplePair {p q : Prop} (h : ranksWith cards 3 = [] ∨ ranksWith cards 2 = []) :
    ¬ (p ∧ q ∧ 0 < (ranksWith cards 3).getLastD 0 ∧ 0 < (ranksWith cards 2).getLastD 0) := by
  rintro ⟨-, -, h3, h2⟩
  rcases h with h | h
  · exact ne_nil_of_getLastD h3 h
  · exact ne_nil_of_getLastD h2 h

/-- A body of consecutive ranks that occur `c` times. -/
lemma sequence_of_block (hw : 0 < w) (hseq : InSequence k w)
    (h : (ranksWith cards c).toFinset = block k w) :
    (ranksWith cards c).length = w ∧ (ranksWith cards c).getLastD 0 = k ∧
      maxRank (ranksWith cards c) = k ∧
      isConsecutive (ranksWith cards c) = true ∧
      isValidSequenceRanks (ranksWith cards c) = true := by
  obtain ⟨n, rfl⟩ := Nat.exists_eq_succ_of_ne_zero hw.ne'
  have heq := toFinset_eq_block.mp h
  have hsequence := (isSequence_iff (ranksWith cards c)).mpr ⟨k, n, heq, hseq⟩
  have hlast : (ranksWith cards c).getLastD 0 = k := by
    rw [heq, getLastD_consecutive]
    push_cast
    ring
  refine ⟨by rw [heq, length_consecutive], hlast, ?_, hsequence⟩
  rw [(block_of_isSequence hsequence).2.2, hlast]

lemma ne_nil_of_length (hw : 0 < w) (h : (ranksWith cards c).length = w) :
    ranksWith cards c ≠ [] := List.length_pos_iff.mp (h ▸ hw)

/-- A body without wings. -/
lemma sequence_of_consists (hc : 0 < c) (hw : 0 < w) (hseq : InSequence k w)
    (h : Consists (profile cards) (block k w) c ∅ 0) :
    (∀ kv ∈ rankCounts cards, kv.2 = c) ∧ cards.length = c * w ∧
      (ranksWith cards c).length = w ∧ (ranksWith cards c).getLastD 0 = k ∧
      isConsecutive (ranksWith cards c) = true ∧
      isValidSequenceRanks (ranksWith cards c) = true := by
  obtain ⟨hall, hbody⟩ := (consists_self_iff hc).mp h
  obtain ⟨hlen, hlast, -, hsequence⟩ := sequence_of_block hw hseq hbody
  exact ⟨hall, by rw [(onlyCounts_self.mpr hall).length_self, hlen], hlen, hlast, hsequence⟩

lemma analyze_straight (hbad : ¬ IsBad cards) (hw : 5 ≤ w) (hseq : InSequence k w)
    (h : Consists (profile cards) (block k w) 1 ∅ 0) :
    analyze cards = ⟨.straight, k, cards.length, true⟩ := by
  obtain ⟨hall, hlen, -, hlast, hsequence⟩ := sequence_of_consists (by decide) (by omega) hseq h
  have h3 := (onlyCounts_self.mpr hall).ranksWith_eq_nil (e := 3) (by decide) (by decide)
  have hfive : 5 ≤ cards.length := by omega
  rw [analyze_many hbad hfive]
  unfold analyzeMany
  simp only [collectRanksByCount_rankCounts, sortedRanks_eq hall]
  rw [if_neg (not_triplePair (Or.inl h3)), if_pos ⟨hall, hfive, hsequence⟩, hlast]

lemma analyze_pairStraight (hbad : ¬ IsBad cards) (hw : 3 ≤ w) (hseq : InSequence k w)
    (h : Consists (profile cards) (block k w) 2 ∅ 0) :
    analyze cards = ⟨.pairStraight, k, cards.length, true⟩ := by
  obtain ⟨hall, hlen, hlenw, hlast, hsequence⟩ :=
    sequence_of_consists (by decide) (by omega) hseq h
  have h3 := (onlyCounts_self.mpr hall).ranksWith_eq_nil (e := 3) (by decide) (by decide)
  have hnot1 := not_all_counts (e := 1) (ne_nil_of_length (by omega) hlenw) (by decide)
  rw [analyze_many hbad (by omega)]
  unfold analyzeMany
  simp only [collectRanksByCount_rankCounts]
  rw [if_neg (not_triplePair (Or.inl h3)), if_neg fun hs => hnot1 hs.1,
    if_pos ⟨by omega, by omega, hall, by omega, hsequence⟩, hlast]

lemma analyze_plane (hbad : ¬ IsBad cards) (hw : 2 ≤ w) (hseq : InSequence k w)
    (h : Consists (profile cards) (block k w) 3 ∅ 0) :
    analyze cards = ⟨.plane, k, cards.length, true⟩ := by
  obtain ⟨hall, hlen, hlenw, hlast, hsequence⟩ :=
    sequence_of_consists (by decide) (by omega) hseq h
  have h2 := (onlyCounts_self.mpr hall).ranksWith_eq_nil (e := 2) (by decide) (by decide)
  have hne := ne_nil_of_length (by omega) hlenw
  have hnot1 := not_all_counts (e := 1) hne (by decide)
  have hnot2 := not_all_counts (e := 2) hne (by decide)
  rw [analyze_many hbad (by omega)]
  unfold analyzeMany
  simp only [collectRanksByCount_rankCounts]
  rw [if_neg (not_triplePair (Or.inr h2)), if_neg fun hs => hnot1 hs.1,
    if_neg fun hs => hnot2 hs.2.2.1, if_pos ⟨by omega, by omega, hall, by omega, hsequence⟩, hlast]

/-- A body with as many wings of `c` equal cards. -/
lemma planeChecks_of_consists (hc : 0 < c) (hc3 : c ≠ 3) (hw : 2 ≤ w) (hseq : InSequence k w)
    {wings : Finset ℤ} (hwings : wings.card = w)
    (h : Consists (profile cards) (block k w) 3 wings c) :
    cards.length = (3 + c) * w ∧ maxRank (ranksWith cards 3) = k ∧
      ranksWith cards 3 ≠ [] ∧ ranksWith cards c ≠ [] ∧ OnlyCounts cards 3 c ∧
      isPlaneBody (ranksWith cards 3) w = true ∧
      isPlaneWings (rankCounts cards) (ranksWith cards 3) c w = true := by
  obtain ⟨honly, hbody, hwings'⟩ := (consists_iff (by decide) hc hc3.symm).mp h
  obtain ⟨hlen3, -, hmax, hsequence⟩ := sequence_of_block (by omega) hseq hbody
  have hlenc : (ranksWith cards c).length = w := by rw [← card_toFinset, hwings', hwings]
  refine ⟨?_, hmax, ne_nil_of_length (by omega) hlen3, ne_nil_of_length (by omega) hlenc, honly,
    (planeChecks_iff hc3).mpr ⟨honly, hlen3, hlenc, hsequence⟩⟩
  rw [honly.length hc3.symm, hlen3, hlenc]
  ring

lemma analyze_planeSingle (hbad : ¬ IsBad cards) (hw : 2 ≤ w) (hseq : InSequence k w)
    {wings : Finset ℤ} (hwings : wings.card = w)
    (h : Consists (profile cards) (block k w) 3 wings 1) :
    analyze cards = ⟨.planeSingle, k, cards.length, true⟩ := by
  obtain ⟨hlen, hmax, hne3, hne1, honly, hchecks⟩ :=
    planeChecks_of_consists (by decide) (by decide) hw hseq hwings h
  have h2 := honly.ranksWith_eq_nil (e := 2) (by decide) (by decide)
  have hnot1 := not_all_counts (e := 1) hne3 (by decide)
  have hnot2 := not_all_counts (e := 2) hne3 (by decide)
  have hnot3 := not_all_counts (e := 3) hne1 (by decide)
  have hwidth : cards.length / 4 = w := by omega
  rw [analyze_many hbad (by omega)]
  unfold analyzeMany
  simp only [collectRanksByCount_rankCounts]
  rw [if_neg (not_triplePair (Or.inr h2)), if_neg fun hs => hnot1 hs.1,
    if_neg fun hs => hnot2 hs.2.2.1, if_neg fun hs => hnot3 hs.2.2.1, hwidth,
    if_pos ⟨by omega, by omega, hchecks⟩, hmax]

lemma analyze_planePair (hbad : ¬ IsBad cards) (hw : 2 ≤ w) (hseq : InSequence k w)
    {wings : Finset ℤ} (hwings : wings.card = w)
    (h : Consists (profile cards) (block k w) 3 wings 2) :
    analyze cards = ⟨.planePair, k, cards.length, true⟩ := by
  obtain ⟨hlen, hmax, hne3, hne2, honly, hchecks⟩ :=
    planeChecks_of_consists (by decide) (by decide) hw hseq hwings h
  have hnot1 := not_all_counts (e := 1) hne3 (by decide)
  have hnot2 := not_all_counts (e := 2) hne3 (by decide)
  have hnot3 := not_all_counts (e := 3) hne2 (by decide)
  have hwidth : cards.length / 5 = w := by omega
  have hnotSingle : ¬ (isPlaneBody (ranksWith cards 3) (cards.length / 4) = true ∧
      isPlaneWings (rankCounts cards) (ranksWith cards 3) 1 (cards.length / 4) = true) := by
    intro hsingle
    have honly' := ((planeChecks_iff (by decide)).mp hsingle).1
    exact hne2 (honly'.ranksWith_eq_nil (by decide) (by decide))
  rw [analyze_many hbad (by omega)]
  unfold analyzeMany
  simp only [collectRanksByCount_rankCounts]
  rw [if_neg fun ht => absurd ht.1 (by omega), if_neg fun hs => hnot1 hs.1,
    if_neg fun hs => hnot2 hs.2.2.1, if_neg fun hs => hnot3 hs.2.2.1,
    if_neg fun hs => hnotSingle hs.2.2, hwidth, if_pos ⟨by omega, by omega, hchecks⟩, hmax]

/-- Four equal cards, with two ranks of `c` cards besides them. -/
lemma fourChecks_of_consists (hbad : ¬ IsBad cards) (hc : 0 < c) (hc4 : c ≠ 4)
    {wings : Finset ℤ} (hwings : wings.card = 2)
    (h : Consists (profile cards) {k} 4 wings c) :
    cards.length = 4 + c * 2 ∧ fourRank (rankCounts cards) = k ∧ ranksWith cards 4 ≠ [] ∧
      OnlyCounts cards 4 c ∧ isFourWithTwo (rankCounts cards) c = true := by
  have hk : 0 < k := rank_pos hbad (by rw [h.count]; simp)
  obtain ⟨honly, hbody, hwings'⟩ := (consists_iff (by decide) hc hc4.symm).mp h
  rw [toFinset_eq_singleton] at hbody
  have hlenc : (ranksWith cards c).length = 2 := by rw [← card_toFinset, hwings', hwings]
  have hrank : (ranksWith cards 4).getLastD 0 = k := by
    rw [hbody]
    rfl
  refine ⟨?_, hrank, by simp [hbody], honly, isFourWithTwo_iff.mpr ⟨honly, hrank ▸ hk, hlenc⟩⟩
  rw [honly.length hc4.symm, hbody, hlenc]
  rfl

lemma analyze_fourTwoSingles (hbad : ¬ IsBad cards) {wings : Finset ℤ} (hwings : wings.card = 2)
    (h : Consists (profile cards) {k} 4 wings 1) :
    analyze cards = ⟨.fourTwoSingles, k, cards.length, true⟩ := by
  obtain ⟨hlen, hrank, hne, honly, hchecks⟩ :=
    fourChecks_of_consists hbad (by decide) (by decide) hwings h
  have hnot1 := not_all_counts (e := 1) hne (by decide)
  have hnot2 := not_all_counts (e := 2) hne (by decide)
  have hnot3 := not_all_counts (e := 3) hne (by decide)
  rw [analyze_many hbad (by omega)]
  unfold analyzeMany
  simp only [collectRanksByCount_rankCounts]
  rw [if_neg fun ht => absurd ht.1 (by omega), if_neg fun hs => hnot1 hs.1,
    if_neg fun hs => hnot2 hs.2.2.1, if_neg fun hs => hnot3 hs.2.2.1,
    if_neg fun hs => absurd hs.1 (by omega), if_neg fun hs => absurd hs.1 (by omega),
    if_pos ⟨hlen, hchecks⟩, hrank]

lemma analyze_fourTwoPairs (hbad : ¬ IsBad cards) {wings : Finset ℤ} (hwings : wings.card = 2)
    (h : Consists (profile cards) {k} 4 wings 2) :
    analyze cards = ⟨.fourTwoPairs, k, cards.length, true⟩ := by
  obtain ⟨hlen, hrank, hne, honly, hchecks⟩ :=
    fourChecks_of_consists hbad (by decide) (by decide) hwings h
  have hnot1 := not_all_counts (e := 1) hne (by decide)
  have hnot2 := not_all_counts (e := 2) hne (by decide)
  have hnot3 := not_all_counts (e := 3) hne (by decide)
  have h3 := honly.ranksWith_eq_nil (e := 3) (by decide) (by decide)
  -- eight cards have no plane of two triples without a triple
  have hnotPlane : ¬ isPlaneBody (ranksWith cards 3) (cards.length / 4) = true := by
    rw [h3, hlen]
    decide
  rw [analyze_many hbad (by omega)]
  unfold analyzeMany
  simp only [collectRanksByCount_rankCounts]
  rw [if_neg fun ht => absurd ht.1 (by omega), if_neg fun hs => hnot1 hs.1,
    if_neg fun hs => hnot2 hs.2.2.1, if_neg fun hs => hnot3 hs.2.2.1,
    if_neg fun hs => hnotPlane hs.2.2.1, if_neg fun hs => absurd hs.1 (by omega),
    if_neg fun hs => absurd hs.1 (by omega), if_pos ⟨hlen, hchecks⟩, hrank]

/-- Every combo is accepted, with its type and its main rank. -/
lemma analyze_of_isCombo (hbad : ¬ IsBad cards) {type : CardComboType}
    (h : IsCombo (profile cards) type k) :
    analyze cards = ⟨type, k, cards.length, true⟩ := by
  cases h with
  | single h =>
    obtain ⟨hr, hlen, -⟩ := ranks_of_consists (by decide) h
    rw [analyze_one hbad hlen, hr, hlen]
    rfl
  | pair h =>
    obtain ⟨hr, hlen, -⟩ := ranks_of_consists (by decide) h
    have hnot : ¬ List.replicate 2 k = [16, 17] := by
      intro heq
      simp only [List.replicate, List.cons.injEq, and_true] at heq
      omega
    have hsame : (List.replicate 2 k).headD 0 = (List.replicate 2 k).getLastD 0 := rfl
    rw [analyze_two hbad hlen, hr, if_neg hnot, if_pos hsame, hlen]
    rfl
  | triple h =>
    obtain ⟨hr, hlen, hone⟩ := ranks_of_consists (by decide) h
    rw [analyze_three hbad hlen, if_pos hone, hr, hlen]
    rfl
  | bomb h =>
    obtain ⟨hr, hlen, hone⟩ := ranks_of_consists (by decide) h
    rw [analyze_four hbad hlen, if_pos hone, hr, hlen]
    rfl
  | rocket h => exact analyze_rocket hbad h
  | tripleOne h => exact analyze_tripleOne hbad h
  | triplePair h => exact analyze_triplePair hbad h
  | straight hw hseq h => exact analyze_straight hbad hw hseq h
  | pairStraight hw hseq h => exact analyze_pairStraight hbad hw hseq h
  | plane hw hseq h => exact analyze_plane hbad hw hseq h
  | planeSingle hw hseq hwings h => exact analyze_planeSingle hbad hw hseq hwings h
  | planePair hw hseq hwings h => exact analyze_planePair hbad hw hseq hwings h
  | fourTwoSingles hwings h => exact analyze_fourTwoSingles hbad hwings h
  | fourTwoPairs hwings h => exact analyze_fourTwoPairs hbad hwings h

/-! ### The grammar is exact -/

lemma Consists.pos {m : ℤ → ℕ} {body wings : Finset ℤ} (h : Consists m body c wings d)
    (hc : 0 < c) (hk : k ∈ body) : 0 < m k := by
  rw [h.count, if_pos hk]
  exact hc

lemma mem_block (hw : 0 < w) : k ∈ block k w := by
  rw [mem_block_iff]
  omega

/-- There are cards of the main rank. -/
lemma IsCombo.pos {m : ℤ → ℕ} {type : CardComboType} (h : IsCombo m type k) : 0 < m k := by
  cases h with
  | single h => exact h.pos (by decide) (Finset.mem_singleton_self k)
  | pair h => exact h.pos (by decide) (Finset.mem_singleton_self k)
  | triple h => exact h.pos (by decide) (Finset.mem_singleton_self k)
  | bomb h => exact h.pos (by decide) (Finset.mem_singleton_self k)
  | rocket h => exact h.pos (by decide) (by decide)
  | tripleOne h => exact h.pos (by decide) (Finset.mem_singleton_self k)
  | triplePair h => exact h.pos (by decide) (Finset.mem_singleton_self k)
  | straight hw _ h => exact h.pos (by decide) (mem_block (by omega))
  | pairStraight hw _ h => exact h.pos (by decide) (mem_block (by omega))
  | plane hw _ h => exact h.pos (by decide) (mem_block (by omega))
  | planeSingle hw _ _ h => exact h.pos (by decide) (mem_block (by omega))
  | planePair hw _ _ h => exact h.pos (by decide) (mem_block (by omega))
  | fourTwoSingles _ h => exact h.pos (by decide) (Finset.mem_singleton_self k)
  | fourTwoPairs _ h => exact h.pos (by decide) (Finset.mem_singleton_self k)

/-- All numbers are cards. -/
def AreCards (cards : List ℤ) : Prop := ∀ card ∈ cards, 0 ≤ card ∧ card ≤ 53

lemma cardRank_eq_zero (card : ℤ) : cardRank card = 0 ↔ ¬ (0 ≤ card ∧ card ≤ 53) := by
  unfold cardRank
  split_ifs
  all_goals omega

lemma isBad_iff : IsBad cards ↔ cards = [] ∨ ¬ AreCards cards := by
  refine or_congr_right ?_
  rw [AreCards, List.mem_map]
  constructor
  · rintro ⟨card, hcard, hzero⟩ hall
    exact (cardRank_eq_zero card).mp hzero (hall card hcard)
  · intro hnot
    by_contra hnone
    refine hnot fun card hcard => ?_
    by_contra hbad
    exact hnone ⟨card, hcard, (cardRank_eq_zero card).mpr hbad⟩

/-- Cards that form a combo are not bad. -/
lemma IsCombo.not_isBad {type : CardComboType} (h : IsCombo (profile cards) type k)
    (hcards : AreCards cards) : ¬ IsBad cards := by
  rw [isBad_iff]
  rintro (rfl | hnot)
  · exact absurd h.pos (by simp [profile])
  · exact hnot hcards

/-- `Analyze` accepts exactly the combos of the grammar, with their types and main ranks, and no
cards form two combos. -/
theorem analyze_exact (cards : List ℤ) :
    (∀ type k, (analyze cards).valid = true ∧ (analyze cards).type = type ∧
        (analyze cards).mainRank = k ↔
      AreCards cards ∧ IsCombo (profile cards) type k) ∧
    (AreCards cards → ∀ type k type' k', IsCombo (profile cards) type k →
      IsCombo (profile cards) type' k' → type = type' ∧ k = k') := by
  refine ⟨fun type k => ⟨?_, ?_⟩, fun hcards type k type' k' h h' => ?_⟩
  · rintro ⟨hvalid, rfl, rfl⟩
    refine ⟨?_, isCombo_of_valid hvalid⟩
    by_contra hnot
    rw [analyze_of_isBad (isBad_iff.mpr (Or.inr hnot))] at hvalid
    cases hvalid
  · rintro ⟨hcards, h⟩
    rw [analyze_of_isCombo (h.not_isBad hcards) h]
    exact ⟨rfl, rfl, rfl⟩
  · have hsame := (analyze_of_isCombo (h.not_isBad hcards) h).symm.trans
      (analyze_of_isCombo (h'.not_isBad hcards) h')
    simp only [CardCombo.mk.injEq] at hsame
    exact ⟨hsame.1, hsame.2.1⟩

end DdzServer
