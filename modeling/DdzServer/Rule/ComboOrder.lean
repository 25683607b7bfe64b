import DdzServer.Rule.RuleEngine

/-!
# The order of the combos

On the results of `Analyze`, `CanBeat` is a strict order: a combo beats those of its type and
length with a smaller main rank, a bomb beats all of these, and the rocket beats everything.
-/

namespace DdzServer

/-- How many cards a combo has whose length its type fixes. -/
def CardComboType.size : CardComboType → ℤ
  | .single         => 1
  | .pair           => 2
  | .rocket         => 2
  | .triple         => 3
  | .tripleOne      => 4
  | .bomb           => 4
  | .triplePair     => 5
  | .fourTwoSingles => 6
  | .fourTwoPairs   => 8
  | _               => 0

/-- A valid result of `Analyze`. -/
def CardCombo.IsResult (combo : CardCombo) : Prop :=
  combo.valid = true ∧ ∃ cards, analyze cards = combo

/-- The length of a combo fits its type, and all rockets are the same. -/
structure CardCombo.Sized (combo : CardCombo) : Prop where
  size : combo.type.isSequence = false → combo.cardCount = combo.type.size
  rocket : combo.type = .rocket → combo = ⟨.rocket, 17, 2, true⟩

variable {cards : List ℤ} {n : ℕ} {ranks : List ℤ} {cnt : RankCounts}

/-! ### `Analyze` by the number of cards -/

/-- The cards that no combo is made of: none at all, or one of them is no card. -/
def IsBad (cards : List ℤ) : Prop := cards = [] ∨ 0 ∈ cards.map cardRank

/-- `ranks` after the sort. -/
def sortedRanks (cards : List ℤ) : List ℤ := (cards.map cardRank).insertionSort (· ≤ ·)

/-- `cnt` of some cards. -/
def rankCounts (cards : List ℤ) : RankCounts := countRanks (sortedRanks cards)

/-- The ranks that occur `c` times. -/
def ranksWith (cards : List ℤ) (c : ℕ) : List ℤ := collectRanksByCount (rankCounts cards) c

lemma lengthCases (h : ¬ IsBad cards) :
    cards.length = 1 ∨ cards.length = 2 ∨ cards.length = 3 ∨ cards.length = 4 ∨
      5 ≤ cards.length := by
  have hpos : 0 < cards.length := List.length_pos_iff.mpr fun hnil => h (Or.inl hnil)
  omega

lemma analyze_of_isBad (h : IsBad cards) : analyze cards = { cardCount := cards.length } :=
  if_pos h

lemma analyze_one (h : ¬ IsBad cards) (hlen : cards.length = 1) :
    analyze cards = ⟨.single, (sortedRanks cards).headD 0, 1, true⟩ := by
  refine (if_neg h).trans ?_
  rw [hlen]
  rfl

lemma analyze_two (h : ¬ IsBad cards) (hlen : cards.length = 2) :
    analyze cards =
      if sortedRanks cards = [16, 17] then ⟨.rocket, 17, 2, true⟩
      else if (sortedRanks cards).headD 0 = (sortedRanks cards).getLastD 0 then
        ⟨.pair, (sortedRanks cards).headD 0, 2, true⟩
      else { cardCount := 2 } := by
  refine (if_neg h).trans ?_
  rw [hlen]
  rfl

lemma analyze_three (h : ¬ IsBad cards) (hlen : cards.length = 3) :
    analyze cards =
      if (rankCounts cards).length = 1 then
        ⟨.triple, (sortedRanks cards).headD 0, 3, true⟩
      else { cardCount := 3 } := by
  refine (if_neg h).trans ?_
  rw [hlen]
  rfl

/-- The branch of four cards that are not all equal. -/
def tripleOneCombo : List ℤ → CardCombo
  | r :: _ => ⟨.tripleOne, r, 4, true⟩
  | []     => { cardCount := 4 }

lemma analyze_four (h : ¬ IsBad cards) (hlen : cards.length = 4) :
    analyze cards =
      if (rankCounts cards).length = 1 then
        ⟨.bomb, (sortedRanks cards).headD 0, 4, true⟩
      else tripleOneCombo (ranksWith cards 3) := by
  refine (if_neg h).trans ?_
  rw [hlen]
  rfl

lemma analyze_many (h : ¬ IsBad cards) (hlen : 5 ≤ cards.length) :
    analyze cards =
      analyzeMany cards.length (sortedRanks cards) (rankCounts cards) := by
  obtain ⟨k, hk⟩ := Nat.exists_eq_add_of_le' hlen
  refine (if_neg h).trans ?_
  rw [hk]
  rfl

/-! ### The lengths of the combos -/

lemma sized_of_fixed {type : CardComboType} (hsize : (n : ℤ) = type.size)
    (hrocket : type ≠ .rocket) (mainRank : ℤ) : CardCombo.Sized ⟨type, mainRank, n, true⟩ :=
  ⟨fun _ => hsize, fun h => absurd h hrocket⟩

lemma sized_of_isSequence {type : CardComboType} (hseq : type.isSequence = true)
    (mainRank : ℤ) : CardCombo.Sized ⟨type, mainRank, n, true⟩ := by
  refine ⟨fun h => ?_, fun h => ?_⟩
  · rw [hseq] at h
    cases h
  · rw [show type = .rocket from h] at hseq
    cases hseq

lemma analyzeMany_sized (h : (analyzeMany n ranks cnt).valid = true) :
    (analyzeMany n ranks cnt).Sized := by
  revert h
  unfold analyzeMany
  dsimp only
  split_ifs with htp hst hps hp hws hwp hfs hfp
  · exact fun _ => sized_of_fixed (by rw [htp.1]; rfl) (by decide) _
  · exact fun _ => sized_of_isSequence rfl _
  · exact fun _ => sized_of_isSequence rfl _
  · exact fun _ => sized_of_isSequence rfl _
  · exact fun _ => sized_of_isSequence rfl _
  · exact fun _ => sized_of_isSequence rfl _
  · exact fun _ => sized_of_fixed (by rw [hfs.1]; rfl) (by decide) _
  · exact fun _ => sized_of_fixed (by rw [hfp.1]; rfl) (by decide) _
  · intro h
    cases h

lemma analyze_sized (h : (analyze cards).valid = true) : (analyze cards).Sized := by
  revert h
  by_cases hbad : IsBad cards
  · rw [analyze_of_isBad hbad]
    intro h
    cases h
  rcases lengthCases hbad with hlen | hlen | hlen | hlen | hlen
  · rw [analyze_one hbad hlen]
    exact fun _ => sized_of_fixed rfl (by decide) _
  · rw [analyze_two hbad hlen]
    split_ifs
    · exact fun _ => ⟨fun _ => rfl, fun _ => rfl⟩
    · exact fun _ => sized_of_fixed rfl (by decide) _
    · intro h
      cases h
  · rw [analyze_three hbad hlen]
    split_ifs
    · exact fun _ => sized_of_fixed rfl (by decide) _
    · intro h
      cases h
  · rw [analyze_four hbad hlen]
    split_ifs
    · exact fun _ => sized_of_fixed rfl (by decide) _
    · cases ranksWith cards 3 with
      | nil =>
        intro h
        cases h
      | cons r rest => exact fun _ => sized_of_fixed rfl (by decide) _
  · rw [analyze_many hbad hlen]
    exact analyzeMany_sized

lemma CardCombo.IsResult.sized {combo : CardCombo} (h : combo.IsResult) : combo.Sized := by
  obtain ⟨hvalid, cards, rfl⟩ := h
  exact analyze_sized hvalid

/-! ### Who beats whom -/

/-- The three ways to beat a combo. -/
inductive CardCombo.BeatRule (a b : CardCombo) : Prop
  | rocket (ha : a.type = .rocket) (hb : b.type ≠ .rocket)
  | bomb (ha : a.type = .bomb) (hb : b.type ≠ .bomb) (hb' : b.type ≠ .rocket)
  | higher (htype : a.type = b.type) (hnot : b.type ≠ .rocket) (hcount : a.cardCount = b.cardCount)
      (hrank : b.mainRank < a.mainRank)

variable {a b c : CardCombo}

lemma canBeat_iff (ha : a.IsResult) (hb : b.IsResult) : canBeat a b = true ↔ a.BeatRule b := by
  unfold canBeat
  rw [if_neg (not_not.mpr ha.1), if_neg (not_not.mpr hb.1)]
  by_cases har : a.type = .rocket
  · rw [if_pos har, decide_eq_true_eq]
    constructor
    · exact fun hb' => .rocket har hb'
    · intro h
      cases h with
      | rocket _ hb' => exact hb'
      | bomb hbomb => exact absurd (har.symm.trans hbomb) (by decide)
      | higher htype hnot => exact absurd (htype.symm.trans har) hnot
  rw [if_neg har]
  by_cases hbr : b.type = .rocket
  · rw [if_pos hbr]
    refine iff_of_false (by simp) fun h => ?_
    cases h with
    | rocket har' => exact har har'
    | bomb _ _ hb' => exact hb' hbr
    | higher _ hnot => exact hnot hbr
  rw [if_neg hbr]
  by_cases hbomb : a.type = .bomb ∧ b.type ≠ .bomb
  · rw [if_pos hbomb]
    exact iff_of_true rfl (.bomb hbomb.1 hbomb.2 hbr)
  rw [if_neg hbomb]
  by_cases hbb : b.type = .bomb ∧ a.type ≠ .bomb
  · rw [if_pos hbb]
    refine iff_of_false (by simp) fun h => ?_
    cases h with
    | rocket har' => exact har har'
    | bomb ha' => exact hbb.2 ha'
    | higher htype => exact hbb.2 (htype.trans hbb.1)
  rw [if_neg hbb]
  by_cases htype : a.type = b.type
  · rw [if_neg (not_not.mpr htype)]
    have hrule : a.BeatRule b ↔ a.cardCount = b.cardCount ∧ b.mainRank < a.mainRank := by
      constructor
      · intro h
        cases h with
        | rocket har' => exact absurd har' har
        | bomb ha' hb' => exact absurd (htype.symm.trans ha') hb'
        | higher _ _ hcount hrank => exact ⟨hcount, hrank⟩
      · exact fun h => .higher htype hbr h.1 h.2
    rw [hrule]
    cases hseq : a.type.isSequence with
    | true =>
      split_ifs with hcount
      · exact iff_of_false (by simp) fun h => hcount.2 h.1
      · rw [not_and, not_not] at hcount
        rw [decide_eq_true_eq]
        exact ⟨fun h => ⟨hcount rfl, h⟩, And.right⟩
    | false =>
      -- the type fixes the length
      have hsize : a.cardCount = b.cardCount := by
        rw [ha.sized.size hseq, hb.sized.size (htype ▸ hseq), htype]
      rw [if_neg (by simp), decide_eq_true_eq]
      exact ⟨fun h => ⟨hsize, h⟩, And.right⟩
  · rw [if_pos htype]
    refine iff_of_false (by simp) fun h => ?_
    cases h with
    | rocket har' => exact har har'
    | bomb ha' hb' => exact hbomb ⟨ha', hb'⟩
    | higher htype' => exact htype htype'

namespace CardCombo

lemma BeatRule.irrefl (a : CardCombo) : ¬ a.BeatRule a := by
  intro h
  cases h with
  | rocket ha hb => exact hb ha
  | bomb ha hb => exact hb ha
  | higher _ _ _ hrank => exact lt_irrefl _ hrank

lemma BeatRule.trans (hab : a.BeatRule b) (hbc : b.BeatRule c) : a.BeatRule c := by
  cases hab with
  | rocket ha hb =>
    cases hbc with
    | rocket hb' => exact absurd hb' hb
    | bomb _ _ hc => exact .rocket ha hc
    | higher _ hc => exact .rocket ha hc
  | bomb ha hb hb' =>
    cases hbc with
    | rocket hb'' => exact absurd hb'' hb'
    | bomb hb'' => exact absurd hb'' hb
    | higher htype hc => exact .bomb ha (htype ▸ hb) hc
  | higher htype hnot hcount hrank =>
    cases hbc with
    | rocket hb => exact absurd hb hnot
    | bomb hb hc hc' => exact .bomb (htype.trans hb) hc hc'
    | higher htype' hc hcount' hrank' =>
      exact .higher (htype.trans htype') hc (hcount.trans hcount') (hrank'.trans hrank)

end CardCombo

lemma canBeat_irrefl (ha : a.IsResult) : canBeat a a = false := by
  rw [Bool.eq_false_iff]
  exact fun h => CardCombo.BeatRule.irrefl a ((canBeat_iff ha ha).mp h)

lemma canBeat_trans (ha : a.IsResult) (hb : b.IsResult) (hc : c.IsResult)
    (hab : canBeat a b = true) (hbc : canBeat b c = true) : canBeat a c = true :=
  (canBeat_iff ha hc).mpr (((canBeat_iff ha hb).mp hab).trans ((canBeat_iff hb hc).mp hbc))

lemma canBeat_asymm (ha : a.IsResult) (hb : b.IsResult) (hab : canBeat a b = true) :
    canBeat b a = false := by
  rw [Bool.eq_false_iff]
  intro hba
  have haa := canBeat_trans ha hb ha hab hba
  rw [canBeat_irrefl ha] at haa
  cases haa

/-- The rocket beats every other combo, and none beats it. -/
lemma canBeat_rocket (ha : a.IsResult) (hb : b.IsResult) (htype : a.type = .rocket) :
    (b ≠ a → canBeat a b = true) ∧ canBeat b a = false := by
  constructor
  · intro hne
    refine (canBeat_iff ha hb).mpr (.rocket htype fun hb' => hne ?_)
    rw [hb.sized.rocket hb', ha.sized.rocket htype]
  · rw [Bool.eq_false_iff]
    intro h
    cases (canBeat_iff hb ha).mp h with
    | rocket _ hnot => exact hnot htype
    | bomb _ _ hnot => exact hnot htype
    | higher _ hnot => exact hnot htype

/-- Combos that are neither bombs nor rockets are compared by their main ranks. -/
lemma canBeat_iff_higher (ha : a.IsResult) (hb : b.IsResult) (hnota : a.type ≠ .bomb)
    (hrocket : a.type ≠ .rocket) :
    canBeat a b = true ↔
      a.type = b.type ∧ a.cardCount = b.cardCount ∧ b.mainRank < a.mainRank := by
  rw [canBeat_iff ha hb]
  constructor
  · intro h
    cases h with
    | rocket h => exact absurd h hrocket
    | bomb h => exact absurd h hnota
    | higher htype _ hcount hrank => exact ⟨htype, hcount, hrank⟩
  · exact fun ⟨htype, hcount, hrank⟩ => .higher htype (htype ▸ hrocket) hcount hrank

end DdzServer
