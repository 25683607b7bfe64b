import Mathlib.Data.List.Sort
import Mathlib.Data.List.Dedup
import Mathlib.Tactic.Common

/-!
# The rule engine: card ranks, combos and the order on them

Translated from `service/rule/ddz_rule_engine.cpp`. The container `cnt` of the source, an ordered
map from ranks to numbers of cards, is the list of its entries in key order.
-/

namespace DdzServer

inductive CardComboType where
  | invalid | single | pair | triple | tripleOne | triplePair | straight | bomb | rocket
  | pairStraight | plane | planeSingle | planePair | fourTwoSingles | fourTwoPairs
  deriving DecidableEq

structure CardCombo where
  type : CardComboType := .invalid
  mainRank : ℤ := 0
  cardCount : ℤ := 0
  valid : Bool := false
  deriving DecidableEq

/-- `DdzRuleEngine::CardRank`; a number that is no card has rank 0. -/
def cardRank (cardId : ℤ) : ℤ :=
  if cardId < 0 ∨ 53 < cardId then 0
  else if cardId = 52 then 16
  else if cardId = 53 then 17
  else cardId % 13 + 3

/-- The entries `(rank, count)` of the ordered map `cnt`. -/
abbrev RankCounts := List (ℤ × ℕ)

/-- `cnt` for a sorted list of ranks. -/
def countRanks (ranks : List ℤ) : RankCounts := ranks.dedup.map fun r => (r, ranks.count r)

def isConsecutive (ranks : List ℤ) : Bool :=
  ranks ≠ [] ∧ ∀ x ∈ ranks.zip ranks.tail, x.2 = x.1 + 1

def isValidSequenceRanks (ranks : List ℤ) : Bool :=
  ranks ≠ [] ∧ 3 ≤ ranks.headD 0 ∧ ranks.getLastD 0 ≤ 14

def collectRanksByCount (cnt : RankCounts) (count : ℕ) : List ℤ :=
  (cnt.filter fun kv => kv.2 = count).map Prod.fst

def maxRank (ranks : List ℤ) : ℤ := ranks.foldl max 0

/-- The triples of a plane: as many as `width`, in sequence. -/
def isPlaneBody (tripleRanks : List ℤ) (width : ℕ) : Bool :=
  tripleRanks.length = width ∧ isConsecutive tripleRanks ∧ isValidSequenceRanks tripleRanks

/-- The wings of a plane: every other rank occurs `size` times, and there are `width` of them. -/
def isPlaneWings (cnt : RankCounts) (tripleRanks : List ℤ) (size width : ℕ) : Bool :=
  let wings := cnt.filter fun kv => kv.2 ≠ 3
  (∀ kv ∈ wings, kv.2 = size ∧ kv.1 ∉ tripleRanks) ∧ wings.length = width

/-- The rank of the four equal cards, 0 without any. -/
def fourRank (cnt : RankCounts) : ℤ := (collectRanksByCount cnt 4).getLastD 0

/-- Four equal cards, and besides them two ranks that occur `size` times each. -/
def isFourWithTwo (cnt : RankCounts) (size : ℕ) : Bool :=
  (∀ kv ∈ cnt, kv.2 = 4 ∨ kv.2 = size) ∧ 0 < fourRank cnt ∧
    cnt.countP (fun kv => kv.2 = size) = 2

/-- `Analyze` for five or more cards, from the check for a triple with a pair on. -/
def analyzeMany (n : ℕ) (ranks : List ℤ) (cnt : RankCounts) : CardCombo :=
  let combo (type : CardComboType) (mainRank : ℤ) : CardCombo := ⟨type, mainRank, n, true⟩
  let tripleRanks := collectRanksByCount cnt 3
  let pairRanks := collectRanksByCount cnt 2
  if n = 5 ∧ cnt.length = 2 ∧ 0 < tripleRanks.getLastD 0 ∧ 0 < pairRanks.getLastD 0 then
    combo .triplePair (tripleRanks.getLastD 0)
  else if (∀ kv ∈ cnt, kv.2 = 1) ∧ 5 ≤ n ∧ isConsecutive ranks ∧ isValidSequenceRanks ranks then
    combo .straight (ranks.getLastD 0)
  else if 6 ≤ n ∧ n % 2 = 0 ∧ (∀ kv ∈ cnt, kv.2 = 2) ∧ pairRanks.length = n / 2 ∧
      isConsecutive pairRanks ∧ isValidSequenceRanks pairRanks then
    combo .pairStraight (pairRanks.getLastD 0)
  else if 6 ≤ n ∧ n % 3 = 0 ∧ (∀ kv ∈ cnt, kv.2 = 3) ∧ 2 ≤ tripleRanks.length ∧
      isConsecutive tripleRanks ∧ isValidSequenceRanks tripleRanks then
    combo .plane (tripleRanks.getLastD 0)
  else if 8 ≤ n ∧ n % 4 = 0 ∧ isPlaneBody tripleRanks (n / 4) ∧
      isPlaneWings cnt tripleRanks 1 (n / 4) then
    combo .planeSingle (maxRank tripleRanks)
  else if 10 ≤ n ∧ n % 5 = 0 ∧ isPlaneBody tripleRanks (n / 5) ∧
      isPlaneWings cnt tripleRanks 2 (n / 5) then
    combo .planePair (maxRank tripleRanks)
  else if n = 6 ∧ isFourWithTwo cnt 1 then
    combo .fourTwoSingles (fourRank cnt)
  else if n = 8 ∧ isFourWithTwo cnt 2 then
    combo .fourTwoPairs (fourRank cnt)
  else { cardCount := n }

/-- `DdzRuleEngine::Analyze`. -/
def analyze (cards : List ℤ) : CardCombo :=
  let n := cards.length
  let invalid : CardCombo := { cardCount := n }
  let combo (type : CardComboType) (mainRank : ℤ) : CardCombo := ⟨type, mainRank, n, true⟩
  if cards = [] ∨ 0 ∈ cards.map cardRank then
    invalid
  else
    let ranks := (cards.map cardRank).insertionSort (· ≤ ·)
    let cnt := countRanks ranks
    let first := ranks.headD 0
    match n with
    | 1 => combo .single first
    | 2 =>
      if ranks = [16, 17] then combo .rocket 17
      else if first = ranks.getLastD 0 then combo .pair first
      else invalid
    | 3 => if cnt.length = 1 then combo .triple first else invalid
    | 4 =>
      if cnt.length = 1 then combo .bomb first
      else
        match collectRanksByCount cnt 3 with
        | r :: _ => combo .tripleOne r
        | []     => invalid
    | _ => analyzeMany n ranks cnt

/-- The combos that only a combo of the same length can beat. -/
def CardComboType.isSequence : CardComboType → Bool
  | .straight | .pairStraight | .plane | .planeSingle | .planePair => true
  | _ => false

/-- `DdzRuleEngine::CanBeat`. -/
def canBeat (challenger previous : CardCombo) : Bool :=
  if ¬ challenger.valid then false
  else if ¬ previous.valid then true
  else if challenger.type = .rocket then previous.type ≠ .rocket
  else if previous.type = .rocket then false
  else if challenger.type = .bomb ∧ previous.type ≠ .bomb then true
  else if previous.type = .bomb ∧ challenger.type ≠ .bomb then false
  else if challenger.type ≠ previous.type then false
  else if challenger.type.isSequence ∧ challenger.cardCount ≠ previous.cardCount then false
  else previous.mainRank < challenger.mainRank

example : analyze [0, 13, 26, 1, 14, 27, 2, 3] = ⟨.planeSingle, 4, 8, true⟩ := by decide

end DdzServer
