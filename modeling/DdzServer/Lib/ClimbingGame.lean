import Mathlib.Data.Multiset.AddSub
import Mathlib.Tactic.Common

/-!
# Climbing games for three seats

The seats call scores in turn. The first of those who called the highest may become the landlord,
unless another seat robs him of it. The landlord takes up the bottom cards and leads. A seat plays a
combination that beats the one on the table, or passes; after two passes the seat that played last
leads again. The first one without cards wins the stake.

Which cards form a combination, and what beats what, are parameters.
-/

namespace ClimbingGame

abbrev Seat := Fin 3

lemma seats_pos : 0 < 3 := by decide

def firstSeat : Seat := ⟨0, seats_pos⟩

/-- The seat some places further round the table. -/
def goRound (seat : Seat) (places : ℕ) : Seat := ⟨(seat.val + places) % 3, Nat.mod_lt _ seats_pos⟩

lemma goRound_zero (seat : Seat) : goRound seat 0 = seat :=
  Fin.ext (Nat.mod_eq_of_lt seat.isLt)

lemma goRound_goRound (seat : Seat) (k n : ℕ) :
    goRound (goRound seat k) n = goRound seat (k + n) := by
  ext
  simp only [goRound]
  omega

structure Rules (γ : Type) where
  topScore : ℕ
  IsCombo : List γ → Prop
  Beats : List γ → List γ → Prop

inductive Move (γ : Type) where
  | call (score : ℕ)
  | answer (rob : Bool)
  | play (cards : List γ)
  | pass

/-- The combination that has to be beaten, who played it, and how many passed on it. -/
structure Trick (γ : Type) where
  cards : List γ
  leader : Seat
  passes : ℕ

/-- How far a game is. -/
inductive Stage (γ : Type) where
  /-- the best caller so far and his score, and how many seats have called -/
  | calling (best : Seat) (score called : ℕ)
  /-- who is landlord if nobody else robs, and how many seats have answered -/
  | robbing (caller landlord : Seat) (stake answered : ℕ)
  | leading (landlord : Seat) (stake : ℕ) (lead : Seat)
  | following (landlord : Seat) (stake : ℕ) (trick : Trick γ)
  | won (landlord : Seat) (stake : ℕ) (winner : Seat)

structure Position (γ : Type) where
  hands : Seat → Multiset γ
  bottom : Multiset γ
  stage : Stage γ

variable {γ : Type}

/-- Whose turn it is after the passes on a trick. -/
def Trick.turn (trick : Trick γ) : Seat := goRound trick.leader (trick.passes + 1)

/-- The leader of a trick is not on turn before two others have passed. -/
lemma Trick.turn_ne (trick : Trick γ) (h : trick.passes < 2) : trick.turn ≠ trick.leader := by
  intro heq
  have hval := congrArg Fin.val heq
  simp only [Trick.turn, goRound] at hval
  omega

/-- Whose turn it is. -/
def Stage.turn : Stage γ → Option Seat
  | .calling _ _ called          => some (goRound firstSeat called)
  | .robbing caller _ _ answered => some (goRound caller answered)
  | .leading _ _ lead            => some lead
  | .following _ _ trick         => some trick.turn
  | .won _ _ _                   => none

/-- The best caller and his score after one more call. -/
def outbid (best : Seat) (score : ℕ) (seat : Seat) (call : ℕ) : Seat × ℕ :=
  if score < call then (seat, call) else (best, score)

/-- The landlord and the stake after one more answer. -/
def claim (landlord : Seat) (stake : ℕ) (seat : Seat) (rob : Bool) : Seat × ℕ :=
  if rob then (seat, 2 * stake) else (landlord, stake)

namespace Position

/-- The game goes on without a change of the hands. -/
def goOn (p : Position γ) (stage : Stage γ) : Position γ := { p with stage := stage }

/-- The landlord takes up the bottom cards and leads. -/
def takeUp (p : Position γ) (landlord : Seat) (stake : ℕ) : Position γ where
  hands := Function.update p.hands landlord (p.hands landlord + p.bottom)
  bottom := p.bottom
  stage := .leading landlord stake landlord

/-- The position after a seat has put cards on the table. -/
def put [DecidableEq γ] (p : Position γ) (landlord : Seat) (stake : ℕ) (seat : Seat)
    (cards : List γ) : Position γ where
  hands := Function.update p.hands seat (p.hands seat - cards)
  bottom := p.bottom
  stage :=
    if p.hands seat = cards then .won landlord stake seat
    else .following landlord stake ⟨cards, seat, 0⟩

end Position

/-- The legal moves. -/
inductive Legal [DecidableEq γ] (rules : Rules γ) (p : Position γ) (seat : Seat) :
    Move γ → Position γ → Prop
  | callOn {best : Seat} {score called call : ℕ} (hstage : p.stage = .calling best score called)
      (hturn : p.stage.turn = some seat) (htop : call < rules.topScore) (hnext : called < 2) :
      Legal rules p seat (.call call)
        (p.goOn (.calling (outbid best score seat call).1 (outbid best score seat call).2
          (called + 1)))
  | callLast {best : Seat} {score called call : ℕ} (hstage : p.stage = .calling best score called)
      (hturn : p.stage.turn = some seat) (htop : call ≤ rules.topScore)
      (hlast : call = rules.topScore ∨ called = 2) :
      Legal rules p seat (.call call)
        (p.goOn (.robbing (outbid best score seat call).1 (outbid best score seat call).1
          (max 1 (outbid best score seat call).2) 0))
  | answerOn {caller landlord : Seat} {stake answered : ℕ} (rob : Bool)
      (hstage : p.stage = .robbing caller landlord stake answered)
      (hturn : p.stage.turn = some seat) (hnext : answered < 2) :
      Legal rules p seat (.answer rob)
        (p.goOn (.robbing caller (claim landlord stake seat rob).1
          (claim landlord stake seat rob).2 (answered + 1)))
  | answerLast {caller landlord : Seat} {stake : ℕ} (rob : Bool)
      (hstage : p.stage = .robbing caller landlord stake 2) (hturn : p.stage.turn = some seat) :
      Legal rules p seat (.answer rob)
        (p.takeUp (claim landlord stake seat rob).1 (claim landlord stake seat rob).2)
  | lead {landlord : Seat} {stake : ℕ} {cards : List γ}
      (hstage : p.stage = .leading landlord stake seat) (hcombo : rules.IsCombo cards)
      (hcards : (cards : Multiset γ) ≤ p.hands seat) :
      Legal rules p seat (.play cards) (p.put landlord stake seat cards)
  | follow {landlord : Seat} {stake : ℕ} {trick : Trick γ} {cards : List γ}
      (hstage : p.stage = .following landlord stake trick) (hturn : p.stage.turn = some seat)
      (hcombo : rules.IsCombo cards) (hbeats : rules.Beats cards trick.cards)
      (hcards : (cards : Multiset γ) ≤ p.hands seat) :
      Legal rules p seat (.play cards) (p.put landlord stake seat cards)
  | passOn {landlord leader : Seat} {stake : ℕ} {cards : List γ}
      (hstage : p.stage = .following landlord stake ⟨cards, leader, 0⟩)
      (hturn : p.stage.turn = some seat) :
      Legal rules p seat .pass (p.goOn (.following landlord stake ⟨cards, leader, 1⟩))
  | passLast {landlord leader : Seat} {stake : ℕ} {cards : List γ}
      (hstage : p.stage = .following landlord stake ⟨cards, leader, 1⟩)
      (hturn : p.stage.turn = some seat) :
      Legal rules p seat .pass (p.goOn (.leading landlord stake leader))

/-- A play of the game: the moves of the seats, oldest first. -/
inductive Play [DecidableEq γ] (rules : Rules γ) (start : Position γ) :
    List (Seat × Move γ) → Position γ → Prop
  | nil : Play rules start [] start
  | concat {moves : List (Seat × Move γ)} {p p' : Position γ} {seat : Seat} {move : Move γ}
      (h : Play rules start moves p) (hmove : Legal rules p seat move p') :
      Play rules start (moves ++ [(seat, move)]) p'

section Legal

variable [DecidableEq γ] {rules : Rules γ} {p p' : Position γ} {seat seat' : Seat}
  {move : Move γ}

/-- Only the seat on turn moves. -/
lemma Legal.turn (h : Legal rules p seat move p') : p.stage.turn = some seat := by
  cases h with
  | callOn _ hturn => exact hturn
  | callLast _ hturn => exact hturn
  | answerOn _ _ hturn => exact hturn
  | answerLast _ _ hturn => exact hturn
  | lead hstage => rw [hstage, Stage.turn]
  | follow _ hturn => exact hturn
  | passOn _ hturn => exact hturn
  | passLast _ hturn => exact hturn

end Legal

end ClimbingGame
