import Mathlib.Algebra.Ring.Int.Defs
import Mathlib.Algebra.Ring.Nat
import TrickLedger.Scoring.Table

/-!
# Scoring in words

The values of plays, computed in words of fixed size. Sums and products are held at the
bounds of amounts, but a difference, a negation or a shift has no result unless it fits its
words, and a clamp has none if its bounds cross. A step without a result is a fault.
-/

namespace TrickLedger

/-- Why an operation on words has no result. -/
inductive WordFault
  | outOfRange (value : Int)
  | badShift (places : Int)
  | crossedBounds (lower upper : Int)
  deriving DecidableEq, Repr

/-- The least and the greatest integer that words of one kind can hold. -/
structure WordRange where
  lowest : Int
  highest : Int

namespace WordRange

/-- The words that amounts are kept in. -/
def amounts : WordRange :=
  ⟨Money.least, Money.greatest⟩

/-- Words of so many bits without a sign. -/
def unsigned (bits : Nat) : WordRange :=
  ⟨0, 2 ^ bits - 1⟩

/-- The value as a word, if there is one for it. -/
def hold (range : WordRange) (value : Int) : Except WordFault Int :=
  if range.lowest ≤ value ∧ value ≤ range.highest then .ok value else .error (.outOfRange value)

def sub (range : WordRange) (first second : Int) : Except WordFault Int :=
  range.hold (first - second)

end WordRange

namespace Word

open WordRange

def neg (value : Int) : Except WordFault Int :=
  amounts.hold (-value)

def negIf (condition : Bool) (value : Int) : Except WordFault Int :=
  if condition then neg value else .ok value

/-- One, shifted to the left. There are 64 places, and the last one is for the sign. -/
def shiftOne (places : Int) : Except WordFault Int :=
  if 0 ≤ places ∧ places < 64 then amounts.hold (2 ^ places.toNat) else .error (.badShift places)

def clamp (lower upper value : Int) : Except WordFault Int :=
  if lower ≤ upper then .ok (max lower (min value upper)) else .error (.crossedBounds lower upper)

/-- How many steps of ten points a score is worth. -/
def scoreSteps (score : Int) : Except WordFault Int := do
  let score ← amounts.hold score
  let score ← clamp leastScore greatestScore score
  let distance ← if score < 100 then amounts.sub 100 score else amounts.sub score 90
  .ok (distance.tdiv 10)

/-- A value scaled by the score of the hand. -/
def scaleByScore (rule : HundredRule) (value score : Int) : Except WordFault Int := do
  let steps ← scoreSteps score
  match rule with
  | .multiplicative =>
      let doublings ← amounts.sub steps 1
      let doublings ← clamp 0 62 doublings
      let factor ← shiftOne doublings
      .ok (Money.mul value factor)
  | .additive => .ok (Money.mul value steps)

end Word

/-- A table with the counts that plays are scored by. -/
structure WordTable where
  opponents : Int
  /-- The opponents who cover a part of a base payment. -/
  others : Int
  rules : ScoringRules
  deriving DecidableEq, Repr

/-- Counts the opponents of a player at a table. -/
def Table.inWords (table : Table) : Except WordFault WordTable := do
  let players ← (WordRange.unsigned 64).hold table.players
  let opponents ← (WordRange.unsigned 64).sub players 1
  let opponents := min opponents Money.greatest
  let others ← WordRange.amounts.sub opponents 1
  .ok { opponents, others, rules := table.rules }

namespace WordTable

/-- The stake as a factor of amounts. -/
def stake (table : WordTable) : Except WordFault Int :=
  (WordRange.unsigned 32).hold table.rules.stake

/-- The multiple of its scaled value that a commitment pays to a side. -/
def units (table : WordTable) (commitment : Commitment) (side : Side) : Except WordFault Int := do
  let boost ← (WordRange.unsigned 8).hold commitment.boost
  let doubled ← Word.shiftOne (min boost greatestBoost)
  if side = .opponent ∧ commitment.soloParity then .ok 0
  else
    let signed ← Word.negIf (side = .opponent) doubled
    let paid :=
      if commitment.basePayment then Money.sub (Money.mul signed table.opponents) table.others
      else if side = .own then Money.mul signed table.opponents
      else signed
    Word.negIf (!commitment.won) paid

/-- The value of one commitment to a side, before the ceiling. -/
def commitmentValue (table : WordTable) (commitment : Commitment) (betterSuit : Bool)
    (side : Side) : Except WordFault Int := do
  let scaled ← Word.scaleByScore table.rules.hundred commitment.value commitment.score
  let units ← table.units commitment side
  let stake ← table.stake
  .ok (Money.mul (Money.mul (Money.mul scaled units) (if betterSuit then 2 else 1)) stake)

/-- The most that a play can win or lose for a side. -/
def ceiling (table : WordTable) (side : Side) : Except WordFault Int := do
  let stake ← table.stake
  let single := Money.mul ceilingPerOpponent stake
  match side with
  | .own => .ok (Money.mul single table.opponents)
  | .opponent => .ok single

/-- The value of a play to a side, held within the ceiling. -/
def playValue (table : WordTable) (play : Play) (side : Side) : Except WordFault Int := do
  let base ← table.commitmentValue play.base play.betterSuit side
  let link ← table.commitmentValue play.link play.betterSuit side
  let ceiling ← table.ceiling side
  let lowest ← Word.neg ceiling
  Word.clamp lowest ceiling (Money.add base link)

end WordTable

/-- Words without a sign hold the number of players and the stake. -/
def Table.FitsWords (table : Table) : Prop :=
  table.players < 2 ^ 64 ∧ table.rules.stake < 2 ^ 32

/-- Words hold the boost and the score. -/
def Commitment.FitsWords (commitment : Commitment) : Prop :=
  commitment.boost < 2 ^ 8 ∧ Money.least ≤ commitment.score ∧ commitment.score ≤ Money.greatest

/-- A base payment comes with solo parity. -/
def Commitment.PaysSolo (commitment : Commitment) : Prop :=
  commitment.basePayment = true → commitment.soloParity = true

instance (table : Table) : Decidable table.FitsWords := by
  unfold Table.FitsWords
  infer_instance

instance (commitment : Commitment) : Decidable commitment.FitsWords := by
  unfold Commitment.FitsWords
  infer_instance

instance (commitment : Commitment) : Decidable commitment.PaysSolo := by
  unfold Commitment.PaysSolo
  infer_instance

end TrickLedger
