import Mathlib.Algebra.Ring.Int.Defs
import TrickLedger.Scoring.Table

/-!
# Exact values

What a play is worth in unbounded integers. Amounts saturate at the bounds of
64-bit integers; these definitions say what the amounts stand for as long as no
bound is met.
-/

namespace TrickLedger.Table

/-- How many times a score counts the value of its contract. -/
def exactFactor (rule : HundredRule) (score : Int) : Int :=
  let steps := if score < 100 then (100 - score) / 10 else (score - 90) / 10
  match rule with
  | .multiplicative => 2 ^ (steps - 1).toNat
  | .additive => steps

/-- What one commitment brings its own side for each unit of its value. A base
payment settles with every opponent, less what the others cover. -/
def exactOwnUnits (players : Nat) (commitment : Commitment) : Int :=
  let doubled : Int := 2 ^ commitment.boost
  let opponents : Int := players - 1
  let paid := if commitment.basePayment then doubled * opponents - (opponents - 1)
    else doubled * opponents
  if commitment.won then paid else -paid

/-- What one commitment brings each opponent for each unit of its value. -/
def exactOpponentUnits (commitment : Commitment) : Int :=
  let doubled : Int := 2 ^ commitment.boost
  if commitment.soloParity then 0
  else if commitment.won then -doubled
  else doubled

/-- The exact value of one commitment to a side with a stake of one. -/
def exactCommitmentValue (table : Table) (side : Side) (commitment : Commitment) : Int :=
  commitment.value * exactFactor table.rules.hundred commitment.score *
    match side with
    | .own => exactOwnUnits table.players commitment
    | .opponent => exactOpponentUnits commitment

/-- The exact ceiling of a play for a side. -/
def exactCeiling (table : Table) : Side → Int
  | .own => ceilingPerOpponent * table.rules.stake * ((table.players : Int) - 1)
  | .opponent => ceilingPerOpponent * table.rules.stake

/-- The exact value of a play to a side, held within the ceiling. -/
def exactPlayValue (table : Table) (play : Play) (side : Side) : Int :=
  Money.clampTo (table.exactCeiling side)
    (table.rules.stake * (if play.betterSuit then 2 else 1) *
      (table.exactCommitmentValue side play.base + table.exactCommitmentValue side play.link))

end TrickLedger.Table
