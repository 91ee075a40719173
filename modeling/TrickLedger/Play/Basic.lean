import TrickLedger.Contract

/-!
# Plays

A play has a base commitment, a commitment linked to it, a mark for the better
suit and a comment. A commitment without a contract is empty.
-/

namespace TrickLedger

/-- The score of a hand when none is given. -/
def defaultScore : Int := 100

/-- The least score of a hand that a play code can give. -/
def leastScore : Int := -100

/-- The greatest score of a hand that a play code can give. -/
def greatestScore : Int := 190

/-- The largest boost that a commitment can carry. -/
def greatestBoost : Nat := 4

/-- One side of a play: the base commitment or the one linked to it. -/
structure Commitment where
  /-- Only the player's own side is settled. -/
  soloParity : Bool := false
  /-- The payer settles with every opponent, less what the others cover. -/
  basePayment : Bool := false
  won : Bool := false
  /-- How often the value is doubled. -/
  boost : Nat := 0
  contract : Option Contract := none
  score : Int := defaultScore
  deriving DecidableEq, Repr

namespace Commitment

/-- The commitment that a fault consists of. -/
def ofFault (contract : Contract) : Commitment :=
  { contract := some contract }

/-- Value of the contract, or zero without one. -/
def value (commitment : Commitment) : Int :=
  match commitment.contract with
  | some contract => contract.value
  | none => 0

/-- Name of the contract at the table, or nothing without one. -/
def spokenName (commitment : Commitment) : String :=
  match commitment.contract with
  | some contract => contract.spokenName
  | none => ""

/-- No contract has been committed to. -/
def isEmpty (commitment : Commitment) : Bool :=
  commitment.contract.isNone

end Commitment

/-- The meaning of a play code. -/
structure Play where
  base : Commitment := {}
  link : Commitment := {}
  /-- The play was made in the better suit and counts twice. -/
  betterSuit : Bool := false
  comment : Option String := none
  deriving DecidableEq, Repr

/-- The same play without its comment. -/
def Play.withoutComment (play : Play) : Play :=
  { play with comment := none }

end TrickLedger
