/-!
# Contracts

The commitments that a play of mariáš can name, with the keyword that stands
for each of them in a play code, the name used at the table and the value in
minor currency units.
-/

namespace TrickLedger

/-- Every contract that can appear in a play code. -/
inductive Contract
  | fold
  | minorFault
  | majorFault
  | game
  | silentSeven
  | seven
  | silentHundred
  | hundred
  | betl
  | majklBetl
  | majklSuperBetl
  | durch
  | twoSevens
  deriving DecidableEq, Repr, Inhabited

namespace Contract

/-- The contracts in the order of their declaration. -/
def all : List Contract :=
  [fold, minorFault, majorFault, game, silentSeven, seven, silentHundred,
    hundred, betl, majklBetl, majklSuperBetl, durch, twoSevens]

/-- The name under which records carry the contract. -/
def identifier : Contract → String
  | fold => "Fold"
  | minorFault => "MinorFault"
  | majorFault => "MajorFault"
  | game => "Game"
  | silentSeven => "SilentSeven"
  | seven => "Seven"
  | silentHundred => "SilentHundred"
  | hundred => "Hundred"
  | betl => "Betl"
  | majklBetl => "MajklBetl"
  | majklSuperBetl => "MajklSuperBetl"
  | durch => "Durch"
  | twoSevens => "TwoSevens"

/-- The contract that records carry under a name. -/
def ofIdentifier? (identifier : String) : Option Contract :=
  all.find? fun contract => contract.identifier == identifier

/-- Value in minor currency units before score, boost and better suit. -/
def value : Contract → Int
  | fold => 60
  | minorFault => 100
  | majorFault => 500
  | game => 10
  | silentSeven => 10
  | seven => 20
  | silentHundred => 20
  | hundred => 40
  | betl => 150
  | majklBetl => 150
  | majklSuperBetl => 150
  | durch => 300
  | twoSevens => 400

theorem value_pos (contract : Contract) : 0 < contract.value := by
  cases contract <;> decide

/-- The letters that stand for the contract inside a play code. -/
def keyword : Contract → List Char
  | fold => ['e']
  | minorFault => ['r', '1']
  | majorFault => ['r', '2']
  | game => ['h']
  | silentSeven => ['n']
  | seven => ['s']
  | silentHundred => ['t']
  | hundred => ['k']
  | betl => ['c']
  | majklBetl => ['m', 'c']
  | majklSuperBetl => ['m', 's', 'c']
  | durch => ['d']
  | twoSevens => ['v']

/-- The name of the contract as players call it at the table. -/
def spokenName : Contract → String
  | fold => "omyl"
  | minorFault => "r1"
  | majorFault => "r2"
  | game => "hra"
  | silentSeven => "tichá sedma"
  | seven => "sedma"
  | silentHundred => "tiché kilo"
  | hundred => "kilo"
  | betl => "cedník"
  | majklBetl => "majklův cedník"
  | majklSuperBetl => "majklův super cedník"
  | durch => "durch"
  | twoSevens => "dvě sedmy"

/-- A play of a fault is complete on its own: no sign, boost or link. -/
def isFault : Contract → Bool
  | fold | minorFault | majorFault => true
  | _ => false

/-- Contracts whose value grows with the score of the hand. -/
def hasScore : Contract → Bool
  | hundred | silentHundred => true
  | _ => false

/-- Betl and durch variants cannot be played in the better suit. -/
def allowsBetterSuit : Contract → Bool
  | betl | majklBetl | majklSuperBetl | durch => false
  | _ => true

end Contract
end TrickLedger
