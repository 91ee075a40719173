/-!
# Scoring rules

The rules that one evening or one evaluation is scored by: how the score of a
hundred scales its value, and how much one unit of stake is worth.
-/

namespace TrickLedger

/-- The least number of players that can play a round. -/
def fewestPlayers : Nat := 3

/-- How the score of a hundred scales the value of the commitment. -/
inductive HundredRule
  /-- Every ten points above the hundred double the value. -/
  | multiplicative
  /-- Every ten points above the hundred add the value once. -/
  | additive
  deriving DecidableEq, Repr, Inhabited

/-- The rules of one evening or one evaluation. -/
structure ScoringRules where
  hundred : HundredRule := .multiplicative
  stake : Nat := 1
  deriving DecidableEq, Repr

/-- Why scoring cannot be set up as asked. -/
inductive RulesFault
  | tooFewPlayers (players : Nat)
  | unsupportedHundredRule (text : String)
  | zeroStake
  deriving DecidableEq, Repr

/-- The sentence shown for a fault. -/
def RulesFault.message : RulesFault → String
  | tooFewPlayers players => s!"group size {players} is smaller than {fewestPlayers}"
  | unsupportedHundredRule text => s!"unsupported hundred rule `{text}`"
  | zeroStake => "stake multiplier must be a positive integer"

namespace HundredRule

/-- The short word for a rule. -/
def word : HundredRule → String
  | multiplicative => "mult"
  | additive => "add"

/-- The rule that a word or its long form names. -/
def ofWord? (word : String) : Option HundredRule :=
  if word = "mult" ∨ word = "multiplicative" then some multiplicative
  else if word = "add" ∨ word = "additive" then some additive
  else none

/-- Reads a rule without regard to the case of ASCII letters. -/
def ofText (text : String) : Except RulesFault HundredRule :=
  match ofWord? (String.ofList (text.toList.map Char.toLower)) with
  | some rule => .ok rule
  | none => .error (.unsupportedHundredRule text)

end HundredRule

/-- Rules with a stake of at least one. -/
def ScoringRules.make (hundred : HundredRule) (stake : Nat) : Except RulesFault ScoringRules :=
  if stake = 0 then .error .zeroStake else .ok { hundred, stake }

end TrickLedger
