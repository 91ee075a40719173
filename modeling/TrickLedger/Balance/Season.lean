import Mathlib.Algebra.Ring.Int.Defs
import TrickLedger.Balance.Leaderboard
import TrickLedger.Sheet.Reader

/-!
# Seasons of sheets

What the standings over a season should say, in terms of the balances that are drawn up
for each single group.
-/

namespace TrickLedger

namespace Group

/-- The balance that is listed for a name in a group, if one is. -/
def listed? (group : Group) (rules : ScoringRules) (name : String) : Option Int :=
  match group.balances rules with
  | .ok balances => balances.lookup name
  | .error _ => none

/-- Twice the most that the plays of a group can bring the players who made them. -/
def ceiling (group : Group) (rules : ScoringRules) : Int :=
  30000 * (rules.stake : Int) * ((group.size : Int) - 1) * group.playCount

end Group

namespace Sheet

/-- Some text is read as the sheet. -/
def Accepted (sheet : Sheet) : Prop :=
  ∃ text, ofText text = .ok sheet

/-- The entries of a name in the balances of the groups of a sheet. -/
def entries (sheet : Sheet) (name : String) : List Int :=
  sheet.groups.filterMap fun group => group.listed? sheet.rules name

/-- The ceilings of all groups of a sheet together. -/
def ceiling (sheet : Sheet) : Int :=
  (sheet.groups.map fun group => group.ceiling sheet.rules).sum

end Sheet

/-- The standing has the better balance, or the same balance and the smaller name. -/
def Standing.Precedes (first second : Standing) : Prop :=
  second.balance < first.balance ∨ first.balance = second.balance ∧ first.name < second.name

end TrickLedger
