import TrickLedger.Balance.Season

/-!
# Stakes

The sheets of a season with another stake, and balances counted in another unit.
-/

namespace TrickLedger

/-- The same rules with another stake. -/
def ScoringRules.withStake (stake : Nat) (rules : ScoringRules) : ScoringRules :=
  { rules with stake }

/-- The same sheet with another stake. -/
def Sheet.withStake (stake : Nat) (sheet : Sheet) : Sheet :=
  { sheet with rules := sheet.rules.withStake stake }

/-- The same standing with its balance times a factor. -/
def Standing.times (factor : Nat) (standing : Standing) : Standing :=
  { standing with balance := factor * standing.balance }

/-- The same fault with its total, if it has one, times a factor. -/
def BalanceFault.times (factor : Nat) : BalanceFault → BalanceFault
  | .doesNotSettle total => .doesNotSettle (factor * total)
  | fault => fault

end TrickLedger
