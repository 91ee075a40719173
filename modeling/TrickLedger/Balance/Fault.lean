import TrickLedger.Play.Fault
import TrickLedger.Scoring.Rules

/-!
# Faults of balances

Why balances cannot be drawn up. None of these arises from a checked sheet but
for a group that does not settle to zero.
-/

namespace TrickLedger

/-- Why a balance is refused. -/
inductive BalanceFault
  | doesNotSettle (total : Int)
  | unscorablePlay (player code : String) (cause : PlayFault)
  | rules (cause : RulesFault)
  deriving DecidableEq, Repr

namespace BalanceFault

/-- The sentence shown for a fault. -/
def message : BalanceFault → String
  | doesNotSettle total => s!"group balance sums to {total} instead of zero"
  | unscorablePlay player code _ => s!"play `{code}` of player `{player}` cannot be scored"
  | rules cause => cause.message

/-- The message of the fault behind a fault, if there is one. -/
def cause? : BalanceFault → Option String
  | unscorablePlay _ _ cause => some cause.message
  | _ => none

end BalanceFault
end TrickLedger
