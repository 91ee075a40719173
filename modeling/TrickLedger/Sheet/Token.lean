/-!
# Tokens of a score sheet

The parts of the text of a score sheet, in the order in which they stand there.
-/

namespace TrickLedger

/-- A part of the text of a score sheet. -/
inductive Token
  | date (raw : String)
  | place (name : String)
  | setting (text : String) (start : Nat)
  | player (name : String) (start : Nat)
  | play (code : String) (start : Nat)
  | groupBreak
  deriving DecidableEq, Repr

end TrickLedger
