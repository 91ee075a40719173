import TrickLedger.Sheet.Basic
import TrickLedger.Sheet.Fault
import TrickLedger.Text.Numeral

/-!
# Options of a score sheet

The header of a sheet may set the hundred rule and the stake. The options are
read in order: a later one overrides an earlier one, and the first one that is
not known is a fault.
-/

namespace TrickLedger

/-- The stakes that the header of a sheet may ask for. -/
def sheetStakes : List Nat := [1, 2, 10]

/-- The greatest number that the stake of an option is read as. -/
def greatestStake : Nat := 4294967295

namespace Setting

/-- The key and the value around the first equals sign of an option. -/
def split? (text : String) : Option (String × String) :=
  match text.toList.dropWhile (· ≠ '=') with
  | _ :: value => some (String.ofList (text.toList.takeWhile (· ≠ '=')), String.ofList value)
  | [] => none

/-- The hundred rule that the value of an option names. -/
def hundredRule? (value : String) : Option HundredRule :=
  if value = "add" then some .additive
  else if value = "mult" then some .multiplicative
  else none

/-- The stake that the value of an option names. -/
def stake? (value : String) : Option Nat :=
  (Text.readNumber greatestStake value.toList).filter (· ∈ sheetStakes)

/-- The rules after an option, if the option is known. -/
def rulesAfter? (rules : ScoringRules) (text : String) : Option ScoringRules := do
  let (key, value) ← split? text
  if key = "hundred" then
    (hundredRule? value).map fun hundred => { rules with hundred }
  else if key = "multiplier" then
    (stake? value).map fun stake => { rules with stake }
  else none

end Setting

/-- The rules after further options. -/
def ScoringRules.applySettings (rules : ScoringRules) :
    List Setting → Except SheetFault ScoringRules
  | [] => .ok rules
  | setting :: settings =>
      match Setting.rulesAfter? rules setting.text with
      | some rules => rules.applySettings settings
      | none => .error (.unknownSetting setting.text setting.start)

/-- The rules that the options of a sheet ask for. -/
def ScoringRules.ofSettings (settings : List Setting) : Except SheetFault ScoringRules :=
  ({} : ScoringRules).applySettings settings

end TrickLedger
