import TrickLedger.Sheet.Assembly
import TrickLedger.Sheet.Check
import TrickLedger.Sheet.Scanner
import TrickLedger.Sheet.Settings

/-!
# Reading score sheets

A text is scanned and assembled into a draft, its options set the rules, and the
sheet is checked. A blank text is an empty sheet.
-/

namespace TrickLedger.Sheet

/-- The sheet that a text describes, unchecked and with default rules. -/
def draftOf (text : String) : Except SheetFault Sheet := do
  let tokens ← Token.ofText text
  .ok (.ofTokens tokens)

/-- Nothing but blanks follows the byte order marks at the start of a text. -/
def isBlankText (text : String) : Bool :=
  (text.toList.dropWhile (· == Scanner.byteOrderMark)).all Text.isBlank

/-- The checked sheet that a text describes. -/
def ofText (text : String) : Except SheetFault Sheet :=
  if isBlankText text then .ok {}
  else do
    let draft ← draftOf text
    let rules ← ScoringRules.ofSettings draft.settings
    let sheet := { draft with rules }
    sheet.check
    .ok sheet

end TrickLedger.Sheet
