import TrickLedger.Balance.Leaderboard
import TrickLedger.Text.Columns

/-!
# Plain reports

Verdicts, sheets and balances as lines of text. Names are padded to the widest
name of a table, and amounts are aligned at the right.
-/

namespace TrickLedger.Output

/-- The columns that an amount is aligned to. -/
def amountWidth : Nat := 14

/-- A text as a line of its own. -/
def line (text : String) : String :=
  text ++ "\n"

/-- The verdict on a play code. -/
def verdictText (code : String) : Verdict → String
  | .rejected fault => line s!"rejected {code}: {fault.message}"
  | .accepted play worth =>
      line ("accepted " ++ code ++ " (" ++ String.intercalate " + " play.spokenNames ++ ")") ++
        line ("  own:   " ++ Money.text worth.own) ++
        line ("  enemy: " ++ Money.text worth.opponent) ++
        match worth.comment with
        | some comment => line ("  comment: " ++ comment)
        | none => ""

/-- The summary of a sheet under the name of its file. -/
def sheetText (name : String) (sheet : Sheet) : String :=
  line s!"ok {name}" ++
    line (s!"  {sheet.rawDate} {sheet.place} " ++
      s!"({sheet.rules.hundred.word} hundred, stake x{sheet.rules.stake})") ++
    line (s!"  {sheet.groups.length} groups, {sheet.playerNames.length} players, " ++
      s!"{sheet.playCount} plays")

/-- A table of names and amounts. -/
def balancesText (rows : List (String × Int)) : String :=
  let width := (rows.map fun (name, _) => Text.columns name).foldl max 0
  String.join (rows.map fun (name, amount) =>
    line ("  " ++ Text.padColumns width name ++ "  " ++
      Text.padStart amountWidth (Money.text amount)))

/-- The leaderboard under its heading. -/
def leaderboardText (standings : List Standing) : String :=
  line "Leaderboard" ++
    balancesText (standings.map fun standing => (standing.name, standing.balance))

end TrickLedger.Output
