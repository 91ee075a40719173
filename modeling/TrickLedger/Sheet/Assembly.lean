import TrickLedger.Calendar.Notation
import TrickLedger.Sheet.Basic
import TrickLedger.Sheet.Token

/-!
# Assembling score sheets

Tokens become a sheet from the last one to the first. The plays after a player's
name are that player's, and the players between two group breaks are a group. A
stretch without players is no group.
-/

namespace TrickLedger

/-- What the tokens from some point on amount to. -/
structure Assembly where
  /-- The header found so far and the groups that start later. -/
  sheet : Sheet := {}
  /-- The players of the group at hand that come later. -/
  members : List Member := []
  /-- The plays of the player at hand that come later. -/
  plays : List WrittenPlay := []
  deriving DecidableEq, Repr

namespace Assembly

/-- Puts the players at hand in front of the groups, if there are any. -/
def closeGroup (assembly : Assembly) : Assembly where
  sheet :=
    if assembly.members.isEmpty then assembly.sheet
    else { assembly.sheet with groups := ⟨assembly.members⟩ :: assembly.sheet.groups }

/-- Puts a token in front. -/
def add (token : Token) (assembly : Assembly) : Assembly :=
  match token with
  | .date raw =>
      { assembly with
        sheet := { assembly.sheet with date := Calendar.readDate? raw, rawDate := raw } }
  | .place place => { assembly with sheet := { assembly.sheet with place } }
  | .setting text start =>
      { assembly with
        sheet := { assembly.sheet with settings := ⟨text, start⟩ :: assembly.sheet.settings } }
  | .player name start =>
      { assembly with
        members := ⟨name, start, assembly.plays⟩ :: assembly.members
        plays := [] }
  | .play code start => { assembly with plays := ⟨code, start⟩ :: assembly.plays }
  | .groupBreak => assembly.closeGroup

end Assembly

/-- The sheet that tokens describe, with default rules. -/
def Sheet.ofTokens (tokens : List Token) : Sheet :=
  (tokens.foldr Assembly.add {}).closeGroup.sheet

end TrickLedger
