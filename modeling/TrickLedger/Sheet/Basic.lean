import TrickLedger.Calendar.Date
import TrickLedger.Scoring.Rules
import TrickLedger.Text.Span

/-!
# Score sheets

A score sheet records one evening of play:

    2024-03-14 U Fleků {hundred=add multiplier=2}
    Pepa +k100 e
    Franta $:-c
    Jarda

The first line holds the date, the place and the options. Each further line is a
player with the plays they made, and a blank line separates groups. Everything
that an error may have to point at keeps its character offset.
-/

namespace TrickLedger

/-- A play code as written on a sheet. -/
structure WrittenPlay where
  code : String
  /-- The offset of its first character. -/
  start : Nat
  deriving DecidableEq, Repr

/-- The characters that a written play covers. The end is a sum without bounds,
where words of 64 bits have none for a play that is made by hand and ends beyond
them. -/
def WrittenPlay.span (play : WrittenPlay) : Text.Span :=
  .ofLength play.start play.code.length

/-- A player of a group with the plays they made. -/
structure Member where
  name : String
  /-- The offset of the name. -/
  start : Nat
  plays : List WrittenPlay := []
  deriving DecidableEq, Repr

/-- A player who made the given plays and stands on no sheet. -/
def Member.ofCodes (name : String) (codes : List String) : Member :=
  { name, start := 0, plays := codes.map fun code => { code, start := 0 } }

/-- The players who sat at one table. -/
structure Group where
  members : List Member := []
  deriving DecidableEq, Repr

namespace Group

/-- The number of players. -/
def size (group : Group) : Nat :=
  group.members.length

/-- The first player with the given name. -/
def member? (group : Group) (name : String) : Option Member :=
  group.members.find? fun member => member.name == name

/-- The number of plays that the players of the group made. -/
def playCount (group : Group) : Nat :=
  (group.members.flatMap Member.plays).length

end Group

/-- One word of the options in the header. -/
structure Setting where
  text : String
  /-- The offset of its first character. -/
  start : Nat
  deriving DecidableEq, Repr

/-- A score sheet. -/
structure Sheet where
  /-- The date, if the text in its place denotes one. -/
  date : Option Date := none
  rawDate : String := ""
  place : String := ""
  settings : List Setting := []
  rules : ScoringRules := {}
  groups : List Group := []
  deriving DecidableEq, Repr

namespace Sheet

/-- A sheet without date, place and groups. -/
def isEmpty (sheet : Sheet) : Bool :=
  sheet.rawDate.isEmpty && sheet.place.isEmpty && sheet.groups.isEmpty

/-- All players of all groups in the order of the sheet. -/
def members (sheet : Sheet) : List Member :=
  sheet.groups.flatMap Group.members

/-- The names of the players in the order of their first appearance. -/
def playerNames (sheet : Sheet) : List String :=
  (sheet.members.map Member.name).foldl
    (fun names name => if name ∈ names then names else names ++ [name]) []

/-- The number of plays on the sheet. -/
def playCount (sheet : Sheet) : Nat :=
  (sheet.members.flatMap Member.plays).length

end Sheet
end TrickLedger
