import TrickLedger.Calendar.Notation
import TrickLedger.Play.Reader
import TrickLedger.Sheet.Scanner
import TrickLedger.Sheet.Settings

/-!
# Well-formed score sheets

The sheets that a text can describe and that have no fault: all of their words can
stand on a line, date and options mean what the sheet says, and every group has enough
players with names of their own and plays that follow the grammar.
-/

namespace TrickLedger

/-- The text can stand on a line: it has no line feed and no carriage return. -/
def FitsLine (text : String) : Prop :=
  '\n' ∉ text.toList ∧ '\r' ∉ text.toList

/-- The text can stand as a word between separators. -/
def IsWord (text : String) : Prop :=
  text ≠ "" ∧ FitsLine text ∧ ∀ letter ∈ text.toList, Scanner.isSeparator letter = false

/-- The play follows the grammar, and its comment can be told apart from what stands
after it. Separators stand in the comment only. -/
structure WrittenPlay.WellFormed (play : WrittenPlay) : Prop where
  read : ∃ result, Play.ofCode play.code = .ok result
  fits : FitsLine play.code
  word : ∀ letter ∈ (Play.cutComment play.code.toList).1, Scanner.isSeparator letter = false
  closed : '{' ∈ play.code.toList → play.code.toList.getLast? = some '}'

/-- The player has a name and well-formed plays. -/
structure Member.WellFormed (member : Member) : Prop where
  name : IsWord member.name
  plays : ∀ play ∈ member.plays, play.WellFormed

/-- The group has enough players, and no two of them have the same name. -/
structure Group.WellFormed (group : Group) : Prop where
  enough : fewestPlayers ≤ group.size
  distinct : (group.members.map Member.name).Nodup
  members : ∀ member ∈ group.members, member.WellFormed

/-- The option can stand between the braces of the header. -/
structure Setting.WellFormed (setting : Setting) : Prop where
  word : IsWord setting.text
  inside : '}' ∉ setting.text.toList

/-- The text can stand in the header as the name of a place. -/
structure IsPlace (place : String) : Prop where
  nonempty : place ≠ ""
  trimmed : Text.trim place.toList = place.toList
  fits : FitsLine place
  outside : '{' ∉ place.toList

/-- A text can describe the sheet, and it has no fault. -/
structure Sheet.WellFormed (sheet : Sheet) : Prop where
  rawDate : IsWord sheet.rawDate
  date : ∃ date, Calendar.readDate? sheet.rawDate = some date ∧ sheet.date = some date
  place : IsPlace sheet.place
  settings : ∀ setting ∈ sheet.settings, setting.WellFormed
  rules : ScoringRules.ofSettings sheet.settings = .ok sheet.rules
  groups : ∀ group ∈ sheet.groups, group.WellFormed

end TrickLedger
