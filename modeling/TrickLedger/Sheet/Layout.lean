import Mathlib.Data.List.Forall2
import TrickLedger.Sheet.Basic
import TrickLedger.Sheet.Lines

/-!
# Layouts of score sheets

How the parts of a sheet may stand in a text, each of them at its offset. Any
separators may stand around the words of a line and at least one between two of them,
any blanks around the place, and blank lines anywhere but within a group and at least
one between two groups. Ignored characters may stand anywhere.
-/

namespace TrickLedger

open Lines

/-- The characters are separators, if there are any. -/
def IsGap (letters : List Placed) : Prop :=
  ∀ placed ∈ letters, placed.isSeparator = true

/-- The characters are blank, if there are any. -/
def IsBlankRun (letters : List Placed) : Prop :=
  ∀ placed ∈ letters, Text.isBlank placed.letter = true

/-- No word goes on with the characters. -/
def EndsWord (letters : List Placed) : Prop :=
  ∀ placed ∈ letters.head?, placed.isSeparator = true

/-- The characters spell a text that starts at an offset. -/
structure Spells (letters : List Placed) (text : String) (start : Nat) : Prop where
  text : textOf letters = text
  start : letters.head?.map Placed.offset = some start

/-- Words, each with its offset, with separators around and between them. -/
inductive WordsLaidOut : List (String × Nat) → List Placed → Prop
  | none (gap : List Placed) (separators : IsGap gap) : WordsLaidOut [] gap
  | word (gap letters after : List Placed) (text : String) (start : Nat)
      (words : List (String × Nat)) (separators : IsGap gap)
      (spelled : Spells letters text start) (ends : EndsWord after)
      (more : WordsLaidOut words after) :
      WordsLaidOut ((text, start) :: words) (gap ++ letters ++ after)

/-- An option as a word with its offset. -/
def Setting.word (setting : Setting) : String × Nat :=
  (setting.text, setting.start)

/-- A play as a word with its offset. -/
def WrittenPlay.word (play : WrittenPlay) : String × Nat :=
  (play.code, play.start)

/-- The options of a header in braces, or no options and no braces. -/
inductive SettingsLaidOut : List Setting → List Placed → Prop
  | absent : SettingsLaidOut [] []
  | braces (settings : List Setting) (opening closing : Placed) (inside after : List Placed)
      (opens : opening.letter = '{') (closes : closing.letter = '}')
      (words : WordsLaidOut (settings.map Setting.word) inside)
      (separators : IsGap after) :
      SettingsLaidOut settings (opening :: (inside ++ closing :: after))

/-- The place between blanks, and the options after it. -/
inductive PlaceLaidOut (place : String) (settings : List Setting) : List Placed → Prop
  | place (before run after options : List Placed) (blank : IsBlankRun before)
      (spelled : textOf run = place) (blankAfter : IsBlankRun after)
      (laidOut : SettingsLaidOut settings options) :
      PlaceLaidOut place settings (before ++ run ++ after ++ options)

/-- The date, the place and the options of a sheet on its first line. A separator stands
after the date. -/
inductive HeaderLaidOut (rawDate place : String) (settings : List Setting) : List Placed → Prop
  | header (before date rest : List Placed) (separator : Placed) (separators : IsGap before)
      (spelled : textOf date = rawDate) (ends : separator.isSeparator = true)
      (laidOut : PlaceLaidOut place settings rest) :
      HeaderLaidOut rawDate place settings (before ++ date ++ separator :: rest)

/-- A player on a line: the name at its start, and the plays. -/
inductive Member.LaidOut (member : Member) : List Placed → Prop
  | line (name after : List Placed) (spelled : textOf name = member.name)
      (start : startOf (name ++ after) 0 = member.start) (ends : EndsWord after)
      (plays : WordsLaidOut (member.plays.map WrittenPlay.word) after) :
      LaidOut member (name ++ after)

/-- Groups on the lines of a text. A group takes as many lines as it has players and is
followed by a blank line or by nothing. -/
inductive GroupsLaidOut : List Group → List Line → Prop
  | none : GroupsLaidOut [] []
  | blank (groups : List Group) (line : Line) (lines : List Line)
      (separators : IsGap line.letters) (more : GroupsLaidOut groups lines) :
      GroupsLaidOut groups (line :: lines)
  | group (group : Group) (groups : List Group) (members lines : List Line)
      (laidOut : List.Forall₂ (fun member line => member.LaidOut line.letters)
        group.members members)
      (ends : ∀ line ∈ lines.head?, IsGap line.letters) (more : GroupsLaidOut groups lines) :
      GroupsLaidOut (group :: groups) (members ++ lines)

/-- The text is a layout of the sheet: it has the parts of the sheet, each of them at
its offset, and nothing else. -/
def Sheet.LaidOut (sheet : Sheet) (text : String) : Prop :=
  ∃ header lines, cut (placedLetters text.toList) = header :: lines ∧
    HeaderLaidOut sheet.rawDate sheet.place sheet.settings header.letters ∧
    GroupsLaidOut sheet.groups lines

end TrickLedger
