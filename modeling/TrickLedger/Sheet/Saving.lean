import TrickLedger.Sheet.Comments
import TrickLedger.Sheet.Reader

/-!
# Saved texts

A text can be saved with carriage returns among its letters and with a byte order mark in
front.  This says where its letters stand then, and how the offsets of sheets and faults
move with them.
-/

namespace TrickLedger

/-- The offset of the letter with a number, counted without carriage returns.  Behind the last
letter it is the end of the text. -/
def keptOffset : List Char → Nat → Nat
  | [], _ => 0
  | letter :: letters, number =>
      if letter = '\r' then keptOffset letters number + 1
      else match number with
        | 0 => 0
        | number + 1 => keptOffset letters number + 1

/-- A way to save a text: a byte order mark or none, and the letters of the text with carriage
returns put in anywhere. -/
structure Saving (text : List Char) where
  mark : List Char
  letters : List Char
  marks : mark = [] ∨ mark = [Scanner.byteOrderMark]
  kept : withoutReturns letters = text

namespace Saving

variable {text : List Char}

/-- The text as it is saved. -/
def result (saving : Saving text) : List Char :=
  saving.mark ++ saving.letters

/-- The offset in the saved text of the letter at an offset, or of the end of the text. -/
def position (saving : Saving text) (offset : Nat) : Nat :=
  saving.mark.length + keptOffset saving.letters offset

end Saving

/-! ### Moved offsets -/

variable (position : Nat → Nat)

/-- The span with its start moved, over as many characters. -/
def Text.Span.moved (span : Text.Span) : Text.Span :=
  .ofLength (position span.start) span.length

namespace SheetFault

def moved : SheetFault → SheetFault
  | unexpectedHeaderTail found offset => unexpectedHeaderTail found (position offset)
  | unterminatedOptions offset => unterminatedOptions (position offset)
  | unexpectedAfterComment found offset => unexpectedAfterComment found (position offset)
  | unknownSetting setting offset => unknownSetting setting (position offset)
  | emptyPlace => emptyPlace
  | invalidDate raw => invalidDate raw
  | groupTooSmall group players offset => groupTooSmall group players (position offset)
  | emptyName group offset => emptyName group (position offset)
  | repeatedName group name offset => repeatedName group name (position offset)
  | unscorableGroup group cause => unscorableGroup group cause
  | invalidPlay group player play span cause =>
      invalidPlay group player play (span.moved position) cause

end SheetFault

def WrittenPlay.moved (play : WrittenPlay) : WrittenPlay :=
  { play with start := position play.start }

def Member.moved (member : Member) : Member :=
  { member with
    start := position member.start
    plays := member.plays.map (WrittenPlay.moved position) }

def Group.moved (group : Group) : Group :=
  ⟨group.members.map (Member.moved position)⟩

def Setting.moved (setting : Setting) : Setting :=
  { setting with start := position setting.start }

/-- The sheet with every offset moved, and with everything else as it is. -/
def Sheet.moved (sheet : Sheet) : Sheet :=
  { sheet with
    settings := sheet.settings.map (Setting.moved position)
    groups := sheet.groups.map (Group.moved position) }

/-- An outcome with the offsets of its fault moved, or else with its value moved. -/
def movedOutcome {α : Type} (move : α → α) : Except SheetFault α → Except SheetFault α
  | .ok value => .ok (move value)
  | .error fault => .error (fault.moved position)

end TrickLedger
