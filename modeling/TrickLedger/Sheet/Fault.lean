import TrickLedger.Play.Fault
import TrickLedger.Scoring.Rules
import TrickLedger.Text.Quoted
import TrickLedger.Text.Span

/-!
# Faults of score sheets

What can be wrong with the text of a score sheet or with its content, the place
where it shows and the hint given to the author. Offsets count characters from
the start of the text; groups and plays are numbered from one.
-/

namespace TrickLedger

/-- Why a score sheet is refused. -/
inductive SheetFault
  | unexpectedHeaderTail (found : Char) (offset : Nat)
  | unterminatedOptions (offset : Nat)
  | unexpectedAfterComment (found : Char) (offset : Nat)
  | unknownSetting (setting : String) (offset : Nat)
  | emptyPlace
  | invalidDate (raw : String)
  | groupTooSmall (group players offset : Nat)
  | emptyName (group offset : Nat)
  | repeatedName (group : Nat) (name : String) (offset : Nat)
  | unscorableGroup (group : Nat) (cause : RulesFault)
  | invalidPlay (group : Nat) (player : String) (play : Nat) (span : Text.Span)
      (cause : PlayFault)
  deriving DecidableEq, Repr

namespace SheetFault

/-- The sentence shown for a fault. -/
def message : SheetFault → String
  | unexpectedHeaderTail found _ =>
      s!"unexpected character {Text.quoted found} after the header options"
  | unterminatedOptions _ => "option block of the header is not closed"
  | unexpectedAfterComment found _ =>
      s!"unexpected character {Text.quoted found} after a play comment"
  | unknownSetting setting _ => s!"unknown index option `{setting}`"
  | emptyPlace => "place of the index is empty"
  | invalidDate raw => s!"`{raw}` is not a valid index date"
  | groupTooSmall group players _ =>
      s!"group {group} has {players} players, at least {fewestPlayers} are required"
  | emptyName group _ => s!"group {group} contains a player without a name"
  | repeatedName group name _ => s!"player `{name}` appears more than once in group {group}"
  | unscorableGroup group _ => s!"group {group} cannot be scored"
  | invalidPlay group player play _ cause =>
      s!"play {play} of player `{player}` in group {group} is invalid: {cause.message}"

/-- The stable code of a fault. -/
def code : SheetFault → String
  | unexpectedHeaderTail .. => "unexpected_header_tail"
  | unterminatedOptions .. => "unterminated_options"
  | unexpectedAfterComment .. => "unexpected_char_after_comment"
  | unknownSetting .. => "unknown_index_option"
  | emptyPlace => "empty_place"
  | invalidDate .. => "invalid_date"
  | groupTooSmall .. => "group_too_small"
  | emptyName .. => "empty_player_name"
  | repeatedName .. => "duplicate_player"
  | unscorableGroup .. => "config"
  | invalidPlay .. => "invalid_play"

/-- The characters of the sheet that a fault points at, if it has a place. -/
def span? : SheetFault → Option Text.Span
  | unexpectedHeaderTail _ offset | unterminatedOptions offset
  | unexpectedAfterComment _ offset | groupTooSmall _ _ offset
  | emptyName _ offset => some (.ofLength offset 1)
  | unknownSetting setting offset => some (.ofLength offset setting.length)
  | repeatedName _ name offset => some (.ofLength offset (max name.length 1))
  | invalidPlay _ _ _ span _ => some span
  | emptyPlace | invalidDate _ | unscorableGroup _ _ => none

/-- A hint for the author of the sheet. -/
def help? : SheetFault → Option String
  | unknownSetting .. =>
      some "supported options are hundred=add, hundred=mult and multiplier=1|2|10"
  | invalidDate .. => some "write the date as YYYY-MM-DD or D.M.YYYY"
  | unexpectedAfterComment .. =>
      some "a comment must end its play; separate plays with a space"
  | emptyPlace => some "put the place after the date on the first line"
  | groupTooSmall .. =>
      some "groups are separated by blank lines; check for a stray empty line"
  | _ => none

/-- The message of the fault behind a fault, if there is one. -/
def cause? : SheetFault → Option String
  | unscorableGroup _ cause => some cause.message
  | invalidPlay _ _ _ _ cause => some cause.message
  | _ => none

/-- The code under which a fault is reported with the text it was found in. -/
def reportCode : SheetFault → String
  | invalidPlay _ _ _ _ cause => s!"marias::play::{cause.code}"
  | fault => s!"marias::index::{fault.code}"

/-- The label put under the place of a fault. -/
def label : SheetFault → String
  | invalidPlay _ _ _ _ cause => cause.message
  | unknownSetting .. => "unknown option"
  | repeatedName .. => "listed again here"
  | groupTooSmall .. => "group starts here"
  | fault => fault.message

/-- The bytes of a text that a fault points at: their offset and their number. -/
def bytes? (fault : SheetFault) (text : String) : Option (Nat × Nat) :=
  fault.span?.map fun span => span.bytes text.toList

end SheetFault
end TrickLedger
