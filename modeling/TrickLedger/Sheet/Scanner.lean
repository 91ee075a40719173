import TrickLedger.Sheet.Fault
import TrickLedger.Sheet.Token
import TrickLedger.Text.Blank

/-!
# Scanning score sheets

A scanner takes the text of a score sheet character by character. It keeps the
part of the text that it stands in, the characters of the token that is not
complete yet and the offset where that token started. Each character completes
at most one token. Carriage returns are ignored, and so is a byte order mark at
offset zero.
-/

namespace TrickLedger

/-- The part of a sheet in which a scanner stands. -/
inductive Phase
  /-- The date, up to the first separator. -/
  | date
  /-- The place, up to an opening brace or the end of the line. -/
  | place
  /-- The options between braces. -/
  | options
  /-- After the options, where only separators may stand. -/
  | headerTail
  /-- The name at the start of a line. -/
  | name
  /-- Separators at the start of a line. -/
  | indent
  /-- Between two plays. -/
  | gap
  /-- Inside a play, before its comment. -/
  | play
  /-- Inside the comment of a play. -/
  | comment
  /-- Right after the brace that closes a comment. -/
  | afterComment
  deriving DecidableEq, Repr

/-- A scanner between two characters. -/
structure Scanner where
  phase : Phase := .date
  /-- The characters of the token that is not complete yet. -/
  pending : String := ""
  /-- The offset where the token, or an indented line, started. -/
  start : Nat := 0
  deriving DecidableEq, Repr

namespace Scanner

/-- The byte order mark. -/
def byteOrderMark : Char := '\uFEFF'

/-- Spaces and tabs separate the words of a line. -/
def isSeparator (letter : Char) : Bool :=
  letter == ' ' || letter == '\t'

/-- Characters that are passed over wherever they stand. -/
def isIgnored (letter : Char) (offset : Nat) : Bool :=
  letter == '\r' || (letter == byteOrderMark && offset == 0)

/-- Goes to another part with nothing pending. -/
def enter (scanner : Scanner) (phase : Phase) : Scanner :=
  { scanner with phase, pending := "" }

/-- Goes to a part and adds a character to the pending token there. -/
def push (scanner : Scanner) (phase : Phase) (letter : Char) (offset : Nat) : Scanner where
  phase
  pending := scanner.pending.push letter
  start := if scanner.pending.isEmpty then offset else scanner.start

/-- The pending text as the name of a place. -/
def placeToken (scanner : Scanner) : Token :=
  .place (String.ofList (Text.trim scanner.pending.toList))

/-- The pending text as an option, if there is any. -/
def settingToken? (scanner : Scanner) : Option Token :=
  if scanner.pending.isEmpty then none else some (.setting scanner.pending scanner.start)

/-- The pending text as the name of a player. An empty name stands at the given
offset. -/
def playerToken (scanner : Scanner) (offset : Nat) : Token :=
  .player scanner.pending (if scanner.pending.isEmpty then offset else scanner.start)

/-- The pending text as a play. -/
def playToken (scanner : Scanner) : Token :=
  .play scanner.pending scanner.start

/-- Takes a character that is not ignored. -/
def advance (scanner : Scanner) (letter : Char) (offset : Nat) :
    Except SheetFault (Scanner × Option Token) :=
  match scanner.phase with
  | .date =>
      if isSeparator letter then
        if scanner.pending.isEmpty then .ok (scanner, none)
        else .ok (scanner.enter .place, some (.date scanner.pending))
      else if letter = '\n' then .ok (scanner.enter .name, some (.date scanner.pending))
      else .ok (scanner.push .date letter offset, none)
  | .place =>
      if letter = '{' then .ok (scanner.enter .options, some scanner.placeToken)
      else if letter = '\n' then .ok (scanner.enter .name, some scanner.placeToken)
      else .ok (scanner.push .place letter offset, none)
  | .options =>
      if letter = '}' then .ok (scanner.enter .headerTail, scanner.settingToken?)
      else if isSeparator letter then .ok (scanner.enter .options, scanner.settingToken?)
      else if letter = '\n' then .error (.unterminatedOptions offset)
      else .ok (scanner.push .options letter offset, none)
  | .headerTail =>
      if isSeparator letter then .ok (scanner, none)
      else if letter = '\n' then .ok (scanner.enter .name, none)
      else .error (.unexpectedHeaderTail letter offset)
  | .name =>
      if isSeparator letter then
        if scanner.pending.isEmpty then
          .ok ({ scanner with phase := .indent, start := offset }, none)
        else .ok (scanner.enter .gap, some (scanner.playerToken offset))
      else if letter = '\n' then
        if scanner.pending.isEmpty then .ok (scanner, some .groupBreak)
        else .ok (scanner.enter .name, some (scanner.playerToken offset))
      else .ok (scanner.push .name letter offset, none)
  | .indent =>
      if isSeparator letter then .ok (scanner, none)
      else if letter = '\n' then .ok (scanner.enter .name, some .groupBreak)
      else
        let phase := if letter = '{' then .comment else .play
        .ok ((scanner.enter phase).push phase letter offset,
          some (scanner.playerToken scanner.start))
  | .gap =>
      if isSeparator letter then .ok (scanner, none)
      else if letter = '\n' then .ok (scanner.enter .name, none)
      else .ok (scanner.push (if letter = '{' then .comment else .play) letter offset, none)
  | .play =>
      if isSeparator letter then .ok (scanner.enter .gap, some scanner.playToken)
      else if letter = '\n' then .ok (scanner.enter .name, some scanner.playToken)
      else .ok (scanner.push (if letter = '{' then .comment else .play) letter offset, none)
  | .comment =>
      if letter = '}' then .ok (scanner.push .afterComment letter offset, none)
      else if letter = '\n' then .ok (scanner.enter .name, some scanner.playToken)
      else .ok (scanner.push .comment letter offset, none)
  | .afterComment =>
      if isSeparator letter then .ok (scanner.enter .gap, some scanner.playToken)
      else if letter = '\n' then .ok (scanner.enter .name, some scanner.playToken)
      else .error (.unexpectedAfterComment letter offset)

/-- Takes one character. The next scanner is paired with the token that the
character completes, if it completes one. -/
def take (scanner : Scanner) (letter : Char) (offset : Nat) :
    Except SheetFault (Scanner × Option Token) :=
  if isIgnored letter offset then .ok (scanner, none) else scanner.advance letter offset

/-- The token that the end of the text completes, if it completes one. -/
def close (scanner : Scanner) (offset : Nat) : Except SheetFault (Option Token) :=
  match scanner.phase with
  | .date => .ok (if scanner.pending.isEmpty then none else some (.date scanner.pending))
  | .place => .ok (some scanner.placeToken)
  | .options => .error (.unterminatedOptions offset)
  | .name => .ok (if scanner.pending.isEmpty then none else some (scanner.playerToken offset))
  | .play | .comment | .afterComment => .ok (some scanner.playToken)
  | .headerTail | .indent | .gap => .ok none

/-- Takes the characters of a text from an offset on, and then its end. The
tokens are put in front of those found so far, the last one first. -/
def run (scanner : Scanner) (offset : Nat) (tokensReverse : List Token) :
    List Char → Except SheetFault (List Token)
  | [] =>
      match scanner.close offset with
      | .ok token => .ok (token.toList ++ tokensReverse).reverse
      | .error fault => .error fault
  | letter :: letters =>
      match scanner.take letter offset with
      | .ok (next, token) => next.run (offset + 1) (token.toList ++ tokensReverse) letters
      | .error fault => .error fault

end Scanner

/-- The tokens of the text of a score sheet. -/
def Token.ofText (text : String) : Except SheetFault (List Token) :=
  ({} : Scanner).run 0 [] text.toList

end TrickLedger
