import TrickLedger.Sheet.Lines

/-!
# Streaming score sheets

A scanner can be fed one character after another, and be fed on after a fault. It works on
what it holds in place then, one small action at a time, and a fault takes back none of the
actions before it. Nothing is cleared that should be empty anyway.
-/

namespace TrickLedger.Scanner

/-- Actions on a scanner, which may end with a fault and leave it as it is then. -/
abbrev Streaming := ExceptT SheetFault (StateM Scanner)

namespace Streaming

/-- Takes the pending text and leaves none. -/
def takePending : Streaming String :=
  modifyGet fun scanner => (scanner.pending, { scanner with pending := "" })

/-- Adds a character to the pending text. An empty text starts at its offset. -/
def push (phase : Phase) (letter : Char) (offset : Nat) : Streaming (Phase × Option Token) := do
  if (← get).pending.isEmpty then
    modify fun scanner => { scanner with start := offset }
  modify fun scanner => { scanner with pending := scanner.pending.push letter }
  return (phase, none)

def place : Streaming Token := do
  let text ← takePending
  return .place (String.ofList (Text.trim text.toList))

def setting? : Streaming (Option Token) := do
  if (← get).pending.isEmpty then return none
  let text ← takePending
  return some (.setting text (← get).start)

/-- An empty name stands at the given offset. -/
def player (offset : Nat) : Streaming Token := do
  let scanner ← get
  let name ← takePending
  return .player name (if scanner.pending.isEmpty then offset else scanner.start)

def play : Streaming Token := do
  let code ← takePending
  return .play code (← get).start

/-- What a character that is not ignored does: the part of the sheet to go to, and the token
that it completes. -/
def transition (letter : Char) (offset : Nat) : Streaming (Phase × Option Token) := do
  match (← get).phase with
  | .date =>
      if isSeparator letter then
        if (← get).pending.isEmpty then return (.date, none)
        let date ← takePending
        return (.place, some (.date date))
      else if letter = '\n' then
        let date ← takePending
        return (.name, some (.date date))
      else push .date letter offset
  | .place =>
      if letter = '{' then return (.options, some (← place))
      else if letter = '\n' then return (.name, some (← place))
      else push .place letter offset
  | .options =>
      if letter = '}' then return (.headerTail, ← setting?)
      else if isSeparator letter then return (.options, ← setting?)
      else if letter = '\n' then throw (.unterminatedOptions offset)
      else push .options letter offset
  | .headerTail =>
      if isSeparator letter then return (.headerTail, none)
      else if letter = '\n' then return (.name, none)
      else throw (.unexpectedHeaderTail letter offset)
  | .name =>
      if isSeparator letter then
        if (← get).pending.isEmpty then
          modify fun scanner => { scanner with start := offset }
          return (.indent, none)
        return (.gap, some (← player offset))
      else if letter = '\n' then
        if (← get).pending.isEmpty then return (.name, some .groupBreak)
        return (.name, some (← player offset))
      else push .name letter offset
  | .indent =>
      if isSeparator letter then return (.indent, none)
      else if letter = '\n' then return (.name, some .groupBreak)
      else
        let player ← player (← get).start
        let (phase, _) ← push (if letter = '{' then .comment else .play) letter offset
        return (phase, some player)
  | .gap =>
      if isSeparator letter then return (.gap, none)
      else if letter = '\n' then return (.name, none)
      else push (if letter = '{' then .comment else .play) letter offset
  | .play =>
      if isSeparator letter then return (.gap, some (← play))
      else if letter = '\n' then return (.name, some (← play))
      else push (if letter = '{' then .comment else .play) letter offset
  | .comment =>
      if letter = '}' then push .afterComment letter offset
      else if letter = '\n' then return (.name, some (← play))
      else push .comment letter offset
  | .afterComment =>
      if isSeparator letter then return (.gap, some (← play))
      else if letter = '\n' then return (.name, some (← play))
      else throw (.unexpectedAfterComment letter offset)

/-- Takes a character that is not ignored. -/
def advance (letter : Char) (offset : Nat) : Streaming (Option Token) := do
  let (phase, token) ← transition letter offset
  modify fun scanner => { scanner with phase }
  return token

/-- Takes one character. -/
def step (letter : Char) (offset : Nat) : Streaming (Option Token) :=
  if isIgnored letter offset then return none else advance letter offset

/-- What an action on a scanner gives, and the scanner after it. -/
def runOn {α : Type} (action : Streaming α) (scanner : Scanner) : Except SheetFault α × Scanner :=
  action.run.run scanner

end Streaming

open Lines

/-- What becomes of a character that is fed, and the scanner after it. -/
def feed (scanner : Scanner) (placed : Placed) : Except SheetFault (Option Token) × Scanner :=
  (Streaming.step placed.letter placed.offset).runOn scanner

/-- The scanner after some characters, whether it refused any of them or not. -/
def fed (scanner : Scanner) : List Placed → Scanner
  | [] => scanner
  | placed :: others => (scanner.feed placed).2.fed others

/-- The character is neither ignored nor refused. -/
def takes (scanner : Scanner) (placed : Placed) : Bool :=
  !isIgnored placed.letter placed.offset && (scanner.feed placed).1.isOk

/-- The characters that are taken of those that are fed. -/
def takenOf (scanner : Scanner) : List Placed → List Placed
  | [] => []
  | placed :: others =>
      (if scanner.takes placed then [placed] else []) ++ (scanner.feed placed).2.takenOf others

end TrickLedger.Scanner
