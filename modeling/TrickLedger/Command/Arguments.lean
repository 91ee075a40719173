import TrickLedger.Scoring.Rules
import TrickLedger.Text.Numeral

/-!
# Command-line arguments

A command line names a command with its switches and operands. Switches may be
long or short, short ones may be joined, and a value may be attached or stand as
the next argument. After two hyphens everything is an operand. Each switch but
`--verbose` may be given once for the program and once for the command.
-/

namespace TrickLedger

/-- The switches of all commands. -/
inductive Switch
  | verbose
  | json
  | help
  | version
  | players
  | hundred
  | stake
  | groups
  deriving DecidableEq, Repr

namespace Switch

/-- The long name, without its hyphens. -/
def longName : Switch → String
  | verbose => "verbose"
  | json => "json"
  | help => "help"
  | version => "version"
  | players => "group-size"
  | hundred => "hundred"
  | stake => "multiplier"
  | groups => "groups"

/-- The letter that stands for the switch, if there is one. -/
def shortName? : Switch → Option Char
  | verbose => some 'v'
  | help => some 'h'
  | version => some 'V'
  | players => some 'g'
  | stake => some 'm'
  | json | hundred | groups => none

/-- The switch needs a value. -/
def takesValue : Switch → Bool
  | players | hundred | stake => true
  | verbose | json | help | version | groups => false

/-- The number that the value of a switch stands for. The stake is read as an
integer, so that a zero may have a minus sign, the number of players is not. -/
def readNumber? (switch : Switch) (value : String) : Option Nat :=
  match switch with
  | stake => (Text.readInteger 0 4294967295 value.toList).map Int.toNat
  | _ => Text.readNumber 18446744073709551615 value.toList

/-- The switch can take the value. -/
def accepts (switch : Switch) (value : String) : Bool :=
  match switch with
  | hundred => (HundredRule.ofWord? value).isSome
  | _ => (switch.readNumber? value).isSome

end Switch

/-- What a level of the command line, the program or one command, can take. -/
structure ArgumentRules where
  switches : List Switch
  /-- The greatest number of operands, if there is one. -/
  operandLimit : Option Nat
  /-- An awaited operand may look like an unknown switch. -/
  hyphenatedOperands : Bool := false
  /-- An operand may be empty. -/
  emptyOperands : Bool := false

/-- What has been read of one level of the command line. -/
structure Arguments where
  given : List (Switch × String) := []
  operands : List String := []
  deriving DecidableEq, Repr

/-- Why reading the command line ends early. -/
inductive Interruption
  | misuse
  | help
  | version
  deriving DecidableEq, Repr

namespace Arguments

/-- A switch was given. -/
def has (arguments : Arguments) (switch : Switch) : Bool :=
  arguments.given.any fun (other, _) => other == switch

/-- The value that a switch was given with. -/
def value? (arguments : Arguments) (switch : Switch) : Option String :=
  arguments.given.lookup switch

/-- Takes a switch with its value, which is empty for switches without one. -/
def give (arguments : Arguments) (switch : Switch) (value : String) :
    Except Interruption Arguments :=
  match switch with
  | .help => .error .help
  | .version => .error .version
  | _ =>
      if switch ≠ .verbose ∧ arguments.has switch then .error .misuse
      else if switch.takesValue ∧ !switch.accepts value then .error .misuse
      else .ok { arguments with given := (switch, value) :: arguments.given }

/-- Takes an operand. -/
def addOperand (rules : ArgumentRules) (arguments : Arguments) (operand : String) :
    Except Interruption Arguments :=
  if rules.operandLimit.any (· ≤ arguments.operands.length) then .error .misuse
  else if operand.isEmpty ∧ !rules.emptyOperands then .error .misuse
  else .ok { arguments with operands := arguments.operands ++ [operand] }

/-- Takes operands one after another. -/
def addOperands (rules : ArgumentRules) (arguments : Arguments) :
    List String → Except Interruption Arguments
  | [] => .ok arguments
  | operand :: operands => do
      let arguments ← arguments.addOperand rules operand
      arguments.addOperands rules operands

end Arguments

/-- The form of one argument. -/
inductive ArgumentForm
  /-- Two hyphens, which end the switches. -/
  | terminator
  /-- A known switch by its long name, with the text after an equals sign. -/
  | long (switch : Switch) (attached : Option String)
  /-- Letters of short switches, with what may be attached to the last one. -/
  | short (letters : List Char)
  | unknown
  /-- An operand, or the value of the switch before. -/
  | word
  deriving DecidableEq, Repr

namespace ArgumentRules

/-- The switch with the given long name. -/
def long? (rules : ArgumentRules) (name : String) : Option Switch :=
  rules.switches.find? fun switch => switch.longName == name

/-- The switch with the given letter. -/
def short? (rules : ArgumentRules) (letter : Char) : Option Switch :=
  rules.switches.find? fun switch => switch.shortName? == some letter

/-- Another operand is awaited that may look like an unknown switch. -/
def awaitsHyphenated (rules : ArgumentRules) (arguments : Arguments) : Bool :=
  rules.hyphenatedOperands && !rules.operandLimit.any (· ≤ arguments.operands.length)

/-- The form of an argument after those read so far. -/
def formOf (rules : ArgumentRules) (arguments : Arguments) (argument : String) : ArgumentForm :=
  let otherwise : ArgumentForm := if rules.awaitsHyphenated arguments then .word else .unknown
  match argument.toList with
  | ['-', '-'] => .terminator
  | '-' :: '-' :: letters =>
      match rules.long? (String.ofList (letters.takeWhile (· ≠ '='))) with
      | none => otherwise
      | some switch =>
          match letters.dropWhile (· ≠ '=') with
          | _ :: value => .long switch (some (String.ofList value))
          | [] => .long switch none
  | '-' :: letter :: letters =>
      if rules.awaitsHyphenated arguments ∧
          (letter :: letters).any (fun letter => (rules.short? letter).isNone) then .word
      else .short (letter :: letters)
  | _ => .word

/-- Takes the letters of short switches. The last one may still want a value. -/
def takeShort (rules : ArgumentRules) (arguments : Arguments) :
    List Char → Except Interruption (Arguments × Option Switch)
  | [] => .ok (arguments, none)
  | letter :: letters =>
      match rules.short? letter with
      | none => .error .misuse
      | some switch =>
          if switch.takesValue then
            match letters with
            | [] => .ok (arguments, some switch)
            | first :: others => do
                let value := if first = '=' then others else letters
                let arguments ← arguments.give switch (String.ofList value)
                .ok (arguments, none)
          else do
            let arguments ← arguments.give switch ""
            rules.takeShort arguments letters

/-- Takes a switch by its long name. It may still want a value. -/
def takeLong (arguments : Arguments) (switch : Switch) (attached : Option String) :
    Except Interruption (Arguments × Option Switch) :=
  match switch.takesValue, attached with
  | true, none => .ok (arguments, some switch)
  | false, some _ => .error .misuse
  | _, attached => do
      let arguments ← arguments.give switch (attached.getD "")
      .ok (arguments, none)

/-- Reads the arguments of a command. A switch that still wants a value takes the
next word. -/
def readFrom (rules : ArgumentRules) (arguments : Arguments) (waiting : Option Switch) :
    List String → Except Interruption Arguments
  | [] => if waiting.isSome then .error .misuse else .ok arguments
  | argument :: others =>
      match rules.formOf arguments argument, waiting with
      | .word, some switch => do
          let arguments ← arguments.give switch argument
          rules.readFrom arguments none others
      | _, some _ => .error .misuse
      | .word, none => do
          let arguments ← arguments.addOperand rules argument
          rules.readFrom arguments none others
      | .terminator, none => arguments.addOperands rules others
      | .long switch attached, none => do
          let (arguments, waiting) ← takeLong arguments switch attached
          rules.readFrom arguments waiting others
      | .short letters, none => do
          let (arguments, waiting) ← rules.takeShort arguments letters
          rules.readFrom arguments waiting others
      | .unknown, none => .error .misuse

/-- Reads the switches of the program up to the name of a command. No switch of
the program takes a value. -/
def readToCommand (rules : ArgumentRules) (arguments : Arguments) :
    List String → Except Interruption (Arguments × String × List String)
  | [] => .error .misuse
  | argument :: others =>
      match rules.formOf arguments argument with
      | .word => .ok (arguments, argument, others)
      | .long switch attached => do
          let (arguments, _) ← takeLong arguments switch attached
          rules.readToCommand arguments others
      | .short letters => do
          let (arguments, _) ← rules.takeShort arguments letters
          rules.readToCommand arguments others
      | .terminator | .unknown => .error .misuse

end ArgumentRules

/-- What the program is asked to do. -/
inductive Request
  | evaluate (code : String) (players : Nat) (hundred : HundredRule) (stake : Nat)
  | check (path : String)
  | balance (paths : List String) (groups : Bool)
  deriving DecidableEq, Repr

/-- A request and the form of its answer. -/
structure Invocation where
  request : Request
  structured : Bool
  deriving DecidableEq, Repr

namespace Invocation

/-- The program itself. -/
def programRules : ArgumentRules where
  switches := [.verbose, .json, .help, .version]
  operandLimit := some 0

/-- The command that judges a play code. -/
def evaluateRules : ArgumentRules where
  switches := [.verbose, .json, .help, .players, .hundred, .stake]
  operandLimit := some 1
  hyphenatedOperands := true
  emptyOperands := true

/-- The command that checks a sheet. -/
def checkRules : ArgumentRules where
  switches := [.verbose, .json, .help]
  operandLimit := some 1

/-- The command that draws up the leaderboard. -/
def balanceRules : ArgumentRules where
  switches := [.verbose, .json, .help, .groups]
  operandLimit := none

/-- The number that a switch was given with. -/
def number (arguments : Arguments) (switch : Switch) (otherwise : Nat) : Nat :=
  ((arguments.value? switch).bind switch.readNumber?).getD otherwise

/-- The request of a command with its arguments. -/
def requestOf (command : String) (others : List String) :
    Except Interruption (Request × Arguments) :=
  if command = "eval" then do
    let arguments ← evaluateRules.readFrom {} none others
    match arguments.operands with
    | [code] =>
        let hundred := ((arguments.value? .hundred).bind HundredRule.ofWord?).getD .multiplicative
        let players := number arguments .players fewestPlayers
        .ok (.evaluate code players hundred (number arguments .stake 1), arguments)
    | _ => .error .misuse
  else if command = "check" then do
    let arguments ← checkRules.readFrom {} none others
    match arguments.operands with
    | [path] => .ok (.check path, arguments)
    | _ => .error .misuse
  else if command = "balance" then do
    let arguments ← balanceRules.readFrom {} none others
    match arguments.operands with
    | [] => .error .misuse
    | paths => .ok (.balance paths (arguments.has .groups), arguments)
  else if command = "help" then .error .help
  else .error .misuse

/-- The invocation that a command line stands for. -/
def ofCommandLine (commandLine : List String) : Except Interruption Invocation := do
  let (program, command, others) ← programRules.readToCommand {} commandLine
  let (request, arguments) ← requestOf command others
  .ok { request, structured := program.has .json || arguments.has .json }

end Invocation
end TrickLedger
