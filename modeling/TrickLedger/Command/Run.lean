import TrickLedger.Command.Arguments
import TrickLedger.Command.Files
import TrickLedger.Output.Structured
import TrickLedger.Output.Text
import TrickLedger.Sheet.Reader

/-!
# Running commands

A command sees files only through a function that follows paths. It prints one
text after another and may end with a fault, and what it printed before stays
printed.
-/

namespace TrickLedger

/-- What paths lead to. -/
abbrev FileView := String → Except FileFault FileTree

/-- Why a command fails. -/
inductive CommandFault
  | unreadable (path : String) (cause : FileFault)
  | sheet (path text : String) (cause : SheetFault)
  | rejected (cause : PlayFault)
  | rules (cause : RulesFault)
  | balance (label : String) (cause : BalanceFault)
  deriving DecidableEq, Repr

/-- The sentence shown for a fault. -/
def CommandFault.message : CommandFault → String
  | unreadable path cause => s!"cannot read {path}: {cause.message}"
  | sheet _ _ cause => cause.message
  | rejected cause => s!"play was rejected: {cause.message}"
  | rules cause => cause.message
  | balance label cause => s!"{label}: {cause.message}"

/-- What a command prints, and how it fails if it does. -/
structure Outcome where
  output : String := ""
  fault : Option CommandFault := none
  deriving DecidableEq, Repr

/-- A run of a command, which prints texts and may fail on the way. The state
holds what has been printed, and a fault does not take it back. -/
abbrev Running := ExceptT CommandFault (StateM String)

namespace Running

/-- Prints a text. -/
def print (text : String) : Running Unit :=
  modify (· ++ text)

/-- What a run printed until it ended, and how it failed if it did. -/
def outcome (running : Running Unit) : Outcome :=
  match running.run.run "" with
  | (.ok _, output) => { output }
  | (.error fault, output) => { output, fault := some fault }

end Running

/-- The balances of the groups of one sheet, with the file that it stands in. -/
structure SheetBalances where
  file : String
  place : String
  rawDate : String
  groups : List (List (String × Int))
  deriving DecidableEq, Repr

/-- The standings over a season, and the balances of each sheet if they are
asked for. -/
structure BalanceReport where
  standings : List Standing
  sheets : Option (List SheetBalances)
  deriving DecidableEq, Repr

namespace SheetBalances

/-- The balances of a sheet that was read from a file. -/
def ofSheet (file : String) (sheet : Sheet) : Except CommandFault SheetBalances :=
  match sheet.groups.mapM fun group => group.balances sheet.rules with
  | .ok groups => .ok { file, place := sheet.place, rawDate := sheet.rawDate, groups }
  | .error cause => .error (.balance file cause)

/-- The balances of a sheet, each group under its number. -/
def text (balances : SheetBalances) : String :=
  Output.line s!"{balances.rawDate} {balances.place} ({balances.file})" ++
    String.join ((balances.groups.zipIdx 1).map fun (rows, number) =>
      Output.line s!" group {number}" ++ Output.balancesText rows)

/-- Prints the balances of a sheet, line by line. -/
def print (balances : SheetBalances) : Running Unit := do
  Running.print (Output.line s!"{balances.rawDate} {balances.place} ({balances.file})")
  (balances.groups.zipIdx 1).forM fun (rows, number) => do
    Running.print (Output.line s!" group {number}")
    Running.print (Output.balancesText rows)

/-- The balances of a sheet as a structured value. -/
def json (balances : SheetBalances) : Output.Json :=
  .object [
    ("file", .string balances.file),
    ("place", .string balances.place),
    ("date", .string balances.rawDate),
    ("groups", .list (balances.groups.map Output.balancesJson))]

end SheetBalances

namespace BalanceReport

/-- The report as lines of text: the sheets first, then the leaderboard. -/
def text (report : BalanceReport) : String :=
  String.join ((report.sheets.getD []).map SheetBalances.text) ++
    Output.leaderboardText report.standings

/-- Prints the report, sheet by sheet. -/
def print (report : BalanceReport) : Running Unit := do
  (report.sheets.getD []).forM SheetBalances.print
  Running.print (Output.leaderboardText report.standings)

/-- The report as a structured value. -/
def json (report : BalanceReport) : Output.Json :=
  .object (("leaderboard", .list (report.standings.map Output.standingJson)) ::
    match report.sheets with
    | some sheets => [("indexes", .list (sheets.map SheetBalances.json))]
    | none => [])

end BalanceReport

namespace Command

/-- A structured value on lines of its own. -/
def structuredText (value : Output.Json) : String :=
  Output.line value.render

/-- The table to judge a play code at. The stake is checked before the number of
players. -/
def tableOf (players : Nat) (hundred : HundredRule) (stake : Nat) : Except CommandFault Table :=
  match (do Table.make players (← ScoringRules.make hundred stake)) with
  | .error cause => .error (.rules cause)
  | .ok table => .ok table

/-- Judges a play code. A rejected play is printed before the command fails. -/
def evaluate (code : String) (players : Nat) (hundred : HundredRule) (stake : Nat)
    (structured : Bool) : Running Unit := do
  let table ← tableOf players hundred stake
  let verdict := table.judge code
  Running.print (if structured then structuredText (Output.verdictJson verdict)
    else Output.verdictText code verdict)
  match verdict with
  | .accepted .. => pure ()
  | .rejected cause => throw (.rejected cause)

/-- Reads the score sheet that a path leads to. -/
def readSheet (files : FileView) (path : String) : Except CommandFault Sheet :=
  match files path >>= FileTree.text with
  | .error cause => .error (.unreadable path cause)
  | .ok text =>
      match Sheet.ofText text with
      | .ok sheet => .ok sheet
      | .error cause => .error (.sheet path text cause)

/-- Reads a score sheet and prints its summary, or the sheet itself as a
structured value. -/
def check (files : FileView) (path : String) (structured : Bool) : Running Unit := do
  let sheet ← readSheet files path
  Running.print (if structured then structuredText (Output.sheetJson sheet)
    else Output.sheetText path sheet)

/-- The files of score sheets that paths name, in the order of the paths. -/
def sheetFiles (files : FileView) (paths : List String) : List String :=
  paths.flatMap (FileTree.sheetFiles files)

/-- The name under which a leaderboard is reported: the only path, or a word for
several. -/
def seasonLabel : List String → String
  | [path] => path
  | _ => "indexes"

/-- Draws up the leaderboard of all sheets that paths name. The sheets are read
first; then the standings are drawn up, and then the balances of the groups. -/
def balanceReport (files : FileView) (paths : List String) (groups : Bool) :
    Except CommandFault BalanceReport := do
  let names := sheetFiles files paths
  let season ← names.mapM (readSheet files)
  match leaderboard season with
  | .error cause => .error (.balance (seasonLabel paths) cause)
  | .ok standings =>
      if groups then do
        let sheets ← (names.zip season).mapM fun (name, sheet) => SheetBalances.ofSheet name sheet
        .ok { standings, sheets := some sheets }
      else .ok { standings, sheets := none }

/-- Prints the leaderboard of all sheets that paths name, after the balances of
their groups if they are asked for. -/
def balance (files : FileView) (paths : List String) (groups structured : Bool) :
    Running Unit := do
  let report ← balanceReport files paths groups
  if structured then Running.print (structuredText report.json) else report.print

/-- Does what is asked for. -/
def perform (files : FileView) (invocation : Invocation) : Running Unit :=
  match invocation.request with
  | .evaluate code players hundred stake =>
      evaluate code players hundred stake invocation.structured
  | .check path => check files path invocation.structured
  | .balance paths groups => balance files paths groups invocation.structured

end Command

/-- How a run of the program ends. -/
structure Response where
  status : Nat
  output : String := ""
  fault : Option CommandFault := none
  deriving DecidableEq, Repr

namespace Response

/-- The line printed for a request of the version. -/
def versionLine : String := "marias 0.1.0\n"

/-- The lines printed for a request of help. -/
def helpLines : String :=
  "Scores mariáš play codes and tournament indexes.\n\n" ++
    "Usage: marias [--json] [-v] eval [-g N] [--hundred RULE] [-m N] PLAY\n" ++
    "       marias [--json] [-v] check FILE\n" ++
    "       marias [--json] [-v] balance PATH.. [--groups]\n"

/-- Runs the program on a command line. Faults end it with status one, and a
command line that it cannot use with status two. -/
def ofCommandLine (files : FileView) (commandLine : List String) : Response :=
  match Invocation.ofCommandLine commandLine with
  | .error .misuse => { status := 2 }
  | .error .help => { status := 0, output := helpLines }
  | .error .version => { status := 0, output := versionLine }
  | .ok invocation =>
      let outcome := (Command.perform files invocation).outcome
      { status := if outcome.fault.isSome then 1 else 0
        output := outcome.output
        fault := outcome.fault }

end Response
end TrickLedger
