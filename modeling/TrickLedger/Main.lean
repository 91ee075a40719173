import TrickLedger.Command.Run

/-!
# The program

Loads the files and directories that the arguments name, runs the command on
them, and prints its outcome.
-/

namespace TrickLedger.Program

/-- The reason for an error of the file system. -/
def faultOf : IO.Error → FileFault
  | .noFileOrDirectory .. => .notFound
  | .inappropriateType .. => .notDirectory
  | error => .other (toString error)

/-- Loads the file or directory at a path, directories with all that is below
them. A pipe or a device is read only where the path itself leads to it. -/
partial def load (path : String) (named : Bool) : IO (Except FileFault FileTree) := do
  try
    let target := (← IO.currentDir) / path
    match (← target.metadata).type with
    | .dir =>
        let mut entries : List (String × FileTree) := []
        for entry in ← target.readDir do
          match ← load (FileTree.pushName path entry.fileName) false with
          | .ok tree => entries := (entry.fileName, tree) :: entries
          | .error fault => entries := (entry.fileName, .unreadable fault) :: entries
        return .ok (.directory entries)
    | .file => return .ok (.file (← IO.FS.readBinFile target))
    | _ =>
        if named then return .ok (.device (.ok (← IO.FS.readBinFile target)))
        else return .ok (.device (.error .notFound))
  catch error => return .error (faultOf error)

/-- Loads what the paths lead to, and the files of score sheets below them. -/
def loadAll (paths : List String) : IO FileView := do
  let mut found : List (String × Except FileFault FileTree) := []
  for path in paths do
    let tree ← load path true
    found := (path, tree) :: found
    for file in FileTree.sheetFiles (fun _ => tree) path do
      if file ≠ path then
        found := (file, ← load file true) :: found
  let entries := found
  return fun path => (entries.lookup path).getD (.error .notFound)

/-- The paths that a command line names. -/
def pathsOf (commandLine : List String) : List String :=
  match Invocation.ofCommandLine commandLine with
  | .ok { request := .check path, .. } => [path]
  | .ok { request := .balance paths _, .. } => paths
  | _ => []

/-- The lines printed for the fault of a command. -/
def faultLines : CommandFault → String
  | .sheet path _ cause =>
      s!"{cause.reportCode}: {path}: {cause.message}" ++
        match cause.help? with
        | some help => s!"\n  help: {help}"
        | none => ""
  | fault => s!"Error: {fault.message}"

end TrickLedger.Program

/-- Runs the program on its arguments. -/
def main (commandLine : List String) : IO UInt32 := do
  let files ← TrickLedger.Program.loadAll (TrickLedger.Program.pathsOf commandLine)
  let response := TrickLedger.Response.ofCommandLine files commandLine
  let output ← IO.getStdout
  output.putStr response.output
  output.flush
  match response.fault with
  | some fault => (← IO.getStderr).putStrLn (TrickLedger.Program.faultLines fault)
  | none =>
      if response.status = 2 then
        (← IO.getStderr).putStrLn "error: unusable arguments; see --help"
  return response.status.toUInt32
