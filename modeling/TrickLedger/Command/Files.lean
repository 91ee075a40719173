/-!
# Files

Commands see files and directories as a tree, and reach them by paths whose
parts are separated by slashes. A directory is searched for the files of score
sheets at any depth. Names and paths are texts, so that files with names that
are not UTF-8 have no place in a tree.
-/

namespace TrickLedger

/-- Why a path cannot be read. -/
inductive FileFault
  | notFound
  | isDirectory
  | notDirectory
  | notText
  | other (reason : String)
  deriving DecidableEq, Repr

def FileFault.message : FileFault → String
  | notFound => "No such file or directory (os error 2)"
  | isDirectory => "Is a directory (os error 21)"
  | notDirectory => "Not a directory (os error 20)"
  | notText => "stream did not contain valid UTF-8"
  | other reason => reason

/-- A file with its bytes, or a directory with its named entries. A file whose
bytes cannot be had keeps the reason. A pipe or a device is not a regular file,
though it may be read like one. -/
inductive FileTree
  | file (content : ByteArray)
  | unreadable (fault : FileFault)
  | device (content : Except FileFault ByteArray)
  | directory (entries : List (String × FileTree))

/-- A file or directory with the directories that lead to it, the nearest first. -/
structure Spot where
  tree : FileTree
  ancestors : List FileTree := []

/-- Follows one part of a path. An empty part and a single dot stay where they
are, and two dots go back to the directory before, if there is one. -/
def Spot.enter (spot : Spot) (part : String) : Except FileFault Spot :=
  match spot.tree with
  | .directory entries =>
      if part = "" ∨ part = "." then .ok spot
      else if part = ".." then
        match spot.ancestors with
        | parent :: earlier => .ok { tree := parent, ancestors := earlier }
        | [] => .ok spot
      else match entries.lookup part with
        | some child => .ok { tree := child, ancestors := spot.tree :: spot.ancestors }
        | none => .error .notFound
  | _ => .error .notDirectory

namespace FileTree

def partsOf (path : String) : List String :=
  (path.toList.splitOn '/').map String.ofList

/-- Where a path starts: at the root if it starts with a slash, and otherwise at
the place that the parts of the location lead to. -/
def startOf (location : List String) (path : String) : List String :=
  if path.toList.head? = some '/' then [] else location

def findFrom (root : FileTree) (location : List String) (path : String) :
    Except FileFault FileTree :=
  -- The empty path leads nowhere, not even to the location.
  if path = "" then .error .notFound
  else ((startOf location path ++ partsOf path).foldlM Spot.enter { tree := root }).map Spot.tree

/-- What a path leads to from the root on. -/
def find (root : FileTree) (path : String) : Except FileFault FileTree :=
  root.findFrom [] path

example : (directory [("b", directory [("z.txt", unreadable .notText)])]).find "/b/../b//./z.txt" =
    .ok (unreadable .notText) :=
  rfl

def isRegular : FileTree → Bool
  | file _ => true
  | unreadable _ => true
  | device _ => false
  | directory _ => false

def textOf (content : ByteArray) : Except FileFault String :=
  match String.fromUTF8? content with
  | some text => .ok text
  | none => .error .notText

def text : FileTree → Except FileFault String
  | file content => textOf content
  | unreadable fault => .error fault
  | device content => content >>= textOf
  | directory _ => .error .isDirectory

mutual

/-- A tree and all that is below it, by the names that lead there. -/
def walk : FileTree → List (List String × FileTree)
  | directory entries => ([], directory entries) :: walkEntries entries
  | leaf => [([], leaf)]

def walkEntries : List (String × FileTree) → List (List String × FileTree)
  | [] => []
  | (name, entry) :: others =>
      (walk entry).map (fun (names, below) => (name :: names, below)) ++ walkEntries others

end

end FileTree

/-! ### Paths -/

inductive Component
  | root
  | current
  | parent
  | name (text : String)
  deriving DecidableEq, Repr

namespace Component

def rank : Component → Nat
  | root => 0
  | current => 1
  | parent => 2
  | name _ => 3

def text : Component → String
  | name text => text
  | _ => ""

/-- Components are ordered by their kinds, and names by their characters. -/
instance : Ord Component where
  compare := compareLex (compareOn rank) (compareOn text)

/-- The component that a part of a path is, if it counts. -/
def ofPart? (part : String) : Option Component :=
  if part = "" ∨ part = "." then none
  else if part = ".." then some parent
  else some (name part)

/-- The component that a path starts with, where that is no part that counts
elsewhere: a slash or a single dot. -/
def leading : List String → List Component
  | [] => []
  | first :: others =>
      if first = "." then [current] else if first = "" ∧ others ≠ [] then [root] else []

def ofPath (path : String) : List Component :=
  leading (FileTree.partsOf path) ++ (FileTree.partsOf path).filterMap ofPart?

end Component

namespace FileTree

/-- The path of an entry of a directory that has a path itself. -/
def pushName (base name : String) : String :=
  if base = "" ∨ base.toList.getLast? = some '/' then base ++ name else base ++ "/" ++ name

def joinPath (base : String) (names : List String) : String :=
  names.foldl pushName base

/-- The order of paths, component by component. -/
def comesBefore (first second : String) : Bool :=
  (compare (Component.ofPath first) (Component.ofPath second)).isLE

/-! ### Score sheets -/

/-- The extension of a file name: what follows its last dot, unless the name
starts with that dot. -/
def extension? (name : String) : Option String :=
  let reversed := name.toList.reverse
  match reversed.dropWhile (· ≠ '.') with
  | _ :: _ :: _ => some (String.ofList (reversed.takeWhile (· ≠ '.')).reverse)
  | _ => none

def sheetExtension : String := "txt"

/-- The file is one of a score sheet by its extension, whose ASCII letters may
have any case. -/
def isSheetName (name : String) : Bool :=
  match extension? name with
  | some extension => extension.toList.map Char.toLower == sheetExtension.toList
  | none => false

def isSheetEntry (entry : List String × FileTree) : Bool :=
  entry.2.isRegular && entry.1.getLast?.any isSheetName

/-- The files of score sheets that a walk came upon below a path, in order. -/
def sheetFilesOf (base : String) (entries : List (List String × FileTree)) : List String :=
  ((entries.filter isSheetEntry).map fun entry => joinPath base entry.1).mergeSort comesBefore

/-- The files of score sheets that one path names: those below a directory, as a
walk comes upon them, and otherwise the path itself. -/
def sheetFilesBy (walk : FileTree → List (List String × FileTree))
    (find : String → Except FileFault FileTree) (path : String) : List String :=
  match find path with
  | .ok (directory entries) => sheetFilesOf path (walk (directory entries))
  | _ => [path]

def sheetFiles (find : String → Except FileFault FileTree) (path : String) : List String :=
  sheetFilesBy walk find path

end FileTree
end TrickLedger
