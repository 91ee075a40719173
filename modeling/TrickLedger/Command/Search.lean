import TrickLedger.Command.Files

/-!
# Searching directories

What a search for the files of score sheets is to come upon.  A tree is one that directories can
hold: the names in a directory are all different, and none of them has a meaning of its own in a
path.
-/

namespace TrickLedger

structure IsEntryName (name : String) : Prop where
  nonempty : name ≠ ""
  notDot : name ≠ "."
  notDots : name ≠ ".."
  noSlash : '/' ∉ name.toList
  noNul : '\x00' ∉ name.toList

instance (name : String) : Decidable (IsEntryName name) :=
  decidable_of_iff
    (name ≠ "" ∧ name ≠ "." ∧ name ≠ ".." ∧ '/' ∉ name.toList ∧ '\x00' ∉ name.toList)
    ⟨fun ⟨nonempty, notDot, notDots, noSlash, noNul⟩ =>
      ⟨nonempty, notDot, notDots, noSlash, noNul⟩,
    fun ⟨nonempty, notDot, notDots, noSlash, noNul⟩ =>
      ⟨nonempty, notDot, notDots, noSlash, noNul⟩⟩

namespace FileTree

inductive WellFormed : FileTree → Prop
  | file (content : ByteArray) : WellFormed (file content)
  | unreadable (fault : FileFault) : WellFormed (unreadable fault)
  | device (content : Except FileFault ByteArray) : WellFormed (device content)
  | directory {entries : List (String × FileTree)}
      (named : ∀ entry ∈ entries, IsEntryName entry.1)
      (distinct : (entries.map Prod.fst).Nodup)
      (inner : ∀ entry ∈ entries, WellFormed entry.2) : WellFormed (directory entries)

/-- Names lead from a tree to something at or below it. -/
inductive Leads : FileTree → List String → FileTree → Prop
  | here (tree : FileTree) : Leads tree [] tree
  | into {entries : List (String × FileTree)} {name : String} {child below : FileTree}
      {names : List String} (entry : (name, child) ∈ entries)
      (further : Leads child names below) : Leads (directory entries) (name :: names) below

/-- A listing of a tree has the tree and all that is below it, each once, in whatever order. -/
structure Lists (tree : FileTree) (entries : List (List String × FileTree)) : Prop where
  once : (entries.map Prod.fst).Nodup
  complete : ∀ names below, (names, below) ∈ entries ↔ tree.Leads names below

end FileTree

/-- A way to walk through directories lists each of them. -/
def WalksDirectories (walk : FileTree → List (List String × FileTree)) : Prop :=
  ∀ entries, (FileTree.directory entries).WellFormed →
    (FileTree.directory entries).Lists (walk (.directory entries))

/-- A name ends in a dot and the extension, in letters of any case, and does not start with that
dot. -/
def HasSheetExtension (name : String) : Prop :=
  ∃ stem extension, stem ≠ "" ∧ name = stem ++ "." ++ extension ∧
    extension.toList.map Char.toLower = "txt".toList

def PathPrecedes (first second : String) : Prop :=
  compare (Component.ofPath first) (Component.ofPath second) = .lt

/-- A tree of files, and the place in it that paths start from. -/
structure FileSystem where
  root : FileTree
  location : List String
  wellFormed : root.WellFormed

namespace FileSystem

def find (files : FileSystem) (path : String) : Except FileFault FileTree :=
  files.root.findFrom files.location path

/-- The file of a score sheet at any depth below the path of a directory. -/
inductive SheetBelow (files : FileSystem) (path : String) : String → Prop
  | intro {names : List String} {name : String} {leaf : FileTree}
      (named : ∀ part ∈ names ++ [name], IsEntryName part)
      (leads : files.find (FileTree.joinPath path (names ++ [name])) = .ok leaf)
      (regular : leaf.isRegular) (extension : HasSheetExtension name) :
      SheetBelow files path (FileTree.joinPath path (names ++ [name]))

/-- The files that one path stands for. -/
inductive Expands (files : FileSystem) (path : String) : List String → Prop
  | itself (closed : ∀ entries, files.find path ≠ .ok (.directory entries)) :
      Expands files path [path]
  | searched {entries : List (String × FileTree)} {found : List String}
      (opened : files.find path = .ok (.directory entries))
      (sorted : found.Pairwise PathPrecedes)
      (complete : ∀ file, file ∈ found ↔ files.SheetBelow path file) :
      Expands files path found

end FileSystem
end TrickLedger
