import Mathlib.Data.List.Forall2
import TrickLedger.Command.Run
import TrickLedger.Proofs.Command.Files
import TrickLedger.Proofs.Text.Runs

/-!
# Searching directories

A search gives the files of score sheets below a directory in strict order, and a list in strict
order is determined by its members.  So it is all the same in which order a walk through the
directory comes upon them.
-/

namespace TrickLedger

open Std

/-! ### Names of score sheets -/

namespace FileTree

theorem extension?_eq_some_iff {name extension : String} :
    extension? name = some extension ↔
      ∃ stem, stem ≠ "" ∧ name = stem ++ "." ++ extension ∧ '.' ∉ extension.toList := by
  rw [extension?]
  constructor
  · intro found
    split at found <;> cases found
    case h_1 dot last others cut =>
      obtain rfl := Text.eq_of_dropWhile_ne cut
      refine ⟨String.ofList (last :: others).reverse, by simp, String.toList_inj.mp ?_, ?_⟩
      · calc name.toList
            = (name.toList.reverse.takeWhile (· ≠ '.') ++ '.' :: last :: others).reverse := by
              rw [← cut, List.takeWhile_append_dropWhile, List.reverse_reverse]
          _ = _ := by simp
      · simpa using Text.not_mem_takeWhile_ne '.' name.toList.reverse
  · rintro ⟨stem, given, rfl, noDot⟩
    obtain ⟨first, others, letters⟩ : ∃ first others, stem.toList.reverse = first :: others :=
      List.exists_cons_of_ne_nil (by simpa using given)
    have cut : (stem ++ "." ++ extension).toList.reverse =
        extension.toList.reverse ++ '.' :: first :: others := by
      simp [← letters]
    have noDot : '.' ∉ extension.toList.reverse := by simpa using noDot
    simp only [cut, Text.dropWhile_ne_append noDot, Text.takeWhile_ne_append noDot]
    simp

theorem isSheetName_iff {name : String} : isSheetName name ↔ HasSheetExtension name := by
  have noDot {extension : String} (letters : extension.toList.map Char.toLower = "txt".toList) :
      '.' ∉ extension.toList := by
    intro dot
    have lowered := List.mem_map_of_mem (f := Char.toLower) dot
    rw [letters] at lowered
    revert lowered
    decide
  rw [isSheetName]
  constructor
  · intro sheet
    split at sheet
    case h_1 extension found =>
      obtain ⟨stem, given, name, -⟩ := extension?_eq_some_iff.mp found
      exact ⟨stem, extension, given, name, beq_iff_eq.mp sheet⟩
    case h_2 => cases sheet
  · rintro ⟨stem, extension, given, name, letters⟩
    rw [extension?_eq_some_iff.mpr ⟨stem, given, name, noDot letters⟩]
    exact beq_iff_eq.mpr letters

theorem isSheetEntry_iff {names : List String} {leaf : FileTree} :
    isSheetEntry (names, leaf) ↔
      leaf.isRegular ∧ ∃ front name, names = front ++ [name] ∧ HasSheetExtension name := by
  rw [isSheetEntry, Bool.and_eq_true, Option.any_eq_true]
  refine and_congr_right fun _ => ⟨?_, ?_⟩
  · rintro ⟨name, last, sheet⟩
    obtain ⟨front, rfl⟩ := List.getLast?_eq_some_iff.mp last
    exact ⟨front, name, rfl, isSheetName_iff.mp sheet⟩
  · rintro ⟨front, name, rfl, sheet⟩
    exact ⟨name, List.getLast?_concat, isSheetName_iff.mpr sheet⟩

/-! ### The order of what is found -/

section Order

variable {base : String} {entries : List (List String × FileTree)}

theorem pairwise_mergeSort_comesBefore (found : List String) :
    (found.mergeSort comesBefore).Pairwise fun first second => comesBefore first second := by
  refine List.pairwise_mergeSort (fun first second third => ?_) (fun first second => ?_) found
  · exact TransCmp.isLE_trans
  · rw [Bool.or_eq_true]
    by_cases ordered : comesBefore first second
    · exact .inl ordered
    · exact .inr (Ordering.isLE_of_eq_lt (OrientedCmp.lt_of_not_isLE ordered))

theorem sorted_sheetFilesOf (given : base ≠ "") (once : (entries.map Prod.fst).Nodup)
    (named : ∀ entry ∈ entries, ∀ name ∈ entry.1, IsEntryName name) :
    (sheetFilesOf base entries).Pairwise PathPrecedes := by
  have apart : ((entries.filter isSheetEntry).map fun entry => joinPath base entry.1).Pairwise
      fun first second => Component.ofPath first ≠ Component.ofPath second := by
    rw [List.pairwise_map]
    -- Each name below the directory is one component, so different names make different paths.
    refine ((List.pairwise_map.mp once).filter _).imp_of_mem ?_
    intro first second firstMember secondMember different equal
    have firstNamed := named first (List.mem_of_mem_filter firstMember)
    have secondNamed := named second (List.mem_of_mem_filter secondMember)
    rw [Component.ofPath_joinPath given firstNamed, Component.ofPath_joinPath given secondNamed,
      List.append_cancel_left_eq] at equal
    exact different (List.map_injective_iff.mpr (fun _ _ => Component.name.inj) equal)
  have apartSorted := apart.perm (List.mergeSort_perm _ comesBefore).symm Ne.symm
  refine ((pairwise_mergeSort_comesBefore _).and apartSorted).imp fun ⟨ordered, different⟩ => ?_
  refine (Ordering.isLE_iff_eq_lt_or_eq_eq.mp ordered).resolve_right fun equal => ?_
  exact different (LawfulEqOrd.eq_of_compare equal)

theorem mem_sheetFilesOf {file : String} : file ∈ sheetFilesOf base entries ↔
    ∃ front name leaf, (front ++ [name], leaf) ∈ entries ∧ leaf.isRegular ∧
      HasSheetExtension name ∧ joinPath base (front ++ [name]) = file := by
  rw [sheetFilesOf, List.mem_mergeSort, List.mem_map]
  constructor
  · rintro ⟨⟨names, leaf⟩, member, rfl⟩
    obtain ⟨member, sheet⟩ := List.mem_filter.mp member
    obtain ⟨regular, front, name, rfl, extension⟩ := isSheetEntry_iff.mp sheet
    exact ⟨front, name, leaf, member, regular, extension, rfl⟩
  · rintro ⟨front, name, leaf, member, regular, extension, rfl⟩
    have sheet := isSheetEntry_iff.mpr ⟨regular, front, name, rfl, extension⟩
    exact ⟨_, List.mem_filter.mpr ⟨member, sheet⟩, rfl⟩

end Order

end FileTree

namespace PathPrecedes

variable {earlier later : String}

theorem ne (precedes : PathPrecedes earlier later) : earlier ≠ later := by
  rintro rfl
  exact nomatch ReflOrd.compare_self.symm.trans precedes

theorem asymm (precedes : PathPrecedes earlier later) : ¬PathPrecedes later earlier :=
  fun follows => OrientedCmp.not_lt_of_isLE (Ordering.isLE_of_eq_lt precedes) follows

theorem eq_of_same_members {first second : List String} (firstSorted : first.Pairwise PathPrecedes)
    (secondSorted : second.Pairwise PathPrecedes) (same : ∀ file, file ∈ first ↔ file ∈ second) :
    first = second :=
  have shuffled : first.Perm second :=
    (List.perm_ext_iff_of_nodup (firstSorted.imp ne) (secondSorted.imp ne)).mpr same
  shuffled.eq_of_pairwise (fun _ _ _ _ precedes follows => absurd follows precedes.asymm)
    firstSorted secondSorted

end PathPrecedes

namespace FileSystem

variable {files : FileSystem} {path : String} {first second : List String}
  {walk : FileTree → List (List String × FileTree)}

theorem Expands.unique (firstExpands : files.Expands path first)
    (secondExpands : files.Expands path second) : first = second := by
  cases firstExpands with
  | itself closed =>
      cases secondExpands with
      | itself => rfl
      | searched opened => exact absurd opened (closed _)
  | searched opened sorted complete =>
      cases secondExpands with
      | itself closed => exact absurd opened (closed _)
      | searched _ secondSorted secondComplete =>
          exact PathPrecedes.eq_of_same_members sorted secondSorted fun file =>
            (complete file).trans (secondComplete file).symm

theorem expands_sheetFilesBy (walks : WalksDirectories walk) (files : FileSystem) (path : String) :
    files.Expands path (FileTree.sheetFilesBy walk files.find path) := by
  rw [FileTree.sheetFilesBy]
  split
  case h_1 entries opened =>
    have listed := walks entries (wellFormed_of_find opened)
    have named : ∀ entry ∈ walk (.directory entries), ∀ name ∈ entry.1, IsEntryName name :=
      fun entry member =>
        (wellFormed_of_find opened).isEntryName ((listed.complete entry.1 entry.2).mp member)
    refine .searched opened
      (FileTree.sorted_sheetFilesOf (ne_empty_of_find opened) listed.once named) fun file => ?_
    rw [FileTree.mem_sheetFilesOf]
    constructor
    · rintro ⟨names, name, leaf, member, regular, extension, rfl⟩
      have leads := (find_joinPath_eq_ok_iff opened (named _ member)).mpr
        ((listed.complete _ _).mp member)
      exact ⟨named _ member, leads, regular, extension⟩
    · rintro ⟨legal, leads, regular, extension⟩
      have member := (listed.complete _ _).mpr ((find_joinPath_eq_ok_iff opened legal).mp leads)
      exact ⟨_, _, _, member, regular, extension, rfl⟩
  case h_2 other => exact .itself other

theorem flatMap_sheetFilesBy_eq_iff (walks : WalksDirectories walk) (files : FileSystem)
    (paths found : List String) :
    paths.flatMap (FileTree.sheetFilesBy walk files.find) = found ↔
      ∃ expansions, List.Forall₂ files.Expands paths expansions ∧ found = expansions.flatten := by
  constructor
  · rintro rfl
    refine ⟨paths.map (FileTree.sheetFilesBy walk files.find), ?_, List.flatMap_def⟩
    rw [List.forall₂_map_right_iff, List.forall₂_same]
    exact fun path _ => expands_sheetFilesBy walks files path
  · rintro ⟨expansions, expand, rfl⟩
    have equal : List.Forall₂ (· = ·) (paths.map (FileTree.sheetFilesBy walk files.find))
        expansions := by
      rw [List.forall₂_map_left_iff]
      exact expand.imp fun path _ expands => (expands_sheetFilesBy walks files path).unique expands
    rw [List.forall₂_eq_eq_eq] at equal
    rw [List.flatMap_def, equal]

/-- The files of score sheets that paths stand for, in whatever order a walk comes upon them. -/
theorem sheetFiles_expand (files : FileSystem)
    (walk : FileTree → List (List String × FileTree)) (walks : WalksDirectories walk)
    (paths found : List String) :
    (paths.flatMap (FileTree.sheetFilesBy walk files.find) = found ↔
      ∃ expansions, List.Forall₂ files.Expands paths expansions ∧ found = expansions.flatten) ∧
    paths.flatMap (FileTree.sheetFilesBy walk files.find) =
      Command.sheetFiles files.find paths := by
  refine ⟨flatMap_sheetFilesBy_eq_iff walks files paths found, ?_⟩
  rw [flatMap_sheetFilesBy_eq_iff walks]
  exact (flatMap_sheetFilesBy_eq_iff walksDirectories_walk files paths _).mp rfl

/-- A season whose directories are named like its files. -/
def season : FileTree :=
  .directory [("b.txt", .file .empty), (".txt", .file .empty), ("pipe.txt", .device (.ok .empty)),
    ("b", .directory [("first.TXT", .unreadable .notText)]),
    ("x.txt", .directory [("a.b.Txt", .file .empty), ("notes", .file .empty)])]

def seasonFiles : FileSystem where
  root := .directory [("home", .directory [("season", season), ("late", .file .empty)])]
  location := ["home"]
  wellFormed := by
    have evening : (FileTree.directory [("first.TXT", .unreadable .notText)]).WellFormed :=
      .directory (by decide) (by decide) (by simpa using .unreadable _)
    have other : (FileTree.directory
        [("a.b.Txt", .file .empty), ("notes", .file .empty)]).WellFormed :=
      .directory (by decide) (by decide) (by simpa using .file _)
    have seasonWellFormed : season.WellFormed :=
      .directory (by decide) (by decide) (by simpa using ⟨.file _, .device _, evening, other⟩)
    have home : (FileTree.directory [("season", season), ("late", .file .empty)]).WellFormed :=
      .directory (by decide) (by decide) (by simpa using ⟨seasonWellFormed, .file _⟩)
    exact .directory (by decide) (by decide) (by simpa using home)

theorem sheetFiles_season :
    WalksDirectories (fun tree => tree.walk.reverse) ∧
      (∃ expansions, List.Forall₂ seasonFiles.Expands ["season/", "late", "missing.idx"] expansions ∧
        ["season/b/first.TXT", "season/b.txt", "season/x.txt/a.b.Txt", "late", "missing.idx"] =
          expansions.flatten) ∧
      Command.sheetFiles seasonFiles.find ["season/", "late", "missing.idx"] =
        ["season/b/first.TXT", "season/b.txt", "season/x.txt/a.b.Txt", "late", "missing.idx"] := by
  have walks : WalksDirectories fun tree => tree.walk.reverse := fun entries wellFormed =>
    (walksDirectories_walk entries wellFormed).perm (List.reverse_perm _).symm
  have below : FileTree.sheetFilesBy (fun tree => tree.walk.reverse) seasonFiles.find "season/" =
      ["season/b/first.TXT", "season/b.txt", "season/x.txt/a.b.Txt"] := by
    have listed : (season.walk.reverse.filter FileTree.isSheetEntry).map
        (fun entry => FileTree.joinPath "season/" entry.1) =
          ["season/x.txt/a.b.Txt", "season/b/first.TXT", "season/b.txt"] := by decide
    have ordered : FileTree.comesBefore "season/b/first.TXT" "season/b.txt" ∧
        ¬FileTree.comesBefore "season/x.txt/a.b.Txt" "season/b/first.TXT" ∧
        ¬FileTree.comesBefore "season/x.txt/a.b.Txt" "season/b.txt" := by decide
    change ((season.walk.reverse.filter FileTree.isSheetEntry).map
      (fun entry => FileTree.joinPath "season/" entry.1)).mergeSort FileTree.comesBefore = _
    rw [listed]
    simp [List.mergeSort, ordered]
  have found : ["season/", "late", "missing.idx"].flatMap
      (FileTree.sheetFilesBy (fun tree => tree.walk.reverse) seasonFiles.find) =
        ["season/b/first.TXT", "season/b.txt", "season/x.txt/a.b.Txt", "late", "missing.idx"] := by
    rw [List.flatMap_cons, below]
    rfl
  obtain ⟨expand, same⟩ := seasonFiles.sheetFiles_expand (fun tree => tree.walk.reverse) walks
    ["season/", "late", "missing.idx"]
    ["season/b/first.TXT", "season/b.txt", "season/x.txt/a.b.Txt", "late", "missing.idx"]
  exact ⟨walks, expand.mp found, same.symm.trans found⟩

end FileSystem
end TrickLedger
