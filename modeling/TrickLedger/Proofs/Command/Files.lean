import Mathlib.Data.List.Nodup
import TrickLedger.Proofs.Command.Paths
import TrickLedger.Proofs.Outcome

/-!
# Trees of files

A walk through a tree comes upon each thing in it once, by the names that lead there.  Following
a path to a directory and then names from there is following the path to which the names are
joined.
-/

namespace TrickLedger

/-! ### Trees -/

namespace FileTree

variable {entries : List (String × FileTree)} {tree child leaf : FileTree} {name : String}
  {names : List String}

/-- Induction on a tree, with what holds of the entries of a directory. -/
theorem directoryInduction {motive : FileTree → Prop}
    (file : ∀ content, motive (.file content)) (unreadable : ∀ fault, motive (.unreadable fault))
    (device : ∀ content, motive (.device content))
    (directory : ∀ entries : List (String × FileTree), (∀ entry ∈ entries, motive entry.2) →
      motive (.directory entries)) (tree : FileTree) : motive tree :=
  @FileTree.rec motive (fun entries => ∀ entry ∈ entries, motive entry.2)
    (fun entry => motive entry.2) file unreadable device directory
    (fun _ member => absurd member List.not_mem_nil)
    (fun _ _ first others => List.forall_mem_cons.mpr ⟨first, others⟩) (fun _ _ below => below) tree

theorem mem_of_lookup (found : entries.lookup name = some child) : (name, child) ∈ entries := by
  obtain ⟨before, after, rfl, -⟩ := List.lookup_eq_some_iff.mp found
  exact List.mem_append_right _ List.mem_cons_self

theorem mem_iff_lookup (distinct : (entries.map Prod.fst).Nodup) :
    (name, child) ∈ entries ↔ entries.lookup name = some child := by
  refine ⟨fun member => ?_, mem_of_lookup⟩
  obtain ⟨before, after, rfl⟩ := List.append_of_mem member
  refine List.lookup_eq_some_iff.mpr ⟨before, after, rfl, fun other earlier => ?_⟩
  rw [List.map_append, List.nodup_append] at distinct
  exact bne_iff_ne.mpr (distinct.2.2 _ (List.mem_map_of_mem earlier) name (by simp)).symm

theorem leads_nil_iff : tree.Leads [] leaf ↔ leaf = tree := by
  constructor
  · rintro ⟨⟩
    rfl
  · rintro rfl
    exact .here _

theorem leads_directory_iff : (directory entries).Leads (name :: names) leaf ↔
    ∃ child, (name, child) ∈ entries ∧ child.Leads names leaf := by
  constructor
  · rintro (_ | ⟨entry, further⟩)
    exact ⟨_, entry, further⟩
  · rintro ⟨child, entry, further⟩
    exact .into entry further

theorem WellFormed.isEntryName (wellFormed : tree.WellFormed) (leads : tree.Leads names leaf) :
    ∀ name ∈ names, IsEntryName name := by
  induction leads with
  | here => exact List.forall_mem_nil _
  | into entry further ih =>
      obtain - | - | - | ⟨named, -, inner⟩ := wellFormed
      exact List.forall_mem_cons.mpr ⟨named _ entry, ih (inner _ entry)⟩

theorem walkEntries_eq (entries : List (String × FileTree)) :
    walkEntries entries = entries.flatMap fun entry =>
      entry.2.walk.map fun below => (entry.1 :: below.1, below.2) := by
  induction entries with
  | nil => rfl
  | cons entry others ih => rw [walkEntries, ih, List.flatMap_cons]

theorem mem_walk : (names, leaf) ∈ tree.walk ↔ tree.Leads names leaf := by
  induction tree using directoryInduction generalizing names leaf with
  | file | unreadable | device =>
      cases names with
      | nil => simp [walk, leads_nil_iff]
      | cons name names => simpa [walk] using fun leads => nomatch leads
  | directory entries ih =>
      cases names with
      | nil => simp [walk, walkEntries_eq, leads_nil_iff]
      | cons name names =>
          rw [walk, walkEntries_eq, leads_directory_iff]
          constructor
          · intro member
            obtain ⟨entry, entryMember, below, belowMember, equal⟩ : ∃ entry ∈ entries,
                ∃ below ∈ entry.2.walk, (entry.1 :: below.1, below.2) = (name :: names, leaf) := by
              simpa using member
            obtain ⟨⟨rfl, rfl⟩, rfl⟩ : (entry.1 = name ∧ below.1 = names) ∧ below.2 = leaf := by
              simpa using equal
            exact ⟨entry.2, entryMember, (ih entry entryMember).mp belowMember⟩
          · rintro ⟨child, entry, further⟩
            refine List.mem_cons_of_mem _ (List.mem_flatMap.mpr ⟨_, entry, ?_⟩)
            exact List.mem_map.mpr ⟨_, (ih _ entry).mpr further, rfl⟩

theorem nodup_walk (wellFormed : tree.WellFormed) : (tree.walk.map Prod.fst).Nodup := by
  induction tree using directoryInduction with
  | file | unreadable | device => exact List.nodup_singleton _
  | directory entries ih =>
      obtain - | - | - | ⟨-, distinct, inner⟩ := wellFormed
      have names : (walk (directory entries)).map Prod.fst =
          [] :: entries.flatMap fun entry => (entry.2.walk.map Prod.fst).map (entry.1 :: ·) := by
        rw [walk, walkEntries_eq, List.map_cons, List.map_flatMap]
        simp only [List.map_map, Function.comp_def]
      rw [names, List.nodup_cons, List.nodup_flatMap]
      refine ⟨by simp, fun entry member => ?_, ?_⟩
      · exact (ih entry member (inner entry member)).map List.cons_injective
      · -- What is below different entries differs in its first name.
        refine (List.pairwise_map.mp distinct).imp fun different names firstNames secondNames => ?_
        obtain ⟨_, -, rfl⟩ := List.mem_map.mp firstNames
        obtain ⟨_, -, equal⟩ := List.mem_map.mp secondNames
        exact different (List.cons.inj equal).1.symm

/-- The order of a listing does not matter. -/
theorem Lists.perm {first second : List (List String × FileTree)} (lists : tree.Lists first)
    (shuffled : first.Perm second) : tree.Lists second where
  once := (shuffled.map _).nodup_iff.mp lists.once
  complete names below := shuffled.mem_iff.symm.trans (lists.complete names below)

end FileTree

theorem walksDirectories_walk : WalksDirectories FileTree.walk :=
  fun _ wellFormed => ⟨FileTree.nodup_walk wellFormed, fun _ _ => FileTree.mem_walk⟩

/-! ### Following paths -/

namespace Spot

variable {spot target : Spot} {leaf : FileTree} {name : String} {names parts : List String}

structure WellFormed (spot : Spot) : Prop where
  tree : spot.tree.WellFormed
  ancestors : ∀ ancestor ∈ spot.ancestors, ancestor.WellFormed

theorem WellFormed.entered (wellFormed : spot.WellFormed) {part : String}
    (entered : spot.enter part = .ok target) : target.WellFormed := by
  obtain ⟨tree, ancestors⟩ := spot
  cases tree with
  | file | unreadable | device => cases entered
  | directory entries =>
      obtain - | - | - | ⟨-, -, inner⟩ := wellFormed.tree
      simp only [enter] at entered
      split at entered
      case isTrue =>
        cases entered
        exact wellFormed
      split at entered
      case isTrue =>
        split at entered <;> cases entered
        case h_1 parent earlier =>
          have above := List.forall_mem_cons.mp wellFormed.ancestors
          exact ⟨above.1, above.2⟩
        case h_2 => exact wellFormed
      split at entered <;> cases entered
      case h_1 child found =>
        exact ⟨inner _ (FileTree.mem_of_lookup found),
          List.forall_mem_cons.mpr ⟨wellFormed.tree, wellFormed.ancestors⟩⟩

theorem WellFormed.followed (wellFormed : spot.WellFormed)
    (followed : parts.foldlM enter spot = .ok target) : target.WellFormed := by
  induction parts generalizing spot with
  | nil =>
      cases followed
      exact wellFormed
  | cons part parts ih =>
      rw [List.foldlM_cons] at followed
      obtain ⟨next, entered, further⟩ := bind_eq_ok_iff.mp followed
      exact ih (wellFormed.entered entered) further

theorem enter_name (named : IsEntryName name) (entries : List (String × FileTree))
    (ancestors : List FileTree) :
    enter ⟨.directory entries, ancestors⟩ name =
      match entries.lookup name with
      | some child => .ok ⟨child, .directory entries :: ancestors⟩
      | none => .error .notFound :=
  (if_neg (by simp [named.nonempty, named.notDot])).trans (if_neg named.notDots)

theorem follow_of_append_empty (followed : (parts ++ [""]).foldlM enter spot = .ok target) :
    parts.foldlM enter spot = .ok target := by
  rw [List.foldlM_append] at followed
  obtain ⟨⟨tree, ancestors⟩, reached, stay⟩ := bind_eq_ok_iff.mp followed
  rw [List.foldlM_cons] at stay
  obtain ⟨next, entered, ⟨⟩⟩ := bind_eq_ok_iff.mp stay
  cases tree with
  | file | unreadable | device => cases entered
  | directory entries =>
      cases entered
      exact reached

theorem follow_eq_ok_iff (wellFormed : spot.tree.WellFormed)
    (named : ∀ name ∈ names, IsEntryName name) :
    (names.foldlM enter spot).map tree = .ok leaf ↔ spot.tree.Leads names leaf := by
  induction names generalizing spot with
  | nil =>
      rw [FileTree.leads_nil_iff]
      simp [Except.map, pure, Except.pure, eq_comm]
  | cons name names ih =>
      obtain ⟨tree, ancestors⟩ := spot
      rw [List.forall_mem_cons] at named
      cases wellFormed with
      | file | unreadable | device =>
          simpa [enter, bind, Except.bind, Except.map] using fun leads => nomatch leads
      | @directory entries _ distinct inner =>
          rw [List.foldlM_cons, enter_name named.1, FileTree.leads_directory_iff]
          simp only [FileTree.mem_iff_lookup distinct]
          cases found : entries.lookup name with
          | none => simp [bind, Except.bind, Except.map]
          | some child =>
              have further := @ih ⟨child, .directory entries :: ancestors⟩
                (inner _ (FileTree.mem_of_lookup found)) named.2
              simpa using further

end Spot

namespace FileSystem

variable {files : FileSystem} {path : String} {names : List String} {tree leaf : FileTree}

theorem find_eq (given : path ≠ "") : files.find path =
    ((FileTree.startOf files.location path ++ FileTree.partsOf path).foldlM Spot.enter
      { tree := files.root }).map Spot.tree :=
  if_neg given

theorem ne_empty_of_find (found : files.find path = .ok tree) : path ≠ "" := by
  rintro rfl
  cases found

/-- A path leads to a spot, from which names lead on that are joined to the path. -/
theorem exists_spot (found : files.find path = .ok tree) :
    ∃ spot : Spot, spot.tree = tree ∧ spot.WellFormed ∧
      (FileTree.startOf files.location path ++ FileTree.trunkParts path).foldlM Spot.enter
        { tree := files.root } = .ok spot := by
  rw [find_eq (ne_empty_of_find found)] at found
  cases followed : (FileTree.startOf files.location path ++ FileTree.partsOf path).foldlM
      Spot.enter { tree := files.root } with
  | error fault => simp [followed, Except.map] at found
  | ok spot =>
      have rootWellFormed : Spot.WellFormed { tree := files.root } :=
        ⟨files.wellFormed, List.forall_mem_nil _⟩
      refine ⟨spot, ?_, rootWellFormed.followed followed, ?_⟩
      · simpa [followed, Except.map] using found
      · -- A slash at the end of the path adds an empty part, which stays at the spot.
        rcases FileTree.partsOf_eq_or path with parts | parts <;> rw [parts] at followed
        · exact followed
        · rw [← List.append_assoc] at followed
          exact Spot.follow_of_append_empty followed

theorem wellFormed_of_find (found : files.find path = .ok tree) : tree.WellFormed := by
  obtain ⟨spot, rfl, wellFormed, -⟩ := exists_spot found
  exact wellFormed.tree

/-- Names that are joined to a path lead where they lead from what the path leads to. -/
theorem find_joinPath_eq_ok_iff (found : files.find path = .ok tree)
    {last : String} (named : ∀ name ∈ names ++ [last], IsEntryName name) :
    files.find (FileTree.joinPath path (names ++ [last])) = .ok leaf ↔
      tree.Leads (names ++ [last]) leaf := by
  have given := ne_empty_of_find found
  obtain ⟨spot, rfl, wellFormed, followed⟩ := exists_spot found
  rw [find_eq (FileTree.joinPath_ne_empty given _), FileTree.startOf_joinPath given,
    FileTree.partsOf_joinPath given named, ← List.append_assoc, List.foldlM_append, followed,
    ok_bind]
  exact Spot.follow_eq_ok_iff wellFormed.tree named

end FileSystem
end TrickLedger
