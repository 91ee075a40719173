import Mathlib.Data.List.Nodup
import TrickLedger.Proofs.Balance.Entries

/-!
# Recording standings

Recording the appearances of players one after another leaves one standing for each
name, in the order of their first appearance.  The standing of a name holds the number
of its sheets and the exact sum of their balances.
-/

namespace TrickLedger

open Money

/-! ### Names in the order of their first appearance -/

/-- The names in the order of their first appearance. -/
def firstAppearances (names : List String) : List String :=
  names.foldl (fun seen name => if name ∈ seen then seen else seen ++ [name]) []

section Names

variable {names : List String} {name : String}

theorem firstAppearances_concat (names : List String) (name : String) :
    firstAppearances (names ++ [name]) =
      if name ∈ firstAppearances names then firstAppearances names
      else firstAppearances names ++ [name] := by
  rw [firstAppearances, List.foldl_concat]
  rfl

@[simp]
theorem mem_firstAppearances : name ∈ firstAppearances names ↔ name ∈ names := by
  induction names using List.reverseRecOn with
  | nil => rfl
  | append_singleton names last ih =>
      rw [firstAppearances_concat, List.mem_append, List.mem_singleton, ← ih]
      split
      case isTrue seen =>
        refine ⟨.inl, ?_⟩
        rintro (earlier | rfl)
        · exact earlier
        · exact seen
      case isFalse => rw [List.mem_append, List.mem_singleton]

theorem nodup_firstAppearances (names : List String) : (firstAppearances names).Nodup := by
  induction names using List.reverseRecOn with
  | nil => exact .nil
  | append_singleton names last ih =>
      rw [firstAppearances_concat]
      split
      case isTrue => exact ih
      case isFalse fresh =>
        rw [← List.concat_eq_append]
        exact List.Nodup.concat fresh ih

end Names

theorem Sheet.playerNames_eq (sheet : Sheet) :
    sheet.playerNames = firstAppearances (sheet.members.map Member.name) :=
  rfl

/-! ### One more appearance -/

namespace Standing

/-- The standing after a sheet with the given balance. -/
def after (standing : Standing) (balance : Int) : Standing where
  name := standing.name
  balance := Money.add standing.balance balance
  sheets := standing.sheets + 1

/-- Recording an appearance changes the standing of the name, and of no other one. -/
theorem record_map {names : List String} (standing : String → Standing)
    (named : ∀ other, (standing other).name = other) (name : String) (distinct : names.Nodup)
    (fresh : name ∉ names → standing name = ⟨name, 0, 0⟩) (balance : Int) :
    record (names.map standing) name balance =
      (if name ∈ names then names else names ++ [name]).map fun other =>
        if other = name then (standing name).after balance else standing other := by
  induction names with
  | nil =>
      rw [fresh (by simp)]
      simp [record, after]
  | cons first names ih =>
      rw [List.nodup_cons] at distinct
      rw [List.map_cons, record, named first]
      by_cases same : first = name
      · subst same
        have others : names.map standing =
            names.map fun other =>
              if other = first then (standing first).after balance else standing other := by
          apply List.map_congr_left
          intro other member
          have differs : other ≠ first := fun equal => distinct.1 (equal ▸ member)
          rw [if_neg differs]
        rw [if_pos rfl, if_pos (.head names), List.map_cons, if_pos rfl, ← others, after,
          named first]
      · have recorded := ih distinct.2 fun absent => fresh (by simp [Ne.symm same, absent])
        rw [if_neg same, recorded]
        by_cases later : name ∈ names <;> simp [later, same, Ne.symm same]

end Standing

/-! ### Appearances over a season -/

/-- A sheet with the name of a player on it. -/
structure Appearance where
  sheet : Sheet
  name : String

/-- The sheets on which a name appears. -/
def sheetsWith (appearances : List Appearance) (name : String) : List Sheet :=
  (appearances.filter (·.name = name)).map Appearance.sheet

/-- The exact standing of a name over sheets on which it appears. -/
def standingOver (sheets : List Sheet) (name : String) : Standing where
  name
  balance := (sheets.map fun sheet => sheet.share name).sum
  sheets := sheets.length

/-- The standings after appearances one after another. -/
def standingsAfter (appearances : List Appearance) : List Standing :=
  appearances.foldl
    (fun standings appearance =>
      Standing.record standings appearance.name (appearance.sheet.share appearance.name)) []

section Run

variable {appearances : List Appearance} {appearance : Appearance} {name : String}

theorem sheetsWith_concat (appearances : List Appearance) (appearance : Appearance)
    (name : String) :
    sheetsWith (appearances ++ [appearance]) name =
      if name = appearance.name then sheetsWith appearances name ++ [appearance.sheet]
      else sheetsWith appearances name := by
  by_cases same : name = appearance.name
  · simp [sheetsWith, same]
  · simp [sheetsWith, same, Ne.symm same]

theorem sheetsWith_eq_nil (absent : name ∉ appearances.map Appearance.name) :
    sheetsWith appearances name = [] := by
  simpa [sheetsWith] using absent

/-- Amounts have room for the ceilings of all sheets on which a name appears. -/
def HaveRoom (appearances : List Appearance) : Prop :=
  ∀ name, ((sheetsWith appearances name).map Sheet.ceiling).sum ≤ greatest

/-- The balances of all appearances stay within the ceilings of their sheets. -/
def StayWithin (appearances : List Appearance) : Prop :=
  ∀ appearance ∈ appearances,
    Within appearance.sheet.ceiling (appearance.sheet.share appearance.name)

theorem StayWithin.sum (within : StayWithin appearances) (name : String) :
    Within ((sheetsWith appearances name).map Sheet.ceiling).sum
      (standingOver (sheetsWith appearances name) name).balance := by
  apply within_sum
  intro sheet member
  obtain ⟨appearance, found, rfl⟩ := List.mem_map.mp member
  obtain ⟨made, named⟩ := List.mem_filter.mp found
  have same : appearance.name = name := by simpa using named
  exact same ▸ within appearance made

theorem standingOver_concat (sheets : List Sheet) (sheet : Sheet) (name : String)
    (within : Within (sheets.map Sheet.ceiling).sum (standingOver sheets name).balance)
    (next : Within sheet.ceiling (sheet.share name))
    (room : ((sheets ++ [sheet]).map Sheet.ceiling).sum ≤ greatest) :
    (standingOver sheets name).after (sheet.share name) =
      standingOver (sheets ++ [sheet]) name := by
  have total : (sheets.map Sheet.ceiling).sum + sheet.ceiling ≤ greatest := by
    simpa using room
  have added : Money.add (standingOver sheets name).balance (sheet.share name) =
      (standingOver sheets name).balance + sheet.share name :=
    saturate_of_within ((within.add next).mono total)
  rw [Standing.after, added]
  simp [standingOver]

theorem HaveRoom.of_concat (room : HaveRoom (appearances ++ [appearance]))
    (within : StayWithin (appearances ++ [appearance])) : HaveRoom appearances := by
  intro name
  obtain ⟨lower, upper⟩ := within appearance (by simp)
  have nonneg : 0 ≤ appearance.sheet.ceiling := by omega
  have total := room name
  rw [sheetsWith_concat] at total
  split at total
  · rw [List.map_append, List.sum_append] at total
    simp only [List.map_cons, List.map_nil, List.sum_singleton] at total
    omega
  · exact total

/-- There is one exact standing for every name that appears. -/
theorem standingsAfter_eq (within : StayWithin appearances) (room : HaveRoom appearances) :
    standingsAfter appearances =
      (firstAppearances (appearances.map Appearance.name)).map fun name =>
        standingOver (sheetsWith appearances name) name := by
  -- Appearances are recorded in order, so the induction takes the last one off.
  induction appearances using List.reverseRecOn with
  | nil => rfl
  | append_singleton appearances appearance ih =>
      have withinEarlier : StayWithin appearances := fun earlier made =>
        within earlier (List.mem_append_left _ made)
      have earlier := ih withinEarlier (room.of_concat within)
      have recorded := Standing.record_map
        (fun name => standingOver (sheetsWith appearances name) name) (fun _ => rfl)
        appearance.name (nodup_firstAppearances (appearances.map Appearance.name))
        (fun absent => by
          rw [mem_firstAppearances] at absent
          simp only [sheetsWith_eq_nil absent]
          rfl)
        (appearance.sheet.share appearance.name)
      rw [standingsAfter, List.foldl_concat, ← standingsAfter, earlier, recorded, List.map_append,
        List.map_singleton, firstAppearances_concat]
      apply List.map_congr_left
      intro name _
      rw [sheetsWith_concat]
      split
      case isFalse => rfl
      case isTrue same =>
        subst same
        have total := room appearance.name
        rw [sheetsWith_concat, if_pos rfl] at total
        exact standingOver_concat _ _ _ (withinEarlier.sum appearance.name)
          (within appearance (by simp)) total

end Run

end TrickLedger
