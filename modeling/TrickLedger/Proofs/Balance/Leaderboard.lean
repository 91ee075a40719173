import Mathlib.Data.String.Basic
import TrickLedger.Proofs.Balance.Standings

/-!
# The leaderboard of a season

The leaderboard is drawn up exactly when every group of the season settles.  Then it is
the exact standings of all names, put in a strict order.
-/

namespace TrickLedger

open Money

variable {season : List Sheet} {sheet : Sheet} {name : String} {standings : List Standing}

/-! ### The names on a sheet -/

theorem Sheet.mem_playerNames :
    name ∈ sheet.playerNames ↔ name ∈ sheet.members.map Member.name := by
  rw [Sheet.playerNames_eq, mem_firstAppearances]

theorem Sheet.mem_playerNames_iff_group :
    name ∈ sheet.playerNames ↔ ∃ group ∈ sheet.groups, name ∈ group.names := by
  rw [Sheet.mem_playerNames, Sheet.members, List.map_flatMap, List.mem_flatMap]
  rfl

theorem Sheet.nodup_playerNames (sheet : Sheet) : sheet.playerNames.Nodup :=
  nodup_firstAppearances _

/-- The players of a sheet appear on it. -/
def Sheet.appearances (sheet : Sheet) : List Appearance :=
  sheet.playerNames.map (Appearance.mk sheet)

/-- The appearances of all players over a season. -/
def appearancesOver (season : List Sheet) : List Appearance :=
  season.flatMap Sheet.appearances

theorem sheetsWith_appearances (sheet : Sheet) (name : String) :
    sheetsWith sheet.appearances name = if name ∈ sheet.playerNames then [sheet] else [] := by
  have copies : sheet.playerNames.filter (· = name) =
      List.replicate (sheet.playerNames.count name) name := List.filter_beq name
  rw [sheet.nodup_playerNames.count] at copies
  have mapped : sheetsWith sheet.appearances name =
      (sheet.playerNames.filter (· = name)).map fun _ => sheet := by
    rw [sheetsWith, Sheet.appearances, List.filter_map, List.map_map]
    rfl
  rw [mapped, copies]
  split <;> rfl

/-- A name appears on the sheets with one of its players. -/
theorem sheetsWith_appearancesOver (season : List Sheet) (name : String) :
    sheetsWith (appearancesOver season) name =
      season.filter fun sheet => decide (name ∈ sheet.playerNames) := by
  induction season with
  | nil => rfl
  | cons sheet season ih =>
      have parts : sheetsWith (appearancesOver (sheet :: season)) name =
          sheetsWith sheet.appearances name ++ sheetsWith (appearancesOver season) name := by
        simp [sheetsWith, appearancesOver]
      rw [parts, ih, sheetsWith_appearances, List.filter_cons]
      by_cases present : name ∈ sheet.playerNames <;> simp [present]

theorem names_appearancesOver (season : List Sheet) :
    (appearancesOver season).map Appearance.name = season.flatMap Sheet.playerNames := by
  rw [appearancesOver, List.map_flatMap]
  congr 1
  funext sheet
  rw [Sheet.appearances, List.map_map]
  exact List.map_id _

theorem mem_names_appearancesOver :
    name ∈ (appearancesOver season).map Appearance.name ↔
      ∃ sheet ∈ season, name ∈ sheet.playerNames := by
  rw [names_appearancesOver, List.mem_flatMap]

/-! ### When the leaderboard is drawn up -/

theorem Sheet.recordSheet_eq (fits : sheet.Fits) (settles : sheet.Settles)
    (standings : List Standing) :
    Standing.recordSheet standings sheet =
      .ok (sheet.playerNames.foldl
        (fun standings name => Standing.record standings name (sheet.share name)) standings) := by
  apply foldlM_eq_ok
  intro standings name _
  rw [Sheet.balanceOf_of_settles fits settles, ok_bind]

/-- A sheet is not recorded if one of its groups does not settle. -/
theorem Sheet.settles_of_recordSheet (sound : ∀ group ∈ sheet.groups, group.Sound)
    {earlier : List Standing} (recorded : Standing.recordSheet earlier sheet = .ok standings) :
    sheet.Settles := by
  intro group made
  -- A group has players, and to record one of them all groups of the sheet are settled.
  have enough : 0 < group.members.length := lt_of_lt_of_le (by decide) (sound group made).enough
  obtain ⟨member, seated⟩ := List.exists_mem_of_length_pos enough
  have appears : member.name ∈ sheet.playerNames :=
    Sheet.mem_playerNames_iff_group.mpr ⟨group, made, List.mem_map_of_mem seated⟩
  obtain ⟨_, _, step⟩ := exists_step_of_foldlM_eq_ok recorded member.name appears
  obtain ⟨amount, found, -⟩ := bind_eq_ok_iff.mp step
  exact Sheet.settles_of_balanceOf found group made

/-- The standings of all names over a season, in the order of their first appearance. -/
def standingsOver (season : List Sheet) : List Standing :=
  (firstAppearances ((appearancesOver season).map Appearance.name)).map fun name =>
    standingOver (season.filter fun sheet => decide (name ∈ sheet.playerNames)) name

/-- The sheets of a season can be scored, and amounts have room for all of them. -/
structure FitsSeason (season : List Sheet) : Prop where
  staked : ∀ sheet ∈ season, 0 < sheet.rules.stake
  sound : ∀ sheet ∈ season, ∀ group ∈ sheet.groups, group.Sound
  room : (season.map Sheet.ceiling).sum ≤ greatest

namespace FitsSeason

theorem ceiling_nonneg (fits : FitsSeason season) : ∀ ceiling ∈ season.map Sheet.ceiling,
    0 ≤ ceiling := by
  intro ceiling member
  obtain ⟨sheet, recorded, rfl⟩ := List.mem_map.mp member
  exact Sheet.ceiling_nonneg (fits.sound sheet recorded)

theorem fitsSheet (fits : FitsSeason season) (recorded : sheet ∈ season) : sheet.Fits where
  staked := fits.staked sheet recorded
  sound := fits.sound sheet recorded
  room := (List.single_le_sum fits.ceiling_nonneg _ (List.mem_map_of_mem recorded)).trans fits.room

theorem haveRoom (fits : FitsSeason season) : HaveRoom (appearancesOver season) := by
  intro name
  rw [sheetsWith_appearancesOver]
  have part := (List.filter_sublist (p := fun sheet : Sheet => decide (name ∈ sheet.playerNames))
    (l := season)).map Sheet.ceiling
  exact (part.sum_le_sum fits.ceiling_nonneg).trans fits.room

end FitsSeason

theorem stayWithin_appearancesOver (fits : FitsSeason season)
    (settle : ∀ sheet ∈ season, sheet.Settles) : StayWithin (appearancesOver season) := by
  intro appearance made
  obtain ⟨sheet, recorded, appears⟩ := List.mem_flatMap.mp made
  obtain ⟨name, -, rfl⟩ := List.mem_map.mp appears
  exact Sheet.share_within (fits.fitsSheet recorded) (settle sheet recorded) name

/-- Sheets that settle are recorded in full. -/
theorem foldlM_recordSheet_eq (fits : FitsSeason season)
    (settle : ∀ sheet ∈ season, sheet.Settles) :
    season.foldlM Standing.recordSheet [] = .ok (standingsOver season) := by
  have recorded := foldlM_eq_ok
    (fun standings sheet (member : sheet ∈ season) =>
      Sheet.recordSheet_eq (fits.fitsSheet member) (settle sheet member) standings) []
  have exactStandings := standingsAfter_eq (stayWithin_appearancesOver fits settle) fits.haveRoom
  rw [standingsAfter, appearancesOver, List.foldl_flatMap, ← appearancesOver] at exactStandings
  simp only [Sheet.appearances, List.foldl_map, sheetsWith_appearancesOver] at exactStandings
  rw [recorded, exactStandings, standingsOver]

/-- The leaderboard is drawn up exactly if all groups settle, and then it is the exact
standings in order. -/
theorem leaderboard_eq_ok_iff (fits : FitsSeason season) :
    leaderboard season = .ok standings ↔
      (∀ sheet ∈ season, sheet.Settles) ∧
        (standingsOver season).mergeSort Standing.comesBefore = standings := by
  constructor
  · intro ranked
    obtain ⟨unsorted, recorded, sorted⟩ := bind_eq_ok_iff.mp ranked
    have settle : ∀ sheet ∈ season, sheet.Settles := by
      intro sheet member
      obtain ⟨_, _, step⟩ := exists_step_of_foldlM_eq_ok recorded sheet member
      exact Sheet.settles_of_recordSheet (fits.sound sheet member) step
    rw [foldlM_recordSheet_eq fits settle, Except.ok.injEq] at recorded
    rw [recorded]
    exact ⟨settle, Except.ok.inj sorted⟩
  · rintro ⟨settle, rfl⟩
    rw [leaderboard, foldlM_recordSheet_eq fits settle, ok_bind]

/-! ### The order of the standings -/

namespace Standing

theorem comesBefore_iff {first second : Standing} :
    first.comesBefore second = true ↔
      second.balance < first.balance ∨
        first.balance = second.balance ∧ first.name ≤ second.name := by
  unfold comesBefore
  split
  case isTrue same => simp [same]
  case isFalse differ => simp [differ]

theorem comesBefore_trans (first second third : Standing)
    (earlier : first.comesBefore second = true) (later : second.comesBefore third = true) :
    first.comesBefore third = true := by
  rw [comesBefore_iff] at *
  rcases earlier with better | ⟨same, le⟩
  · rcases later with worse | ⟨equal, -⟩
    · exact .inl (worse.trans better)
    · exact .inl (equal ▸ better)
  · rcases later with worse | ⟨equal, leNext⟩
    · exact .inl (same ▸ worse)
    · exact .inr ⟨same.trans equal, le.trans leNext⟩

theorem comesBefore_total (first second : Standing) :
    (first.comesBefore second || second.comesBefore first) = true := by
  rw [Bool.or_eq_true, comesBefore_iff, comesBefore_iff]
  rcases lt_trichotomy first.balance second.balance with worse | same | better
  · exact .inr (.inl worse)
  · rcases le_total first.name second.name with le | le
    · exact .inl (.inr ⟨same, le⟩)
    · exact .inr (.inr ⟨same.symm, le⟩)
  · exact .inl (.inl better)

/-- Standings of different names are put in a strict order. -/
theorem pairwise_precedes_mergeSort (distinct : (standings.map Standing.name).Nodup) :
    (standings.mergeSort comesBefore).Pairwise Precedes := by
  have sorted := List.pairwise_mergeSort comesBefore_trans comesBefore_total standings
  have names : ((standings.mergeSort comesBefore).map Standing.name).Nodup :=
    ((List.mergeSort_perm standings comesBefore).map Standing.name).nodup_iff.mpr distinct
  rw [List.Nodup, List.pairwise_map] at names
  apply (sorted.and names).imp
  rintro first second ⟨before, differ⟩
  rcases comesBefore_iff.mp before with better | ⟨same, le⟩
  · exact .inl better
  · exact .inr ⟨same, lt_of_le_of_ne le differ⟩

end Standing

end TrickLedger
