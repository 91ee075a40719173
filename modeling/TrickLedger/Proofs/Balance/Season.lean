import Mathlib
import TrickLedger.Proofs.Balance.Leaderboard

/-!
# The balances of a season

All balances of the leaderboard together sum to zero, and each of them is the sum of the
entries of its name in the balances of all groups.
-/

namespace TrickLedger

variable {season : List Sheet} {sheet : Sheet} {name : String}

/-! ### All balances together -/

/-- A name that is at most once among names is counted once among the keys that have it. -/
theorem sum_map_ite_mem {keys names : List String} (distinctKeys : keys.Nodup)
    (distinctNames : names.Nodup) (covered : ∀ name ∈ names, name ∈ keys)
    (amount : String → Int) :
    (keys.map fun key => if key ∈ names then amount key else 0).sum =
      (names.map amount).sum := by
  have inside : names.toFinset ⊆ keys.toFinset := by
    intro name member
    simpa using covered name (by simpa using member)
  rw [← List.sum_toFinset _ distinctKeys, ← List.sum_toFinset _ distinctNames]
  simp only [← List.mem_toFinset (l := names)]
  rw [Finset.sum_ite_mem, Finset.inter_eq_right.mpr inside]

/-- Shares that cancel within each part cancel when they are added up name by name. -/
theorem sum_sum_share_eq_zero {α : Type} {keys : List String} {parts : List α}
    {names : α → List String} {share : α → String → Int} (distinctKeys : keys.Nodup)
    (distinct : ∀ part ∈ parts, (names part).Nodup)
    (covered : ∀ part ∈ parts, ∀ name ∈ names part, name ∈ keys)
    (absent : ∀ part ∈ parts, ∀ name ∉ names part, share part name = 0)
    (cancel : ∀ part ∈ parts, ((names part).map (share part)).sum = 0) :
    (keys.map fun name => (parts.map fun part => share part name).sum).sum = 0 := by
  rw [Group.sum_map_sum_comm]
  apply List.sum_eq_zero
  intro total member
  obtain ⟨part, found, rfl⟩ := List.mem_map.mp member
  have present : keys.map (share part) =
      keys.map fun name => if name ∈ names part then share part name else 0 := by
    apply List.map_congr_left
    intro name _
    split
    case isTrue => rfl
    case isFalse missing => exact absent part found name missing
  rw [present, sum_map_ite_mem distinctKeys (distinct part found) (covered part found)]
  exact cancel part found

theorem Group.share_eq_zero (fits : sheet.Fits) (settles : sheet.Settles) {group : Group}
    (made : group ∈ sheet.groups) (absent : name ∉ group.names) :
    group.share sheet.rules name = 0 := by
  rw [Group.share_of_settle (fits.sound group made) fits.staked (fits.groupRoom made)
    (settles group made) name, if_neg absent]

/-- A name that is not on a sheet gets nothing from it. -/
theorem Sheet.share_eq_zero (fits : sheet.Fits) (settles : sheet.Settles)
    (absent : name ∉ sheet.playerNames) : sheet.share name = 0 := by
  rw [Sheet.share_eq]
  apply List.sum_eq_zero
  intro amount member
  obtain ⟨group, made, rfl⟩ := List.mem_map.mp member
  have notSeated : name ∉ group.names := fun seated =>
    absent (Sheet.mem_playerNames_iff_group.mpr ⟨group, made, seated⟩)
  exact Group.share_eq_zero fits settles made notSeated

/-- Together the players of a sheet neither win nor lose. -/
theorem Sheet.sum_share (fits : sheet.Fits) (settles : sheet.Settles) :
    (sheet.playerNames.map sheet.share).sum = 0 := by
  have each : sheet.playerNames.map sheet.share = sheet.playerNames.map fun name =>
      (sheet.groups.map fun group => group.share sheet.rules name).sum :=
    List.map_congr_left fun name _ => sheet.share_eq name
  rw [each]
  apply sum_sum_share_eq_zero sheet.nodup_playerNames
  · exact fun group made => (fits.sound group made).distinct
  · exact fun group made name seated =>
      Sheet.mem_playerNames_iff_group.mpr ⟨group, made, seated⟩
  · exact fun group made name absent => Group.share_eq_zero fits settles made absent
  · exact fun group made => Group.sum_share (fits.sound group made) fits.staked
      (fits.groupRoom made) (settles group made)

/-- The exact balance of a name counts the sheets without it for nothing. -/
theorem balance_standingOver_filter (fits : FitsSeason season)
    (settle : ∀ sheet ∈ season, sheet.Settles) (name : String) :
    (standingOver (season.filter fun sheet => decide (name ∈ sheet.playerNames)) name).balance =
      (season.map fun sheet => sheet.share name).sum := by
  have parts := List.sum_map_ite (fun sheet : Sheet => name ∈ sheet.playerNames)
    (fun sheet => sheet.share name) (fun _ => 0) season
  rw [List.map_const', List.sum_replicate, nsmul_eq_mul, mul_zero, add_zero] at parts
  rw [standingOver, ← parts]
  apply congrArg List.sum
  apply List.map_congr_left
  intro sheet recorded
  split
  case isTrue => rfl
  case isFalse absent =>
    exact (Sheet.share_eq_zero (fits.fitsSheet recorded) (settle sheet recorded) absent).symm

theorem sum_balance_standingsOver (fits : FitsSeason season)
    (settle : ∀ sheet ∈ season, sheet.Settles) :
    ((standingsOver season).map Standing.balance).sum = 0 := by
  have each : (standingsOver season).map Standing.balance =
      (firstAppearances ((appearancesOver season).map Appearance.name)).map fun name =>
        (season.map fun sheet => sheet.share name).sum := by
    rw [standingsOver, List.map_map]
    exact List.map_congr_left fun name _ => balance_standingOver_filter fits settle name
  rw [each]
  apply sum_sum_share_eq_zero (nodup_firstAppearances _)
  · exact fun sheet _ => sheet.nodup_playerNames
  · exact fun sheet recorded name appears =>
      mem_firstAppearances.mpr (mem_names_appearancesOver.mpr ⟨sheet, recorded, appears⟩)
  · exact fun sheet recorded name absent =>
      Sheet.share_eq_zero (fits.fitsSheet recorded) (settle sheet recorded) absent
  · exact fun sheet recorded =>
      Sheet.sum_share (fits.fitsSheet recorded) (settle sheet recorded)

/-! ### Single standings -/

/-- The standings of all names in terms of the whole season. -/
theorem standingsOver_eq (fits : FitsSeason season)
    (settle : ∀ sheet ∈ season, sheet.Settles) :
    standingsOver season =
      (firstAppearances ((appearancesOver season).map Appearance.name)).map fun name =>
        { name
          balance := (season.map fun sheet => sheet.share name).sum
          sheets := season.countP fun sheet => decide (name ∈ sheet.playerNames) } := by
  rw [standingsOver]
  apply List.map_congr_left
  intro name _
  rw [← balance_standingOver_filter fits settle, List.countP_eq_length_filter]
  rfl

theorem names_standingsOver (season : List Sheet) :
    (standingsOver season).map Standing.name =
      firstAppearances ((appearancesOver season).map Appearance.name) := by
  rw [standingsOver, List.map_map]
  exact List.map_id _

theorem nodup_names_standingsOver (season : List Sheet) :
    ((standingsOver season).map Standing.name).Nodup := by
  rw [names_standingsOver]
  exact nodup_firstAppearances _

theorem mem_names_standingsOver :
    name ∈ (standingsOver season).map Standing.name ↔
      ∃ sheet ∈ season, name ∈ sheet.members.map Member.name := by
  simp only [names_standingsOver, mem_firstAppearances, mem_names_appearancesOver,
    Sheet.mem_playerNames]

theorem standing_of_mem_standingsOver (fits : FitsSeason season)
    (settle : ∀ sheet ∈ season, sheet.Settles) {standing : Standing}
    (member : standing ∈ standingsOver season) :
    standing.sheets =
      season.countP (fun sheet => decide (standing.name ∈ sheet.members.map Member.name)) ∧
    standing.balance = (season.flatMap fun sheet => sheet.entries standing.name).sum := by
  obtain ⟨name, -, rfl⟩ := List.mem_map.mp member
  constructor
  · simp only [standingOver, Sheet.mem_playerNames, List.countP_eq_length_filter]
  · rw [balance_standingOver_filter fits settle, List.flatMap_def, List.sum_flatten, List.map_map]
    rfl

/-- The balances of a group that settles list its players. -/
theorem Group.names_of_settle (fits : sheet.Fits) (settles : sheet.Settles) {group : Group}
    (made : group ∈ sheet.groups) :
    ∃ balances, group.balances sheet.rules = .ok balances ∧
      balances.map Prod.fst = group.members.map Member.name := by
  refine ⟨_, Group.balances_of_settle (fits.sound group made) fits.staked (fits.groupRoom made)
    (settles group made), ?_⟩
  rw [List.map_map]
  exact List.map_id _

/-! ### What the leaderboard says -/

theorem fitsSeason_of_accepted (accepted : ∀ sheet ∈ season, sheet.Accepted)
    (room : (season.map Sheet.ceiling).sum ≤ 2 ^ 63 - 1) : FitsSeason season where
  staked sheet recorded := (accepted sheet recorded).staked
  sound sheet recorded := (accepted sheet recorded).sound
  room := room

/-- Money is conserved over a season: all balances of the leaderboard sum to zero. -/
theorem sum_balance_leaderboard (season : List Sheet) (standings : List Standing)
    (accepted : ∀ sheet ∈ season, sheet.Accepted)
    (room : (season.map Sheet.ceiling).sum ≤ 2 ^ 63 - 1)
    (ranked : leaderboard season = .ok standings) :
    (standings.map Standing.balance).sum = 0 := by
  have fits := fitsSeason_of_accepted accepted room
  obtain ⟨settle, rfl⟩ := (leaderboard_eq_ok_iff fits).mp ranked
  have sameSum := ((List.mergeSort_perm (standingsOver season) Standing.comesBefore).map
    Standing.balance).sum_eq
  rw [sameSum, sum_balance_standingsOver fits settle]

/-- An evening with one group and a doubled stake. -/
def firstEvening : Sheet where
  date := some ⟨2024, 3, 14, by decide⟩
  rawDate := "2024-03-14"
  place := "U Fleků"
  settings := [⟨"hundred=add", 20⟩, ⟨"multiplier=2", 32⟩]
  rules := { hundred := .additive, stake := 2 }
  groups :=
    [⟨[⟨"Pepa", 46, [⟨"+k100", 51⟩, ⟨"e", 57⟩]⟩, ⟨"Franta", 59, []⟩,
      ⟨"Jarda", 66, [⟨"-c", 72⟩]⟩]⟩]

/-- An evening with two groups, in which plays with solo parity cancel each other and one
player sits twice. -/
def secondEvening : Sheet where
  date := some ⟨2024, 3, 21, by decide⟩
  rawDate := "2024-03-21"
  place := "Doma"
  groups :=
    [⟨[⟨"Franta", 16, [⟨"$:+k100", 23⟩]⟩, ⟨"Pepa", 31, [⟨"$:-k100", 36⟩]⟩, ⟨"Eva", 44, []⟩]⟩,
      ⟨[⟨"Jarda", 49, [⟨"+s-h", 55⟩]⟩, ⟨"Eva", 60, []⟩, ⟨"Pepa", 64, []⟩]⟩]

theorem accepted_twoEvenings : ∀ sheet ∈ [firstEvening, secondEvening], sheet.Accepted := by
  simp only [List.forall_mem_cons]
  refine ⟨⟨"2024-03-14 U Fleků \x7bhundred=add multiplier=2\x7d\nPepa +k100 e\nFranta\nJarda -c\n",
    rfl⟩, ⟨"2024-03-21 Doma\nFranta $:+k100\nPepa $:-k100\nEva\n\nJarda +s-h\nEva\nPepa", rfl⟩,
    by simp⟩

/-- The standings after the two evenings. -/
def twoEvenings : List Standing :=
  [⟨"Franta", 380, 2⟩, ⟨"Pepa", 170, 2⟩, ⟨"Eva", -10, 1⟩, ⟨"Jarda", -540, 2⟩]

theorem leaderboard_twoEvenings : leaderboard [firstEvening, secondEvening] = .ok twoEvenings := by
  cbv

theorem sum_balance_leaderboard_twoEvenings : (twoEvenings.map Standing.balance).sum = 0 :=
  sum_balance_leaderboard [firstEvening, secondEvening] twoEvenings accepted_twoEvenings
    (by decide) leaderboard_twoEvenings

/-- The leaderboard has one standing for every name in a group of the season. It holds the
number of sheets with the name and the sum of the entries that the name has in the
balances of all groups, and the standings are strictly ordered. -/
theorem standings_of_leaderboard (season : List Sheet) (standings : List Standing)
    (accepted : ∀ sheet ∈ season, sheet.Accepted)
    (room : (season.map Sheet.ceiling).sum ≤ 2 ^ 63 - 1)
    (ranked : leaderboard season = .ok standings) :
    (∀ sheet ∈ season, ∀ group ∈ sheet.groups, ∃ balances,
      group.balances sheet.rules = .ok balances ∧
        balances.map Prod.fst = group.members.map Member.name) ∧
    (standings.map Standing.name).Nodup ∧
    (∀ name, name ∈ standings.map Standing.name ↔
      ∃ sheet ∈ season, name ∈ sheet.members.map Member.name) ∧
    (∀ standing ∈ standings,
      standing.sheets =
        season.countP (fun sheet => decide (standing.name ∈ sheet.members.map Member.name)) ∧
      standing.balance = (season.flatMap fun sheet => sheet.entries standing.name).sum) ∧
    standings.Pairwise Standing.Precedes := by
  have fits := fitsSeason_of_accepted accepted room
  obtain ⟨settle, rfl⟩ := (leaderboard_eq_ok_iff fits).mp ranked
  have shuffled := List.mergeSort_perm (standingsOver season) Standing.comesBefore
  have names := shuffled.map Standing.name
  have distinct := nodup_names_standingsOver season
  refine ⟨fun sheet recorded group made => ?_, names.nodup_iff.mpr distinct, fun name => ?_,
    fun standing member => ?_, Standing.pairwise_precedes_mergeSort distinct⟩
  · exact Group.names_of_settle (fits.fitsSheet recorded) (settle sheet recorded) made
  · rw [names.mem_iff, mem_names_standingsOver]
  · exact standing_of_mem_standingsOver fits settle (shuffled.mem_iff.mp member)

theorem standings_of_leaderboard_twoEvenings :
    (twoEvenings.map Standing.name).Nodup ∧ twoEvenings.Pairwise Standing.Precedes ∧
      ∀ standing ∈ twoEvenings,
        standing.sheets = [firstEvening, secondEvening].countP
          (fun sheet => decide (standing.name ∈ sheet.members.map Member.name)) ∧
        standing.balance =
          ([firstEvening, secondEvening].flatMap fun sheet => sheet.entries standing.name).sum := by
  obtain ⟨-, distinct, -, exactStandings, sorted⟩ :=
    standings_of_leaderboard [firstEvening, secondEvening] twoEvenings accepted_twoEvenings
      (by decide) leaderboard_twoEvenings
  exact ⟨distinct, sorted, exactStandings⟩

end TrickLedger
