import TrickLedger.Proofs.Balance.Season
import TrickLedger.Proofs.Sheet.Faults

/-!
# Faults of balances

The plays of a sheet that was read are read again when balances are drawn up, so a group
of it can only fail to settle.  Every balance then fails exactly if some group of its
part of the season does, and with the fault of the first such group.
-/

namespace TrickLedger

section Sums

variable {α : Type} {items : List α}

theorem faultOf?_sumAmounts {amount : α → Except BalanceFault Int}
    {failure : α → Option BalanceFault}
    (each : ∀ item ∈ items, faultOf? (amount item) = failure item) :
    faultOf? (sumAmounts amount items) = items.findSome? failure := by
  apply faultOf?_foldlM
  intro total item member
  rw [faultOf?_bind fun _ _ => rfl, each item member]

theorem faultOf?_sumAmounts_eq_none {amount : α → Except BalanceFault Int}
    (each : ∀ item ∈ items, faultOf? (amount item) = none) :
    faultOf? (sumAmounts amount items) = none := by
  rw [faultOf?_sumAmounts each, List.findSome?_eq_none_iff]
  exact fun _ _ => rfl

theorem findSome?_const {β : Type} (found : Option β) (nonempty : items ≠ []) :
    (items.findSome? fun _ => found) = found := by
  induction items with
  | nil => exact absurd rfl nonempty
  | cons item items ih =>
      cases found with
      | some fault => rfl
      | none => simp

end Sums

/-! ### Groups -/

namespace Table

variable {table : Table} {viewer : String} {member : Member} {group : Group}

theorem faultOf?_balanceFromMember (readable : member.Readable) :
    faultOf? (table.balanceFromMember viewer member) = none := by
  apply faultOf?_sumAmounts_eq_none
  intro written made
  obtain ⟨play, read⟩ := readable written made
  rw [amountOfPlay_eq read, faultOf?_ok]

theorem faultOf?_balanceFromGroup (readable : group.Readable) :
    faultOf? (table.balanceFromGroup viewer group) = none :=
  faultOf?_sumAmounts_eq_none fun member seated =>
    faultOf?_balanceFromMember (readable member seated)

theorem exists_groupTotal (table : Table) (readable : group.Readable) :
    ∃ total, table.groupTotal group = .ok total :=
  faultOf?_eq_none_iff.mp
    (faultOf?_sumAmounts_eq_none fun _ _ => faultOf?_balanceFromGroup readable)

end Table

namespace Group

variable {group : Group} {rules : ScoringRules}

/-- The fault of a group that does not settle. -/
def unsettled? (group : Group) (rules : ScoringRules) : Option BalanceFault :=
  faultOf? (group.settle rules)

theorem unsettled?_eq_none_iff : group.unsettled? rules = none ↔ group.settle rules = .ok () := by
  rw [unsettled?, faultOf?_eq_none_iff]
  exact ⟨fun ⟨_, settled⟩ => settled, fun settled => ⟨(), settled⟩⟩

section Sound

variable (sound : group.Sound) (staked : 0 < rules.stake)

include sound staked

theorem exists_total_of_unsettled {fault : BalanceFault}
    (unsettled : group.settle rules = .error fault) : ∃ total, fault = .doesNotSettle total := by
  obtain ⟨total, found⟩ := (sound.seating staked).exists_groupTotal sound.readable
  rw [settle, table_of_sound sound staked, ok_bind, Table.settle, found, ok_bind] at unsettled
  split at unsettled
  · cases unsettled
  · cases unsettled
    exact ⟨total, rfl⟩

theorem faultOf?_balances : faultOf? (group.balances rules) = group.unsettled? rules := by
  rw [unsettled?, balances, settle, table_of_sound sound staked, ok_bind, ok_bind]
  apply faultOf?_bind
  rintro ⟨⟩ _
  apply faultOf?_mapM
  intro member _
  rw [faultOf?_bind fun _ _ => rfl]
  exact Table.faultOf?_balanceFromGroup sound.readable

theorem faultOf?_balanceOf (name : String) :
    faultOf? (group.balanceOf rules name) = group.unsettled? rules := by
  rw [unsettled?, balanceOf, settle, table_of_sound sound staked, ok_bind, ok_bind]
  apply faultOf?_bind
  rintro ⟨⟩ _
  split
  · exact Table.faultOf?_balanceFromGroup sound.readable
  · rfl

end Sound

end Group

/-! ### Sheets and seasons -/

namespace Sheet

variable {sheet : Sheet}

/-- The fault of the first group of a sheet that does not settle. -/
def unsettled? (sheet : Sheet) : Option BalanceFault :=
  sheet.groups.findSome? fun group => group.unsettled? sheet.rules

theorem unsettled?_eq_none_iff : sheet.unsettled? = none ↔ sheet.Settles := by
  rw [unsettled?, List.findSome?_eq_none_iff]
  exact forall₂_congr fun _ _ => Group.unsettled?_eq_none_iff

/-- The groups of the sheet can be scored by its rules. -/
structure Scorable (sheet : Sheet) : Prop where
  staked : 0 < sheet.rules.stake
  sound : ∀ group ∈ sheet.groups, group.Sound

theorem Accepted.scorable (accepted : sheet.Accepted) : sheet.Scorable :=
  ⟨accepted.staked, accepted.sound⟩

theorem Scorable.faultOf?_balanceOf (scorable : sheet.Scorable) (name : String) :
    faultOf? (sheet.balanceOf name) = sheet.unsettled? :=
  faultOf?_sumAmounts fun group made =>
    Group.faultOf?_balanceOf (scorable.sound group made) scorable.staked name

theorem faultOf?_balanceOf (accepted : sheet.Accepted) (name : String) :
    faultOf? (sheet.balanceOf name) = sheet.unsettled? :=
  accepted.scorable.faultOf?_balanceOf name

/-- Every group has players, so no group that does not settle is passed over. -/
theorem Scorable.faultOf?_recordSheet (scorable : sheet.Scorable) (standings : List Standing) :
    faultOf? (Standing.recordSheet standings sheet) = sheet.unsettled? := by
  have names : faultOf? (Standing.recordSheet standings sheet) =
      sheet.playerNames.findSome? fun _ => sheet.unsettled? := by
    apply faultOf?_foldlM
    intro standings name _
    rw [faultOf?_bind fun _ _ => rfl, scorable.faultOf?_balanceOf]
  rw [names]
  cases groups : sheet.groups with
  | nil =>
      have settled : sheet.unsettled? = none := by simp [unsettled?, groups]
      rw [settled, List.findSome?_eq_none_iff]
      exact fun _ _ => rfl
  | cons group others =>
      have made : group ∈ sheet.groups := by simp [groups]
      have enough := (scorable.sound group made).enough
      have nonempty : 0 < group.members.length := lt_of_lt_of_le (by decide) enough
      obtain ⟨member, seated⟩ := List.exists_mem_of_length_pos nonempty
      have appears : member.name ∈ sheet.playerNames :=
        mem_playerNames_iff_group.mpr ⟨group, made, List.mem_map_of_mem seated⟩
      exact findSome?_const _ (List.ne_nil_of_mem appears)

end Sheet

theorem faultOf?_leaderboard_of_scorable {season : List Sheet}
    (scorable : ∀ sheet ∈ season, sheet.Scorable) :
    faultOf? (leaderboard season) = season.findSome? Sheet.unsettled? := by
  rw [leaderboard, faultOf?_bind fun _ _ => rfl]
  exact faultOf?_foldlM (fun standings sheet recorded =>
    (scorable sheet recorded).faultOf?_recordSheet standings) []

theorem faultOf?_leaderboard {season : List Sheet}
    (accepted : ∀ sheet ∈ season, sheet.Accepted) :
    faultOf? (leaderboard season) = season.findSome? Sheet.unsettled? :=
  faultOf?_leaderboard_of_scorable fun sheet recorded => (accepted sheet recorded).scorable

/-- The fault is that of the first group that does not settle, on the first sheet that has
such a group. -/
inductive FirstUnsettled : List Sheet → BalanceFault → Prop
  | group (earlier later : List Sheet) (sheet : Sheet) (before after : List Group)
      (group : Group) (fault : BalanceFault) (settle : ∀ other ∈ earlier, other.Settles)
      (groups : sheet.groups = before ++ group :: after)
      (settleBefore : ∀ other ∈ before, other.settle sheet.rules = .ok ())
      (unsettled : group.settle sheet.rules = .error fault) :
      FirstUnsettled (earlier ++ sheet :: later) fault

theorem findSome?_unsettled?_iff {season : List Sheet} {fault : BalanceFault} :
    season.findSome? Sheet.unsettled? = some fault ↔ FirstUnsettled season fault := by
  rw [List.findSome?_eq_some_iff]
  constructor
  · rintro ⟨earlier, sheet, later, rfl, unsettled, settle⟩
    obtain ⟨before, group, after, groups, groupFault, settleBefore⟩ :=
      List.findSome?_eq_some_iff.mp unsettled
    exact .group earlier later sheet before after group fault
      (fun other recorded => Sheet.unsettled?_eq_none_iff.mp (settle other recorded)) groups
      (fun other made => Group.unsettled?_eq_none_iff.mp (settleBefore other made))
      (faultOf?_eq_some_iff.mp groupFault)
  · rintro ⟨earlier, later, sheet, before, after, group, _, settle, groups, settleBefore, unsettled⟩
    refine ⟨earlier, sheet, later, rfl, List.findSome?_eq_some_iff.mpr
      ⟨before, group, after, groups, faultOf?_eq_some_iff.mpr unsettled, fun other made => ?_⟩,
      fun other recorded => ?_⟩
    · exact Group.unsettled?_eq_none_iff.mpr (settleBefore other made)
    · exact Sheet.unsettled?_eq_none_iff.mpr (settle other recorded)

/-! ### The only fault -/

/-- The outcome has no fault but that a group does not settle. -/
def OnlyFailsToSettle {α : Type} (outcome : Except BalanceFault α) : Prop :=
  ∀ fault, outcome = .error fault → ∃ total, fault = .doesNotSettle total

section Only

variable {α : Type} {outcome : Except BalanceFault α}

theorem Group.onlyFailsToSettle {group : Group} {rules : ScoringRules} (sound : group.Sound)
    (staked : 0 < rules.stake) (same : faultOf? outcome = group.unsettled? rules) :
    OnlyFailsToSettle outcome := by
  intro fault failed
  rw [failed, faultOf?_error, eq_comm, unsettled?, faultOf?_eq_some_iff] at same
  exact exists_total_of_unsettled sound staked same

theorem Sheet.onlyFailsToSettle {sheet : Sheet} (accepted : sheet.Accepted)
    (same : faultOf? outcome = sheet.unsettled?) : OnlyFailsToSettle outcome := by
  intro fault failed
  rw [failed, faultOf?_error, eq_comm] at same
  obtain ⟨group, made, unsettled⟩ := List.exists_of_findSome?_eq_some same
  have single : faultOf? outcome = group.unsettled? sheet.rules := by
    rw [failed, faultOf?_error, unsettled]
  exact Group.onlyFailsToSettle (accepted.sound group made) accepted.staked single fault failed

theorem onlyFailsToSettle_leaderboard {season : List Sheet}
    (accepted : ∀ sheet ∈ season, sheet.Accepted) : OnlyFailsToSettle (leaderboard season) := by
  intro fault failed
  have first := faultOf?_leaderboard accepted
  rw [failed, faultOf?_error, eq_comm] at first
  obtain ⟨sheet, recorded, unsettled⟩ := List.exists_of_findSome?_eq_some first
  have single : faultOf? (leaderboard season) = sheet.unsettled? := by
    rw [failed, faultOf?_error, unsettled]
  exact Sheet.onlyFailsToSettle (accepted sheet recorded) single fault failed

theorem leaderboard_ranked_iff {season : List Sheet}
    (accepted : ∀ sheet ∈ season, sheet.Accepted) :
    (∃ standings, leaderboard season = .ok standings) ↔ ∀ sheet ∈ season, sheet.Settles := by
  rw [← faultOf?_eq_none_iff, faultOf?_leaderboard accepted, List.findSome?_eq_none_iff]
  exact forall₂_congr fun _ _ => Sheet.unsettled?_eq_none_iff

end Only

/-- A sheet that was read can fail to settle, but its groups and plays can be scored.  The
leaderboard fails exactly if a group of the season does not settle, and with the fault of
the first one. -/
theorem faults_of_accepted (season : List Sheet) (accepted : ∀ sheet ∈ season, sheet.Accepted) :
    (∀ text number cause, Sheet.ofText text ≠ .error (.unscorableGroup number cause)) ∧
    (∀ sheet ∈ season, ∀ group ∈ sheet.groups,
      OnlyFailsToSettle (group.settle sheet.rules) ∧
      OnlyFailsToSettle (group.balances sheet.rules) ∧
      ∀ name, OnlyFailsToSettle (group.balanceOf sheet.rules name)) ∧
    (∀ sheet ∈ season, ∀ name, OnlyFailsToSettle (sheet.balanceOf name)) ∧
    OnlyFailsToSettle (leaderboard season) ∧
    ((∃ standings, leaderboard season = .ok standings) ↔
      ∀ sheet ∈ season, ∀ group ∈ sheet.groups, group.settle sheet.rules = .ok ()) ∧
    (∀ fault, leaderboard season = .error fault ↔ FirstUnsettled season fault) ∧
    ((∃ standings, leaderboard season = .ok standings) →
      ∀ sheet ∈ season, ∀ group ∈ sheet.groups, ∃ balances,
        group.balances sheet.rules = .ok balances) := by
  refine ⟨Sheet.ofText_ne_unscorableGroup, fun sheet recorded group made => ?_,
    fun sheet recorded name => ?_, onlyFailsToSettle_leaderboard accepted,
    leaderboard_ranked_iff accepted, fun fault => ?_, fun ranked sheet recorded group made => ?_⟩
  · have sound := (accepted sheet recorded).sound group made
    have staked := (accepted sheet recorded).staked
    exact ⟨Group.onlyFailsToSettle sound staked rfl,
      Group.onlyFailsToSettle sound staked (Group.faultOf?_balances sound staked),
      fun name => Group.onlyFailsToSettle sound staked
        (Group.faultOf?_balanceOf sound staked name)⟩
  · exact Sheet.onlyFailsToSettle (accepted sheet recorded)
      (Sheet.faultOf?_balanceOf (accepted sheet recorded) name)
  · rw [← faultOf?_eq_some_iff, faultOf?_leaderboard accepted, findSome?_unsettled?_iff]
  · have settles := (leaderboard_ranked_iff accepted).mp ranked sheet recorded group made
    rw [← faultOf?_eq_none_iff, Group.faultOf?_balances ((accepted sheet recorded).sound group made)
      (accepted sheet recorded).staked]
    exact Group.unsettled?_eq_none_iff.mpr settles

/-- An evening on which a lost play with solo parity is not paid in full. -/
def unsettledEvening : Sheet where
  date := some ⟨2024, 3, 28, by decide⟩
  rawDate := "2024-03-28"
  place := "Doma"
  groups := [⟨[⟨"Eva", 16, [⟨"e", 20⟩]⟩, ⟨"Pepa", 22, []⟩, ⟨"Jarda", 27, []⟩]⟩,
    ⟨[⟨"Eva", 34, [⟨"$:-c", 38⟩]⟩, ⟨"Pepa", 43, []⟩, ⟨"Jarda", 48, []⟩]⟩]

theorem accepted_unsettledEvening : ∀ sheet ∈ [firstEvening, unsettledEvening], sheet.Accepted := by
  intro sheet recorded
  rw [List.mem_cons, List.mem_singleton] at recorded
  rcases recorded with rfl | rfl
  · exact accepted_twoEvenings firstEvening (by simp)
  · exact ⟨"2024-03-28 Doma\nEva e\nPepa\nJarda\n\nEva $:-c\nPepa\nJarda\n", rfl⟩

theorem faults_of_accepted_unsettledEvening :
    leaderboard [firstEvening, unsettledEvening] = .error (.doesNotSettle (-150)) := by
  obtain ⟨-, -, -, -, -, fault, -⟩ :=
    faults_of_accepted [firstEvening, unsettledEvening] accepted_unsettledEvening
  rw [fault]
  refine .group [firstEvening] [] unsettledEvening [⟨[⟨"Eva", 16, [⟨"e", 20⟩]⟩,
    ⟨"Pepa", 22, []⟩, ⟨"Jarda", 27, []⟩]⟩] [] _ _ ?_ rfl ?_ (by cbv)
  · intro sheet recorded group made
    cases List.mem_singleton.mp recorded
    cases List.mem_singleton.mp made
    cbv
  · intro group made
    cases List.mem_singleton.mp made
    cbv

end TrickLedger
