import TrickLedger.Balance.Season
import TrickLedger.Proofs.Sheet.Check

/-!
# Entries of single groups

In a group that settles, the entry of a player in the balances of the group is the exact
sum of what all plays come to for the player.  The balance of a name on a sheet, which is
found on a path of its own, is the sum of these entries.
-/

namespace TrickLedger

open Money

namespace Group

variable {group : Group} {rules : ScoringRules} {name : String}

/-- The names of the players of a group. -/
def names (group : Group) : List String :=
  group.members.map Member.name

/-- The table of a group that can be scored. -/
def Sound.seating (sound : group.Sound) (staked : 0 < rules.stake) : Table :=
  ⟨group.size, rules, sound.enough, staked⟩

/-- What the plays of a group come to for a name, which is nothing without an entry. -/
def share (group : Group) (rules : ScoringRules) (name : String) : Int :=
  (group.listed? rules name).getD 0

theorem ceiling_nonneg (sound : group.Sound) : 0 ≤ group.ceiling rules := by
  have enough : 3 ≤ group.size := sound.enough
  have opponents : 0 ≤ (group.size : Int) - 1 := by omega
  have staked : 0 ≤ 30000 * (rules.stake : Int) := by omega
  exact mul_nonneg (mul_nonneg staked opponents) (Int.natCast_nonneg _)

theorem Sound.sumForAll_writtenCeiling (sound : group.Sound) (staked : 0 < rules.stake) :
    group.sumForAll (sound.seating staked).writtenCeiling = group.ceiling rules :=
  Table.sumForAll_writtenCeiling rfl sound.distinct

theorem table_of_sound (sound : group.Sound) (staked : 0 < rules.stake) :
    group.table rules = .ok (sound.seating staked) :=
  table_eq sound.enough staked

theorem lookup_map_prod (names : List String) (amount : String → Int) (name : String) :
    (names.map fun other => (other, amount other)).lookup name =
      if name ∈ names then some (amount name) else none := by
  induction names with
  | nil => rfl
  | cons other names ih =>
      by_cases same : name = other
      · simp [same]
      · have differs : (name == other) = false := by simpa using same
        simp [List.lookup_cons, differs, ih, same]

/-- No balance on a sheet is found for a group that does not settle. -/
theorem settle_of_balanceOf {amount : Int} (found : group.balanceOf rules name = .ok amount) :
    group.settle rules = .ok () := by
  obtain ⟨table, seated, rest⟩ := bind_eq_ok_iff.mp found
  obtain ⟨⟨⟩, settled, -⟩ := bind_eq_ok_iff.mp rest
  rw [settle, seated, ok_bind, settled]

section Settled

variable (sound : group.Sound) (staked : 0 < rules.stake) (room : group.ceiling rules ≤ greatest)

include sound staked room

/-- The check of a group finds the exact total. -/
theorem settle_of_sound :
    group.settle rules =
      if group.sumForAll (sound.seating staked).writtenValue = 0 then .ok ()
      else .error (.doesNotSettle (group.sumForAll (sound.seating staked).writtenValue)) := by
  have total := Table.groupTotal_eq sound.readable
    ((sound.sumForAll_writtenCeiling staked).trans_le room)
  rw [settle, table_of_sound sound staked, ok_bind, Table.settle_of_total total]

theorem settle_iff :
    group.settle rules = .ok () ↔ group.sumForAll (sound.seating staked).writtenValue = 0 := by
  rw [settle_of_sound sound staked room]
  split <;> simp [*]

/-- The balances of a group that settles are drawn up for all of its players. -/
theorem balances_of_settle (settled : group.settle rules = .ok ()) :
    group.balances rules = .ok (group.names.map fun name =>
      (name, group.sumFor (sound.seating staked).writtenValue name)) := by
  have seated := table_of_sound sound staked
  rw [settle, seated, ok_bind] at settled
  rw [balances_eq seated settled sound.readable
    ((sound.sumForAll_writtenCeiling staked).trans_le room), names, List.map_map]
  rfl

theorem listed?_of_settle (settled : group.settle rules = .ok ()) (name : String) :
    group.listed? rules name =
      if name ∈ group.names then some (group.sumFor (sound.seating staked).writtenValue name)
      else none := by
  rw [listed?, balances_of_settle sound staked room settled]
  exact lookup_map_prod group.names _ name

theorem share_of_settle (settled : group.settle rules = .ok ()) (name : String) :
    group.share rules name =
      if name ∈ group.names then group.sumFor (sound.seating staked).writtenValue name else 0 := by
  rw [share, listed?_of_settle sound staked room settled]
  split <;> rfl

theorem share_within (settled : group.settle rules = .ok ()) (name : String) :
    Within (group.ceiling rules) (group.share rules name) := by
  have nonneg : 0 ≤ group.ceiling rules := ceiling_nonneg sound
  rw [share_of_settle sound staked room settled]
  split
  case isFalse => exact ⟨neg_nonpos.mpr nonneg, nonneg⟩
  case isTrue seated =>
    obtain ⟨member, made, rfl⟩ := List.mem_map.mp seated
    let table := sound.seating staked
    apply (table.sumFor_group_within member.name group).mono
    rw [← sound.sumForAll_writtenCeiling staked]
    exact le_sum_of_mem (fun viewer _ => table.sumFor_group_within viewer.name group) made

/-- Both ways to the balance of a name lead to the same amount. -/
theorem balanceOf_of_settle (settled : group.settle rules = .ok ()) (name : String) :
    group.balanceOf rules name = .ok (group.share rules name) := by
  have seated := table_of_sound sound staked
  rw [share_of_settle sound staked room settled]
  rw [settle, seated, ok_bind] at settled
  by_cases present : name ∈ group.names
  · rw [if_pos present]
    obtain ⟨member, made, rfl⟩ := List.mem_map.mp present
    exact balanceOf_eq seated settled sound.readable
      ((sound.sumForAll_writtenCeiling staked).trans_le room) made
  · have absent : group.member? name = none := by
      simpa [member?, names] using present
    rw [if_neg present, balanceOf, seated, ok_bind, settled, ok_bind, absent]

/-- Together the players of a group that settles neither win nor lose. -/
theorem sum_share (settled : group.settle rules = .ok ()) :
    (group.names.map (group.share rules)).sum = 0 := by
  have each : group.names.map (group.share rules) =
      group.members.map fun member =>
        group.sumFor (sound.seating staked).writtenValue member.name := by
    rw [names, List.map_map]
    apply List.map_congr_left
    intro member made
    have present : member.name ∈ group.names := List.mem_map_of_mem made
    rw [Function.comp_apply, share_of_settle sound staked room settled, if_pos present]
  rw [each]
  exact (settle_iff sound staked room).mp settled

end Settled

end Group

/-! ### Sheets -/

namespace Sheet

variable {sheet : Sheet} {name : String}

/-- The groups of the sheet can be scored, and amounts have room for all of them. -/
structure Fits (sheet : Sheet) : Prop where
  staked : 0 < sheet.rules.stake
  sound : ∀ group ∈ sheet.groups, group.Sound
  room : sheet.ceiling ≤ greatest

/-- Every group of the sheet settles. -/
def Settles (sheet : Sheet) : Prop :=
  ∀ group ∈ sheet.groups, group.settle sheet.rules = .ok ()

/-- What a sheet comes to for a name. -/
def share (sheet : Sheet) (name : String) : Int :=
  (sheet.entries name).sum

theorem sum_filterMap {α : Type} (listed? : α → Option Int) (items : List α) :
    (items.filterMap listed?).sum = (items.map fun item => (listed? item).getD 0).sum := by
  induction items with
  | nil => rfl
  | cons item items ih =>
      cases entry : listed? item <;> simp [entry, ih]

theorem share_eq (sheet : Sheet) (name : String) :
    sheet.share name = (sheet.groups.map fun group => group.share sheet.rules name).sum :=
  sum_filterMap _ _

theorem Accepted.staked (accepted : sheet.Accepted) : 0 < sheet.rules.stake := by
  obtain ⟨text, read⟩ := accepted
  exact (sound_of_ofText read).1

theorem Accepted.sound (accepted : sheet.Accepted) : ∀ group ∈ sheet.groups, group.Sound := by
  obtain ⟨text, read⟩ := accepted
  exact (sound_of_ofText read).2

theorem ceiling_nonneg (sound : ∀ group ∈ sheet.groups, group.Sound) : 0 ≤ sheet.ceiling := by
  apply List.sum_nonneg
  intro ceiling member
  obtain ⟨group, made, rfl⟩ := List.mem_map.mp member
  exact Group.ceiling_nonneg (sound group made)

theorem Fits.groupRoom (fits : sheet.Fits) {group : Group} (made : group ∈ sheet.groups) :
    group.ceiling sheet.rules ≤ greatest := by
  refine le_trans ?_ fits.room
  apply List.single_le_sum _ _ (List.mem_map_of_mem made)
  intro ceiling member
  obtain ⟨other, otherMade, rfl⟩ := List.mem_map.mp member
  exact Group.ceiling_nonneg (fits.sound other otherMade)

section Settled

variable (fits : sheet.Fits)

include fits

theorem share_within (settles : sheet.Settles) (name : String) :
    Within sheet.ceiling (sheet.share name) := by
  rw [share_eq]
  exact within_sum fun group made =>
    Group.share_within (fits.sound group made) fits.staked (fits.groupRoom made)
      (settles group made) name

/-- The balance of a name on a sheet is the sum of its entries in the groups. -/
theorem balanceOf_of_settles (settles : sheet.Settles) (name : String) :
    sheet.balanceOf name = .ok (sheet.share name) := by
  rw [share_eq]
  apply sumAmounts_eq _ _ fits.room
  · exact fun group made =>
      Group.balanceOf_of_settle (fits.sound group made) fits.staked (fits.groupRoom made)
        (settles group made) name
  · exact fun group made =>
      Group.share_within (fits.sound group made) fits.staked (fits.groupRoom made)
        (settles group made) name

end Settled

/-- No balance on a sheet is found if one of its groups does not settle. -/
theorem settles_of_balanceOf {amount : Int} (found : sheet.balanceOf name = .ok amount) :
    sheet.Settles := by
  intro group made
  obtain ⟨total, next, added⟩ := exists_step_of_foldlM_eq_ok found group made
  obtain ⟨amount, foundInGroup, -⟩ := bind_eq_ok_iff.mp added
  exact Group.settle_of_balanceOf foundInGroup

end Sheet

end TrickLedger
