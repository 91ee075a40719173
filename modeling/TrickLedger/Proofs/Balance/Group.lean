import TrickLedger.Proofs.Balance.Sums
import TrickLedger.Proofs.Scoring.Surplus

/-!
# Totals of groups

The total that a group is checked by is exact: it is the sum over all plays of what
each play comes to for everyone together.  A group settles when all of its plays are
split.
-/

namespace TrickLedger

open Money

/-- What a written play is worth to a side, which is nothing if it is not read. -/
def Table.writtenValue (table : Table) (side : Side) (written : WrittenPlay) : Int :=
  match Play.ofCode written.code with
  | .ok play => table.playValue play side
  | .error _ => 0

/-- The most that a written play can come to. -/
def Table.writtenCeiling (table : Table) (side : Side) (_ : WrittenPlay) : Int :=
  table.exactCeiling side

/-- Every play of the player is read. -/
def Member.Readable (member : Member) : Prop :=
  ∀ written ∈ member.plays, ∃ play, Play.ofCode written.code = .ok play

/-- Every play of the group is read. -/
def Group.Readable (group : Group) : Prop :=
  ∀ member ∈ group.members, member.Readable

namespace Table

variable {table : Table} {viewer : String} {member : Member} {group : Group}

theorem writtenValue_of_read {written : WrittenPlay} {play : Play}
    (read : Play.ofCode written.code = .ok play) (side : Side) :
    table.writtenValue side written = table.playValue play side := by
  simp [writtenValue, read]

theorem writtenValue_within (table : Table) (side : Side) (written : WrittenPlay) :
    Within (table.writtenCeiling side written) (table.writtenValue side written) := by
  have nonneg := table.exactCeiling_nonneg side
  unfold writtenValue writtenCeiling
  cases Play.ofCode written.code with
  | ok play => exact table.playValue_within play side
  | error fault => exact ⟨neg_nonpos.mpr nonneg, nonneg⟩

theorem amountOfPlay_eq {written : WrittenPlay} {play : Play}
    (read : Play.ofCode written.code = .ok play) :
    table.amountOfPlay viewer member written =
      .ok (table.writtenValue (member.sideFor viewer) written) := by
  rw [writtenValue_of_read read]
  simp only [amountOfPlay, worthOfCode, read, ok_bind, worth, Member.sideFor]
  by_cases same : member.name = viewer
  · rw [if_pos same, if_pos same]
  · rw [if_neg same, if_neg same]

theorem sumFor_member_within (table : Table) (viewer : String) (member : Member) :
    Within (member.sumFor table.writtenCeiling viewer) (member.sumFor table.writtenValue viewer) :=
  within_sum fun written _ => table.writtenValue_within _ written

theorem sumFor_group_within (table : Table) (viewer : String) (group : Group) :
    Within (group.sumFor table.writtenCeiling viewer) (group.sumFor table.writtenValue viewer) :=
  within_sum fun member _ => table.sumFor_member_within viewer member

theorem balanceFromMember_eq (readable : member.Readable)
    (room : member.sumFor table.writtenCeiling viewer ≤ greatest) :
    table.balanceFromMember viewer member = .ok (member.sumFor table.writtenValue viewer) := by
  apply sumAmounts_eq _ (fun written _ => table.writtenValue_within _ written) room
  intro written made
  obtain ⟨play, read⟩ := readable written made
  exact amountOfPlay_eq read

theorem balanceFromGroup_eq (readable : group.Readable)
    (room : group.sumFor table.writtenCeiling viewer ≤ greatest) :
    table.balanceFromGroup viewer group = .ok (group.sumFor table.writtenValue viewer) := by
  apply sumAmounts_eq _ (fun member _ => table.sumFor_member_within viewer member) room
  intro member seated
  exact balanceFromMember_eq (readable member seated)
    ((le_sum_of_mem (fun member _ => table.sumFor_member_within viewer member) seated).trans room)

theorem balanceFromGroup_eq_of_mem (readable : group.Readable)
    (room : group.sumForAll table.writtenCeiling ≤ greatest) (seated : member ∈ group.members) :
    table.balanceFromGroup member.name group =
      .ok (group.sumFor table.writtenValue member.name) :=
  balanceFromGroup_eq readable
    ((le_sum_of_mem (fun viewer _ => table.sumFor_group_within viewer.name group) seated).trans
      room)

theorem groupTotal_eq (readable : group.Readable)
    (room : group.sumForAll table.writtenCeiling ≤ greatest) :
    table.groupTotal group = .ok (group.sumForAll table.writtenValue) := by
  apply sumAmounts_eq _ (fun viewer _ => table.sumFor_group_within viewer.name group) room
  exact fun viewer seated => balanceFromGroup_eq_of_mem readable room seated

/-- Amounts have room for twice the ceiling of every play of the group. -/
def HasRoomFor (table : Table) (group : Group) : Prop :=
  2 * ceilingPerOpponent * table.rules.stake * ((table.players : Int) - 1) * group.playCount ≤
    greatest

theorem HasRoomFor.hasRoom (room : table.HasRoomFor group) (played : 0 < group.playCount) :
    table.HasRoom := by
  have nonneg : 0 ≤ 2 * ceilingPerOpponent * table.rules.stake * ((table.players : Int) - 1) := by
    have ceiling : 0 ≤ ceilingPerOpponent * table.rules.stake * ((table.players : Int) - 1) :=
      table.exactCeiling_nonneg .own
    rw [mul_assoc 2, mul_assoc 2]
    exact mul_nonneg (by decide) ceiling
  have once : (1 : Int) ≤ group.playCount := by omega
  exact (le_mul_of_one_le_right nonneg once).trans room

theorem sumForAll_writtenCeiling (seats : table.players = group.size)
    (distinct : (group.members.map Member.name).Nodup) :
    group.sumForAll table.writtenCeiling =
      2 * ceilingPerOpponent * table.rules.stake * ((table.players : Int) - 1) *
        group.playCount := by
  have each : group.forEveryone table.writtenCeiling =
      fun _ => 2 * ceilingPerOpponent * table.rules.stake * ((table.players : Int) - 1) := by
    funext written
    simp only [Group.forEveryone, writtenCeiling, exactCeiling, seats]
    ring
  rw [Group.sumForAll_eq distinct, each, Group.sumOfPlays_const]
  ring

theorem settle_of_total {total : Int} (found : table.groupTotal group = .ok total) :
    table.settle group = if total = 0 then .ok () else .error (.doesNotSettle total) := by
  rw [settle, found, ok_bind]

/-- A group is checked by the exact sum over its plays of what each of them comes to
for everyone together. -/
theorem groupTotal_eq_sumOfPlays (seats : table.players = group.size)
    (distinct : (group.members.map Member.name).Nodup) (readable : group.Readable)
    (room : table.HasRoomFor group) :
    table.groupTotal group =
      .ok (group.sumOfPlays (group.forEveryone table.writtenValue)) := by
  rw [← Group.sumForAll_eq distinct]
  exact groupTotal_eq readable ((sumForAll_writtenCeiling seats distinct).trans_le room)

end Table

namespace Group

variable {group : Group} {rules : ScoringRules}

/-- Every play of the group is read as one that is split. -/
def Split (group : Group) : Prop :=
  ∀ member ∈ group.members, ∀ written ∈ member.plays,
    ∃ play, Play.ofCode written.code = .ok play ∧ play.Split

theorem Split.readable (split : group.Split) : group.Readable := by
  intro member seated written made
  obtain ⟨play, read, -⟩ := split member seated written made
  exact ⟨play, read⟩

theorem sumOfPlays_of_split {table : Table} (seats : table.players = group.size)
    (split : group.Split) (room : table.HasRoomFor group) :
    group.sumOfPlays (group.forEveryone table.writtenValue) = 0 := by
  apply sumOfPlays_eq_zero
  intro member seated written made
  obtain ⟨play, read, splitPlay⟩ := split member seated written made
  rw [forEveryone, Table.writtenValue_of_read read, Table.writtenValue_of_read read, ← seats]
  exact Table.playValue_own_of_split (room.hasRoom (playCount_pos seated made))
    (Play.wellFormed_of_ofCode read) splitPlay

theorem table_eq (enough : fewestPlayers ≤ group.size) (staked : 0 < rules.stake) :
    group.table rules = .ok ⟨group.size, rules, enough, staked⟩ := by
  simp [Group.table, Table.make, enough, staked]

theorem balances_eq {table : Table} (seating : group.table rules = .ok table)
    (settled : table.settle group = .ok ()) (readable : group.Readable)
    (room : group.sumForAll table.writtenCeiling ≤ greatest) :
    group.balances rules =
      .ok (group.members.map fun member =>
        (member.name, group.sumFor table.writtenValue member.name)) := by
  rw [balances, seating, ok_bind, settled, ok_bind]
  apply mapM_eq_ok
  intro member seated
  rw [Table.balanceFromGroup_eq_of_mem readable room seated, ok_bind]

theorem balanceOf_eq {table : Table} (seating : group.table rules = .ok table)
    (settled : table.settle group = .ok ()) (readable : group.Readable)
    (room : group.sumForAll table.writtenCeiling ≤ greatest) {member : Member}
    (seated : member ∈ group.members) :
    group.balanceOf rules member.name = .ok (group.sumFor table.writtenValue member.name) := by
  have found : (group.member? member.name).isSome := by
    rw [member?, List.find?_isSome]
    exact ⟨member, seated, by simp⟩
  obtain ⟨first, found⟩ := Option.isSome_iff_exists.mp found
  rw [balanceOf, seating, ok_bind, settled, ok_bind, found]
  exact Table.balanceFromGroup_eq_of_mem readable room seated

/-- The zero-sum law: at a table of at least three players with different names, with
any positive stake and either rule, plays without solo parity settle the group, and the
balances drawn up for its players sum to zero, as long as amounts have room for twice
the ceiling of every play. -/
theorem settles_of_split (group : Group) (rules : ScoringRules)
    (enough : fewestPlayers ≤ group.size) (distinct : (group.members.map Member.name).Nodup)
    (staked : 0 < rules.stake) (split : group.Split)
    (room : 30000 * (rules.stake : Int) * ((group.size : Int) - 1) * group.playCount ≤
      2 ^ 63 - 1) :
    group.settle rules = .ok () ∧
      ∃ balances, group.balances rules = .ok balances ∧ (balances.map Prod.snd).sum = 0 := by
  let table : Table := ⟨group.size, rules, enough, staked⟩
  have tableRoom : table.HasRoomFor group := room
  have ceilings : group.sumForAll table.writtenCeiling ≤ greatest :=
    (Table.sumForAll_writtenCeiling rfl distinct).trans_le tableRoom
  have zero : group.sumOfPlays (group.forEveryone table.writtenValue) = 0 :=
    sumOfPlays_of_split rfl split tableRoom
  have settled : table.settle group = .ok () := by
    rw [Table.settle, Table.groupTotal_eq_sumOfPlays rfl distinct split.readable tableRoom, zero]
    rfl
  constructor
  · rw [Group.settle, table_eq enough staked]
    exact settled
  · refine ⟨_, balances_eq (table_eq enough staked) settled split.readable ceilings, ?_⟩
    rw [List.map_map]
    exact (sumForAll_eq distinct).trans zero

/-- Three players, one of whom made two plays and one of whom made none. -/
def threePlayers : Group where
  members :=
    [.ofCodes "Pepa" ["+2k120-s*", "e"], .ofCodes "Franta" ["-3c"], .ofCodes "Jarda" []]

theorem split_threePlayers : threePlayers.Split := by
  simp only [Split, threePlayers, Member.ofCodes, List.forall_mem_cons, List.map_cons,
    List.map_nil]
  refine ⟨⟨?_, ?_, by simp⟩, ⟨?_, by simp⟩, by simp, by simp⟩
  all_goals exact ⟨_, rfl, rfl, rfl⟩

theorem settles_of_split_threePlayers :
    threePlayers.settle { hundred := .additive, stake := 10 } = .ok () ∧
      ∃ balances, threePlayers.balances { hundred := .additive, stake := 10 } = .ok balances ∧
        (balances.map Prod.snd).sum = 0 :=
  settles_of_split threePlayers { hundred := .additive, stake := 10 } (by decide) (by decide)
    (by decide) split_threePlayers (by decide)

end Group

end TrickLedger
