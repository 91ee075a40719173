import TrickLedger.Proofs.Balance.SoloParity

/-!
# Discrepancies of groups

As long as amounts have room, a group is refused with the exact sum of what its plays come to
for everyone together.  If that is zero, every player gets the own values of their plays and
the opponent values of the plays of everybody else.
-/

namespace TrickLedger

open Money

namespace Group

variable {group : Group} {rules : ScoringRules} {member : Member}

/-- What a player should get: the own values of their plays, and the opponent values of the
plays of everybody else. -/
def due (group : Group) (amount : Side → WrittenPlay → Int) (member : Member) : Int :=
  let others := group.members.filter fun other => other.name ≠ member.name
  (member.plays.map (amount .own)).sum +
    ((others.flatMap Member.plays).map (amount .opponent)).sum

theorem filter_name_eq (distinct : (group.members.map Member.name).Nodup)
    (seated : member ∈ group.members) :
    (group.members.filter fun other => other.name = member.name) = [member] := by
  have copies : group.members.filter (· = member) =
      List.replicate (group.members.count member) member := List.filter_beq member
  rw [List.count_eq_one_of_mem (List.Nodup.of_map _ distinct) seated, List.replicate_one] at copies
  rw [← copies]
  apply List.filter_congr
  intro other made
  have same : other.name = member.name ↔ other = member :=
    ⟨fun equal => List.inj_on_of_nodup_map distinct made seated equal, congrArg Member.name⟩
  simp only [same]

/-- With different names, the side of a player is their own for their own plays only. -/
theorem sumFor_eq_due (distinct : (group.members.map Member.name).Nodup)
    (seated : member ∈ group.members) (amount : Side → WrittenPlay → Int) :
    group.sumFor amount member.name = group.due amount member := by
  have sides : Member.sumFor amount member.name = fun other =>
      if other.name = member.name then (other.plays.map (amount .own)).sum
      else (other.plays.map (amount .opponent)).sum := by
    funext other
    unfold Member.sumFor Member.sideFor
    split <;> rfl
  have others (members : List Member) (share : WrittenPlay → Int) :
      (members.map fun other => (other.plays.map share).sum).sum =
        ((members.flatMap Member.plays).map share).sum :=
    (sumOfPlays_eq ⟨members⟩ share).symm
  rw [sumFor, sides, List.sum_map_ite, filter_name_eq distinct seated, others, others, due]
  simp

/-- The check of a group is exact: it refuses the group with the sum over its plays of the own
value and as many opponent values as there are opponents, unless that sum is zero.  Then, and
only then, the balance of each player is what they should get. -/
theorem balances_of_discrepancy (group : Group) (rules : ScoringRules)
    (enough : fewestPlayers ≤ group.size) (distinct : (group.members.map Member.name).Nodup)
    (staked : 0 < rules.stake) (readable : group.Readable)
    (room : 30000 * (rules.stake : Int) * ((group.size : Int) - 1) * group.playCount ≤
      2 ^ 63 - 1) :
    let table : Table := ⟨group.size, rules, enough, staked⟩
    let total := group.sumOfPlays fun written => table.writtenValue .own written +
      ((group.size : Int) - 1) * table.writtenValue .opponent written
    group.settle rules = (if total = 0 then .ok () else .error (.doesNotSettle total)) ∧
      group.balances rules =
        (if total = 0 then
          .ok (group.members.map fun member => (member.name, group.due table.writtenValue member))
        else .error (.doesNotSettle total)) ∧
      ∀ member ∈ group.members,
        group.balanceOf rules member.name =
          (if total = 0 then .ok (group.due table.writtenValue member)
          else .error (.doesNotSettle total)) := by
  intro table total
  have tableRoom : table.HasRoomFor group := room
  have ceilings : group.sumForAll table.writtenCeiling ≤ greatest :=
    (Table.sumForAll_writtenCeiling rfl distinct).trans_le tableRoom
  have seating : group.table rules = .ok table := table_eq enough staked
  have checked : table.settle group = if total = 0 then .ok () else .error (.doesNotSettle total) :=
    Table.settle_of_total (Table.groupTotal_eq_sumOfPlays rfl distinct readable tableRoom)
  by_cases zero : total = 0
  · have settled : table.settle group = .ok () := checked.trans (if_pos zero)
    simp only [if_pos zero]
    refine ⟨by rw [settle, seating, ok_bind, settled], ?_, fun member seated => ?_⟩
    · rw [balances_eq seating settled readable ceilings]
      congr 1
      apply List.map_congr_left
      intro member seated
      rw [sumFor_eq_due distinct seated]
    · rw [balanceOf_eq seating settled readable ceilings seated, sumFor_eq_due distinct seated]
  · have refused : table.settle group = .error (.doesNotSettle total) := checked.trans (if_neg zero)
    simp only [if_neg zero]
    refine ⟨by rw [settle, seating, ok_bind, refused], ?_, fun member _ => ?_⟩
    · rw [balances, seating, ok_bind, refused]
      rfl
    · rw [balanceOf, seating, ok_bind, refused]
      rfl

/-- Two plays with solo parity that cancel each other settle, and one alone is refused. -/
theorem balances_of_discrepancy_soloPlays :
    (ofCodes ["$+c", "e"] ["$-c"]).balances {} =
        .ok [("Pepa", 180), ("Franta", -240), ("Jarda", 60)] ∧
      (ofCodes ["+c"] ["$:-k110*"]).settle {} = .error (.doesNotSettle (-160)) := by
  constructor
  · have readable : (ofCodes ["$+c", "e"] ["$-c"]).Readable := by
      apply readable_ofCodes
      simp only [List.cons_append, List.nil_append, List.forall_mem_cons]
      exact ⟨⟨_, rfl⟩, ⟨_, rfl⟩, ⟨_, rfl⟩, by simp⟩
    obtain ⟨-, balances, -⟩ := balances_of_discrepancy _ {} (by decide) (by decide) (by decide)
      readable (by decide)
    exact balances.trans (by rfl)
  · have readable : (ofCodes ["+c"] ["$:-k110*"]).Readable := by
      apply readable_ofCodes
      simp only [List.cons_append, List.nil_append, List.forall_mem_cons]
      exact ⟨⟨_, rfl⟩, ⟨_, rfl⟩, by simp⟩
    obtain ⟨settled, -⟩ := balances_of_discrepancy _ {} (by decide) (by decide) (by decide)
      readable (by decide)
    exact settled.trans (by decide +kernel)

end Group

end TrickLedger
