import TrickLedger.Proofs.Saturation
import TrickLedger.Scoring.Exact

/-!
# Opponents and ceilings

The ceiling of a table is never above its exact ceiling, and both agree when amounts
have room for twice the exact ceiling.  What a play is worth stays within it at every
table.
-/

namespace TrickLedger.Table

open Money

/-- Amounts have room for twice the ceiling of the table. -/
def HasRoom (table : Table) : Prop :=
  2 * ceilingPerOpponent * table.rules.stake * ((table.players : Int) - 1) ≤ greatest

/-- With how many players a side settles a play. -/
def counterparts (table : Table) : Side → Int
  | .own => table.players - 1
  | .opponent => 1

variable {table : Table}

theorem one_le_stake (table : Table) : (1 : Int) ≤ table.rules.stake := by
  have := table.stake_pos
  omega

theorem two_le_opponents (table : Table) : (2 : Int) ≤ table.players - 1 := by
  have := table.players_enough
  unfold fewestPlayers at this
  omega

theorem counterparts_mem (table : Table) (side : Side) :
    1 ≤ table.counterparts side ∧ table.counterparts side ≤ table.players - 1 := by
  have := table.two_le_opponents
  cases side <;> exact ⟨by simp only [counterparts]; omega, by simp only [counterparts]; omega⟩

theorem HasRoom.counterparts (room : table.HasRoom) (side : Side) :
    2 * ceilingPerOpponent * (table.rules.stake * table.counterparts side) ≤ greatest := by
  have least := mul_le_mul_of_nonneg_left (table.counterparts_mem side).2
    (zero_le_one.trans table.one_le_stake)
  unfold HasRoom ceilingPerOpponent at *
  rw [mul_assoc] at room
  omega

/-- The opponents of a player are counted exactly, with room to spare. -/
theorem HasRoom.opponents (room : table.HasRoom) :
    2 * ceilingPerOpponent * ((table.players : Int) - 1) ≤ greatest := by
  have bound : 2 * ceilingPerOpponent * (table.rules.stake * ((table.players : Int) - 1)) ≤
      greatest := room.counterparts .own
  have least : (table.players : Int) - 1 ≤ table.rules.stake * (table.players - 1) :=
    le_mul_of_one_le_left (by have := table.two_le_opponents; omega) table.one_le_stake
  unfold ceilingPerOpponent at *
  omega

theorem opponents_eq (room : table.HasRoom) : table.opponents = table.players - 1 := by
  have bound := room.opponents
  have enough := table.two_le_opponents
  unfold Table.opponents ceilingPerOpponent at *
  omega

theorem exactCeiling_eq (side : Side) :
    table.exactCeiling side =
      ceilingPerOpponent * (table.rules.stake * table.counterparts side) := by
  cases side <;> simp [exactCeiling, counterparts, mul_assoc]

theorem exactCeiling_nonneg (side : Side) : 0 ≤ table.exactCeiling side := by
  have single : 0 ≤ table.counterparts side := by
    have := (table.counterparts_mem side).1
    omega
  rw [exactCeiling_eq]
  exact mul_nonneg (by decide) (mul_nonneg (Int.natCast_nonneg _) single)

theorem HasRoom.exactCeiling (room : table.HasRoom) (side : Side) :
    2 * table.exactCeiling side ≤ greatest := by
  rw [exactCeiling_eq, ← mul_assoc]
  exact room.counterparts side

theorem ceiling_eq (room : table.HasRoom) (side : Side) :
    table.ceiling side = table.exactCeiling side := by
  have fits : ∀ side, saturate (table.exactCeiling side) = table.exactCeiling side := by
    intro side
    have nonneg := table.exactCeiling_nonneg side
    have bound := room.exactCeiling side
    exact saturate_of_within ⟨by omega, by omega⟩
  have single : mul ceilingPerOpponent table.rules.stake = table.exactCeiling .opponent :=
    fits .opponent
  cases side with
  | own =>
      rw [← fits, ceiling, single, opponents_eq room]
      rfl
  | opponent => exact single

theorem opponents_mem (table : Table) :
    0 ≤ table.opponents ∧ table.opponents ≤ table.players - 1 := by
  have enough := table.two_le_opponents
  have positive := greatest_pos
  unfold Table.opponents
  omega

/-- Saturation only ever lowers the ceiling. -/
theorem ceiling_mem (table : Table) (side : Side) :
    0 ≤ table.ceiling side ∧ table.ceiling side ≤ table.exactCeiling side := by
  obtain ⟨opponentsLower, opponentsUpper⟩ := table.opponents_mem
  have exactNonneg := table.exactCeiling_nonneg .opponent
  have singleLower : 0 ≤ table.ceiling .opponent := saturate_nonneg exactNonneg
  have singleUpper : table.ceiling .opponent ≤ table.exactCeiling .opponent :=
    saturate_le_self exactNonneg
  cases side with
  | own =>
      have nonneg := mul_nonneg singleLower opponentsLower
      have upper : table.ceiling .own ≤ table.ceiling .opponent * table.opponents :=
        saturate_le_self nonneg
      exact ⟨saturate_nonneg nonneg,
        upper.trans (mul_le_mul singleUpper opponentsUpper opponentsLower exactNonneg)⟩
  | opponent => exact ⟨singleLower, singleUpper⟩

theorem playValue_within (table : Table) (play : Play) (side : Side) :
    Within (table.exactCeiling side) (table.playValue play side) := by
  obtain ⟨nonneg, le⟩ := table.ceiling_mem side
  exact (within_clampTo nonneg _).mono le

end TrickLedger.Table
