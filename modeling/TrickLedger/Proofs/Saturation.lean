import Mathlib.Algebra.Order.Ring.Abs
import TrickLedger.Money

/-!
# Saturated and clamped amounts

A product of an amount with positive factors may be saturated in every step or once
at its end.  A clamped sum is not changed by saturation as long as one of its
summands stays away from the bounds.
-/

namespace TrickLedger.Money

variable {bound value first second : Int}

/-- The value is at most `bound` away from zero. -/
def Within (bound value : Int) : Prop :=
  -bound ≤ value ∧ value ≤ bound

theorem within_iff_abs_le : Within bound value ↔ |value| ≤ bound :=
  abs_le.symm

theorem Within.mono {larger : Int} (within : Within bound value) (le : bound ≤ larger) :
    Within larger value :=
  ⟨by have := within.1; omega, within.2.trans le⟩

theorem Within.neg (within : Within bound value) : Within bound (-value) :=
  ⟨neg_le_neg within.2, by have := within.1; omega⟩

theorem Within.add {other : Int} (firstWithin : Within bound first)
    (secondWithin : Within other second) : Within (bound + other) (first + second) := by
  obtain ⟨firstLower, firstUpper⟩ := firstWithin
  obtain ⟨secondLower, secondUpper⟩ := secondWithin
  exact ⟨by omega, by omega⟩

theorem Within.mul {other : Int} (firstWithin : Within bound first)
    (secondWithin : Within other second) : Within (bound * other) (first * second) := by
  rw [within_iff_abs_le] at *
  rw [abs_mul]
  exact mul_le_mul firstWithin secondWithin (abs_nonneg _) ((abs_nonneg _).trans firstWithin)

theorem within_of_nonneg (lower : 0 ≤ value) (upper : value ≤ bound) : Within bound value :=
  ⟨by omega, upper⟩

theorem greatest_pos : 0 < greatest := by
  decide

theorem least_lt_neg_greatest : least < -greatest := by
  decide

theorem saturate_of_within (within : Within greatest value) : saturate value = value :=
  saturate_of_mem (least_lt_neg_greatest.le.trans within.1) within.2

theorem saturate_eq_greatest (reached : greatest ≤ value) : saturate value = greatest := by
  have ordered : least ≤ greatest := by decide
  unfold saturate
  omega

theorem saturate_eq_least (reached : value ≤ least) : saturate value = least := by
  have ordered : least ≤ greatest := by decide
  unfold saturate
  omega

theorem saturate_nonneg (nonneg : 0 ≤ value) : 0 ≤ saturate value := by
  have positive := greatest_pos
  unfold saturate
  omega

theorem saturate_pos (positive : 0 < value) : 0 < saturate value := by
  have held := greatest_pos
  unfold saturate
  omega

theorem saturate_le_self (nonneg : 0 ≤ value) : saturate value ≤ value := by
  have negative : least < 0 := by decide
  unfold saturate
  omega

theorem sign_eq_sign (positive : 0 < first ↔ 0 < second) (negative : first < 0 ↔ second < 0) :
    first.sign = second.sign := by
  rcases lt_trichotomy second 0 with below | rfl | above
  · rw [Int.sign_eq_neg_one_of_neg (negative.mpr below), Int.sign_eq_neg_one_of_neg below]
  · have zero : first = 0 := by omega
    rw [zero]
  · rw [Int.sign_eq_one_of_pos (positive.mpr above), Int.sign_eq_one_of_pos above]

/-- Saturation never turns a sign. -/
theorem sign_saturate (value : Int) : (saturate value).sign = value.sign := by
  have positive := greatest_pos
  have negative : least < 0 := by decide
  apply sign_eq_sign <;> unfold saturate <;> omega

theorem saturate_saturate_mul {factor : Int} (positive : 1 ≤ factor) (value : Int) :
    saturate (saturate value * factor) = saturate (value * factor) := by
  have greatestNonneg : 0 ≤ greatest := greatest_pos.le
  have leastNonpos : least ≤ 0 := by decide
  by_cases high : greatest ≤ value
  · have grown : value ≤ value * factor :=
      le_mul_of_one_le_right (greatestNonneg.trans high) positive
    rw [saturate_eq_greatest high, saturate_eq_greatest (high.trans grown)]
    exact saturate_eq_greatest (le_mul_of_one_le_right greatestNonneg positive)
  · by_cases low : value ≤ least
    · have grown : value * factor ≤ value :=
        mul_le_of_one_le_right (low.trans leastNonpos) positive
      rw [saturate_eq_least low, saturate_eq_least (grown.trans low)]
      exact saturate_eq_least (mul_le_of_one_le_right leastNonpos positive)
    · have fits : saturate value = value := saturate_of_mem (by omega) (by omega)
      rw [fits]

theorem mul_saturate {factor : Int} (positive : 1 ≤ factor) (value : Int) :
    mul (saturate value) factor = saturate (value * factor) :=
  saturate_saturate_mul positive value

theorem within_clampTo (nonneg : 0 ≤ bound) (value : Int) : Within bound (clampTo bound value) := by
  unfold clampTo
  exact ⟨by omega, by omega⟩

theorem sign_clampTo (positive : 0 < bound) (value : Int) :
    (clampTo bound value).sign = value.sign := by
  apply sign_eq_sign <;> unfold clampTo <;> omega

theorem clampTo_neg (nonneg : 0 ≤ bound) (value : Int) :
    clampTo bound (-value) = -clampTo bound value := by
  unfold clampTo
  omega

theorem clampTo_mul {factor : Int} (nonneg : 0 ≤ factor) (bound value : Int) :
    clampTo (factor * bound) (factor * value) = factor * clampTo bound value := by
  unfold clampTo
  rw [mul_max_of_nonneg _ _ nonneg, mul_min_of_nonneg _ _ nonneg, mul_neg]

/-- A sum is clamped as if its summands had not been saturated, as long as one of them
leaves room for the clamp. -/
theorem clampTo_add_saturate (nonneg : 0 ≤ bound) {margin : Int} (small : Within margin second)
    (room : bound + margin ≤ greatest) (first : Int) :
    clampTo bound (add (saturate first) (saturate second)) = clampTo bound (first + second) := by
  have secondFits : saturate second = second := saturate_of_within (small.mono (by omega))
  -- If the first summand is saturated, the second one leaves the sum beyond the clamp.
  have leastEq := least_lt_neg_greatest
  rw [secondFits]
  obtain ⟨lower, upper⟩ := small
  unfold add clampTo saturate
  omega

protected theorem add_comm (first second : Int) : add first second = add second first := by
  rw [add, add, Int.add_comm]

end TrickLedger.Money
