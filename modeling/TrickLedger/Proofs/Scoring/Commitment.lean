import TrickLedger.Play.WellFormed
import TrickLedger.Proofs.Scoring.Table

/-!
# Exact values of commitments

At a table that leaves amounts enough room, scaling by the score and counting the
units of a commitment stay exact.  Only their product can be saturated, so the value
of a commitment is its exact value, saturated once.
-/

namespace TrickLedger

open Money

theorem Commitment.value_within (commitment : Commitment) : Within 500 commitment.value := by
  unfold Commitment.value
  cases commitment.contract with
  | none => exact ⟨by decide, by decide⟩
  | some contract => cases contract <;> exact ⟨by decide, by decide⟩

theorem Commitment.ScoreFits.mem_range {commitment : Commitment} (fits : commitment.ScoreFits) :
    leastScore ≤ commitment.score ∧ commitment.score ≤ greatestScore := by
  unfold Commitment.ScoreFits at fits
  by_cases hasScore : commitment.contract.any Contract.hasScore = true
  · rw [if_pos hasScore] at fits
    exact ⟨fits.1, fits.2.1⟩
  · rw [if_neg hasScore] at fits
    rw [fits]
    exact ⟨by decide, by decide⟩

theorem int_pow_eq (base : Int) (exponent : Nat) : Int.pow base exponent = base ^ exponent :=
  rfl

theorem two_pow_boost_mem {boost : Nat} (fits : boost ≤ greatestBoost) :
    (1 : Int) ≤ 2 ^ boost ∧ (2 : Int) ^ boost ≤ 16 :=
  ⟨one_le_pow₀ (by decide), pow_le_pow_right₀ (by decide) fits⟩

theorem two_pow_boost_mul_mem {boost : Nat} (fits : boost ≤ greatestBoost) {count : Int}
    (nonneg : 0 ≤ count) : count ≤ 2 ^ boost * count ∧ 2 ^ boost * count ≤ 16 * count := by
  obtain ⟨lower, upper⟩ := two_pow_boost_mem fits
  exact ⟨le_mul_of_one_le_left nonneg lower, mul_le_mul_of_nonneg_right upper nonneg⟩

theorem Commitment.basePayment_eq_false {commitment : Commitment}
    (pays : commitment.basePayment = true → commitment.soloParity = true)
    (split : commitment.soloParity = false) : commitment.basePayment = false := by
  cases paid : commitment.basePayment with
  | false => rfl
  | true => exact absurd (pays paid) (by simp [split])

theorem Commitment.MarksFit.unpaid {commitment : Commitment} (fits : commitment.MarksFit)
    (split : commitment.soloParity = false) : commitment.basePayment = false :=
  Commitment.basePayment_eq_false fits.1 split

namespace Table

section Scaling

variable {score : Int}

theorem scoreSteps_eq (lower : leastScore ≤ score) (upper : score ≤ greatestScore) :
    scoreSteps score = if score < 100 then (100 - score) / 10 else (score - 90) / 10 := by
  have held : max leastScore (min score greatestScore) = score := by omega
  simp only [scoreSteps, held]
  by_cases below : score < 100
  · rw [if_pos below, if_pos below]
  · rw [if_neg below, if_neg below]

/-- Scores beyond those of play codes are worth no more steps than these. -/
theorem scoreSteps_mem (score : Int) : 0 ≤ scoreSteps score ∧ scoreSteps score ≤ 20 := by
  unfold scoreSteps leastScore greatestScore
  dsimp only
  split <;> omega

theorem exactFactor_multiplicative (lower : leastScore ≤ score) (upper : score ≤ greatestScore) :
    exactFactor .multiplicative score = 2 ^ (scoreSteps score - 1).toNat := by
  rw [scoreSteps_eq lower upper]
  rfl

theorem exactFactor_additive (lower : leastScore ≤ score) (upper : score ≤ greatestScore) :
    exactFactor .additive score = scoreSteps score := by
  rw [scoreSteps_eq lower upper]
  rfl

theorem exactFactor_within (rule : HundredRule) (lower : leastScore ≤ score)
    (upper : score ≤ greatestScore) : Within (2 ^ 19) (exactFactor rule score) := by
  obtain ⟨stepsLower, stepsUpper⟩ := scoreSteps_mem score
  cases rule with
  | multiplicative =>
      rw [exactFactor_multiplicative lower upper]
      apply within_of_nonneg (pow_nonneg (by decide) _)
      exact pow_le_pow_right₀ (by decide) (by omega)
  | additive =>
      rw [exactFactor_additive lower upper]
      exact ⟨by omega, by omega⟩

theorem scaleByScore_eq (rule : HundredRule) {value : Int} (valueFits : Within 500 value)
    (lower : leastScore ≤ score) (upper : score ≤ greatestScore) :
    scaleByScore rule value score = value * exactFactor rule score := by
  have fits : saturate (value * exactFactor rule score) = value * exactFactor rule score :=
    saturate_of_within
      ((valueFits.mul (exactFactor_within rule lower upper)).mono (by decide))
  obtain ⟨stepsLower, stepsUpper⟩ := scoreSteps_mem score
  cases rule with
  | multiplicative =>
      have held : (max 0 (min (scoreSteps score - 1) 62)).toNat = (scoreSteps score - 1).toNat := by
        omega
      rw [← fits, exactFactor_multiplicative lower upper, ← held]
      rfl
  | additive =>
      rw [← fits, exactFactor_additive lower upper]
      rfl

/-- The nearest score that a play code can give. -/
def heldScore (score : Int) : Int :=
  max leastScore (min score greatestScore)

theorem heldScore_mem (score : Int) :
    leastScore ≤ heldScore score ∧ heldScore score ≤ greatestScore := by
  unfold heldScore leastScore greatestScore
  omega

theorem heldScore_of_mem (lower : leastScore ≤ score) (upper : score ≤ greatestScore) :
    heldScore score = score := by
  unfold heldScore
  omega

theorem scoreSteps_heldScore (score : Int) : scoreSteps (heldScore score) = scoreSteps score := by
  obtain ⟨lower, upper⟩ := heldScore_mem score
  have held : max leastScore (min (heldScore score) greatestScore) = heldScore score :=
    heldScore_of_mem lower upper
  simp only [scoreSteps, held]
  rfl

theorem scaleByScore_heldScore (rule : HundredRule) (value score : Int) :
    scaleByScore rule value (heldScore score) = scaleByScore rule value score := by
  cases rule <;> simp only [scaleByScore, scoreSteps_heldScore]

end Scaling

/-- How many times the table counts the value of a commitment with a score. -/
def scoreFactor (table : Table) (score : Int) : Int :=
  exactFactor table.rules.hundred (heldScore score)

/-- What one commitment brings a side for each unit of its value. -/
def exactUnits (table : Table) (side : Side) (commitment : Commitment) : Int :=
  match side with
  | .own => exactOwnUnits table.players commitment
  | .opponent => exactOpponentUnits commitment

variable {table : Table} {commitment : Commitment}

theorem exactUnits_within (side : Side) (boost : commitment.boost ≤ greatestBoost) :
    Within (16 * table.counterparts side) (table.exactUnits side commitment) := by
  have enough := table.two_le_opponents
  cases side with
  | own =>
      obtain ⟨least, most⟩ :=
        two_pow_boost_mul_mem boost (by omega : 0 ≤ (table.players : Int) - 1)
      unfold exactUnits exactOwnUnits counterparts Within
      cases commitment.won <;> cases commitment.basePayment <;> simp <;> omega
  | opponent =>
      obtain ⟨lower, upper⟩ := two_pow_boost_mem boost
      unfold exactUnits exactOpponentUnits counterparts Within
      cases commitment.won <;> cases commitment.soloParity <;> simp <;> omega

theorem units_own (room : table.HasRoom) (boost : commitment.boost ≤ greatestBoost) :
    table.units commitment .own = exactOwnUnits table.players commitment := by
  have enough := table.two_le_opponents
  have bound := room.opponents
  have heldBoost : min commitment.boost greatestBoost = commitment.boost := min_eq_left boost
  obtain ⟨least, most⟩ := two_pow_boost_mul_mem boost (by omega : 0 ≤ (table.players : Int) - 1)
  unfold ceilingPerOpponent at bound
  have product : mul (2 ^ commitment.boost) (table.players - 1) =
      2 ^ commitment.boost * (table.players - 1) :=
    saturate_of_within ⟨by omega, by omega⟩
  have difference : sub (2 ^ commitment.boost * (table.players - 1)) (table.players - 1 - 1) =
      2 ^ commitment.boost * (table.players - 1) - (table.players - 1 - 1) :=
    saturate_of_within ⟨by omega, by omega⟩
  simp only [units, exactOwnUnits, opponents_eq room, heldBoost, int_pow_eq, reduceCtorEq,
    false_and, if_false, if_true, product, difference]

/-- An opponent takes no part in a base payment, which comes with solo parity. -/
theorem units_opponent (fits : commitment.MarksFit) :
    table.units commitment .opponent = exactOpponentUnits commitment := by
  have heldBoost : min commitment.boost greatestBoost = commitment.boost :=
    min_eq_left fits.2.1
  cases solo : commitment.soloParity with
  | true => simp [units, exactOpponentUnits, solo]
  | false =>
      have unpaid := fits.unpaid solo
      cases won : commitment.won <;>
        simp [units, exactOpponentUnits, solo, unpaid, heldBoost, won]

theorem units_eq (room : table.HasRoom) (fits : commitment.MarksFit) (side : Side) :
    table.units commitment side = table.exactUnits side commitment := by
  cases side
  · exact units_own room fits.2.1
  · exact units_opponent fits

/-- How often the better suit counts a play. -/
def suitFactor (betterSuit : Bool) : Int :=
  if betterSuit then 2 else 1

theorem suitFactor_mem (betterSuit : Bool) :
    1 ≤ suitFactor betterSuit ∧ suitFactor betterSuit ≤ 2 := by
  cases betterSuit <;> exact ⟨by decide, by decide⟩

theorem exactCommitmentValue_eq (side : Side) :
    table.exactCommitmentValue side commitment =
      commitment.value * exactFactor table.rules.hundred commitment.score *
        table.exactUnits side commitment := by
  cases side <;> rfl

/-- However many units a commitment counts, its value is saturated only once. -/
theorem commitmentValue_eq_saturate_factor (table : Table) (commitment : Commitment)
    (betterSuit : Bool) (side : Side) :
    table.commitmentValue commitment betterSuit side =
      saturate (commitment.value * table.scoreFactor commitment.score *
        table.units commitment side * suitFactor betterSuit * table.rules.stake) := by
  obtain ⟨lower, upper⟩ := heldScore_mem commitment.score
  have scaled := scaleByScore_eq table.rules.hundred commitment.value_within lower upper
  rw [scaleByScore_heldScore] at scaled
  rw [commitmentValue, scaled, ← mul_saturate table.one_le_stake,
    ← mul_saturate (suitFactor_mem betterSuit).1]
  rfl

theorem commitmentValue_eq_saturate (fits : commitment.MarksFit) (betterSuit : Bool)
    (side : Side) :
    table.commitmentValue commitment betterSuit side =
      saturate (commitment.value * exactFactor table.rules.hundred commitment.score *
        table.units commitment side * suitFactor betterSuit * table.rules.stake) := by
  obtain ⟨lower, upper⟩ := fits.2.2.mem_range
  rw [commitmentValue_eq_saturate_factor, scoreFactor, heldScore_of_mem lower upper]

/-- The value of a commitment is its exact value, saturated only once. -/
theorem commitmentValue_eq (room : table.HasRoom) (fits : commitment.MarksFit)
    (betterSuit : Bool) (side : Side) :
    table.commitmentValue commitment betterSuit side =
      saturate (table.exactCommitmentValue side commitment * suitFactor betterSuit *
        table.rules.stake) := by
  rw [commitmentValue_eq_saturate fits, units_eq room fits, exactCommitmentValue_eq]

end Table

end TrickLedger
