import TrickLedger.Proofs.Scoring.Signs
import TrickLedger.Scoring.Words

/-!
# Scoring without overflow

Every step of scoring in words has a result, at all tables and for all plays that words can
hold, also those that no code stands for.  The results are the values of the plays.
-/

namespace TrickLedger

open Money

variable {value : Int}

namespace WordRange

variable {range : WordRange}

theorem hold_eq_ok (lower : range.lowest ≤ value) (upper : value ≤ range.highest) :
    range.hold value = .ok value :=
  if_pos ⟨lower, upper⟩

theorem hold_amount (within : Within greatest value) : amounts.hold value = .ok value :=
  hold_eq_ok (least_lt_neg_greatest.le.trans within.1) within.2

theorem hold_unsigned {bits number : Nat} (fits : number < 2 ^ bits) :
    (unsigned bits).hold number = .ok (number : Int) := by
  have upper : (number : Int) < 2 ^ bits := by exact_mod_cast fits
  exact hold_eq_ok (Int.natCast_nonneg _) (Int.le_sub_one_of_lt upper)

end WordRange

namespace Word

open WordRange

theorem neg_eq_ok (within : Within greatest value) : neg value = .ok (-value) :=
  hold_amount within.neg

theorem negIf_eq_ok (condition : Bool) (within : Within greatest value) :
    negIf condition value = .ok (if condition then -value else value) := by
  cases condition
  · rfl
  · exact neg_eq_ok within

theorem shiftOne_eq_ok {places : Int} (lower : 0 ≤ places) (upper : places ≤ 62) :
    shiftOne places = .ok (2 ^ places.toNat) := by
  have most : (2 : Int) ^ places.toNat ≤ 2 ^ 62 := pow_le_pow_right₀ (by decide) (by omega)
  rw [shiftOne, if_pos (by omega)]
  exact hold_amount (within_of_nonneg (pow_nonneg (by decide) _) (most.trans (by decide)))

theorem clamp_eq_ok {lower upper : Int} (ordered : lower ≤ upper) (value : Int) :
    clamp lower upper value = .ok (max lower (min value upper)) :=
  if_pos ordered

theorem scoreSteps_eq_ok {score : Int} (lower : least ≤ score) (upper : score ≤ greatest) :
    scoreSteps score = .ok (Table.scoreSteps score) := by
  rw [scoreSteps, Table.scoreSteps, hold_eq_ok lower upper, ok_bind,
    clamp_eq_ok (by decide), ok_bind]
  -- The score is clamped before the differences are taken.
  have held : leastScore ≤ max leastScore (min score greatestScore) ∧
      max leastScore (min score greatestScore) ≤ greatestScore := by
    unfold leastScore greatestScore
    omega
  generalize max leastScore (min score greatestScore) = score at held
  unfold leastScore greatestScore at held
  by_cases below : score < 100
  · have distance : amounts.sub 100 score = .ok (100 - score) :=
      hold_amount (by unfold Within greatest; omega)
    have nonneg : 0 ≤ 100 - score := by omega
    rw [if_pos below, if_pos below, distance, ok_bind, ← Int.tdiv_eq_ediv_of_nonneg nonneg]
  · have distance : amounts.sub score 90 = .ok (score - 90) :=
      hold_amount (by unfold Within greatest; omega)
    have nonneg : 0 ≤ score - 90 := by omega
    rw [if_neg below, if_neg below, distance, ok_bind, ← Int.tdiv_eq_ediv_of_nonneg nonneg]

theorem scaleByScore_eq_ok (rule : HundredRule) (value : Int) {score : Int}
    (lower : least ≤ score) (upper : score ≤ greatest) :
    scaleByScore rule value score = .ok (Table.scaleByScore rule value score) := by
  obtain ⟨stepsLower, stepsUpper⟩ := Table.scoreSteps_mem score
  rw [scaleByScore, scoreSteps_eq_ok lower upper, ok_bind]
  cases rule with
  | multiplicative =>
      have doublings : amounts.sub (Table.scoreSteps score) 1 = .ok (Table.scoreSteps score - 1) :=
        hold_amount (by unfold Within greatest; omega)
      simp only [doublings, ok_bind, clamp_eq_ok (show (0 : Int) ≤ 62 by decide)]
      rw [shiftOne_eq_ok (by omega) (by omega), ok_bind]
      rfl
  | additive => rfl

end Word

namespace Table

variable {table : Table} {commitment : Commitment}

/-- The table with its opponents counted. -/
def counted (table : Table) : WordTable :=
  ⟨table.opponents, table.opponents - 1, table.rules⟩

theorem inWords_eq_ok (fits : table.FitsWords) : table.inWords = .ok table.counted := by
  obtain ⟨lower, upper⟩ := table.two_le_countedOpponents
  have enough := table.two_le_opponents
  have players := WordRange.hold_unsigned fits.1
  have opponents : (WordRange.unsigned 64).sub table.players 1 =
      .ok ((table.players - 1 : Nat) : Int) := by
    have less : table.players - 1 < 2 ^ 64 := by have := fits.1; omega
    have difference : (table.players : Int) - 1 = (table.players - 1 : Nat) := by omega
    rw [WordRange.sub, difference]
    exact WordRange.hold_unsigned less
  have others : WordRange.amounts.sub table.opponents 1 = .ok (table.opponents - 1) :=
    WordRange.hold_amount ⟨by omega, by omega⟩
  rw [inWords, players, ok_bind, opponents, ok_bind]
  change (WordRange.amounts.sub table.opponents 1 >>= _) = _
  rw [others, ok_bind]
  rfl

theorem counted_stake (fits : table.FitsWords) :
    table.counted.stake = .ok (table.rules.stake : Int) :=
  WordRange.hold_unsigned fits.2

/-- An opponent has no part in a base payment, so the units of a commitment are never too far
below zero to be negated. -/
theorem units_within (pays : commitment.PaysSolo) (side : Side) :
    Within greatest (table.units commitment side) := by
  cases side with
  | own =>
      obtain ⟨positive, most⟩ := table.units_own_mem commitment
      cases won : commitment.won <;> simp [outcomeSign, won] at positive most
      · exact ⟨by omega, by omega⟩
      · exact ⟨by omega, most⟩
  | opponent =>
      cases solo : commitment.soloParity with
      | true =>
          simp only [units, solo, and_self, if_true]
          exact ⟨by decide, by decide⟩
      | false =>
          have unpaid := Commitment.basePayment_eq_false pays solo
          have doubled := two_pow_boost_mem (min_le_right commitment.boost greatestBoost)
          have few : 16 ≤ greatest := by decide
          cases won : commitment.won
          all_goals
            simp only [units, solo, unpaid, won, int_pow_eq, Bool.false_eq_true, and_false,
              reduceCtorEq, if_false, if_true]
            exact ⟨by omega, by omega⟩

theorem shiftOne_boost (boost : Nat) :
    Word.shiftOne (min (boost : Int) greatestBoost) = .ok (2 ^ min boost greatestBoost) := by
  have places : (min (boost : Int) greatestBoost).toNat = min boost greatestBoost := by omega
  rw [Word.shiftOne_eq_ok (by omega) (by unfold greatestBoost; omega), places]

theorem doubled_within (boost : Nat) : Within greatest (2 ^ min boost greatestBoost) := by
  have doubled := two_pow_boost_mem (min_le_right boost greatestBoost)
  exact within_of_nonneg (by omega) (doubled.2.trans (by decide))

theorem counted_units (boost : commitment.boost < 2 ^ 8) (pays : commitment.PaysSolo)
    (side : Side) : table.counted.units commitment side = .ok (table.units commitment side) := by
  have few := doubled_within commitment.boost
  have within := table.units_within pays side
  rw [WordTable.units, WordRange.hold_unsigned boost, ok_bind, shiftOne_boost, ok_bind]
  unfold units at within ⊢
  rw [int_pow_eq] at within ⊢
  generalize (2 : Int) ^ min commitment.boost greatestBoost = doubled at few within ⊢
  by_cases early : side = .opponent ∧ commitment.soloParity = true
  · rw [if_pos early, if_pos early]
  · rw [if_neg early] at within ⊢
    rw [if_neg early, Word.negIf_eq_ok _ few, ok_bind]
    simp only [decide_eq_true_eq, counted] at within ⊢
    generalize (if commitment.basePayment = true then _ else _ : Int) = paid at within ⊢
    cases won : commitment.won with
    | false =>
        rw [won, if_neg Bool.false_ne_true] at within
        exact Word.neg_eq_ok (neg_neg paid ▸ within.neg)
    | true => rfl

/-- Opponents with a part in a base payment need room of their own: at a table that is crowded
enough for their boost, what they win has no word. -/
theorem counted_units_of_crowded (boost : commitment.boost < 2 ^ 8)
    (paid : commitment.basePayment = true) (split : commitment.soloParity = false)
    (lost : commitment.won = false)
    (crowded : 2 ^ 63 ≤ 2 ^ min commitment.boost greatestBoost * table.opponents +
      (table.opponents - 1)) :
    table.counted.units commitment .opponent = .error (.outOfRange (2 ^ 63)) := by
  have enough := table.two_le_countedOpponents.1
  have signed := Word.neg_eq_ok (doubled_within commitment.boost)
  have debt : Money.sub (Money.mul (-2 ^ min commitment.boost greatestBoost) table.opponents)
      (table.opponents - 1) = least := by
    unfold Money.sub Money.mul
    rw [neg_mul]
    generalize 2 ^ min commitment.boost greatestBoost * table.opponents = product at crowded ⊢
    unfold saturate least greatest
    omega
  have unpayable : Word.neg least = .error (.outOfRange (2 ^ 63)) := by rfl
  rw [WordTable.units, WordRange.hold_unsigned boost, ok_bind, shiftOne_boost, ok_bind]
  simp only [Word.negIf, split, paid, lost, counted, Bool.false_eq_true, and_false, if_false,
    decide_true, Bool.not_false, if_true]
  rw [signed, ok_bind, debt, unpayable]

theorem counted_commitmentValue (fits : table.FitsWords) (words : commitment.FitsWords)
    (pays : commitment.PaysSolo) (betterSuit : Bool) (side : Side) :
    table.counted.commitmentValue commitment betterSuit side =
      .ok (table.commitmentValue commitment betterSuit side) := by
  obtain ⟨boost, lower, upper⟩ := words
  rw [WordTable.commitmentValue, Word.scaleByScore_eq_ok _ _ lower upper, ok_bind,
    counted_units boost pays, ok_bind, counted_stake fits, ok_bind]
  rfl

theorem counted_ceiling (fits : table.FitsWords) (side : Side) :
    table.counted.ceiling side = .ok (table.ceiling side) := by
  rw [WordTable.ceiling, counted_stake fits, ok_bind]
  cases side <;> rfl

theorem counted_playValue (fits : table.FitsWords) {play : Play}
    (words : ∀ commitment ∈ play.commitments, commitment.FitsWords)
    (pays : ∀ commitment ∈ play.commitments, commitment.PaysSolo) (side : Side) :
    table.counted.playValue play side = .ok (table.playValue play side) := by
  have positive := table.ceiling_pos side
  have most : table.ceiling side ≤ greatest := by
    cases side <;> exact saturate_le_greatest _
  have value (commitment : Commitment) (made : commitment ∈ play.commitments) :=
    counted_commitmentValue fits (words commitment made) (pays commitment made) play.betterSuit side
  rw [WordTable.playValue, value play.base (.head _), ok_bind, value play.link (.tail _ (.head _)),
    ok_bind, counted_ceiling fits, ok_bind, Word.neg_eq_ok (within_of_nonneg positive.le most),
    ok_bind, Word.clamp_eq_ok (by omega)]
  rfl

/-- Scoring never leaves its words: all its differences, negations, shifts and clamps have
results, for as many players and as large a stake as words count, and for every play whose
base payments come with solo parity.  The last result is the value of the play. -/
theorem playValue_inWords (table : Table) (play : Play) (side : Side) (fits : table.FitsWords)
    (words : ∀ commitment ∈ play.commitments, commitment.FitsWords)
    (pays : ∀ commitment ∈ play.commitments, commitment.PaysSolo) :
    (do
      let counted ← table.inWords
      counted.ceiling side) = .ok (table.ceiling side) ∧
    (do
      let counted ← table.inWords
      counted.playValue play side) = .ok (table.playValue play side) := by
  rw [inWords_eq_ok fits, ok_bind, ok_bind]
  exact ⟨counted_ceiling fits side, counted_playValue fits words pays side⟩

/-- A play that no code stands for, with boosts and scores at the ends of their words. -/
def unwrittenPlay : Play where
  base :=
    { soloParity := true, basePayment := true, boost := 255, contract := some .fold
      score := Money.least }
  link := { won := true, boost := 200, contract := some .game, score := Money.greatest }

theorem playValue_inWords_unwrittenPlay :
    (do
      let counted ← widestTable.inWords
      counted.playValue unwrittenPlay .opponent) = .ok (-(15000 * (2 ^ 32 - 1))) := by
  obtain ⟨-, scored⟩ :=
    playValue_inWords widestTable unwrittenPlay .opponent (by decide) (by decide) (by decide)
  exact scored.trans (by rfl)

end Table

end TrickLedger
