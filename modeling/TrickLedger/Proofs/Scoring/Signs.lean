import TrickLedger.Proofs.Scoring.Surplus

/-!
# Won and lost plays

Saturation and the ceiling never turn a sign, at tables of any size.  A play whose
commitments were all won brings its player something and costs no opponent less than
nothing, and one whose commitments were all lost does the opposite.
-/

namespace TrickLedger

open Money

namespace Play

/-- All commitments of the play that are not empty ended alike. -/
def AllEnd (play : Play) (won : Bool) : Prop :=
  ∀ commitment ∈ play.commitments, commitment.isEmpty = false → commitment.won = won

/-- All commitments of the play that are not empty have solo parity. -/
def AllSolo (play : Play) : Prop :=
  ∀ commitment ∈ play.commitments, commitment.isEmpty = false → commitment.soloParity = true

instance (play : Play) (won : Bool) : Decidable (play.AllEnd won) := by
  unfold AllEnd
  infer_instance

instance (play : Play) : Decidable play.AllSolo := by
  unfold AllSolo
  infer_instance

theorem allSolo_iff {play : Play} :
    play.AllSolo ↔ (play.base.isEmpty ∨ play.base.soloParity) ∧
      (play.link.isEmpty ∨ play.link.soloParity) := by
  simp only [AllSolo, commitments, List.forall_mem_cons, Bool.eq_false_iff, ← or_iff_not_imp_left]
  simp

end Play

theorem Commitment.sign_value (commitment : Commitment) :
    commitment.value.sign = if commitment.isEmpty then 0 else 1 := by
  unfold value isEmpty
  cases commitment.contract with
  | none => rfl
  | some contract => exact Int.sign_eq_one_of_pos contract.value_pos

theorem sign_add_of_same {first second : Int} (same : first.sign = second.sign) :
    (first + second).sign = second.sign := by
  apply sign_eq_sign
  all_goals
    rcases lt_trichotomy second 0 with below | rfl | above
    · rw [Int.sign_eq_neg_one_of_neg below, Int.sign_eq_neg_one_iff_neg] at same
      omega
    · rw [Int.sign_zero, Int.sign_eq_zero_iff_zero] at same
      omega
    · rw [Int.sign_eq_one_of_pos above, Int.sign_eq_one_iff_pos] at same
      omega

/-- A sum of two values that have a given sign or are zero is zero only if both of them are. -/
theorem sign_add_ite {firstZero secondZero : Prop} [Decidable firstZero] [Decidable secondZero]
    {first second sign : Int} (firstSign : first.sign = if firstZero then 0 else sign)
    (secondSign : second.sign = if secondZero then 0 else sign) :
    (first + second).sign = if firstZero ∧ secondZero then 0 else sign := by
  by_cases none : firstZero
  · rw [if_pos none, Int.sign_eq_zero_iff_zero] at firstSign
    simpa [none, firstSign] using secondSign
  · rw [if_neg none] at firstSign
    by_cases alone : secondZero
    · rw [if_pos alone, Int.sign_eq_zero_iff_zero] at secondSign
      simpa [none, secondSign] using firstSign
    · rw [if_neg alone] at secondSign
      rw [sign_add_of_same (firstSign.trans secondSign.symm), secondSign, if_neg (none ·.1)]

namespace Table

variable {table : Table} {commitment : Commitment} {play : Play}

theorem two_le_countedOpponents (table : Table) :
    2 ≤ table.opponents ∧ table.opponents ≤ greatest := by
  have enough := table.two_le_opponents
  unfold Table.opponents greatest
  omega

/-- A commitment counts at least one unit for its own side, and no more than amounts hold. -/
theorem units_own_mem (table : Table) (commitment : Commitment) :
    0 < outcomeSign commitment.won * table.units commitment .own ∧
      outcomeSign commitment.won * table.units commitment .own ≤ greatest := by
  obtain ⟨lower, upper⟩ := table.two_le_countedOpponents
  obtain ⟨least, most⟩ := two_pow_boost_mul_mem (min_le_right commitment.boost greatestBoost)
    (by omega : 0 ≤ table.opponents)
  have product : table.opponents ≤ mul (2 ^ min commitment.boost greatestBoost) table.opponents ∧
      mul (2 ^ min commitment.boost greatestBoost) table.opponents ≤ greatest := by
    have negative : Money.least < 0 := by decide
    unfold mul saturate
    omega
  simp only [units, int_pow_eq, reduceCtorEq, false_and, if_false, if_true]
  generalize mul _ table.opponents = paid at product
  have rest : sub paid (table.opponents - 1) = paid - (table.opponents - 1) :=
    saturate_of_within ⟨by omega, by omega⟩
  rw [rest]
  unfold outcomeSign
  cases commitment.won <;> cases commitment.basePayment <;> simp <;> omega

theorem sign_units_own (table : Table) (commitment : Commitment) :
    (table.units commitment .own).sign = outcomeSign commitment.won := by
  have positive := (table.units_own_mem commitment).1
  cases won : commitment.won with
  | false => exact Int.sign_eq_neg_one_of_neg (by simpa [outcomeSign, won] using positive)
  | true => exact Int.sign_eq_one_of_pos (by simpa [outcomeSign, won] using positive)

theorem sign_units_opponent (fits : commitment.MarksFit) :
    (table.units commitment .opponent).sign =
      if commitment.soloParity then 0 else -outcomeSign commitment.won := by
  have doubled : ((2 : Int) ^ commitment.boost).sign = 1 :=
    Int.sign_eq_one_of_pos (pow_pos (by decide) _)
  rw [units_opponent fits, exactOpponentUnits]
  cases commitment.soloParity <;> cases commitment.won <;> simp [outcomeSign, doubled]

/-- The value of a commitment has the sign of its units. -/
theorem sign_commitmentValue (fits : commitment.MarksFit) (betterSuit : Bool) (side : Side) :
    (table.commitmentValue commitment betterSuit side).sign =
      if commitment.isEmpty then 0 else (table.units commitment side).sign := by
  have factor := Int.sign_eq_one_of_pos (exactFactor_pos table.rules.hundred fits.2.2)
  have suit := Int.sign_eq_one_of_pos (zero_lt_one.trans_le (suitFactor_mem betterSuit).1)
  have stake := Int.sign_eq_one_of_pos (zero_lt_one.trans_le table.one_le_stake)
  rw [commitmentValue_eq_saturate fits, sign_saturate]
  simp only [Int.sign_mul, factor, suit, stake, commitment.sign_value, mul_one]
  split <;> simp

theorem ceiling_pos (table : Table) (side : Side) : 0 < table.ceiling side := by
  have single : 0 < table.ceiling .opponent := by
    apply saturate_pos
    exact mul_pos (by decide) (zero_lt_one.trans_le table.one_le_stake)
  cases side with
  | own =>
      have opponents := table.two_le_countedOpponents.1
      exact saturate_pos (mul_pos single (by omega))
  | opponent => exact single

/-- The value of a play has the sign of the sum of its commitments. -/
theorem sign_playValue (table : Table) (play : Play) (side : Side) :
    (table.playValue play side).sign =
      (table.commitmentValue play.base play.betterSuit side +
        table.commitmentValue play.link play.betterSuit side).sign := by
  rw [playValue, sign_clampTo (table.ceiling_pos side), Money.add, sign_saturate]

section Ended

variable {won : Bool}

theorem sign_commitmentValue_own (fits : commitment.MarksFit)
    (ended : commitment.isEmpty = false → commitment.won = won) (betterSuit : Bool) :
    (table.commitmentValue commitment betterSuit .own).sign =
      if commitment.isEmpty then 0 else outcomeSign won := by
  rw [sign_commitmentValue fits, sign_units_own]
  cases empty : commitment.isEmpty with
  | true => rfl
  | false => rw [ended empty]

theorem sign_commitmentValue_opponent (fits : commitment.MarksFit)
    (ended : commitment.isEmpty = false → commitment.won = won) (betterSuit : Bool) :
    (table.commitmentValue commitment betterSuit .opponent).sign =
      if commitment.isEmpty ∨ commitment.soloParity then 0 else -outcomeSign won := by
  rw [sign_commitmentValue fits, sign_units_opponent fits]
  cases empty : commitment.isEmpty with
  | true => simp
  | false => simp [ended empty]

/-- The own value of a play has the sign of its outcome. -/
theorem sign_playValue_own (table : Table) (wellFormed : play.WellFormed)
    (ended : play.AllEnd won) : (table.playValue play .own).sign = outcomeSign won := by
  have named : play.base.isEmpty = false := by
    simpa [Commitment.isEmpty] using wellFormed.base_isSome
  rw [sign_playValue, sign_add_ite
    (sign_commitmentValue_own wellFormed.1 (ended play.base (.head _)) play.betterSuit)
    (sign_commitmentValue_own wellFormed.2.1 (ended play.link (.tail _ (.head _)))
      play.betterSuit), named]
  simp

/-- The value of a play to an opponent has the other sign, or is zero with solo parity. -/
theorem sign_playValue_opponent (table : Table) (wellFormed : play.WellFormed)
    (ended : play.AllEnd won) :
    (table.playValue play .opponent).sign = if play.AllSolo then 0 else -outcomeSign won := by
  rw [sign_playValue, sign_add_ite
    (sign_commitmentValue_opponent wellFormed.1 (ended play.base (.head _)) play.betterSuit)
    (sign_commitmentValue_opponent wellFormed.2.1 (ended play.link (.tail _ (.head _)))
      play.betterSuit)]
  simp only [Play.allSolo_iff]

theorem playValue_opponent_eq_zero_iff (table : Table) (wellFormed : play.WellFormed)
    (ended : play.AllEnd won) : table.playValue play .opponent = 0 ↔ play.AllSolo := by
  rw [← Int.sign_eq_zero_iff_zero, table.sign_playValue_opponent wellFormed ended]
  cases won <;> simp [outcomeSign]

end Ended

/-- A won play brings its player something within the ceiling, and costs each opponent no
more than theirs; a lost one does the opposite.  The opponents are left out exactly if all
commitments have solo parity. -/
theorem worth_of_allEnd (table : Table) {code : String} {play : Play}
    (read : Play.ofCode code = .ok play) :
    ∃ worth, table.worthOfCode code = .ok worth ∧
      (play.AllEnd true →
        0 < worth.own ∧ worth.own ≤ 15000 * table.rules.stake * ((table.players : Int) - 1) ∧
          -(15000 * (table.rules.stake : Int)) ≤ worth.opponent ∧ worth.opponent ≤ 0) ∧
      (play.AllEnd false →
        -(15000 * table.rules.stake * ((table.players : Int) - 1)) ≤ worth.own ∧ worth.own < 0 ∧
          0 ≤ worth.opponent ∧ worth.opponent ≤ 15000 * table.rules.stake) ∧
      (play.AllEnd true ∨ play.AllEnd false → (worth.opponent = 0 ↔ play.AllSolo)) := by
  have wellFormed := Play.wellFormed_of_ofCode read
  obtain ⟨ownLeast, ownMost⟩ := table.playValue_within play .own
  obtain ⟨opponentLeast, opponentMost⟩ := table.playValue_within play .opponent
  have ownSign (won : Bool) (ended : play.AllEnd won) := table.sign_playValue_own wellFormed ended
  have opponentSign (won : Bool) (ended : play.AllEnd won) :=
    table.sign_playValue_opponent wellFormed ended
  refine ⟨table.worth play, by rw [worthOfCode, read, ok_bind], fun won => ?_, fun lost => ?_,
    fun ended => ?_⟩
  · have nonpos : table.playValue play .opponent ≤ 0 := by
      rw [← Int.sign_nonpos_iff, opponentSign true won]
      split <;> decide
    exact ⟨Int.sign_eq_one_iff_pos.mp (ownSign true won), ownMost, opponentLeast, nonpos⟩
  · have nonneg : 0 ≤ table.playValue play .opponent := by
      rw [← Int.sign_nonneg_iff, opponentSign false lost]
      split <;> decide
    exact ⟨ownLeast, Int.sign_eq_neg_one_iff_neg.mp (ownSign false lost), nonneg, opponentMost⟩
  · rcases ended with won | lost
    · exact table.playValue_opponent_eq_zero_iff wellFormed won
    · exact table.playValue_opponent_eq_zero_iff wellFormed lost

/-- As many players and as large a stake as words of 64 and 32 bits count. -/
def widestTable : Table where
  players := 2 ^ 64 - 1
  rules := vastTable.rules
  players_enough := by decide
  stake_pos := vastTable.stake_pos

/-- A base payment for a hundred lost at its least score, and a seven that was lost with it. -/
def lostHundredAndSeven : Play where
  base :=
    { soloParity := true, basePayment := true, boost := 4, contract := some .hundred
      score := -100 }
  link := { boost := 1, contract := some .seven }
  betterSuit := true

theorem worth_of_allEnd_lostHundredAndSeven :
    ∃ worth, widestTable.worthOfCode "$:-4k-100-1s*" = .ok worth ∧
      -(15000 * (2 ^ 32 - 1) * (2 ^ 64 - 2)) ≤ worth.own ∧ worth.own < 0 ∧
        0 ≤ worth.opponent ∧ worth.opponent ≤ 15000 * (2 ^ 32 - 1) ∧ worth.opponent ≠ 0 := by
  have read : Play.ofCode "$:-4k-100-1s*" = .ok lostHundredAndSeven := by rfl
  have lost : lostHundredAndSeven.AllEnd false := by decide
  obtain ⟨worth, found, -, costs, alone⟩ := worth_of_allEnd widestTable read
  obtain ⟨ownLeast, own, opponent, opponentMost⟩ := costs lost
  exact ⟨worth, found, ownLeast, own, opponent, opponentMost,
    (alone (.inr lost)).not.mpr (by decide)⟩

end Table

end TrickLedger
