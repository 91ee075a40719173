import Mathlib.Tactic.Ring
import TrickLedger.Proofs.Play.WellFormed
import TrickLedger.Proofs.Scoring.Commitment

/-!
# Exact values of plays

A well-formed play has at most one commitment that scores, and the other is too light
to bring a saturated value back under the ceiling.  Hence plays are worth their exact
values wherever amounts have room for twice the ceiling.
-/

namespace TrickLedger

open Money

/-- A commitment that has no score and is no fault stays below the ceiling, whatever its
boost and the suit. -/
def Commitment.Light (commitment : Commitment) : Prop :=
  commitment.value ≤ 400 ∧ commitment.score = defaultScore

theorem Commitment.light_of_contract {commitment : Commitment} {contract : Contract}
    (fits : commitment.MarksFit) (named : commitment.contract = some contract)
    (noScore : contract.hasScore = false) (noFault : contract.isFault = false) :
    commitment.Light := by
  constructor
  · rw [Commitment.value, named]
    cases contract <;> first | decide | cases noFault
  · have fitting := fits.2.2
    rw [ScoreFits, named, Option.any_some, noScore] at fitting
    exact fitting

theorem Commitment.light_empty : ({} : Commitment).Light :=
  ⟨by decide, rfl⟩

/-- Only one commitment of a play can score, and a fault stands alone. -/
theorem Play.WellFormed.light {play : Play} (wellFormed : play.WellFormed) :
    play.base.Light ∨ play.link.Light := by
  obtain ⟨baseFits, linkFits, contractsFit, -⟩ := wellFormed
  cases named : play.base.contract with
  | none => simp [ContractsFit, named] at contractsFit
  | some contract =>
      rw [ContractsFit, named] at contractsFit
      cases contract with
      | fold | minorFault | majorFault =>
          obtain ⟨-, -, link, -⟩ := contractsFit
          exact .inr (link ▸ Commitment.light_empty)
      | seven | twoSevens => exact .inl (Commitment.light_of_contract baseFits named rfl rfl)
      | hundred =>
          rcases contractsFit with link | linked | ⟨linked, -⟩
          · exact .inr (link ▸ Commitment.light_empty)
          · exact .inr (Commitment.light_of_contract linkFits linked rfl rfl)
          · exact .inr (Commitment.light_of_contract linkFits linked rfl rfl)
      | betl | majklBetl | majklSuperBetl | durch =>
          exact .inr (contractsFit.1 ▸ Commitment.light_empty)
      | game | silentSeven | silentHundred => simp [Contract.isFault] at contractsFit

namespace Table

variable {table : Table}

theorem exactFactor_defaultScore (rule : HundredRule) : exactFactor rule defaultScore = 1 := by
  cases rule <;> rfl

theorem within_of_light {commitment : Commitment} (light : commitment.Light)
    (boost : commitment.boost ≤ greatestBoost) (betterSuit : Bool) (side : Side) :
    Within (12800 * (table.rules.stake * table.counterparts side))
      (table.exactCommitmentValue side commitment * suitFactor betterSuit * table.rules.stake) := by
  have value : Within 400 commitment.value := by
    have nonneg : 0 ≤ commitment.value := by
      unfold Commitment.value
      cases commitment.contract with
      | none => decide
      | some contract => exact contract.value_pos.le
    exact within_of_nonneg nonneg light.1
  have suit : Within 2 (suitFactor betterSuit) := by
    obtain ⟨lower, upper⟩ := suitFactor_mem betterSuit
    exact within_of_nonneg (by omega) upper
  have stake : Within table.rules.stake table.rules.stake :=
    within_of_nonneg (Int.natCast_nonneg _) le_rfl
  have product := ((value.mul (table.exactUnits_within side boost)).mul suit).mul stake
  rw [exactCommitmentValue_eq, light.2, exactFactor_defaultScore, mul_one]
  convert product using 1
  ring

theorem exactPlayValue_eq (play : Play) (side : Side) :
    table.exactPlayValue play side =
      clampTo (table.exactCeiling side)
        (table.exactCommitmentValue side play.base * suitFactor play.betterSuit *
            table.rules.stake +
          table.exactCommitmentValue side play.link * suitFactor play.betterSuit *
            table.rules.stake) := by
  unfold exactPlayValue suitFactor
  congr 1
  ring

/-- A play is worth its exact value to both sides, although one of its commitments
may have been saturated. -/
theorem playValue_eq_exactPlayValue (room : table.HasRoom) {play : Play}
    (wellFormed : play.WellFormed) (side : Side) :
    table.playValue play side = table.exactPlayValue play side := by
  have light := wellFormed.light
  obtain ⟨baseFits, linkFits, -⟩ := wellFormed
  have nonneg := table.exactCeiling_nonneg side
  -- A light commitment comes to less than the ceiling, and there is room for two of those.
  have margin : table.exactCeiling side +
      12800 * (table.rules.stake * table.counterparts side) ≤ greatest := by
    have bound := room.exactCeiling side
    rw [exactCeiling_eq] at nonneg bound ⊢
    unfold ceilingPerOpponent at *
    omega
  rw [playValue, ceiling_eq room, commitmentValue_eq room baseFits,
    commitmentValue_eq room linkFits, exactPlayValue_eq]
  rcases light with baseLight | linkLight
  · rw [Money.add_comm, add_comm (table.exactCommitmentValue side play.base * _ * _)]
    exact clampTo_add_saturate nonneg (within_of_light baseLight baseFits.2.1 _ side) margin _
  · exact clampTo_add_saturate nonneg (within_of_light linkLight linkFits.2.1 _ side) margin _

theorem hasRoom_of_opponents_mul_stake_le
    (small : ((table.players : Int) - 1) * table.rules.stake ≤ 2 ^ 48) : table.HasRoom := by
  have swapped : (table.rules.stake : Int) * (table.players - 1) ≤ 2 ^ 48 := by
    rwa [mul_comm]
  unfold HasRoom ceilingPerOpponent greatest
  rw [mul_assoc]
  omega

/-- Money is exact in spite of saturation: as long as the stake times the number of
opponents is at most 2 ^ 48, whatever code is read is worth, to the player and to
each opponent, the value computed in unbounded integers. -/
theorem worthOfCode_eq_exact (table : Table) {code : String} {play : Play}
    (read : Play.ofCode code = .ok play)
    (small : ((table.players : Int) - 1) * table.rules.stake ≤ 2 ^ 48) :
    table.worthOfCode code =
      .ok {
        own := table.exactPlayValue play .own
        opponent := table.exactPlayValue play .opponent
        comment := play.comment } := by
  have room := hasRoom_of_opponents_mul_stake_le small
  have wellFormed := Play.wellFormed_of_ofCode read
  rw [worthOfCode, read, ok_bind, worth, playValue_eq_exactPlayValue room wellFormed,
    playValue_eq_exactPlayValue room wellFormed]

/-- The largest stake at as many players as it allows. -/
def vastTable : Table where
  players := 2 ^ 16 + 1
  rules := { stake := 2 ^ 32 - 1 }
  players_enough := by decide
  stake_pos := by decide

/-- Two sevens won with a linked hundred lost at its least score, all boosted to the
greatest and in the better suit. -/
def lostLinkedHundred : Play where
  base := { won := true, boost := 4, contract := some .twoSevens }
  link := { boost := 4, contract := some .hundred, score := -100 }
  betterSuit := true

/-- The value of the linked hundred is saturated here, at the bound of money. -/
theorem worthOfCode_eq_exact_lostLinkedHundred :
    vastTable.worthOfCode "+4v-4k-100*" =
      .ok {
        own := -(15000 * (2 ^ 32 - 1) * 2 ^ 16)
        opponent := 15000 * (2 ^ 32 - 1)
        comment := none } := by
  have read : Play.ofCode "+4v-4k-100*" = .ok lostLinkedHundred := by rfl
  exact (worthOfCode_eq_exact vastTable read (by decide)).trans (by rfl)

end Table

end TrickLedger
