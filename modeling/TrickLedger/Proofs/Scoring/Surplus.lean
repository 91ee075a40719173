import TrickLedger.Balance.SoloParity
import TrickLedger.Proofs.Scoring.Exact

/-!
# Split plays and solo parity

A commitment without solo parity is split between the player who made it and every opponent:
what one side wins is what the other side loses.  What a play leaves all players together with
is the surplus of its commitments with solo parity, which has the sign of their outcome or is
absorbed by the ceiling.
-/

namespace TrickLedger

open Money

/-- Neither commitment of the play has solo parity. -/
def Play.Split (play : Play) : Prop :=
  play.base.soloParity = false ∧ play.link.soloParity = false

theorem Play.split_iff {play : Play} : play.Split ↔ play.hasSoloParity = false := by
  simp [Split, hasSoloParity, commitments]

theorem Play.mem_commitments {play : Play} {commitment : Commitment} :
    commitment ∈ play.commitments ↔ commitment = play.base ∨ commitment = play.link := by
  simp [commitments]

theorem Play.WellFormed.marksFit {play : Play} {commitment : Commitment}
    (wellFormed : play.WellFormed) (made : commitment ∈ play.commitments) :
    commitment.MarksFit := by
  rcases mem_commitments.mp made with rfl | rfl
  · exact wellFormed.1
  · exact wellFormed.2.1

theorem Commitment.value_pos {commitment : Commitment} (named : commitment.contract.isSome) :
    0 < commitment.value := by
  obtain ⟨contract, named⟩ := Option.isSome_iff_exists.mp named
  rw [Commitment.value, named]
  exact contract.value_pos

theorem Play.WellFormed.base_isSome {play : Play} (wellFormed : play.WellFormed) :
    play.base.contract.isSome := by
  obtain ⟨-, -, contractsFit, -⟩ := wellFormed
  by_contra unnamed
  simp [ContractsFit, Option.not_isSome_iff_eq_none.mp unnamed] at contractsFit

/-- Only an empty link has no contract, and it has no solo parity. -/
theorem Play.WellFormed.contract_isSome {play : Play} {commitment : Commitment}
    (wellFormed : play.WellFormed) (made : commitment ∈ play.commitments)
    (solo : commitment.soloParity = true) : commitment.contract.isSome := by
  have base := wellFormed.base_isSome
  obtain ⟨-, -, contractsFit, -⟩ := wellFormed
  have link : play.link = {} ∨ play.link.contract.isSome := by
    unfold ContractsFit at contractsFit
    split at contractsFit
    case h_1 => rcases contractsFit with game | hundred <;> simp [*]
    case h_2 => rcases contractsFit with empty | seven | ⟨silent, -⟩ <;> simp [*]
    case h_3 => rcases contractsFit with empty | hundred <;> simp [*]
    all_goals simp_all
  rcases mem_commitments.mp made with rfl | rfl
  · exact base
  · refine link.resolve_left fun empty => ?_
    simp [empty] at solo

/-- The sign of what a commitment that ended so comes to for its player. -/
def outcomeSign (won : Bool) : Int :=
  if won then 1 else -1

namespace Table

variable {table : Table} {commitment : Commitment} {play : Play}

/-! ### The sign of a commitment -/

theorem exactFactor_pos (rule : HundredRule) (fits : commitment.ScoreFits) :
    0 < exactFactor rule commitment.score := by
  have steps : 0 < if commitment.score < 100 then (100 - commitment.score) / 10
      else (commitment.score - 90) / 10 := by
    unfold Commitment.ScoreFits defaultScore at fits
    split at fits <;> split <;> omega
  cases rule with
  | multiplicative => exact pow_pos (by decide) _
  | additive => exact steps

theorem exactOwnUnits_pos (table : Table) (commitment : Commitment) :
    0 < outcomeSign commitment.won * exactOwnUnits table.players commitment := by
  have enough := table.two_le_opponents
  have doubled : (1 : Int) ≤ 2 ^ commitment.boost := one_le_pow₀ (by decide)
  have paid : (table.players : Int) - 1 ≤ 2 ^ commitment.boost * (table.players - 1) :=
    le_mul_of_one_le_left (by omega) doubled
  unfold exactOwnUnits outcomeSign
  cases commitment.won <;> cases commitment.basePayment <;> simp <;> omega

/-- A commitment that is won brings its player something, and one that is lost costs. -/
theorem exactCommitmentValue_own_pos (table : Table) (fits : commitment.MarksFit)
    (named : commitment.contract.isSome) :
    0 < outcomeSign commitment.won * table.exactCommitmentValue .own commitment := by
  have factors := mul_pos (Commitment.value_pos named)
    (exactFactor_pos table.rules.hundred fits.2.2)
  have product := mul_pos factors (table.exactOwnUnits_pos commitment)
  rwa [mul_left_comm] at product

/-! ### The shares of a play -/

theorem exactOwnUnits_of_split (fits : commitment.MarksFit)
    (split : commitment.soloParity = false) (players : Nat) :
    exactOwnUnits players commitment =
      -(((players : Int) - 1) * exactOpponentUnits commitment) := by
  have unpaid := fits.unpaid split
  cases won : commitment.won <;>
    simp [exactOwnUnits, exactOpponentUnits, split, unpaid, won, mul_comm]

theorem exactCommitmentValue_own_of_split (fits : commitment.MarksFit)
    (split : commitment.soloParity = false) :
    table.exactCommitmentValue .own commitment =
      -(((table.players : Int) - 1) * table.exactCommitmentValue .opponent commitment) := by
  simp only [exactCommitmentValue, exactOwnUnits_of_split fits split]
  ring

theorem soloValue_add (table : Table) (commitment : Commitment) :
    table.soloValue true commitment + table.soloValue false commitment =
      table.exactCommitmentValue .own commitment := by
  cases solo : commitment.soloParity <;> simp [soloValue, solo]

theorem share_add_share (table : Table) (play : Play) :
    table.share true play + table.share false play =
      table.rules.stake * (if play.betterSuit then 2 else 1) *
        (table.exactCommitmentValue .own play.base +
          table.exactCommitmentValue .own play.link) := by
  rw [share, share, ← mul_add, ← soloValue_add, ← soloValue_add]
  congr 1
  ring

/-- The opponents together pay what a commitment without solo parity brings. -/
theorem soloValue_false_eq (fits : commitment.MarksFit) :
    table.soloValue false commitment =
      -(((table.players : Int) - 1) * table.exactCommitmentValue .opponent commitment) := by
  cases solo : commitment.soloParity with
  | false => simp [soloValue, solo, exactCommitmentValue_own_of_split fits solo]
  | true => simp [soloValue, solo, exactCommitmentValue, exactOpponentUnits]

theorem share_false_eq (wellFormed : play.WellFormed) :
    table.share false play =
      -(((table.players : Int) - 1) *
        (table.rules.stake * (if play.betterSuit then 2 else 1) *
          (table.exactCommitmentValue .opponent play.base +
            table.exactCommitmentValue .opponent play.link))) := by
  obtain ⟨baseFits, linkFits, -⟩ := wellFormed
  rw [share, soloValue_false_eq baseFits, soloValue_false_eq linkFits]
  ring

theorem share_true_of_split (split : play.Split) : table.share true play = 0 := by
  simp [share, soloValue, split.1, split.2]

theorem soloValue_true_sign (table : Table) (wellFormed : play.WellFormed)
    (made : commitment ∈ play.commitments) {won : Bool}
    (ended : commitment.soloParity = true → commitment.won = won) :
    0 ≤ outcomeSign won * table.soloValue true commitment ∧
      (commitment.soloParity = true → 0 < outcomeSign won * table.soloValue true commitment) := by
  cases solo : commitment.soloParity with
  | false => simp [soloValue, solo]
  | true =>
      have positive := table.exactCommitmentValue_own_pos (wellFormed.marksFit made)
        (wellFormed.contract_isSome made solo)
      rw [ended solo] at positive
      simp [soloValue, solo, positive, positive.le]

theorem share_true_pos (table : Table) (wellFormed : play.WellFormed)
    (solo : play.hasSoloParity = true) {won : Bool}
    (ended : ∀ commitment ∈ play.commitments, commitment.soloParity = true → commitment.won = won) :
    0 < outcomeSign won * table.share true play := by
  have base := table.soloValue_true_sign wellFormed (.head _) (ended _ (.head _))
  have link := table.soloValue_true_sign wellFormed (.tail _ (.head _))
    (ended _ (.tail _ (.head _)))
  have some : 0 < outcomeSign won * table.soloValue true play.base +
      outcomeSign won * table.soloValue true play.link := by
    simp only [Play.hasSoloParity, Play.commitments, List.any_cons, List.any_nil, Bool.or_false,
      Bool.or_eq_true] at solo
    rcases solo with solo | solo
    · exact add_pos_of_pos_of_nonneg (base.2 solo) link.1
    · exact add_pos_of_nonneg_of_pos base.1 (link.2 solo)
  have suit := (suitFactor_mem play.betterSuit).1
  have scaled := mul_pos (mul_pos (zero_lt_one.trans_le table.one_le_stake)
    (zero_lt_one.trans_le suit)) some
  rwa [← mul_add, mul_left_comm] at scaled

/-! ### The surplus of a play -/

theorem exactCeiling_own :
    table.exactCeiling .own = ((table.players : Int) - 1) * table.exactCeiling .opponent := by
  unfold exactCeiling
  ring

/-- All players together are left with the surplus of a play. -/
theorem playValue_own_add (room : table.HasRoom) (wellFormed : play.WellFormed) :
    table.playValue play .own + ((table.players : Int) - 1) * table.playValue play .opponent =
      table.surplus play := by
  have nonneg : 0 ≤ (table.players : Int) - 1 := by
    have := table.two_le_opponents
    omega
  -- The ceilings of the two sides are in the same proportion as their values.
  have opponents : ((table.players : Int) - 1) * table.exactPlayValue play .opponent =
      -clampTo (table.exactCeiling .own) (table.share false play) := by
    rw [exactPlayValue, ← clampTo_mul nonneg, ← exactCeiling_own,
      ← clampTo_neg (table.exactCeiling_nonneg .own), share_false_eq wellFormed, neg_neg]
  rw [playValue_eq_exactPlayValue room wellFormed, playValue_eq_exactPlayValue room wellFormed,
    opponents, exactPlayValue, ← share_add_share, surplus, sub_eq_add_neg]

theorem exactCeiling_pos (table : Table) : 0 < table.exactCeiling .own := by
  have opponents := table.two_le_opponents
  have stake := table.one_le_stake
  exact mul_pos (mul_pos (by decide) (by omega)) (by omega)

theorem surplus_eq_zero_iff (table : Table) (play : Play) :
    table.surplus play = 0 ↔ table.share true play = 0 ∨ table.Absorbs play := by
  have positive := table.exactCeiling_pos
  unfold surplus Absorbs clampTo
  omega

theorem surplus_of_split (split : play.Split) : table.surplus play = 0 :=
  (table.surplus_eq_zero_iff play).mpr (.inl (share_true_of_split split))

theorem playValue_own_of_split (room : table.HasRoom) (wellFormed : play.WellFormed)
    (split : play.Split) :
    table.playValue play .own + ((table.players : Int) - 1) * table.playValue play .opponent =
      0 := by
  rw [playValue_own_add room wellFormed, surplus_of_split split]

/-- A surplus never has the opposite sign of what brings it about. -/
theorem surplus_nonneg {won : Bool} (share : 0 < outcomeSign won * table.share true play) :
    0 ≤ outcomeSign won * table.surplus play := by
  unfold outcomeSign at *
  unfold surplus clampTo
  cases won <;> simp at share ⊢ <;> omega

theorem surplus_pos {won : Bool} (share : 0 < outcomeSign won * table.share true play)
    (passed : ¬ table.Absorbs play) : 0 < outcomeSign won * table.surplus play := by
  have nonzero : table.surplus play ≠ 0 := by
    rw [Ne, surplus_eq_zero_iff]
    rintro (unshared | absorbed)
    · simp [unshared] at share
    · exact passed absorbed
  refine lt_of_le_of_ne (surplus_nonneg share) (mul_ne_zero ?_ nonzero).symm
  exact left_ne_zero_of_mul share.ne'

end Table

end TrickLedger
