import TrickLedger.Play.WellFormed
import TrickLedger.Proofs.Play.Code
import TrickLedger.Proofs.Play.Comment

/-!
# Plays that are read are well formed

The grammar keeps every commitment within its marks and pairs base and link as
they belong together, and a comment that was cut off contains no closing brace.
-/

namespace TrickLedger.Play

open Grammar

theorem Grammar.Parity.payment_solo {parity : List Char} {marks : Commitment}
    (rule : Parity parity marks) (payment : marks.basePayment = true) :
    marks.soloParity = true := by
  cases rule with
  | plain => cases payment
  | solo => cases payment
  | payment => rfl

theorem Grammar.Boost.le_greatest {boost : List Char} {count : Nat} (rule : Boost boost count) :
    count ≤ greatestBoost := by
  cases rule with
  | none => exact Nat.zero_le _
  | digit count lower upper => exact upper

theorem Grammar.Opening.fits {opening : List Char} {marks : Commitment}
    (rule : Opening opening marks) :
    (marks.basePayment = true → marks.soloParity = true) ∧ marks.boost ≤ greatestBoost := by
  cases rule with
  | mk parity sign boost marks won count parityRule signRule boostRule =>
      exact ⟨parityRule.payment_solo, boostRule.le_greatest⟩

/-- A commitment without a score of its own fits as soon as it was opened. -/
theorem Grammar.Opening.marksFit {opening : List Char} {marks : Commitment}
    (rule : Opening opening marks) {contract : Contract} (noScore : contract.hasScore = false) :
    ({ marks with contract := some contract } : Commitment).MarksFit := by
  obtain ⟨payment, boost⟩ := rule.fits
  refine ⟨payment, boost, ?_⟩
  simp [Commitment.ScoreFits, noScore, rule.score_eq]

theorem Grammar.Opening.marksFit_score {opening numeral : List Char} {marks : Commitment}
    {score : Int} (rule : Opening opening marks) (scoreRule : Score numeral score)
    {contract : Contract} (hasScore : contract.hasScore = true) :
    ({ marks with contract := some contract, score } : Commitment).MarksFit := by
  obtain ⟨payment, boost⟩ := rule.fits
  refine ⟨payment, boost, ?_⟩
  simpa [Commitment.ScoreFits, hasScore] using scoreRule.fits

theorem marksFit_empty : ({} : Commitment).MarksFit := by
  decide

theorem Grammar.Link.marksFit {contract : Contract} {link : List Char} {linked : Commitment}
    (rule : Link contract link linked) : linked.MarksFit := by
  cases rule with
  | gameAfterSeven opening marks openingRule => exact openingRule.marksFit rfl
  | hundredAfterSeven opening numeral marks score openingRule scoreRule =>
      exact openingRule.marksFit_score scoreRule rfl
  | nothingAfterHundred => exact marksFit_empty
  | silentSevenAfterHundred parity sign marks won parityRule signRule =>
      cases parityRule <;> cases signRule <;> decide
  | sevenAfterHundred opening marks openingRule => exact openingRule.marksFit rfl
  | nothingAfterTwoSevens => exact marksFit_empty
  | hundredAfterTwoSevens opening numeral marks score openingRule scoreRule =>
      exact openingRule.marksFit_score scoreRule rfl

theorem Grammar.Body.fits {body : List Char} {play : Play} (rule : Body body play) :
    play.base.MarksFit ∧ play.link.MarksFit ∧ play.ContractsFit := by
  cases rule with
  | fault contract isFault =>
      cases contract <;> first | exact ⟨by decide, by decide, by decide⟩ | cases isFault
  | single opening marks contract openingRule member =>
      have noScore : contract.hasScore = false := by
        cases contract <;> first | rfl | simp at member
      refine ⟨openingRule.marksFit noScore, marksFit_empty, ?_⟩
      cases contract <;> first | exact ⟨rfl, rfl⟩ | simp at member
  | seven opening link suit marks linked betterSuit openingRule linkRule suitRule =>
      refine ⟨openingRule.marksFit rfl, linkRule.marksFit, ?_⟩
      cases linkRule <;> simp [ContractsFit]
  | hundred opening numeral link suit marks linked score betterSuit openingRule scoreRule
      linkRule suitRule =>
      refine ⟨openingRule.marksFit_score scoreRule rfl, linkRule.marksFit, ?_⟩
      cases linkRule with
      | nothingAfterHundred => simp [ContractsFit]
      | silentSevenAfterHundred parity sign marks won parityRule signRule =>
          cases parityRule <;> simp [ContractsFit]
      | sevenAfterHundred opening marks openingRule => simp [ContractsFit]
  | twoSevens opening link suit marks linked betterSuit openingRule linkRule suitRule =>
      refine ⟨openingRule.marksFit rfl, linkRule.marksFit, ?_⟩
      cases linkRule <;> simp [ContractsFit]

/-- Whatever text it came from, a play that was read is well formed. -/
theorem wellFormed_of_ofCode {code : String} {play : Play} (read : ofCode code = .ok play) :
    play.WellFormed := by
  cases cut : cutComment (Text.trim code.toList) with
  | mk body cutOff =>
      obtain ⟨commentEq, rule⟩ := (ofCode_eq_ok_iff_of_cut cut).mp read
      obtain ⟨baseFits, linkFits, contractsFit⟩ := rule.fits
      refine ⟨baseFits, linkFits, contractsFit, ?_⟩
      rintro comment commentIs
      cases cutOff with
      | none => simp [commentEq] at commentIs
      | some letters =>
          obtain ⟨-, noClosing, -⟩ := eq_append_of_cutComment cut
          rw [commentEq] at commentIs
          cases commentIs
          simpa using noClosing

end TrickLedger.Play
