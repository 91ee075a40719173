import TrickLedger.Play.WellFormed
import TrickLedger.Play.Writer
import TrickLedger.Proofs.Play.Body

/-!
# Canonical bodies

The letters written for a well-formed play derive it in the grammar.  Every
commitment is written as an opening, the keyword of its contract and its score.
-/

namespace TrickLedger

open Play.Grammar

namespace Commitment

/-- The commitment as it stands before its contract is named. -/
def marks (commitment : Commitment) : Commitment :=
  { commitment with contract := none, score := defaultScore }

/-- The letters before the keyword of the contract. -/
def openingLetters (commitment : Commitment) : List Char :=
  commitment.parityLetters ++ (if commitment.won then '+' else '-') ::
    (if 0 < commitment.boost then Text.numeral commitment.boost else [])

theorem parityLetters_append_letters (commitment : Commitment) :
    commitment.parityLetters ++ commitment.letters =
      commitment.openingLetters ++ commitment.contractLetters := by
  simp [letters, openingLetters]

theorem sign_won (won : Bool) : Sign (if won then '+' else '-') won := by
  cases won
  · exact .minus
  · exact .plus

theorem boost_numeral {boost : Nat} (fits : boost ≤ greatestBoost) :
    Boost (if 0 < boost then Text.numeral boost else []) boost := by
  by_cases boosted : 0 < boost
  · have small : boost < 10 := by
      unfold greatestBoost at fits
      omega
    rw [if_pos boosted, Text.numeral, Nat.toDigits_of_lt_base small]
    exact .digit boost boosted fits
  · have zero : boost = 0 := by omega
    subst zero
    exact .none

variable {commitment : Commitment}

theorem parity_parityLetters
    (payment : commitment.basePayment = true → commitment.soloParity = true) :
    Parity commitment.parityLetters
      { soloParity := commitment.soloParity, basePayment := commitment.basePayment } := by
  unfold parityLetters
  cases solo : commitment.soloParity <;> cases paid : commitment.basePayment
  · exact .plain
  · simp [solo, paid] at payment
  · exact .solo
  · exact .payment

theorem opening_openingLetters (fits : commitment.MarksFit) :
    Opening commitment.openingLetters commitment.marks := by
  obtain ⟨payment, boost, -⟩ := fits
  exact .mk _ _ _ _ _ _ (parity_parityLetters payment) (sign_won commitment.won)
    (boost_numeral boost)

theorem digits_numeral (number : Nat) : Digits (Text.numeral number) number where
  nonempty := Nat.toDigits_ne_nil
  digits _ := Nat.isDigit_of_mem_toDigits (by decide) (by decide)
  value := Text.numeralValue_numeral number

theorem score_signedNumeral {score : Int} (lower : leastScore ≤ score)
    (upper : score ≤ greatestScore) (tens : score % 10 = 0) :
    Score (Text.signedNumeral score) score := by
  unfold Text.signedNumeral
  by_cases negative : score < 0
  · have value : score = -(score.natAbs : Int) := by omega
    rw [if_pos negative]
    have rule := Score.negative _ _ (digits_numeral score.natAbs) (by omega) (by omega)
    rwa [← value] at rule
  · have value : score = (score.natAbs : Int) := by omega
    rw [if_neg negative]
    have rule := Score.positive _ _ (digits_numeral score.natAbs) (by omega) (by omega)
    rwa [← value] at rule

/-- A contract without a score is written by its keyword alone. -/
theorem contractLetters_keyword {contract : Contract}
    (named : commitment.contract = some contract) (noScore : contract.hasScore = false) :
    commitment.contractLetters = contract.keyword := by
  simp [contractLetters, named, noScore]

theorem contractLetters_score {contract : Contract}
    (named : commitment.contract = some contract) (hasScore : contract.hasScore = true) :
    commitment.contractLetters = contract.keyword ++ Text.signedNumeral commitment.score := by
  simp [contractLetters, named, hasScore]

theorem marks_contract {contract : Contract} (fits : commitment.MarksFit)
    (named : commitment.contract = some contract) (noScore : contract.hasScore = false) :
    { commitment.marks with contract := some contract } = commitment := by
  have score : commitment.score = defaultScore := by
    simpa [ScoreFits, named, noScore] using fits.2.2
  rw [← named, marks, ← score]

theorem marks_contract_score {contract : Contract}
    (named : commitment.contract = some contract) :
    { commitment.marks with contract := some contract, score := commitment.score } =
      commitment := by
  rw [← named, marks]

theorem score_of_fits {contract : Contract} (fits : commitment.MarksFit)
    (named : commitment.contract = some contract) (hasScore : contract.hasScore = true) :
    Score (Text.signedNumeral commitment.score) commitment.score := by
  obtain ⟨lower, upper, tens⟩ : leastScore ≤ commitment.score ∧
      commitment.score ≤ greatestScore ∧ commitment.score % 10 = 0 := by
    simpa [ScoreFits, named, hasScore] using fits.2.2
  exact score_signedNumeral lower upper tens

/-- The letters written for a link, which may be empty. -/
def linkLetters (commitment : Commitment) : List Char :=
  commitment.parityLetters ++ if commitment.isEmpty then [] else commitment.letters

theorem linkLetters_named {contract : Contract} (named : commitment.contract = some contract) :
    commitment.linkLetters = commitment.openingLetters ++ commitment.contractLetters := by
  rw [linkLetters, ← parityLetters_append_letters]
  simp [isEmpty, named]

theorem linkLetters_keyword {contract : Contract} (named : commitment.contract = some contract)
    (noScore : contract.hasScore = false) :
    commitment.linkLetters = commitment.openingLetters ++ contract.keyword := by
  rw [linkLetters_named named, contractLetters_keyword named noScore]

theorem linkLetters_score {contract : Contract} (named : commitment.contract = some contract)
    (hasScore : contract.hasScore = true) :
    commitment.linkLetters =
      commitment.openingLetters ++ contract.keyword ++ Text.signedNumeral commitment.score := by
  rw [linkLetters_named named, contractLetters_score named hasScore, List.append_assoc]

/-- A silent seven is never boosted, so its sign is followed by the keyword. -/
theorem link_silentSeven (fits : commitment.MarksFit)
    (named : commitment.contract = some .silentSeven) (unboosted : commitment.boost = 0) :
    Link .hundred commitment.linkLetters commitment := by
  have score : commitment.score = defaultScore := by
    simpa [ScoreFits, named, Contract.hasScore] using fits.2.2
  have rule := Link.silentSevenAfterHundred _ _ _ _ (parity_parityLetters fits.1)
    (sign_won commitment.won)
  rw [linkLetters_keyword named rfl, openingLetters, unboosted]
  rw [← named, ← unboosted, ← score] at rule
  simpa using rule

end Commitment

namespace Play

variable {play : Play}

theorem link_linkLetters {contract : Contract} (named : play.base.contract = some contract)
    (contractsFit : play.ContractsFit) (fits : play.link.MarksFit)
    (takesLink : contract = .seven ∨ contract = .hundred ∨ contract = .twoSevens) :
    Link contract play.link.linkLetters play.link := by
  rw [ContractsFit, named] at contractsFit
  rcases takesLink with rfl | rfl | rfl
  · rcases contractsFit with linked | linked
    · have rule := Link.gameAfterSeven _ _ (Commitment.opening_openingLetters fits)
      rw [Commitment.marks_contract fits linked rfl] at rule
      rwa [Commitment.linkLetters_keyword linked rfl]
    · have rule := Link.hundredAfterSeven _ _ _ _ (Commitment.opening_openingLetters fits)
        (Commitment.score_of_fits fits linked rfl)
      rw [Commitment.marks_contract_score linked] at rule
      rwa [Commitment.linkLetters_score linked rfl]
  · rcases contractsFit with linked | linked | ⟨linked, unboosted⟩
    · rw [linked]
      exact .nothingAfterHundred
    · have rule := Link.sevenAfterHundred _ _ (Commitment.opening_openingLetters fits)
      rw [Commitment.marks_contract fits linked rfl] at rule
      rwa [Commitment.linkLetters_keyword linked rfl]
    · exact Commitment.link_silentSeven fits linked unboosted
  · rcases contractsFit with linked | linked
    · rw [linked]
      exact .nothingAfterTwoSevens
    · have rule := Link.hundredAfterTwoSevens _ _ _ _ (Commitment.opening_openingLetters fits)
        (Commitment.score_of_fits fits linked rfl)
      rw [Commitment.marks_contract_score linked] at rule
      rwa [Commitment.linkLetters_score linked rfl]

/-- The letters written for the mark of the better suit. -/
def suitLetters (play : Play) : List Char :=
  if play.betterSuit then ['*'] else []

theorem betterSuit_suitLetters (play : Play) : BetterSuit play.suitLetters play.betterSuit := by
  unfold suitLetters
  cases play.betterSuit
  · exact .unmarked
  · exact .marked

theorem bodyLetters_fault {contract : Contract} (named : play.base.contract = some contract)
    (isFault : contract.isFault = true) : play.bodyLetters = contract.keyword := by
  simp [bodyLetters, named, isFault]

theorem bodyLetters_commitments {contract : Contract}
    (named : play.base.contract = some contract) (noFault : contract.isFault = false) :
    play.bodyLetters =
      play.base.openingLetters ++ play.base.contractLetters ++ play.link.linkLetters ++
        play.suitLetters := by
  simp only [bodyLetters, named, noFault, commitmentLetters, suitLetters, Commitment.linkLetters,
    Commitment.parityLetters_append_letters]
  simp

theorem linkLetters_empty : ({} : Commitment).linkLetters = [] := by
  rfl

theorem plain_of_single {contract : Contract} (member : contract ∈ singleContracts) :
    contract.hasScore = false ∧ contract.isFault = false := by
  unfold singleContracts at member
  cases contract <;> first | exact ⟨rfl, rfl⟩ | simp at member

theorem body_single {contract : Contract} (named : play.base.contract = some contract)
    (single : contract ∈ singleContracts) (fits : play.base.MarksFit) (link : play.link = {})
    (unsuited : play.betterSuit = false) : Body play.bodyLetters play.withoutComment := by
  have plain := plain_of_single single
  have rule := Body.single _ _ contract (Commitment.opening_openingLetters fits) single
  rw [Commitment.marks_contract fits named plain.1] at rule
  rw [bodyLetters_commitments named plain.2, Commitment.contractLetters_keyword named plain.1,
    withoutComment, suitLetters, link, unsuited, linkLetters_empty]
  simpa using rule

/-- The canonical body of a well-formed play derives the play. -/
theorem body_bodyLetters (wellFormed : play.WellFormed) :
    Body play.bodyLetters play.withoutComment := by
  obtain ⟨baseFits, linkFits, contractsFit, -⟩ := wellFormed
  have openingRule := Commitment.opening_openingLetters baseFits
  have suitRule := betterSuit_suitLetters play
  cases named : play.base.contract with
  | none => simp [ContractsFit, named] at contractsFit
  | some contract =>
      have linkRule := link_linkLetters named contractsFit linkFits
      rw [ContractsFit, named] at contractsFit
      cases contract with
      | fold | minorFault | majorFault =>
          obtain ⟨-, base, link, unsuited⟩ := contractsFit
          rw [bodyLetters_fault named rfl, withoutComment, base, link, unsuited]
          exact .fault _ rfl
      | seven =>
          have rule := Body.seven _ _ _ _ _ _ openingRule (linkRule (by simp)) suitRule
          rw [Commitment.marks_contract baseFits named rfl] at rule
          rw [bodyLetters_commitments named rfl, Commitment.contractLetters_keyword named rfl]
          exact rule
      | hundred =>
          have rule := Body.hundred _ _ _ _ _ _ _ _ openingRule
            (Commitment.score_of_fits baseFits named rfl) (linkRule (by simp)) suitRule
          rw [Commitment.marks_contract_score named] at rule
          rw [bodyLetters_commitments named rfl, Commitment.contractLetters_score named rfl,
            ← List.append_assoc]
          exact rule
      | twoSevens =>
          have rule := Body.twoSevens _ _ _ _ _ _ openingRule (linkRule (by simp)) suitRule
          rw [Commitment.marks_contract baseFits named rfl] at rule
          rw [bodyLetters_commitments named rfl, Commitment.contractLetters_keyword named rfl]
          exact rule
      | betl | majklBetl | majklSuperBetl | durch =>
          obtain ⟨link, unsuited⟩ := contractsFit
          exact body_single named (by decide) baseFits link unsuited
      | game | silentSeven | silentHundred => simp [Contract.isFault] at contractsFit

end Play

end TrickLedger
