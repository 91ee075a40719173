import TrickLedger.Proofs.Play.Body

/-!
# The letters of bodies

No letter of a body is blank or a brace.
-/

namespace TrickLedger.Play

open Grammar

/-- A letter that trimming and the search for comments leave alone. -/
def IsPlain (letter : Char) : Prop :=
  Text.isBlank letter = false ∧ letter ≠ '{' ∧ letter ≠ '}'

instance : DecidablePred IsPlain := fun letter =>
  inferInstanceAs (Decidable (Text.isBlank letter = false ∧ letter ≠ '{' ∧ letter ≠ '}'))

/-- Every letter of the text is plain. -/
def Plain (text : List Char) : Prop :=
  ∀ letter ∈ text, IsPlain letter

instance : DecidablePred Plain := fun text =>
  List.decidableBAll IsPlain text

theorem plain_append_iff {first second : List Char} :
    Plain (first ++ second) ↔ Plain first ∧ Plain second :=
  List.forall_mem_append

theorem plain_cons_iff {letter : Char} {text : List Char} :
    Plain (letter :: text) ↔ IsPlain letter ∧ Plain text :=
  List.forall_mem_cons

theorem isPlain_of_isDigit {letter : Char} (isDigit : letter.isDigit = true) :
    IsPlain letter := by
  have bounds : 48 ≤ letter.toNat ∧ letter.toNat ≤ 57 := by
    exact Char.isDigit_iff_toNat.mp isDigit
  refine ⟨?_, ?_, ?_⟩
  · apply Bool.eq_false_iff.mpr
    simp only [Text.isBlank, ne_eq, Bool.or_eq_true, Bool.and_eq_true, decide_eq_true_eq,
      beq_iff_eq]
    omega
  · rintro rfl
    exact absurd bounds (by decide)
  · rintro rfl
    exact absurd bounds (by decide)

theorem plain_keyword (contract : Contract) : Plain contract.keyword := by
  cases contract <;> decide

theorem Grammar.Digits.plain_letters {digits : List Char} {number : Nat}
    (written : Digits digits number) : Plain digits :=
  fun letter member => isPlain_of_isDigit (written.digits letter member)

theorem Grammar.Score.plain_letters {numeral : List Char} {score : Int}
    (rule : Score numeral score) : Plain numeral := by
  cases rule with
  | positive digits number written upper tens => exact written.plain_letters
  | negative digits number written lower tens =>
      exact plain_cons_iff.mpr ⟨by decide, written.plain_letters⟩

theorem Grammar.Parity.plain_letters {parity : List Char} {marks : Commitment}
    (rule : Parity parity marks) : Plain parity := by
  cases rule <;> decide

theorem Grammar.Sign.isPlain {sign : Char} {won : Bool} (rule : Sign sign won) :
    IsPlain sign := by
  cases rule <;> decide

theorem Grammar.Boost.plain_letters {boost : List Char} {count : Nat}
    (rule : Boost boost count) : Plain boost := by
  cases rule with
  | none => decide
  | digit count lower upper =>
      rcases boost_cases lower upper with rfl | rfl | rfl | rfl <;> decide

theorem Grammar.Opening.plain_letters {opening : List Char} {marks : Commitment}
    (rule : Opening opening marks) : Plain opening := by
  cases rule with
  | mk parity sign boost marks won count parityRule signRule boostRule =>
      simp only [plain_append_iff, plain_cons_iff]
      exact ⟨parityRule.plain_letters, signRule.isPlain, boostRule.plain_letters⟩

theorem Grammar.Link.plain_letters {contract : Contract} {link : List Char}
    {linked : Commitment} (rule : Link contract link linked) : Plain link := by
  cases rule with
  | gameAfterSeven opening marks openingRule =>
      exact plain_append_iff.mpr ⟨openingRule.plain_letters, plain_keyword _⟩
  | hundredAfterSeven opening numeral marks score openingRule scoreRule =>
      simp only [plain_append_iff]
      exact ⟨⟨openingRule.plain_letters, plain_keyword _⟩, scoreRule.plain_letters⟩
  | nothingAfterHundred => decide
  | silentSevenAfterHundred parity sign marks won parityRule signRule =>
      simp only [plain_append_iff, plain_cons_iff]
      exact ⟨parityRule.plain_letters, signRule.isPlain, plain_keyword _⟩
  | sevenAfterHundred opening marks openingRule =>
      exact plain_append_iff.mpr ⟨openingRule.plain_letters, plain_keyword _⟩
  | nothingAfterTwoSevens => decide
  | hundredAfterTwoSevens opening numeral marks score openingRule scoreRule =>
      simp only [plain_append_iff]
      exact ⟨⟨openingRule.plain_letters, plain_keyword _⟩, scoreRule.plain_letters⟩

theorem Grammar.BetterSuit.plain_letters {suit : List Char} {betterSuit : Bool}
    (rule : BetterSuit suit betterSuit) : Plain suit := by
  cases rule <;> decide

theorem Grammar.Body.plain_letters {body : List Char} {play : Play} (rule : Body body play) :
    Plain body := by
  cases rule with
  | fault contract isFault => exact plain_keyword contract
  | single opening marks contract openingRule member =>
      exact plain_append_iff.mpr ⟨openingRule.plain_letters, plain_keyword _⟩
  | seven opening link suit marks linked betterSuit openingRule linkRule suitRule
  | twoSevens opening link suit marks linked betterSuit openingRule linkRule suitRule =>
      simp only [plain_append_iff]
      exact ⟨⟨⟨openingRule.plain_letters, plain_keyword _⟩, linkRule.plain_letters⟩,
        suitRule.plain_letters⟩
  | hundred opening numeral link suit marks linked score betterSuit openingRule scoreRule
      linkRule suitRule =>
      simp only [plain_append_iff]
      exact ⟨⟨⟨⟨openingRule.plain_letters, plain_keyword _⟩, scoreRule.plain_letters⟩,
        linkRule.plain_letters⟩, suitRule.plain_letters⟩

theorem Grammar.Opening.ne_nil {opening : List Char} {marks : Commitment}
    (rule : Opening opening marks) : opening ≠ [] := by
  cases rule with
  | mk parity sign boost marks won count parityRule signRule boostRule => simp

theorem Grammar.Body.ne_nil {body : List Char} {play : Play} (rule : Body body play) :
    body ≠ [] := by
  cases rule with
  | fault contract isFault => cases contract <;> simp [Contract.keyword]
  | single opening marks contract openingRule member => simp [openingRule.ne_nil]
  | seven opening link suit marks linked betterSuit openingRule linkRule suitRule =>
      simp [openingRule.ne_nil]
  | hundred opening numeral link suit marks linked score betterSuit openingRule scoreRule
      linkRule suitRule => simp [openingRule.ne_nil]
  | twoSevens opening link suit marks linked betterSuit openingRule linkRule suitRule =>
      simp [openingRule.ne_nil]

end TrickLedger.Play
