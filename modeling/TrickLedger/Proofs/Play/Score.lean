import TrickLedger.Play.Grammar
import TrickLedger.Play.Reader
import TrickLedger.Proofs.Text.Numeral
import TrickLedger.Proofs.Text.Runs

/-!
# Scores of hands

A score is read as an unbounded integer: the limit that its numeral is read
against lies beyond the range of scores and never shows.  The reader takes
exactly the scores of the grammar, as far as their digits go.
-/

namespace TrickLedger.Play

open Grammar

/-- The text does not go on with a digit. -/
def NoDigitAhead (text : List Char) : Prop :=
  ∀ letter ∈ text.head?, letter.isDigit = false

/-- The integer that a sign and a run of digits denote. -/
def signedValue (negative : Bool) (digits : List Char) : Int :=
  if negative then -(Text.numeralValue digits : Int) else Text.numeralValue digits

/-- A numeral that does not fit an amount is far from the range of scores. -/
theorem outside_of_greatest_lt {negative : Bool} {digits : List Char}
    (beyond : Money.greatest.toNat < Text.numeralValue digits) :
    signedValue negative digits < leastScore ∨ greatestScore < signedValue negative digits := by
  have greatest : Money.greatest.toNat = 2 ^ 63 - 1 := by decide
  unfold signedValue leastScore greatestScore
  split <;> omega

/-! ## The numeral that a text starts with -/

theorem readMinus_unsigned {text : List Char} (unsigned : text.head? ≠ some '-') :
    readMinus text = (false, text) := by
  unfold readMinus
  split
  case h_1 => exact absurd rfl unsigned
  case h_2 => rfl

theorem eq_of_readMinus {text unsigned : List Char} {negative : Bool}
    (minus : readMinus text = (negative, unsigned)) :
    text = (if negative then ['-'] else []) ++ unsigned := by
  unfold readMinus at minus
  split at minus <;> cases minus <;> rfl

/-- The minus sign that a text starts with, if there is one, all digits behind it and what is
left behind them. -/
@[ext]
structure SignedRun (text : List Char) where
  negative : Bool
  digits : List Char
  rest : List Char
  whole : text = (if negative then ['-'] else []) ++ digits ++ rest
  negative_iff : negative = true ↔ text.head? = some '-'
  allDigits : ∀ letter ∈ digits, letter.isDigit = true
  stops : NoDigitAhead rest

namespace SignedRun

variable {text : List Char} (run : SignedRun text)

/-- The integer that the digits denote with their sign. -/
def value : Int :=
  signedValue run.negative run.digits

theorem readMinus_eq : readMinus text = (run.negative, run.digits ++ run.rest) := by
  have whole := run.whole
  have sign := run.negative_iff
  cases negative : run.negative with
  | true => simp [whole, negative, readMinus]
  | false =>
      rw [negative, Bool.false_eq_true, false_iff] at sign
      rw [readMinus_unsigned sign]
      simpa [negative] using whole

def ofText (text : List Char) : SignedRun text where
  negative := (readMinus text).1
  digits := (readMinus text).2.takeWhile Char.isDigit
  rest := (readMinus text).2.dropWhile Char.isDigit
  whole := by
    rw [List.append_assoc, List.takeWhile_append_dropWhile]
    exact eq_of_readMinus rfl
  negative_iff := by
    by_cases sign : text.head? = some '-'
    · obtain ⟨rest, rfl⟩ := List.head?_eq_some_iff.mp sign
      simp [readMinus]
    · simp [readMinus_unsigned sign, sign]
  allDigits := List.all_eq_true.mp List.all_takeWhile
  stops := Text.not_head?_dropWhile Char.isDigit _

/-- A text starts with no other sign and digits. -/
theorem eq_ofText : run = ofText text := by
  have taken := Text.takeWhile_run run.allDigits run.stops
  have left := Text.dropWhile_run run.allDigits run.stops
  ext1
  all_goals simp [ofText, run.readMinus_eq, taken, left]

/-! ## Scores of any text -/

theorem readScore_eq :
    readScore text =
      if run.digits.isEmpty then .error .missingScore
      else if run.value < leastScore ∨ greatestScore < run.value then .error .scoreOutOfRange
      else if run.value % 10 ≠ 0 then .error .scoreNotMultipleOfTen
      else .ok (run.value, run.rest) := by
  simp only [readScore, run.readMinus_eq, Text.takeWhile_run run.allDigits run.stops,
    Text.dropWhile_run run.allDigits run.stops, Text.readDigits_eq]
  by_cases within : Text.numeralValue run.digits ≤ Money.greatest.toNat
  · simp only [if_pos within]
    rfl
  · have outside : run.value < leastScore ∨ greatestScore < run.value :=
      outside_of_greatest_lt (Nat.not_le.mp within)
    simp only [if_neg within, if_pos outside]

/-- What the text is read as.  Without digits there is no score; then the value has to lie in
the range of scores, and then to be a multiple of ten. -/
inductive Gives (run : SignedRun text) : Except PlayFault (Int × List Char) → Prop
  | missing (noDigits : run.digits = []) : Gives run (.error .missingScore)
  | outOfRange (nonempty : run.digits ≠ [])
      (outside : run.value < leastScore ∨ greatestScore < run.value) :
      Gives run (.error .scoreOutOfRange)
  | uneven (nonempty : run.digits ≠ []) (lower : leastScore ≤ run.value)
      (upper : run.value ≤ greatestScore) (remainder : ¬10 ∣ run.value) :
      Gives run (.error .scoreNotMultipleOfTen)
  | score (nonempty : run.digits ≠ []) (lower : leastScore ≤ run.value)
      (upper : run.value ≤ greatestScore) (tens : 10 ∣ run.value) :
      Gives run (.ok (run.value, run.rest))

theorem gives_readScore : run.Gives (readScore text) := by
  rw [run.readScore_eq]
  split
  case isTrue noDigits => exact .missing (List.isEmpty_iff.mp noDigits)
  case isFalse digits =>
    have nonempty : run.digits ≠ [] := by simpa using digits
    split
    case isTrue outside => exact .outOfRange nonempty outside
    case isFalse inside =>
      split
      case isTrue remainder => exact .uneven nonempty (by omega) (by omega) (by omega)
      case isFalse tens => exact .score nonempty (by omega) (by omega) (by omega)

variable {run}

theorem Gives.readScore_eq {outcome : Except PlayFault (Int × List Char)}
    (given : run.Gives outcome) : readScore text = outcome := by
  rw [run.readScore_eq]
  cases given with
  | missing noDigits => simp [noDigits]
  | outOfRange nonempty outside => simp [nonempty, outside]
  | uneven nonempty lower upper remainder =>
      rw [if_neg (by simpa using nonempty), if_neg (by omega), if_pos (by omega)]
  | score nonempty lower upper tens =>
      rw [if_neg (by simpa using nonempty), if_neg (by omega), if_neg (by omega)]

theorem readScore_eq_iff {outcome : Except PlayFault (Int × List Char)} :
    readScore text = outcome ↔ run.Gives outcome := by
  constructor
  · rintro rfl
    exact run.gives_readScore
  · exact Gives.readScore_eq

end SignedRun

/-! ## Scores of the grammar -/

theorem Grammar.Score.fits {numeral : List Char} {score : Int} (rule : Score numeral score) :
    leastScore ≤ score ∧ score ≤ greatestScore ∧ score % 10 = 0 := by
  cases rule with
  | positive text number written upper tens =>
      unfold leastScore
      exact ⟨by omega, upper, by omega⟩
  | negative text number written lower tens =>
      unfold greatestScore
      exact ⟨lower, by omega, by omega⟩

/-- A score of the grammar is the whole numeral that a text starts with when no digit follows. -/
theorem Grammar.Score.exists_run {numeral rest : List Char} {score : Int}
    (rule : Score numeral score) (stops : NoDigitAhead rest) :
    ∃ run : SignedRun (numeral ++ rest),
      run.digits ≠ [] ∧ run.value = score ∧ run.rest = rest := by
  cases rule with
  | positive _ number written upper tens =>
      have unsigned : (numeral ++ rest).head? ≠ some '-' := by
        obtain ⟨digit, digits, rfl⟩ := List.exists_cons_of_ne_nil written.nonempty
        have isDigit := written.digits digit (.head digits)
        rintro ⟨⟩
        exact absurd isDigit (by decide)
      refine ⟨⟨false, numeral, rest, rfl, by simpa using unsigned, written.digits, stops⟩,
        written.nonempty, ?_, rfl⟩
      simp [SignedRun.value, signedValue, written.value]
  | negative digits number written lower tens =>
      refine ⟨⟨true, digits, rest, rfl, by simp, written.digits, stops⟩, written.nonempty, ?_, rfl⟩
      simp [SignedRun.value, signedValue, written.value]

/-- A score of the grammar is taken whole when no digit follows. -/
theorem readScore_append {numeral rest : List Char} {score : Int}
    (rule : Score numeral score) (stops : NoDigitAhead rest) :
    readScore (numeral ++ rest) = .ok (score, rest) := by
  obtain ⟨lower, upper, tens⟩ := rule.fits
  obtain ⟨run, nonempty, rfl, left⟩ := rule.exists_run stops
  rw [run.readScore_eq_iff]
  have given := SignedRun.Gives.score nonempty lower upper (by omega)
  rwa [left] at given

theorem score_signedValue {digits : List Char} {negative : Bool} {number : Nat}
    (written : Digits digits number)
    (lower : leastScore ≤ signedValue negative digits)
    (upper : signedValue negative digits ≤ greatestScore)
    (tens : signedValue negative digits % 10 = 0) :
    Score ((if negative then ['-'] else []) ++ digits) (signedValue negative digits) := by
  cases negative with
  | true =>
      have value : signedValue true digits = -(number : Int) := by
        simp [signedValue, written.value]
      rw [value] at lower tens ⊢
      exact .negative digits number written lower (by omega)
  | false =>
      have value : signedValue false digits = number := by
        simp [signedValue, written.value]
      rw [value] at upper tens ⊢
      exact .positive digits number written upper (by omega)

/-- What is read as a score is one, and its digits are all taken. -/
theorem score_of_readScore {text rest : List Char} {score : Int}
    (read : readScore text = .ok (score, rest)) :
    ∃ numeral, Score numeral score ∧ text = numeral ++ rest ∧ NoDigitAhead rest := by
  have run : SignedRun text := .ofText text
  cases run.readScore_eq_iff.mp read with
  | score nonempty lower upper tens =>
      have written : Digits run.digits (Text.numeralValue run.digits) :=
        ⟨nonempty, run.allDigits, rfl⟩
      have rule := score_signedValue written lower upper (Int.emod_eq_zero_of_dvd tens)
      exact ⟨_, rule, run.whole, run.stops⟩

/-! ## Scores and the limit of amounts -/

theorem readDigits_greatest_eq_some_iff {digits : List Char} {size : Nat} :
    Text.readDigits Money.greatest.toNat digits = some size ↔
      Text.numeralValue digits = size ∧ (size : Int) ≤ Money.greatest := by
  rw [Text.readDigits_eq, Option.ite_none_right_eq_some, Option.some.injEq,
    Int.le_toNat (by decide), and_comm]
  exact and_congr_right fun same => by rw [same]

/-- Scores are read as unbounded integers.  A text starts with one sign and run of digits, and
the integer that these denote decides what is read, and why not.  The numeral is held against
the limit of amounts, which no integer in the range of scores passes, however many zeros its
numeral starts with. -/
theorem readScore_unbounded (text : List Char) :
    (∃ run : SignedRun text, ∀ other, other = run) ∧
      ∀ run : SignedRun text,
        (∀ outcome, readScore text = outcome ↔ run.Gives outcome) ∧
        (∀ size, Text.readDigits Money.greatest.toNat run.digits = some size ↔
          Text.numeralValue run.digits = size ∧ (size : Int) ≤ Money.greatest) ∧
        (leastScore ≤ run.value → run.value ≤ greatestScore → ∀ zeros,
          Text.readDigits Money.greatest.toNat (List.replicate zeros '0' ++ run.digits) =
            some (Text.numeralValue run.digits)) := by
  refine ⟨⟨.ofText text, SignedRun.eq_ofText⟩, fun run => ⟨?_, ?_, ?_⟩⟩
  · intro outcome
    exact run.readScore_eq_iff
  · intro size
    exact readDigits_greatest_eq_some_iff
  · intro lower upper zeros
    have within : Text.numeralValue run.digits ≤ Money.greatest.toNat := by
      apply Nat.not_lt.mp
      intro beyond
      have outside : run.value < leastScore ∨ greatestScore < run.value :=
        outside_of_greatest_lt beyond
      omega
    rw [Text.readDigits_eq, Text.numeralValue_zeros_append, if_pos within]

/-- Thirty zeros lead the first score, and five more are no obstacle.  The second is the first
integer that is no amount. -/
theorem readScore_unbounded_longNumerals :
    readScore ('-' :: (List.replicate 30 '0' ++ ['7', '0', '-', 's'])) = .ok (-70, ['-', 's']) ∧
      Text.readDigits Money.greatest.toNat (List.replicate 35 '0' ++ ['7', '0']) = some 70 ∧
      readScore "9223372036854775808*".toList = .error .scoreOutOfRange := by
  have small := (readScore_unbounded ('-' :: (List.replicate 30 '0' ++ ['7', '0', '-', 's']))).2
    (.ofText _)
  have large := (readScore_unbounded "9223372036854775808*".toList).2 (.ofText _)
  refine ⟨?_, ?_, ?_⟩
  · exact (small.1 _).mpr (.score (by decide) (by decide) (by decide) (by decide))
  · exact small.2.2 (by decide) (by decide) 5
  · exact (large.1 _).mpr (.outOfRange (by decide) (by decide))

end TrickLedger.Play
