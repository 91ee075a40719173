import TrickLedger.Proofs.Play.Letters
import TrickLedger.Proofs.Text.Numeral

/-!
# Score numerals of bodies

A body is cut into the numerals of its scores and the letters outside of them.  A numeral
stands behind the keyword of a contract with a score and takes all digits that follow.
-/

namespace TrickLedger.Play

open Grammar

/-- The numeral of a score as it is written, with a minus sign or none. -/
structure ScoreNumeral where
  negative : Bool
  digits : List Char
  nonempty : digits ≠ []
  allDigits : ∀ letter ∈ digits, letter.isDigit = true

namespace ScoreNumeral

variable (numeral : ScoreNumeral)

def letters : List Char :=
  (if numeral.negative then ['-'] else []) ++ numeral.digits

def value : Int :=
  signedValue numeral.negative numeral.digits

def canonicalLetters : List Char :=
  Text.signedNumeral numeral.value

/-- No superfluous zero leads the numeral, and zero has no minus sign. -/
def IsCanonical : Prop :=
  Text.NoLeadingZero numeral.digits ∧ ¬(numeral.negative = true ∧ numeral.digits = ['0'])

theorem canonicalLetters_eq_iff :
    numeral.canonicalLetters = numeral.letters ↔ numeral.IsCanonical := by
  obtain ⟨negative, digits, nonempty, allDigits⟩ := numeral
  have unsigned := Text.numeral_numeralValue_iff nonempty allDigits
  unfold canonicalLetters letters value IsCanonical signedValue
  cases negative with
  | false => simpa [Text.signedNumeral_natCast] using unsigned
  | true =>
      by_cases zero : Text.numeralValue digits = 0
      · -- Zero is written without a sign, so no numeral with a sign is that of zero.
        have written : Text.signedNumeral (-(Text.numeralValue digits : Int)) = ['0'] := by
          rw [zero]
          rfl
        have single : Text.NoLeadingZero digits → digits = ['0'] := by
          intro plain
          rw [← unsigned.mpr plain, zero]
          rfl
        simpa [written] using single
      · have written := Text.signedNumeral_neg (Nat.pos_of_ne_zero zero)
        have notZero : digits ≠ ['0'] := by
          rintro rfl
          exact zero rfl
        simpa [written, notZero] using unsigned

end ScoreNumeral

/-- A part of a code: the numeral of a score, or a letter outside of one. -/
inductive Piece
  | single (letter : Char)
  | score (numeral : ScoreNumeral)

namespace Piece

def letters : Piece → List Char
  | single letter => [letter]
  | score numeral => numeral.letters

def canonicalLetters : Piece → List Char
  | single letter => [letter]
  | score numeral => numeral.canonicalLetters

end Piece

/-- The letter is the keyword of a contract with a score. -/
def OpensScore (letter : Char) : Prop :=
  ∃ contract : Contract, contract.hasScore = true ∧ contract.keyword = [letter]

theorem opensScore_iff {letter : Char} : OpensScore letter ↔ letter = 'k' ∨ letter = 't' := by
  constructor
  · rintro ⟨contract, hasScore, keyword⟩
    cases contract with
    | hundred => exact .inl (List.cons.inj keyword).1.symm
    | silentHundred => exact .inr (List.cons.inj keyword).1.symm
    | _ => cases hasScore
  · rintro (rfl | rfl)
    · exact ⟨.hundred, rfl, rfl⟩
    · exact ⟨.silentHundred, rfl, rfl⟩

instance : DecidablePred OpensScore := fun _ =>
  decidable_of_iff _ opensScore_iff.symm

/-- No letter of the text opens a score. -/
def NoScore (text : List Char) : Prop :=
  ∀ letter ∈ text, ¬OpensScore letter

instance : DecidablePred NoScore := fun text =>
  List.decidableBAll (fun letter => ¬OpensScore letter) text

theorem noScore_append_iff {first second : List Char} :
    NoScore (first ++ second) ↔ NoScore first ∧ NoScore second :=
  List.forall_mem_append

/-- The numeral that a text behind a letter starts with, if the letter opens a score, and the
text behind the numeral. -/
def scoreBehind? (letter : Char) (text : List Char) : Option (ScoreNumeral × List Char) :=
  let (negative, unsigned) := readMinus text
  if found : OpensScore letter ∧ unsigned.takeWhile Char.isDigit ≠ [] then
    some (⟨negative, unsigned.takeWhile Char.isDigit, found.2,
      List.all_eq_true.mp List.all_takeWhile⟩, unsigned.dropWhile Char.isDigit)
  else none

theorem letters_of_scoreBehind? {letter : Char} {text rest : List Char} {numeral : ScoreNumeral}
    (behind : scoreBehind? letter text = some (numeral, rest)) :
    numeral.letters ++ rest = text := by
  cases minus : readMinus text with
  | mk negative unsigned =>
      simp only [scoreBehind?, minus] at behind
      split at behind
      case isTrue =>
        cases behind
        rw [ScoreNumeral.letters, List.append_assoc, List.takeWhile_append_dropWhile]
        exact (eq_of_readMinus minus).symm
      case isFalse => cases behind

def bodyPieces : List Char → List Piece
  | [] => []
  | letter :: text =>
      match _behind : scoreBehind? letter text with
      | some (numeral, rest) => .single letter :: .score numeral :: bodyPieces rest
      | none => .single letter :: bodyPieces text
termination_by text => text.length
decreasing_by
  · rw [← letters_of_scoreBehind? _behind, List.length_cons, List.length_append]
    omega
  · exact Nat.lt_add_one _

/-- Nothing of a body is lost between its pieces. -/
theorem letters_bodyPieces (body : List Char) : (bodyPieces body).flatMap Piece.letters = body := by
  fun_induction bodyPieces body with
  | case1 => rfl
  | case2 letter text numeral rest behind ih =>
      simp [Piece.letters, ih, letters_of_scoreBehind? behind]
  | case3 letter text none ih => simp [Piece.letters, ih]

theorem bodyPieces_cons_some {letter : Char} {text rest : List Char} {numeral : ScoreNumeral}
    (behind : scoreBehind? letter text = some (numeral, rest)) :
    bodyPieces (letter :: text) = .single letter :: .score numeral :: bodyPieces rest := by
  rw [bodyPieces]
  split
  case h_1 => simp_all
  case h_2 none => simp [behind] at none

theorem bodyPieces_append {text rest : List Char} (outside : NoScore text) :
    bodyPieces (text ++ rest) = text.map .single ++ bodyPieces rest := by
  induction text with
  | nil => rfl
  | cons letter text ih =>
      rw [NoScore, List.forall_mem_cons] at outside
      have none : scoreBehind? letter (text ++ rest) = none := by simp [scoreBehind?, outside.1]
      rw [List.cons_append, bodyPieces]
      split
      case h_1 some => simp [none] at some
      case h_2 => rw [ih outside.2, List.map_cons, List.cons_append]

/-- A score of the grammar behind its keyword is one piece. -/
theorem bodyPieces_score {letter : Char} (opens : OpensScore letter) {numeral rest : List Char}
    {score : Int} (rule : Score numeral score) (stops : NoDigitAhead rest) :
    ∃ found : ScoreNumeral, found.value = score ∧
      bodyPieces (letter :: (numeral ++ rest)) =
        .single letter :: .score found :: bodyPieces rest := by
  obtain ⟨run, nonempty, value, left⟩ := rule.exists_run stops
  have taken := Text.takeWhile_run run.allDigits run.stops
  have dropped := Text.dropWhile_run run.allDigits run.stops
  rw [left] at taken dropped
  refine ⟨⟨run.negative, run.digits, nonempty, run.allDigits⟩, value, ?_⟩
  apply bodyPieces_cons_some
  simp [scoreBehind?, run.readMinus_eq, taken, dropped, left, opens, nonempty]

end TrickLedger.Play
