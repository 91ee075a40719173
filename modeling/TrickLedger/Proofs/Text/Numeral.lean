import Mathlib.Algebra.Ring.Nat
import TrickLedger.Text.Numeral

/-!
# Runs of digits and numerals

A run of digits is the numeral of its value behind some superfluous zeros.  Without
superfluous zeros it is that numeral, and at its own width it is that numeral filled
with zeros.  A whole text is read as a number when it is the numeral of the number behind
superfluous zeros and a plus sign or none.
-/

namespace TrickLedger.Text

/-- A zero leads a run of digits only where it is the whole run. -/
def NoLeadingZero (digits : List Char) : Prop :=
  digits.head? = some '0' → digits = ['0']

instance : DecidablePred NoLeadingZero := fun digits =>
  inferInstanceAs (Decidable (digits.head? = some '0' → digits = ['0']))

theorem digit_lt_ten {digit : Char} (isDigit : digit.isDigit = true) :
    digit.toNat - '0'.toNat < 10 := by
  obtain ⟨-, upper⟩ := Char.isDigit_iff_toNat.mp isDigit
  simp only [Char.reduceToNat] at upper ⊢
  omega

theorem numeral_digit {digit : Char} (isDigit : digit.isDigit = true) :
    numeral (digit.toNat - '0'.toNat) = [digit] := by
  obtain ⟨lower, -⟩ := Char.isDigit_iff_toNat.mp isDigit
  have small := digit_lt_ten isDigit
  have same : (digit.toNat - '0'.toNat).digitChar = digit := by
    apply Char.toNat_inj.mp
    rw [Nat.toNat_digitChar_of_lt_ten small]
    simp only [Char.reduceToNat] at lower ⊢
    omega
  rw [numeral, Nat.toDigits_of_lt_base small, same]

/-- Reading on after a number that is not zero writes on after its numeral. -/
theorem numeral_ofDigitChars {number : Nat} (positive : 0 < number) {digits : List Char}
    (allDigits : ∀ letter ∈ digits, letter.isDigit = true) :
    numeral (Nat.ofDigitChars 10 digits number) = numeral number ++ digits := by
  induction digits generalizing number with
  | nil => simp [Nat.ofDigitChars_nil]
  | cons digit digits ih =>
      rw [List.forall_mem_cons] at allDigits
      have single := numeral_digit allDigits.1
      have small := digit_lt_ten allDigits.1
      rw [Nat.ofDigitChars_cons, ih (by omega) allDigits.2, numeral,
        ← Nat.toDigits_append_toDigits (by decide) positive small, ← numeral, ← numeral, single,
        List.append_assoc, List.singleton_append]

variable {digits : List Char}

theorem not_mem_of_allDigits {mark : Char} (allDigits : ∀ letter ∈ digits, letter.isDigit = true)
    (noDigit : mark.isDigit = false) : mark ∉ digits :=
  fun member => Bool.false_ne_true (noDigit.symm.trans (allDigits mark member))

theorem numeralValue_cons_zero (digits : List Char) :
    numeralValue ('0' :: digits) = numeralValue digits := by
  simp [numeralValue, Nat.ofDigitChars_cons]

/-- Zeros before a run of digits do not change its value. -/
theorem numeralValue_zeros_append (zeros : Nat) (digits : List Char) :
    numeralValue (List.replicate zeros '0' ++ digits) = numeralValue digits := by
  induction zeros with
  | zero => rfl
  | succ zeros ih => rw [List.replicate_succ, List.cons_append, numeralValue_cons_zero, ih]

theorem numeral_numeralValue_cons {digit : Char}
    (allDigits : ∀ letter ∈ digit :: digits, letter.isDigit = true) (notZero : digit ≠ '0') :
    numeral (numeralValue (digit :: digits)) = digit :: digits := by
  rw [List.forall_mem_cons] at allDigits
  have positive : 0 < digit.toNat - '0'.toNat := by
    obtain ⟨lower, -⟩ := Char.isDigit_iff_toNat.mp allDigits.1
    have differs : digit.toNat ≠ '0'.toNat := fun same => notZero (Char.toNat_inj.mp same)
    omega
  have read := numeral_ofDigitChars positive allDigits.2
  rw [numeral_digit allDigits.1] at read
  rw [numeralValue, Nat.ofDigitChars_cons]
  simpa using read

/-- A run of digits is the numeral of its value behind zeros. -/
theorem exists_zeros_numeral (nonempty : digits ≠ [])
    (allDigits : ∀ letter ∈ digits, letter.isDigit = true) :
    ∃ zeros, digits = List.replicate zeros '0' ++ numeral (numeralValue digits) := by
  induction digits with
  | nil => exact absurd rfl nonempty
  | cons digit digits ih =>
      by_cases zero : digit = '0'
      · subst zero
        rw [numeralValue_cons_zero]
        by_cases last : digits = []
        · subst last
          exact ⟨0, rfl⟩
        · obtain ⟨zeros, whole⟩ := ih last (List.forall_mem_cons.mp allDigits).2
          exact ⟨zeros + 1, by rw [List.replicate_succ, List.cons_append, ← whole]⟩
      · exact ⟨0, by simp [numeral_numeralValue_cons allDigits zero]⟩

/-- A run of digits is the numeral of its value exactly when it has no superfluous zeros. -/
theorem numeral_numeralValue_iff (nonempty : digits ≠ [])
    (allDigits : ∀ letter ∈ digits, letter.isDigit = true) :
    numeral (numeralValue digits) = digits ↔ NoLeadingZero digits := by
  cases digits with
  | nil => exact absurd rfl nonempty
  | cons digit digits =>
      by_cases zero : digit = '0'
      · subst zero
        constructor
        · intro same _
          by_cases last : digits = []
          · rw [last]
          -- Behind its zero the run is too short to hold the numeral of the value again.
          obtain ⟨zeros, whole⟩ :=
            exists_zeros_numeral last (List.forall_mem_cons.mp allDigits).2
          rw [numeralValue_cons_zero] at same
          rw [same] at whole
          have lengths := congrArg List.length whole
          simp only [List.length_append, List.length_cons] at lengths
          omega
        · intro single
          cases single rfl
          rfl
      · simp [NoLeadingZero, numeral_numeralValue_cons allDigits zero, zero]

theorem isDigit_of_mem_numeral {number : Nat} {letter : Char} (member : letter ∈ numeral number) :
    letter.isDigit = true :=
  Nat.isDigit_of_mem_toDigits (by decide) (by decide) member

theorem numeral_ne_nil (number : Nat) : numeral number ≠ [] :=
  Nat.toDigits_ne_nil

theorem noLeadingZero_numeral (number : Nat) : NoLeadingZero (numeral number) := by
  rw [← numeral_numeralValue_iff (numeral_ne_nil number) fun _ => isDigit_of_mem_numeral,
    numeralValue_numeral]

theorem signedNumeral_natCast (number : Nat) : signedNumeral number = numeral number := by
  rw [signedNumeral, if_neg (by omega), Int.natAbs_natCast]

theorem signedNumeral_neg {number : Nat} (positive : 0 < number) :
    signedNumeral (-(number : Int)) = '-' :: numeral number := by
  rw [signedNumeral, if_pos (by omega), Int.natAbs_neg, Int.natAbs_natCast]

/-! ## Numerals behind zeros -/

variable {limit number : Nat} {text : List Char}

theorem isDigit_of_mem_zeros_numeral {zeros : Nat} {letter : Char}
    (member : letter ∈ List.replicate zeros '0' ++ numeral number) : letter.isDigit = true := by
  rcases List.mem_append.mp member with zero | digit
  · rw [List.eq_of_mem_replicate zero]
    rfl
  · exact isDigit_of_mem_numeral digit

theorem numeralValue_zeros_numeral (zeros number : Nat) :
    numeralValue (List.replicate zeros '0' ++ numeral number) = number := by
  rw [numeralValue_zeros_append, numeralValue_numeral]

/-! ## Numerals of a width -/

variable {width : Nat}

theorem isDigit_of_mem_paddedNumeral {letter : Char} (member : letter ∈ paddedNumeral width number) :
    letter.isDigit = true :=
  isDigit_of_mem_zeros_numeral member

theorem numeralValue_paddedNumeral (width number : Nat) :
    numeralValue (paddedNumeral width number) = number :=
  numeralValue_zeros_numeral _ number

theorem paddedNumeral_ne_nil (width number : Nat) : paddedNumeral width number ≠ [] := by
  simp [paddedNumeral, numeral_ne_nil]

theorem length_paddedNumeral (width number : Nat) :
    (paddedNumeral width number).length = max width (numeral number).length := by
  rw [paddedNumeral, List.length_append, List.length_replicate]
  omega

theorem length_numeral_le_iff (positive : 0 < width) :
    (numeral number).length ≤ width ↔ number < 10 ^ width :=
  Nat.length_toDigits_le_iff (by decide) positive

/-- A number that fits is as long as it is filled. -/
theorem length_paddedNumeral_of_lt (positive : 0 < width) (small : number < 10 ^ width) :
    (paddedNumeral width number).length = width := by
  rw [length_paddedNumeral]
  exact Nat.max_eq_left ((length_numeral_le_iff positive).mpr small)

theorem numeralValue_lt_pow (nonempty : digits ≠ [])
    (allDigits : ∀ letter ∈ digits, letter.isDigit = true) :
    numeralValue digits < 10 ^ digits.length := by
  rw [← length_numeral_le_iff (List.length_pos_iff.mpr nonempty)]
  obtain ⟨zeros, whole⟩ := exists_zeros_numeral nonempty allDigits
  have lengths := congrArg List.length whole
  rw [List.length_append] at lengths
  omega

/-- A run of digits is the numeral of its value at its own width. -/
theorem paddedNumeral_numeralValue (nonempty : digits ≠ [])
    (allDigits : ∀ letter ∈ digits, letter.isDigit = true) :
    paddedNumeral digits.length (numeralValue digits) = digits := by
  obtain ⟨zeros, whole⟩ := exists_zeros_numeral nonempty allDigits
  have lengths := congrArg List.length whole
  rw [List.length_append, List.length_replicate] at lengths
  have filled : digits.length - (numeral (numeralValue digits)).length = zeros := by omega
  rw [paddedNumeral, filled, ← whole]

/-! ## Whole texts that are read as numbers -/

theorem readRun_eq_some_iff :
    readRun limit text = some number ↔
      number ≤ limit ∧ ∃ zeros, text = List.replicate zeros '0' ++ numeral number := by
  simp only [readRun, readDigits_eq, Bool.and_eq_true, Bool.not_eq_true', List.isEmpty_eq_false_iff,
    List.all_eq_true, Option.ite_none_right_eq_some, Option.some.injEq]
  constructor
  · rintro ⟨⟨nonempty, allDigits⟩, within, rfl⟩
    exact ⟨within, exists_zeros_numeral nonempty allDigits⟩
  · rintro ⟨within, zeros, rfl⟩
    rw [numeralValue_zeros_numeral]
    exact ⟨⟨by simp [numeral_ne_nil], fun _ => isDigit_of_mem_zeros_numeral⟩,
      within, rfl⟩

theorem readNumber_eq_some_iff :
    readNumber limit text = some number ↔
      number ≤ limit ∧ ∃ zeros, text = List.replicate zeros '0' ++ numeral number ∨
        text = '+' :: (List.replicate zeros '0' ++ numeral number) := by
  unfold readNumber
  split
  case h_1 digits =>
    -- No numeral starts with the plus sign, which is therefore not part of the run.
    have noPlus : ∀ zeros, '+' :: digits ≠ List.replicate zeros '0' ++ numeral number := by
      intro zeros same
      have digit := isDigit_of_mem_zeros_numeral (same ▸ List.mem_cons_self)
      exact absurd digit (by decide)
    simp [readRun_eq_some_iff, noPlus]
  case h_2 noPlus =>
    have noPlus : ∀ digits, text ≠ '+' :: digits := noPlus
    simp [readRun_eq_some_iff, noPlus]

end TrickLedger.Text
