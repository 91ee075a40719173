import TrickLedger.Calendar.Writing
import TrickLedger.Proofs.Text.Numeral
import TrickLedger.Proofs.Text.Runs

/-!
# Reading dates

A notation is read greedily: blanks before a number are skipped, and a number takes all the
digits it can use.  Where the numbers of a notation are kept apart by marks, it reads just
the texts that it writes.
-/

namespace TrickLedger.Calendar

open Text

variable {width : Option Nat} {limit number : Nat} {text rest digits blanks letters : List Char}
  {year : Int} {items : List Item} {draft result : Draft}

/-! ### Numbers -/

theorem isBlank_eq_false_of_isDigit {letter : Char} (digit : letter.isDigit = true) :
    isBlank letter = false := by
  obtain ⟨lower, upper⟩ := Char.isDigit_iff_toNat.mp digit
  simp only [Char.reduceToNat] at lower upper
  simp only [isBlank, Bool.or_eq_false_iff, Bool.and_eq_false_iff, decide_eq_false_iff_not,
    beq_eq_false_iff_ne]
  omega

theorem isDigit_eq_false_of_isBlank {letter : Char} (blank : isBlank letter = true) :
    letter.isDigit = false := by
  cases digit : letter.isDigit with
  | false => rfl
  | true => rw [isBlank_eq_false_of_isDigit digit] at blank; contradiction

theorem leadingDigits_isPrefix (width : Option Nat) (text : List Char) :
    leadingDigits width text <+: text.takeWhile Char.isDigit := by
  cases width with
  | none => exact List.prefix_rfl
  | some most => exact List.take_prefix most _

theorem length_leadingDigits_le {most : Nat} (limited : most ∈ width) (text : List Char) :
    (leadingDigits width text).length ≤ most := by
  cases limited
  rw [leadingDigits, List.length_take]
  exact Nat.min_le_left most _

theorem leadingDigits_append (allDigits : ∀ letter ∈ digits, letter.isDigit = true)
    (fits : ∀ most ∈ width, digits.length ≤ most)
    (stops : ∀ letter ∈ rest.head?, letter.isDigit = false) :
    leadingDigits width (digits ++ rest) = digits := by
  have run : (digits ++ rest).takeWhile Char.isDigit = digits := takeWhile_run allDigits stops
  cases width with
  | none => exact run
  | some most => rw [leadingDigits, run, List.take_of_length_le (fits most rfl)]

/-- The letters of a number at the start of a text. -/
theorem exists_of_readNumber? (read : readNumber? width limit text = some (number, rest)) :
    ∃ digits, text = digits ++ rest ∧ IsNumber digits ∧ (∀ most ∈ width, digits.length ≤ most) ∧
      numeralValue digits = number := by
  simp only [readNumber?, List.isEmpty_iff, Option.ite_none_left_eq_some, Option.map_eq_some_iff,
    readDigits_eq, Option.ite_none_right_eq_some, Option.some.injEq, Prod.mk.injEq] at read
  obtain ⟨nonempty, value, ⟨-, rfl⟩, rfl, rfl⟩ := read
  have front := leadingDigits_isPrefix width text
  have allDigits : ∀ letter ∈ leadingDigits width text, letter.isDigit = true :=
    fun letter member => List.all_eq_true.mp List.all_takeWhile letter (front.subset member)
  obtain ⟨others, whole⟩ := front.trans (List.takeWhile_prefix Char.isDigit)
  have behind : text.drop (leadingDigits width text).length = others := by
    conv => lhs; arg 2; rw [← whole]
    exact List.drop_left
  exact ⟨_, by rw [behind, whole], ⟨nonempty, allDigits⟩,
    fun most limited => length_leadingDigits_le limited text, rfl⟩

/-- A number is read whole if it fits and no digit stands behind it. -/
theorem readNumber?_digits (isNumber : IsNumber digits) (fits : ∀ most ∈ width, digits.length ≤ most)
    (within : numeralValue digits ≤ limit) (stops : ∀ letter ∈ rest.head?, letter.isDigit = false) :
    readNumber? width limit (digits ++ rest) = some (numeralValue digits, rest) := by
  simp [readNumber?, leadingDigits_append isNumber.2 fits stops, isNumber.1, readDigits_eq, within]

/-! ### Years, months and days -/

theorem trimStart_number (blank : ∀ letter ∈ blanks, isBlank letter = true)
    (starts : ∀ letter ∈ text.head?, isBlank letter = false) : trimStart (blanks ++ text) = text := by
  rw [trimStart_padded blank]
  exact dropWhile_eq_self starts

theorem exists_blanks (text : List Char) :
    ∃ blanks, text = blanks ++ trimStart text ∧ ∀ letter ∈ blanks, isBlank letter = true :=
  ⟨text.takeWhile isBlank, List.takeWhile_append_dropWhile.symm,
    List.all_eq_true.mp List.all_takeWhile⟩

theorem IsNumber.exists_digit (number : IsNumber digits) :
    ∃ digit others, digits = digit :: others ∧ digit.isDigit = true := by
  cases digits with
  | nil => exact absurd rfl number.1
  | cons digit others => exact ⟨digit, others, rfl, number.2 digit List.mem_cons_self⟩

theorem exists_of_readShort? (read : readShort? text = some (number, rest)) :
    ∃ blanks letters, text = blanks ++ letters ++ rest ∧
      (∀ letter ∈ blanks, isBlank letter = true) ∧ WritesShort letters number := by
  obtain ⟨blanks, whole, blank⟩ := exists_blanks text
  obtain ⟨digits, behind, isNumber, fits, rfl⟩ := exists_of_readNumber? read
  exact ⟨blanks, digits, by rw [whole, behind, List.append_assoc], blank,
    .digits digits isNumber (fits 2 rfl)⟩

theorem readShort?_letters (blank : ∀ letter ∈ blanks, isBlank letter = true)
    (written : WritesShort letters number)
    (stops : ∀ letter ∈ rest.head?, letter.isDigit = false) :
    readShort? (blanks ++ letters ++ rest) = some (number, rest) := by
  obtain ⟨isNumber, short⟩ := written
  have starts : ∀ letter ∈ (letters ++ rest).head?, isBlank letter = false := by
    obtain ⟨digit, others, rfl, isDigit⟩ := isNumber.exists_digit
    rintro letter ⟨⟩
    exact isBlank_eq_false_of_isDigit isDigit
  have small : numeralValue letters ≤ 99 := by
    have bound := numeralValue_lt_pow isNumber.1 isNumber.2
    have wider := Nat.pow_le_pow_right (show 0 < 10 by decide) short
    omega
  rw [readShort?, List.append_assoc, trimStart_number blank starts]
  exact readNumber?_digits isNumber (by simpa using short) small stops

theorem exists_of_readYear? (read : readYear? text = some (year, rest)) :
    ∃ blanks letters, text = blanks ++ letters ++ rest ∧
      (∀ letter ∈ blanks, isBlank letter = true) ∧ WritesYear letters year := by
  obtain ⟨blanks, whole, blank⟩ := exists_blanks text
  unfold readYear? at read
  split at read <;> obtain ⟨⟨number, others⟩, taken, same⟩ := Option.map_eq_some_iff.mp read <;>
    cases same <;> obtain ⟨digits, behind, isNumber, fits, rfl⟩ := exists_of_readNumber? taken
  case h_1 signed =>
    exact ⟨blanks, '-' :: digits, by rw [whole, signed, behind]; simp, blank, .minus digits isNumber⟩
  case h_2 signed =>
    exact ⟨blanks, '+' :: digits, by rw [whole, signed, behind]; simp, blank, .plus digits isNumber⟩
  case h_3 =>
    exact ⟨blanks, digits, by rw [whole, behind]; simp, blank,
      .unsigned digits isNumber (fits 4 rfl)⟩

theorem readYear?_letters (blank : ∀ letter ∈ blanks, isBlank letter = true)
    (written : WritesYear letters year) (lower : leastYear ≤ year) (upper : year ≤ greatestYear)
    (stops : ∀ letter ∈ rest.head?, letter.isDigit = false) :
    readYear? (blanks ++ letters ++ rest) = some (year, rest) := by
  unfold leastYear at lower
  unfold greatestYear at upper
  rw [readYear?, List.append_assoc]
  cases written with
  | plus digits isNumber =>
      rw [trimStart_number blank (by rintro letter ⟨⟩; decide), List.cons_append]
      simp only
      rw [readNumber?_digits isNumber (by simp) (by unfold greatestYear; omega) stops]
      rfl
  | minus digits isNumber =>
      rw [trimStart_number blank (by rintro letter ⟨⟩; decide), List.cons_append]
      simp only
      rw [readNumber?_digits isNumber (by simp) (by unfold leastYear; omega) stops]
      rfl
  | unsigned digits isNumber short =>
      have within : numeralValue letters ≤ greatestYear.natAbs := by
        unfold greatestYear
        omega
      have fits : ∀ most ∈ some 4, letters.length ≤ most := by simpa using short
      have read := readNumber?_digits isNumber fits within stops
      obtain ⟨digit, others, rfl, isDigit⟩ := isNumber.exists_digit
      rw [trimStart_number blank (by rintro letter ⟨⟩; exact isBlank_eq_false_of_isDigit isDigit)]
      split
      case h_1 signed =>
        cases signed
        contradiction
      case h_2 signed =>
        cases signed
        contradiction
      case h_3 =>
        rw [read]
        rfl

/-! ### Whole texts -/

/-- No number stands at the start of the items. -/
def startsApart : List Item → Bool
  | [] => true
  | .mark letter :: _ => !letter.isDigit
  | .blanks :: items => startsApart items
  | _ => false

/-- No number stands right behind another one, and there is one year at most. -/
def keepsApart : List Item → Bool
  | [] => true
  | .year :: items => startsApart items && !items.contains .year && keepsApart items
  | .month :: items => startsApart items && keepsApart items
  | .day :: items => startsApart items && keepsApart items
  | _ :: items => keepsApart items

theorem Writes.not_isDigit_head (writes : Writes items draft text result)
    (apart : startsApart items = true) : ∀ letter ∈ text.head?, letter.isDigit = false := by
  induction writes with
  | done => simp
  | year => cases apart
  | month => cases apart
  | day => cases apart
  | mark letter more ih => simpa [startsApart] using apart
  | blanks blanks blank stops more ih =>
      cases blanks with
      | nil => exact ih apart
      | cons letter blanks =>
          rintro _ ⟨⟩
          exact isDigit_eq_false_of_isBlank (blank letter List.mem_cons_self)

theorem Writes.year_eq (writes : Writes items draft text result) (absent : .year ∉ items) :
    result.year = draft.year := by
  induction writes with
  | done => rfl
  | year => simp at absent
  | month _ _ _ _ _ _ ih => exact ih (List.not_mem_of_not_mem_cons absent)
  | day _ _ _ _ _ _ ih => exact ih (List.not_mem_of_not_mem_cons absent)
  | mark _ _ ih => exact ih (List.not_mem_of_not_mem_cons absent)
  | blanks _ _ _ _ ih => exact ih (List.not_mem_of_not_mem_cons absent)

theorem writes_of_readItems? (read : readItems? items draft text = some result) :
    Writes items draft text result := by
  induction items generalizing draft text with
  | nil =>
      simp only [readItems?, List.isEmpty_iff, Option.ite_none_right_eq_some,
        Option.some.injEq] at read
      obtain ⟨rfl, rfl⟩ := read
      exact .done draft
  | cons item items ih =>
      cases item with
      | year =>
          obtain ⟨⟨year, rest⟩, taken, more⟩ := Option.bind_eq_some_iff.mp read
          obtain ⟨blanks, letters, rfl, blank, written⟩ := exists_of_readYear? taken
          exact .year blanks letters year blank written (ih more)
      | month =>
          obtain ⟨⟨month, rest⟩, taken, more⟩ := Option.bind_eq_some_iff.mp read
          obtain ⟨blanks, letters, rfl, blank, written⟩ := exists_of_readShort? taken
          exact .month blanks letters month blank written (ih more)
      | day =>
          obtain ⟨⟨day, rest⟩, taken, more⟩ := Option.bind_eq_some_iff.mp read
          obtain ⟨blanks, letters, rfl, blank, written⟩ := exists_of_readShort? taken
          exact .day blanks letters day blank written (ih more)
      | mark letter =>
          cases text with
          | nil => cases read
          | cons first rest =>
              simp only [readItems?, Option.ite_none_right_eq_some] at read
              obtain ⟨rfl, more⟩ := read
              exact .mark first (ih more)
      | blanks =>
          obtain ⟨blanks, whole, blank⟩ := exists_blanks text
          rw [whole]
          exact .blanks blanks blank (not_head?_dropWhile isBlank text) (ih read)

theorem Writes.readItems? (writes : Writes items draft text result)
    (apart : keepsApart items = true) (lower : leastYear ≤ result.year)
    (upper : result.year ≤ greatestYear) : readItems? items draft text = some result := by
  induction writes with
  | done draft => rfl
  | year blanks letters year blank written more ih =>
      simp only [keepsApart, Bool.and_eq_true, Bool.not_eq_true', List.contains_eq_mem,
        decide_eq_false_iff_not] at apart
      have same := more.year_eq apart.1.2
      rw [same] at lower upper
      rw [Calendar.readItems?, readYear?_letters blank written lower upper
        (more.not_isDigit_head apart.1.1)]
      exact ih apart.2 (by rw [same]; exact lower) (by rw [same]; exact upper)
  | month blanks letters month blank written more ih =>
      simp only [keepsApart, Bool.and_eq_true] at apart
      rw [Calendar.readItems?, readShort?_letters blank written (more.not_isDigit_head apart.1)]
      exact ih apart.2 lower upper
  | day blanks letters day blank written more ih =>
      simp only [keepsApart, Bool.and_eq_true] at apart
      rw [Calendar.readItems?, readShort?_letters blank written (more.not_isDigit_head apart.1)]
      exact ih apart.2 lower upper
  | mark letter more ih =>
      rw [Calendar.readItems?, if_pos rfl]
      exact ih apart lower upper
  | blanks blanks blank stops more ih =>
      rw [Calendar.readItems?, trimStart_number blank stops]
      exact ih apart lower upper

/-- A notation that keeps its numbers apart reads just the texts that it writes. -/
theorem readAs?_eq_some_iff (apart : keepsApart items = true) {raw : String} {date : Date} :
    readAs? items raw = some date ↔
      Writes items {} raw.toList ⟨date.year, date.month, date.day⟩ := by
  unfold readAs?
  constructor
  · intro read
    obtain ⟨draft, found, made⟩ := Option.bind_eq_some_iff.mp read
    obtain ⟨isDay, same⟩ := Option.dite_none_right_eq_some.mp made
    cases same
    exact writes_of_readItems? found
  · intro writes
    obtain ⟨lower, upper, -⟩ := date.isDay
    rw [writes.readItems? apart lower upper]
    exact Option.dite_none_right_eq_some.mpr ⟨date.isDay, rfl⟩

end TrickLedger.Calendar
