import TrickLedger.Proofs.Calendar.Notation

/-!
# Dates of sheets

The three notations of sheets are told apart by their marks, so that no text is written in
two of them and the order of trial does not matter.  A date of at most four digits is read
back however it is filled with zeros, and a day that does not exist is not read.
-/

namespace TrickLedger.Calendar

open Text

variable {text rest digits blanks letters : List Char} {number month day : Nat} {year : Int}
  {items : List Item} {draft result : Draft} {filling : Filling}

/-! ### Marks -/

/-- A letter that no number or blank has stands in a text only as a mark. -/
theorem Writes.mem_iff {mark : Char} (writes : Writes items draft text result)
    (noBlank : isBlank mark = false) (noDigit : mark.isDigit = false)
    (noSign : mark ≠ '+' ∧ mark ≠ '-') : mark ∈ text ↔ .mark mark ∈ items := by
  have notInBlanks : ∀ {blanks : List Char}, (∀ letter ∈ blanks, isBlank letter = true) →
      mark ∉ blanks := by
    intro blanks blank member
    rw [blank mark member] at noBlank
    contradiction
  have notInNumber : ∀ {digits : List Char}, IsNumber digits → mark ∉ digits :=
    fun isNumber => not_mem_of_allDigits isNumber.2 noDigit
  induction writes with
  | done draft => simp
  | year blanks letters year blank written more ih =>
      have notInYear : mark ∉ letters := by
        cases written with
        | unsigned digits isNumber short => exact notInNumber isNumber
        | plus digits isNumber => simp [noSign.1, notInNumber isNumber]
        | minus digits isNumber => simp [noSign.2, notInNumber isNumber]
      simp [notInBlanks blank, notInYear, ih]
  | month blanks letters month blank written more ih =>
      obtain ⟨isNumber, short⟩ := written
      simp [notInBlanks blank, notInNumber isNumber, ih]
  | day blanks letters day blank written more ih =>
      obtain ⟨isNumber, short⟩ := written
      simp [notInBlanks blank, notInNumber isNumber, ih]
  | mark letter more ih => simp [ih]
  | blanks blanks blank stops more ih => simp [notInBlanks blank, ih]

theorem eq_of_marks : ∀ first ∈ notations, ∀ second ∈ notations,
    (.mark '.' ∈ first ↔ .mark '.' ∈ second) → (.mark '/' ∈ first ↔ .mark '/' ∈ second) →
      first = second := by
  decide

/-- No text is written in two of the notations: full stops and slashes tell them apart. -/
theorem Writes.notation_eq {first second : List Item} {draftSecond resultSecond : Draft}
    (known : first ∈ notations) (knownSecond : second ∈ notations)
    (writes : Writes first draft text result)
    (writesSecond : Writes second draftSecond text resultSecond) : first = second := by
  apply eq_of_marks first known second knownSecond
  · rw [← writes.mem_iff (by decide) (by decide) (by decide),
      ← writesSecond.mem_iff (by decide) (by decide) (by decide)]
  · rw [← writes.mem_iff (by decide) (by decide) (by decide),
      ← writesSecond.mem_iff (by decide) (by decide) (by decide)]

theorem keepsApart_of_mem (known : items ∈ notations) : keepsApart items = true := by
  revert items
  decide

/-- Whatever the order of trial, a date is found exactly if a notation writes it. -/
theorem findSome?_readAs?_eq_some_iff {order : List (List Item)}
    (known : ∀ items ∈ order, items ∈ notations) {raw : String} {date : Date} :
    (order.findSome? fun items => readAs? items raw) = some date ↔
      ∃ items ∈ order, Writes items {} raw.toList ⟨date.year, date.month, date.day⟩ := by
  have readIff : ∀ items ∈ order, ∀ date, readAs? items raw = some date ↔
      Writes items {} raw.toList ⟨date.year, date.month, date.day⟩ := fun items listed _ =>
    readAs?_eq_some_iff (keepsApart_of_mem (known items listed))
  constructor
  · intro found
    obtain ⟨items, listed, read⟩ := List.exists_of_findSome?_eq_some found
    exact ⟨items, listed, (readIff items listed date).mp read⟩
  · rintro ⟨items, listed, writes⟩
    cases found : order.findSome? fun items => readAs? items raw with
    | none =>
        have unread := List.findSome?_eq_none_iff.mp found items listed
        rw [(readIff items listed date).mpr writes] at unread
        contradiction
    | some first =>
        -- Another notation that succeeds first would write the same text.
        obtain ⟨other, otherListed, read⟩ := List.exists_of_findSome?_eq_some found
        have same := writes.notation_eq (known items listed) (known other otherListed)
          ((readIff other otherListed first).mp read)
        rw [← same, (readIff items listed date).mpr writes] at read
        exact read.symm

/-! ### Filled dates -/

/-- The draft with the numbers of a date for the items. -/
def Draft.filled (year month day : Nat) (draft : Draft) : List Item → Draft
  | [] => draft
  | .year :: items => Draft.filled year month day { draft with year } items
  | .month :: items => Draft.filled year month day { draft with month } items
  | .day :: items => Draft.filled year month day { draft with day } items
  | _ :: items => Draft.filled year month day draft items

theorem Filling.isNumber_short (filled : Bool) (number : Nat) : IsNumber (short filled number) := by
  cases filled with
  | true => exact ⟨paddedNumeral_ne_nil 2 number, fun _ => isDigit_of_mem_paddedNumeral⟩
  | false => exact ⟨numeral_ne_nil number, fun _ => isDigit_of_mem_numeral⟩

theorem Filling.numeralValue_short (filled : Bool) (number : Nat) :
    numeralValue (short filled number) = number := by
  cases filled with
  | true => exact numeralValue_paddedNumeral 2 number
  | false => exact numeralValue_numeral number

theorem Filling.writesShort_short (filled : Bool) {number : Nat} (small : number ≤ 99) :
    WritesShort (short filled number) number := by
  have fits : (short filled number).length ≤ 2 := by
    have below : number < 10 ^ 2 := by omega
    cases filled with
    | true => exact Nat.le_of_eq (length_paddedNumeral_of_lt (by decide) below)
    | false => exact (length_numeral_le_iff (by decide)).mpr below
  have written := WritesShort.digits _ (isNumber_short filled number) fits
  rwa [numeralValue_short] at written

theorem isNumber_paddedNumeral (width number : Nat) : IsNumber (paddedNumeral width number) :=
  ⟨paddedNumeral_ne_nil width number, fun _ => isDigit_of_mem_paddedNumeral⟩

theorem writesYear_paddedNumeral {year : Nat} (small : year ≤ 9999) :
    WritesYear (paddedNumeral 4 year) year := by
  have fits : (paddedNumeral 4 year).length = 4 :=
    length_paddedNumeral_of_lt (by decide) (by omega)
  have written := WritesYear.unsigned _ (isNumber_paddedNumeral 4 year) (Nat.le_of_eq fits)
  rwa [numeralValue_paddedNumeral] at written

theorem writes_letters (filling : Filling) {year : Nat} (smallYear : year ≤ 9999) (smallMonth : month ≤ 99)
    (smallDay : day ≤ 99) (items : List Item) (noBlanks : .blanks ∉ items) (draft : Draft) :
    Writes items draft (items.flatMap (filling.letters year month day))
      (draft.filled year month day items) := by
  have noBlank : ∀ letter ∈ ([] : List Char), isBlank letter = true := by simp
  induction items generalizing draft with
  | nil => exact .done draft
  | cons item items ih =>
      have more := ih (List.not_mem_of_not_mem_cons noBlanks)
      cases item with
      | year => exact .year [] _ year noBlank (writesYear_paddedNumeral smallYear) (more _)
      | month =>
          exact .month [] _ month noBlank (Filling.writesShort_short _ smallMonth) (more _)
      | day => exact .day [] _ day noBlank (Filling.writesShort_short _ smallDay) (more _)
      | mark letter => exact .mark letter (more _)
      | blanks => simp at noBlanks

theorem not_isDigit_head_letters {year : Nat} (apart : startsApart items = true)
    (noBlanks : .blanks ∉ items) :
    ∀ letter ∈ (items.flatMap (filling.letters year month day)).head?, letter.isDigit = false := by
  cases items with
  | nil => simp
  | cons item items =>
      cases item with
      | mark letter => simpa [startsApart, Filling.letters] using apart
      | blanks => simp at noBlanks
      | year => cases apart
      | month => cases apart
      | day => cases apart

section Cut

variable {run others : List Char}

theorem blanks_eq_nil (isNumber : IsNumber run) (blank : ∀ letter ∈ blanks, isBlank letter = true)
    (same : blanks ++ text = run ++ others) : blanks = [] := by
  cases blanks with
  | nil => rfl
  | cons letter blanks =>
      obtain ⟨digit, digits, rfl, isDigit⟩ := isNumber.exists_digit
      cases (List.cons.inj same).1
      have noDigit := isDigit_eq_false_of_isBlank (blank letter List.mem_cons_self)
      rw [isDigit] at noDigit
      contradiction

/-- A number that no digit follows is cut off a text in one way. -/
theorem number_eq (isNumber : IsNumber run) (digitsNumber : IsNumber digits)
    (stops : ∀ letter ∈ others.head?, letter.isDigit = false)
    (restStops : ∀ letter ∈ rest.head?, letter.isDigit = false)
    (same : digits ++ rest = run ++ others) : digits = run ∧ rest = others := by
  have front := congrArg (List.takeWhile Char.isDigit) same
  rw [takeWhile_run digitsNumber.2 restStops, takeWhile_run isNumber.2 stops] at front
  exact ⟨front, List.append_cancel_left (front ▸ same)⟩

theorem WritesShort.cut (written : WritesShort letters number) (isNumber : IsNumber run)
    (blank : ∀ letter ∈ blanks, isBlank letter = true)
    (stops : ∀ letter ∈ others.head?, letter.isDigit = false)
    (restStops : ∀ letter ∈ rest.head?, letter.isDigit = false)
    (same : blanks ++ letters ++ rest = run ++ others) :
    number = numeralValue run ∧ rest = others := by
  rw [List.append_assoc] at same
  cases blanks_eq_nil isNumber blank same
  obtain ⟨digitsNumber, -⟩ := written
  obtain ⟨rfl, rfl⟩ := number_eq isNumber digitsNumber stops restStops same
  exact ⟨rfl, rfl⟩

theorem WritesYear.cut (written : WritesYear letters year) (isNumber : IsNumber run)
    (blank : ∀ letter ∈ blanks, isBlank letter = true)
    (stops : ∀ letter ∈ others.head?, letter.isDigit = false)
    (restStops : ∀ letter ∈ rest.head?, letter.isDigit = false)
    (same : blanks ++ letters ++ rest = run ++ others) :
    year = numeralValue run ∧ rest = others := by
  rw [List.append_assoc] at same
  cases blanks_eq_nil isNumber blank same
  cases written with
  | unsigned digits digitsNumber short =>
      obtain ⟨rfl, rfl⟩ := number_eq isNumber digitsNumber stops restStops same
      exact ⟨rfl, rfl⟩
  | plus digits =>
      obtain ⟨digit, digits, rfl, isDigit⟩ := isNumber.exists_digit
      rw [← (List.cons.inj same).1] at isDigit
      exact absurd isDigit (by decide)
  | minus digits =>
      obtain ⟨digit, digits, rfl, isDigit⟩ := isNumber.exists_digit
      rw [← (List.cons.inj same).1] at isDigit
      exact absurd isDigit (by decide)

end Cut

/-- A filled date is written with its own numbers only. -/
theorem Writes.eq_filled {year : Nat} (writes : Writes items draft text result)
    (apart : keepsApart items = true) (noBlanks : .blanks ∉ items)
    (same : text = items.flatMap (filling.letters year month day)) :
    result = draft.filled year month day items := by
  induction writes with
  | done draft => rfl
  | year blanks letters number blank written more ih =>
      simp only [keepsApart, Bool.and_eq_true] at apart
      have noBlanksMore := List.not_mem_of_not_mem_cons noBlanks
      obtain ⟨rfl, rest⟩ := written.cut (isNumber_paddedNumeral 4 year) blank
        (not_isDigit_head_letters apart.1.1 noBlanksMore) (more.not_isDigit_head apart.1.1) same
      rw [ih apart.2 noBlanksMore rest, numeralValue_paddedNumeral]
      rfl
  | month blanks letters number blank written more ih =>
      simp only [keepsApart, Bool.and_eq_true] at apart
      have noBlanksMore := List.not_mem_of_not_mem_cons noBlanks
      obtain ⟨rfl, rest⟩ := written.cut (Filling.isNumber_short filling.month month) blank
        (not_isDigit_head_letters apart.1 noBlanksMore) (more.not_isDigit_head apart.1) same
      rw [ih apart.2 noBlanksMore rest, Filling.numeralValue_short]
      rfl
  | day blanks letters number blank written more ih =>
      simp only [keepsApart, Bool.and_eq_true] at apart
      have noBlanksMore := List.not_mem_of_not_mem_cons noBlanks
      obtain ⟨rfl, rest⟩ := written.cut (Filling.isNumber_short filling.day day) blank
        (not_isDigit_head_letters apart.1 noBlanksMore) (more.not_isDigit_head apart.1) same
      rw [ih apart.2 noBlanksMore rest, Filling.numeralValue_short]
      rfl
  | mark letter more ih =>
      exact ih apart (List.not_mem_of_not_mem_cons noBlanks) (List.cons.inj same).2
  | blanks => simp at noBlanks

theorem noBlanks_of_mem (known : items ∈ notations) : .blanks ∉ items := by
  revert items
  decide

theorem filled_of_mem (known : items ∈ notations) (year month day : Nat) :
    ({} : Draft).filled year month day items = ⟨year, month, day⟩ := by
  simp only [notations, List.mem_cons, List.not_mem_nil, or_false] at known
  rcases known with rfl | rfl | rfl <;> rfl

theorem IsDay.month_le {year : Int} (isDay : IsDay year month day) : month ≤ 99 ∧ day ≤ 99 := by
  obtain ⟨-, -, lower, upper⟩ := isDay
  unfold daysInMonth at upper
  split at upper <;> grind

/-- A date is found in each of its filled forms. -/
theorem readDate?_text (known : items ∈ notations) (filling : Filling) (date : Date)
    (lower : 0 ≤ date.year) (upper : date.year ≤ 9999) :
    readDate? (filling.text items date.year.toNat date.month date.day) = some date := by
  obtain ⟨smallMonth, smallDay⟩ := date.isDay.month_le
  apply (findSome?_readAs?_eq_some_iff fun _ => id).mpr
  refine ⟨items, known, ?_⟩
  have writes := writes_letters filling (show date.year.toNat ≤ 9999 by omega)
    smallMonth smallDay items (noBlanks_of_mem known) {}
  rw [filled_of_mem known, Int.toNat_of_nonneg lower] at writes
  rwa [Filling.text, String.toList_ofList]

theorem mem_letters_iff {mark : Char} (noDigit : mark.isDigit = false) (filling : Filling)
    (year month day : Nat) (items : List Item) :
    mark ∈ items.flatMap (filling.letters year month day) ↔ .mark mark ∈ items := by
  have notInNumber : ∀ {digits : List Char}, IsNumber digits → mark ∉ digits :=
    fun isNumber => not_mem_of_allDigits isNumber.2 noDigit
  have only : ∀ item, mark ∈ filling.letters year month day item ↔ item = .mark mark := by
    intro item
    cases item with
    | year => simp [Filling.letters, notInNumber (isNumber_paddedNumeral 4 year)]
    | month => simp [Filling.letters, notInNumber (Filling.isNumber_short filling.month month)]
    | day => simp [Filling.letters, notInNumber (Filling.isNumber_short filling.day day)]
    | mark letter => simp [Filling.letters, eq_comm]
    | blanks => simp [Filling.letters]
  simp [only]

/-- The filled forms of a day that does not exist are no dates. -/
theorem readDate?_text_eq_none (known : items ∈ notations) (filling : Filling)
    {year : Nat} (missing : ¬IsDay year month day) :
    readDate? (filling.text items year month day) = none := by
  cases found : readDate? (filling.text items year month day) with
  | none => rfl
  | some date =>
      obtain ⟨other, otherKnown, writes⟩ :=
        (findSome?_readAs?_eq_some_iff fun _ => id).mp found
      rw [Filling.text, String.toList_ofList] at writes
      have sameMarks : ∀ {mark : Char}, isBlank mark = false → mark.isDigit = false →
          (mark ≠ '+' ∧ mark ≠ '-') → (.mark mark ∈ other ↔ .mark mark ∈ items) :=
        fun noBlank noDigit noSign => (writes.mem_iff noBlank noDigit noSign).symm.trans
          (mem_letters_iff noDigit filling year month day items)
      have same : other = items := eq_of_marks other otherKnown items known
        (sameMarks (by decide) (by decide) (by decide))
        (sameMarks (by decide) (by decide) (by decide))
      subst same
      have numbers := writes.eq_filled (keepsApart_of_mem known) (noBlanks_of_mem known) rfl
      rw [filled_of_mem known] at numbers
      cases date
      cases numbers
      contradiction

/-- No text is written in two notations, so that a date does not depend on the order in which
they are tried: it is the one that a notation writes.  Each date of four digits is read back
from its filled forms, and no other day is. -/
theorem readDate?_notations :
    (∀ first ∈ notations, ∀ second ∈ notations, ∀ text result resultSecond,
      Writes first {} text result → Writes second {} text resultSecond → first = second) ∧
    (∀ order : List (List Item), order.Perm notations → ∀ raw,
      (order.findSome? fun items => readAs? items raw) = readDate? raw) ∧
    (∀ raw date, readDate? raw = some date ↔
      ∃ items ∈ notations, Writes items {} raw.toList ⟨date.year, date.month, date.day⟩) ∧
    ∀ items ∈ notations, ∀ filling : Filling,
      (∀ date : Date, 0 ≤ date.year → date.year ≤ 9999 →
        readDate? (filling.text items date.year.toNat date.month date.day) = some date) ∧
      ∀ year month day : Nat, ¬IsDay year month day →
        readDate? (filling.text items year month day) = none := by
  refine ⟨?_, ?_, ?_, fun items known filling => ⟨?_, ?_⟩⟩
  · intro first known second knownSecond text result resultSecond writes writesSecond
    exact writes.notation_eq known knownSecond writesSecond
  · intro order rearranged raw
    ext date
    have known : ∀ items ∈ order, items ∈ notations := fun items => rearranged.mem_iff.mp
    rw [readDate?, findSome?_readAs?_eq_some_iff known, findSome?_readAs?_eq_some_iff fun _ => id]
    simp only [rearranged.mem_iff]
  · exact fun raw date => findSome?_readAs?_eq_some_iff fun _ => id
  · exact readDate?_text known filling
  · exact fun year month day => readDate?_text_eq_none known filling

example : readDate? "29.2.1900" = none := by
  cbv

end TrickLedger.Calendar
