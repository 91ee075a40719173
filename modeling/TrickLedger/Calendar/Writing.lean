import TrickLedger.Calendar.Notation

/-!
# Writing dates

Which texts write a date in a notation, said without reading them: items stand for runs of
letters, and a text is made of the runs of all items in sequence.  Among them are the texts
that fill years with zeros up to four digits, and months and days up to two or not at all.
-/

namespace TrickLedger.Calendar

/-- One or more digits. -/
def IsNumber (digits : List Char) : Prop :=
  digits ≠ [] ∧ ∀ letter ∈ digits, letter.isDigit = true

/-- The letters write a year: up to four digits, or a sign and any number of digits. -/
inductive WritesYear : List Char → Int → Prop
  | unsigned (digits : List Char) (number : IsNumber digits) (short : digits.length ≤ 4) :
      WritesYear digits (Text.numeralValue digits)
  | plus (digits : List Char) (number : IsNumber digits) :
      WritesYear ('+' :: digits) (Text.numeralValue digits)
  | minus (digits : List Char) (number : IsNumber digits) :
      WritesYear ('-' :: digits) (-Text.numeralValue digits)

/-- The letters write a month or a day. -/
inductive WritesShort : List Char → Nat → Prop
  | digits (digits : List Char) (number : IsNumber digits) (short : digits.length ≤ 2) :
      WritesShort digits (Text.numeralValue digits)

/-- The text writes items one after another, with blanks before numbers.  The numbers go
into a draft. -/
inductive Writes : List Item → Draft → List Char → Draft → Prop
  | done (draft : Draft) : Writes [] draft [] draft
  | year {items : List Item} {draft result : Draft} {rest : List Char}
      (blanks letters : List Char) (year : Int)
      (blank : ∀ letter ∈ blanks, Text.isBlank letter = true) (written : WritesYear letters year)
      (more : Writes items { draft with year } rest result) :
      Writes (.year :: items) draft (blanks ++ letters ++ rest) result
  | month {items : List Item} {draft result : Draft} {rest : List Char}
      (blanks letters : List Char) (month : Nat)
      (blank : ∀ letter ∈ blanks, Text.isBlank letter = true) (written : WritesShort letters month)
      (more : Writes items { draft with month } rest result) :
      Writes (.month :: items) draft (blanks ++ letters ++ rest) result
  | day {items : List Item} {draft result : Draft} {rest : List Char}
      (blanks letters : List Char) (day : Nat)
      (blank : ∀ letter ∈ blanks, Text.isBlank letter = true) (written : WritesShort letters day)
      (more : Writes items { draft with day } rest result) :
      Writes (.day :: items) draft (blanks ++ letters ++ rest) result
  | mark {items : List Item} {draft result : Draft} {rest : List Char} (letter : Char)
      (more : Writes items draft rest result) :
      Writes (.mark letter :: items) draft (letter :: rest) result
  | blanks {items : List Item} {draft result : Draft} {rest : List Char} (blanks : List Char)
      (blank : ∀ letter ∈ blanks, Text.isBlank letter = true)
      (stops : ∀ letter ∈ rest.head?, Text.isBlank letter = false)
      (more : Writes items draft rest result) :
      Writes (.blanks :: items) draft (blanks ++ rest) result

/-- How a date is filled with zeros. -/
structure Filling where
  month : Bool
  day : Bool
  deriving DecidableEq, Repr

namespace Filling

/-- A month or a day, with two digits or more if it is filled. -/
def short (filled : Bool) (number : Nat) : List Char :=
  if filled then Text.paddedNumeral 2 number else Text.numeral number

/-- The letters for an item. -/
def letters (filling : Filling) (year month day : Nat) : Item → List Char
  | .year => Text.paddedNumeral 4 year
  | .month => short filling.month month
  | .day => short filling.day day
  | .mark letter => [letter]
  | .blanks => []

/-- A date written in a notation. -/
def text (filling : Filling) (items : List Item) (year month day : Nat) : String :=
  String.ofList (items.flatMap (filling.letters year month day))

end Filling

end TrickLedger.Calendar
