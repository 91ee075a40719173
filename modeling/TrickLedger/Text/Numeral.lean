/-!
# Decimal numerals

Numerals are runs of ASCII digits. A number is written without superfluous
zeros. A numeral is read digit by digit against a limit: a run of any length
either denotes a number up to the limit or is refused as soon as it passes it.
-/

namespace TrickLedger.Text

/-- The decimal digits of a number, without superfluous zeros. -/
def numeral (number : Nat) : List Char :=
  Nat.toDigits 10 number

/-- The decimal numeral of an integer, with a sign if it is negative. -/
def signedNumeral (number : Int) : List Char :=
  if number < 0 then '-' :: numeral number.natAbs else numeral number.natAbs

/-- The numeral of a number, filled with zeros at the left up to a width. -/
def paddedNumeral (width number : Nat) : List Char :=
  List.replicate (width - (numeral number).length) '0' ++ numeral number

/-- The number that a run of digits denotes. -/
def numeralValue (digits : List Char) : Nat :=
  Nat.ofDigitChars 10 digits 0

/-- Reads on after the digits of `number`, and stops once the number read so far
passes the limit. -/
def readDigitsFrom (limit number : Nat) : List Char → Option Nat
  | [] => some number
  | digit :: digits =>
      let next := 10 * number + (digit.toNat - '0'.toNat)
      if next ≤ limit then readDigitsFrom limit next digits else none

/-- The number that a run of digits denotes, if it does not pass the limit. -/
def readDigits (limit : Nat) (digits : List Char) : Option Nat :=
  readDigitsFrom limit 0 digits

/-- Reads a run of one or more digits as a number up to the limit. -/
def readRun (limit : Nat) (digits : List Char) : Option Nat :=
  if !digits.isEmpty && digits.all Char.isDigit then readDigits limit digits else none

/-- Reads a whole text as a number up to the limit: one leading plus sign and
any number of leading zeros are allowed. -/
def readNumber (limit : Nat) : List Char → Option Nat
  | '+' :: digits => readRun limit digits
  | digits => readRun limit digits

/-- Reads a whole text as an integer within bounds: one leading sign and any
number of leading zeros are allowed. -/
def readInteger (least greatest : Int) : List Char → Option Int
  | '-' :: digits => ((readRun (-least).toNat digits).map fun number => -(number : Int))
  | text => (readNumber greatest.toNat text).map Int.ofNat

@[simp]
theorem numeralValue_numeral (number : Nat) : numeralValue (numeral number) = number :=
  Nat.ofDigitChars_ten_toDigits

theorem le_ofDigitChars (number : Nat) (digits : List Char) :
    number ≤ Nat.ofDigitChars 10 digits number := by
  induction digits generalizing number with
  | nil => simp [Nat.ofDigitChars_nil]
  | cons digit digits induction =>
      rw [Nat.ofDigitChars_cons]
      exact Nat.le_trans (by omega) (induction _)

theorem readDigitsFrom_eq (limit number : Nat) (digits : List Char) (small : number ≤ limit) :
    readDigitsFrom limit number digits =
      if Nat.ofDigitChars 10 digits number ≤ limit then some (Nat.ofDigitChars 10 digits number)
      else none := by
  induction digits generalizing number with
  | nil => simp [readDigitsFrom, Nat.ofDigitChars_nil, small]
  | cons digit digits induction =>
      rw [readDigitsFrom, Nat.ofDigitChars_cons]
      by_cases within : 10 * number + (digit.toNat - '0'.toNat) ≤ limit
      · rw [if_pos within, induction _ within]
      · have grows := le_ofDigitChars (10 * number + (digit.toNat - '0'.toNat)) digits
        rw [if_neg within, if_neg fun fits => within (Nat.le_trans grows fits)]

/-- Reading against a limit refuses exactly the numerals whose value is beyond
it, whatever their length. -/
theorem readDigits_eq (limit : Nat) (digits : List Char) :
    readDigits limit digits =
      if numeralValue digits ≤ limit then some (numeralValue digits) else none :=
  readDigitsFrom_eq limit 0 digits (Nat.zero_le limit)

end TrickLedger.Text
