import TrickLedger.Text.Numeral

/-!
# Amounts of money

Amounts count minor currency units. They stay between the least and the
greatest signed 64-bit integer: a sum or product beyond a bound is that bound.
An amount is written in Czech crowns with two decimal places.
-/

namespace TrickLedger.Money

/-- The least amount, which is minus two to the 63rd. -/
def least : Int := -9223372036854775808

/-- The greatest amount, one less than two to the 63rd. -/
def greatest : Int := 9223372036854775807

/-- The amount nearest to an integer. -/
def saturate (value : Int) : Int :=
  max least (min value greatest)

/-- The sum of two amounts, held at the bounds. -/
def add (first second : Int) : Int :=
  saturate (first + second)

/-- The difference of two amounts, held at the bounds. -/
def sub (first second : Int) : Int :=
  saturate (first - second)

/-- The product of two amounts, held at the bounds. -/
def mul (first second : Int) : Int :=
  saturate (first * second)

/-- The integer nearest to `value` that is at most `bound` away from zero. -/
def clampTo (bound value : Int) : Int :=
  max (-bound) (min value bound)

theorem saturate_of_mem {value : Int} (lower : least ≤ value) (upper : value ≤ greatest) :
    saturate value = value := by
  unfold saturate
  omega

theorem least_le_saturate (value : Int) : least ≤ saturate value := by
  unfold saturate
  omega

theorem saturate_le_greatest (value : Int) : saturate value ≤ greatest := by
  have ordered : least ≤ greatest := by decide
  unfold saturate
  omega

/-- The characters of an amount in crowns: an optional minus sign, the whole
crowns, a comma, two digits of hellers and the currency. -/
def letters (amount : Int) : List Char :=
  let size := amount.natAbs
  (if amount < 0 then ['-'] else []) ++ Text.numeral (size / 100) ++
    ',' :: Text.paddedNumeral 2 (size % 100) ++ [' ', 'K', 'č']

/-- An amount in crowns, for instance `-1,20 Kč` for `-120`. -/
def text (amount : Int) : String :=
  String.ofList (letters amount)

end TrickLedger.Money
