import TrickLedger.Text.Numeral

/-!
# Calendar dates

Dates of the proleptic Gregorian calendar. The year zero exists and is a leap
year, and years reach from -262143 to 262142.
-/

namespace TrickLedger

namespace Calendar

/-- The least year of a date. -/
def leastYear : Int := -262143

/-- The greatest year of a date. -/
def greatestYear : Int := 262142

/-- Leap years are divisible by four, but of the centuries only every fourth. -/
def isLeapYear (year : Int) : Bool :=
  year % 4 = 0 ∧ (year % 100 ≠ 0 ∨ year % 400 = 0)

/-- The number of days of a month; there are none outside the twelve months. -/
def daysInMonth (year : Int) : Nat → Nat
  | 1 | 3 | 5 | 7 | 8 | 10 | 12 => 31
  | 4 | 6 | 9 | 11 => 30
  | 2 => if isLeapYear year then 29 else 28
  | _ => 0

/-- The day exists in the calendar. -/
def IsDay (year : Int) (month day : Nat) : Prop :=
  leastYear ≤ year ∧ year ≤ greatestYear ∧ 1 ≤ day ∧ day ≤ daysInMonth year month

instance (year : Int) (month day : Nat) : Decidable (IsDay year month day) := by
  unfold IsDay
  infer_instance

end Calendar

/-- A day that exists in the calendar. -/
structure Date where
  year : Int
  month : Nat
  day : Nat
  isDay : Calendar.IsDay year month day
  deriving DecidableEq, Repr

namespace Date

/-- The date with the given year, month and day, if there is one. -/
def make? (year : Int) (month day : Nat) : Option Date :=
  if isDay : Calendar.IsDay year month day then some ⟨year, month, day, isDay⟩ else none

/-- The year of a date: four digits, and outside these an explicit sign. -/
def yearLetters (year : Int) : List Char :=
  if 0 ≤ year ∧ year ≤ 9999 then Text.paddedNumeral 4 year.natAbs
  else (if year < 0 then '-' else '+') :: Text.paddedNumeral 4 year.natAbs

/-- The text of a date: year, month and day, separated by hyphens. -/
def text (date : Date) : String :=
  String.ofList (yearLetters date.year ++ '-' :: Text.paddedNumeral 2 date.month ++
    '-' :: Text.paddedNumeral 2 date.day)

end Date
end TrickLedger
