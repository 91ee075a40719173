import TrickLedger.Calendar.Date
import TrickLedger.Text.Blank

/-!
# Notations of dates

A notation is a sequence of items: numbers and the marks between them. Blanks
before a number are skipped, and a number takes all the digits it can use. A
sheet may write its date in three notations.
-/

namespace TrickLedger.Calendar

/-- One item of a notation. -/
inductive Item
  | year
  | month
  | day
  /-- A character that has to stand as it is. -/
  | mark (letter : Char)
  /-- Any number of blanks. -/
  | blanks
  deriving DecidableEq, Repr

/-- The numbers of a date that have been read so far. -/
structure Draft where
  year : Int := 0
  month : Nat := 0
  day : Nat := 0
  deriving DecidableEq, Repr

/-- The digits at the start of a text, at most `width` of them if there is a width. -/
def leadingDigits (width : Option Nat) (text : List Char) : List Char :=
  match width with
  | some width => (text.takeWhile Char.isDigit).take width
  | none => text.takeWhile Char.isDigit

/-- A number up to the limit of at most `width` digits, or of any number of
digits without a width. -/
def readNumber? (width : Option Nat) (limit : Nat) (text : List Char) :
    Option (Nat × List Char) :=
  let digits := leadingDigits width text
  if digits.isEmpty then none
  else (Text.readDigits limit digits).map fun number => (number, text.drop digits.length)

/-- A year: up to four digits, or a sign and any number of digits. -/
def readYear? (text : List Char) : Option (Int × List Char) :=
  match Text.trimStart text with
  | '-' :: rest => (readNumber? none leastYear.natAbs rest).map fun (year, rest) => (-year, rest)
  | '+' :: rest => (readNumber? none greatestYear.natAbs rest).map fun (year, rest) => (year, rest)
  | text => (readNumber? (some 4) greatestYear.natAbs text).map fun (year, rest) => (year, rest)

/-- A month or day: one or two digits. -/
def readShort? (text : List Char) : Option (Nat × List Char) :=
  readNumber? (some 2) 99 (Text.trimStart text)

/-- Reads a whole text by the items of a notation. -/
def readItems? : List Item → Draft → List Char → Option Draft
  | [], draft, text => if text.isEmpty then some draft else none
  | .year :: items, draft, text => do
      let (year, rest) ← readYear? text
      readItems? items { draft with year } rest
  | .month :: items, draft, text => do
      let (month, rest) ← readShort? text
      readItems? items { draft with month } rest
  | .day :: items, draft, text => do
      let (day, rest) ← readShort? text
      readItems? items { draft with day } rest
  | .mark letter :: items, draft, text =>
      match text with
      | first :: rest => if first = letter then readItems? items draft rest else none
      | [] => none
  | .blanks :: items, draft, text => readItems? items draft (Text.trimStart text)

/-- The date that a text denotes in a notation. -/
def readAs? (items : List Item) (text : String) : Option Date := do
  let draft ← readItems? items {} text.toList
  Date.make? draft.year draft.month draft.day

/-- Year, month and day between hyphens. -/
def hyphenated : List Item := [.year, .mark '-', .month, .mark '-', .day]

/-- Day, month and year between full stops. -/
def dotted : List Item := [.day, .mark '.', .month, .mark '.', .year]

/-- Year, month and day between slashes. -/
def slashed : List Item := [.year, .mark '/', .month, .mark '/', .day]

/-- The notations in which a sheet may write its date, in the order of trial. -/
def notations : List (List Item) := [hyphenated, dotted, slashed]

/-- Year, month and day between hyphens, with blanks around each of them. -/
def spacedHyphenated : List Item :=
  [.year, .blanks, .mark '-', .month, .blanks, .mark '-', .day, .blanks]

/-- The date at the head of a sheet. -/
def readDate? (raw : String) : Option Date :=
  notations.findSome? fun items => readAs? items raw

/-- A date in the form in which stored documents carry it. -/
def readStoredDate? (text : String) : Option Date :=
  readAs? spacedHyphenated text

end TrickLedger.Calendar
