import Notekeeper.Number.Decimal

/-!
# Dates

Dates of the proleptic Gregorian calendar, with the years that the date reader admits. A date is
written year, month, day with at least four digits for the year; a year outside 0 to 9999 carries
its sign. `Date.next` is the day after.
-/

namespace Notekeeper

/-- A day of the calendar. -/
structure Date where
  year : Int
  month : Nat
  day : Nat
  deriving DecidableEq, Repr

namespace Date

/-- The first year of the calendar. -/
def firstYear : Int := -262143

/-- The last year of the calendar. -/
def lastYear : Int := 262142

/-- Every fourth year is a leap year, but of the full centuries only every fourth. -/
def isLeapYear (year : Int) : Bool :=
  year % 4 == 0 && (year % 100 != 0 || year % 400 == 0)

/-- The number of days of a month. -/
def daysInMonth (year : Int) (month : Nat) : Nat :=
  if month = 2 then if isLeapYear year then 29 else 28
  else if month = 4 ∨ month = 6 ∨ month = 9 ∨ month = 11 then 30
  else 31

/-- The date of a year, a month and a day, `none` if the calendar has no such day. -/
def ofParts? (year : Int) (month day : Nat) : Option Date :=
  if firstYear ≤ year ∧ year ≤ lastYear ∧ 1 ≤ month ∧ month ≤ 12 ∧ 1 ≤ day ∧
      day ≤ daysInMonth year month then
    some ⟨year, month, day⟩
  else
    none

/-- The day after; the last day of the calendar is its own successor. -/
def next (date : Date) : Date :=
  if date.day < daysInMonth date.year date.month then { date with day := date.day + 1 }
  else if date.month < 12 then ⟨date.year, date.month + 1, 1⟩
  else if date.year < lastYear then ⟨date.year + 1, 1, 1⟩
  else date

/-- The day that is a number of days later. -/
def later (date : Date) : Nat → Date
  | 0 => date
  | days + 1 => date.next.later days

/-- A year in at least four digits, with its sign if it is outside 0 to 9999. -/
def writeYear (year : Int) : List Char :=
  let written := Decimal.padded 4 year.natAbs
  if year < 0 then '-' :: written
  else if 9999 < year then '+' :: written
  else written

/-- A date as year, month and day with hyphens between them. -/
def write (date : Date) : List Char :=
  writeYear date.year ++ ['-'] ++ Decimal.padded 2 date.month ++ ['-'] ++
    Decimal.padded 2 date.day

end Date

end Notekeeper
