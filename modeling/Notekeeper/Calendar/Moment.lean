import Notekeeper.Calendar.Date

/-!
# Moments

A moment is a date with a time of day to the second. The sixtieth second is a leap second. The text
of a moment sorts like the moment for years of four digits.
-/

namespace Notekeeper

/-- A date and a time of day. -/
structure Moment where
  date : Date
  hour : Nat
  minute : Nat
  second : Nat
  deriving DecidableEq, Repr

namespace Moment

/-- The beginning of a day. -/
def midnight (date : Date) : Moment := ⟨date, 0, 0, 0⟩

/-- A moment as date and time with a space between them. -/
def write (moment : Moment) : List Char :=
  moment.date.write ++ [' '] ++ Decimal.padded 2 moment.hour ++ [':'] ++
    Decimal.padded 2 moment.minute ++ [':'] ++ Decimal.padded 2 moment.second

/-- The text that notes carry for a moment. -/
def timestamp (moment : Moment) : String :=
  String.ofList moment.write

/-- The text of a moment as part of a file name: hyphens for the colons, a low line for the
space. -/
def fileStamp (moment : Moment) : String :=
  String.ofList (moment.write.map fun char =>
    if char = ':' then '-' else if char = ' ' then '_' else char)

end Moment

end Notekeeper
