import Notekeeper.Calendar.Reading

/-!
# Due dates

A due date as a user states it: none, a day seen from today, or a date with or without a time of
day. A note carries the timestamp it comes to; days seen from today come to their midnight.
-/

namespace Notekeeper

/-- A due date as it is stated. -/
inductive DueDate where
  | none
  | today
  | tomorrow
  /-- Seven days from today. -/
  | nextWeek
  /-- Thirty days from today. -/
  | nextMonth
  | specific (moment : Moment)
  deriving DecidableEq, Repr

namespace DueDate

/-- The due date a text states. The empty text states that there is none. -/
def ofText (text : String) : Except Calendar.ReadingFault DueDate :=
  if text = "none" ∨ text = "" then .ok .none
  else if text = "today" then .ok .today
  else if text = "tomorrow" then .ok .tomorrow
  else if text = "next week" then .ok .nextWeek
  else if text = "next month" then .ok .nextMonth
  else (Calendar.read text.toList).map .specific

/-- The text that states a due date. -/
def write : DueDate → String
  | .none => "none"
  | today => "today"
  | tomorrow => "tomorrow"
  | nextWeek => "next week"
  | nextMonth => "next month"
  | specific moment => moment.timestamp

/-- The report on a text that states no due date. -/
def faultMessage (fault : Calendar.ReadingFault) : String :=
  "Invalid due date: " ++ fault.message

/-- The midnight a number of days after a day. -/
def midnightAfter (today : Date) (days : Nat) : String :=
  (Moment.midnight (today.later days)).timestamp

/-- The timestamp that a note due then carries; empty for none. -/
def timestamp (due : DueDate) (today : Date) : String :=
  match due with
  | .none => ""
  | .today => midnightAfter today 0
  | tomorrow => midnightAfter today 1
  | nextWeek => midnightAfter today 7
  | nextMonth => midnightAfter today 30
  | specific moment => moment.timestamp

end DueDate

end Notekeeper
