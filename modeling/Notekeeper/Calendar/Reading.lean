import Notekeeper.Calendar.Moment
import Notekeeper.Text.Blank

/-!
# Reading dates and moments

A date is read by a pattern of numbers and marks. Blank characters before a number are passed over.
A year has at most four digits, or a sign and any number of digits; every other number has at most
two digits. A number is compared with its bounds as soon as it has been read, the day with the
length of its month at the end.
-/

namespace Notekeeper.Calendar

/-- Why a text is no date. -/
inductive ReadingFault where
  /-- The text ends too early. -/
  | premature
  /-- Another character stands where a number or a mark is wanted. -/
  | unexpected
  /-- A number is outside its bounds. -/
  | outOfRange
  /-- The text goes on after the date. -/
  | trailing
  deriving DecidableEq, Repr

/-- The words for a fault. -/
def ReadingFault.message : ReadingFault → String
  | premature => "premature end of input"
  | unexpected => "input contains invalid characters"
  | outOfRange => "input is out of range"
  | trailing => "trailing input"

/-- The numbers of a date and a time of day, 0 where none has been read. -/
structure Numbers where
  year : Int := 0
  month : Nat := 0
  day : Nat := 0
  hour : Nat := 0
  minute : Nat := 0
  second : Nat := 0
  deriving DecidableEq, Repr

/-- The numbers of a pattern that have no sign. -/
inductive Field where
  | month
  | day
  | hour
  | minute
  | second
  deriving DecidableEq, Repr

/-- The bounds of a number. -/
def Field.bounds : Field → Nat × Nat
  | month => (1, 12)
  | day => (1, 31)
  | hour => (0, 23)
  | minute => (0, 59)
  | second => (0, 60)

/-- The numbers with one of them replaced. -/
def Numbers.set (numbers : Numbers) (field : Field) (value : Nat) : Numbers :=
  match field with
  | .month => { numbers with month := value }
  | .day => { numbers with day := value }
  | .hour => { numbers with hour := value }
  | .minute => { numbers with minute := value }
  | .second => { numbers with second := value }

/-- A part of a pattern. -/
inductive Part where
  | year
  | number (field : Field)
  /-- A character that must stand there. -/
  | mark (char : Char)
  /-- Any blank characters, or none. -/
  | gap
  deriving DecidableEq, Repr

/-- The digits at the beginning of a text. -/
def leadingDigits (text : List Char) : List Char :=
  text.takeWhile Char.isDigit

/-- The value of digits. -/
def digitsValue (digits : List Char) : Nat :=
  (Decimal.readDigits? 0 digits).getD 0

/-- A number from the digits that some characters begin with, and what remains of the text after
them. -/
def readDigits (window text : List Char) : Except ReadingFault (Nat × List Char) :=
  match leadingDigits window, window with
  | [], [] => .error .premature
  | [], _ => .error .unexpected
  | digits, _ => .ok (digitsValue digits, text.drop digits.length)

/-- A number from at most a number of digits. -/
def readShort (limit : Nat) (text : List Char) : Except ReadingFault (Nat × List Char) :=
  readDigits (text.take limit) text

/-- The years that can be held while a pattern is read. -/
def yearInRange (year : Int) : Except ReadingFault Int :=
  if -2147483648 ≤ year ∧ year ≤ 2147483647 then .ok year else .error .outOfRange

/-- A year. -/
def readYear (text : List Char) : Except ReadingFault (Int × List Char) := do
  match text with
  | '-' :: unsigned =>
      let (year, rest) ← readDigits unsigned unsigned
      return (← yearInRange (-(year : Int)), rest)
  | '+' :: unsigned =>
      let (year, rest) ← readDigits unsigned unsigned
      return (← yearInRange year, rest)
  | _ =>
      let (year, rest) ← readShort 4 text
      return ((year : Int), rest)

/-- A number within its bounds. -/
def readField (field : Field) (text : List Char) : Except ReadingFault (Nat × List Char) := do
  let (value, rest) ← readShort 2 text
  if field.bounds.1 ≤ value ∧ value ≤ field.bounds.2 then return (value, rest)
  else throw .outOfRange

/-- A character that must stand there. -/
def readMark (char : Char) : List Char → Except ReadingFault (List Char)
  | [] => .error .premature
  | found :: rest => if found = char then .ok rest else .error .unexpected

/-- One part of a pattern. -/
def Part.read (part : Part) (numbers : Numbers) (text : List Char) :
    Except ReadingFault (Numbers × List Char) := do
  match part with
  | .year =>
      let (value, rest) ← readYear (Text.trimStart text)
      return ({ numbers with year := value }, rest)
  | .number field =>
      let (value, rest) ← readField field (Text.trimStart text)
      return (numbers.set field value, rest)
  | .mark char => return (numbers, ← readMark char text)
  | .gap => return (numbers, Text.trimStart text)

/-- The parts of a pattern from left to right, up to the end of the text. -/
def readParts : List Part → Numbers → List Char → Except ReadingFault Numbers
  | [], numbers, [] => .ok numbers
  | [], _, _ :: _ => .error .trailing
  | part :: parts, numbers, text => do
      let (numbers, rest) ← part.read numbers text
      readParts parts numbers rest

/-- Year, month and day with hyphens between them. -/
def dateParts : List Part :=
  [.year, .mark '-', .number .month, .mark '-', .number .day]

/-- A date, and after a gap hour, minute and second with colons between them. -/
def momentParts : List Part :=
  dateParts ++
    [.gap, .number .hour, .mark ':', .number .minute, .mark ':', .number .second]

/-- The moment of numbers that have been read. -/
def Numbers.moment (numbers : Numbers) : Except ReadingFault Moment :=
  match Date.ofParts? numbers.year numbers.month numbers.day with
  | some date => .ok ⟨date, numbers.hour, numbers.minute, numbers.second⟩
  | none => .error .outOfRange

/-- The moment a text stands for by a pattern. -/
def readBy (parts : List Part) (text : List Char) : Except ReadingFault Moment := do
  let numbers ← readParts parts {} text
  numbers.moment

/-- A date with or without a time of day; a date alone is its midnight. A text that is neither is
reported as what spoils it for a date alone. -/
def read (text : List Char) : Except ReadingFault Moment :=
  match readBy momentParts text with
  | .ok moment => .ok moment
  | .error _ => readBy dateParts text

end Notekeeper.Calendar
