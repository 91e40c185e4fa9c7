/-!
# Decimal numerals

Whole numbers are written in ASCII digits without leading zeros and with a minus sign before a
negative number. Reading also takes a plus sign and leading zeros, and refuses a number outside the
range of a clock, which is that of a signed word of 64 bits.
-/

namespace Notekeeper.Decimal

/-- The digits of a natural number, most significant first. -/
def digits (number : Nat) : List Char :=
  if number < 10 then [Char.ofNat (48 + number)]
  else digits (number / 10) ++ [Char.ofNat (48 + number % 10)]
  termination_by number

/-- A whole number in decimal. -/
def write (number : Int) : String :=
  String.ofList
    (if number < 0 then '-' :: digits number.natAbs else digits number.natAbs)

/-- The value of an ASCII digit. -/
def digitValue? (char : Char) : Option Nat :=
  if char.isDigit then some (char.toNat - 48) else none

/-- The value of a list of digits that continues the number read so far. -/
def readDigits? (value : Nat) : List Char → Option Nat
  | [] => some value
  | char :: rest =>
      match digitValue? char with
      | some digit => readDigits? (10 * value + digit) rest
      | none => none

/-- A natural number from at least one digit. -/
def readNat? (text : List Char) : Option Nat :=
  if text.isEmpty then none else readDigits? 0 text

/-- The least value of a clock. -/
def least : Int := -9223372036854775808

/-- The greatest value of a clock. -/
def greatest : Int := 9223372036854775807

/-- The number if it is the value of some clock. -/
def inRange? (number : Int) : Option Int :=
  if least ≤ number && number ≤ greatest then some number else none

/-- A whole number with an optional sign, within the range of a clock. -/
def read? (text : String) : Option Int :=
  match text.toList with
  | '-' :: rest => (readNat? rest).bind fun value => inRange? (-(value : Int))
  | '+' :: rest => (readNat? rest).bind fun value => inRange? value
  | rest => (readNat? rest).bind fun value => inRange? value

/-- A natural number in decimal, filled up with zeros to a least width. -/
def padded (width : Nat) (number : Nat) : List Char :=
  let written := digits number
  List.replicate (width - written.length) '0' ++ written

end Notekeeper.Decimal
