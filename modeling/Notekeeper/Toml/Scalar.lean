import Notekeeper.Number.Decimal
import Notekeeper.Toml.Value

/-!
# TOML numbers, dates and times

Readers for the values that are neither strings nor collections. Each takes a value from the
beginning of a text and gives what follows it. Dates must be days of the calendar, integers fit into
a signed word of 64 bits, and a floating-point number must not be too large to be held.
-/

namespace Notekeeper.Toml

/-- Reads something from the beginning of a text, or refuses. -/
abbrev Reader (result : Type) := List Char → Option (result × List Char)

/-- A word that must stand there. -/
def readWord (word : String) : Reader Unit := fun text =>
  if word.toList.isPrefixOf text then some ((), text.drop word.length) else none

/-- A number of exactly so many digits, within bounds. -/
def readFixed (width least greatest : Nat) : Reader Nat := fun text => do
  let digits := (text.take width).takeWhile Char.isDigit
  let value ← Decimal.readNat? digits
  if digits.length = width ∧ least ≤ value ∧ value ≤ greatest then
    some (value, text.drop width)
  else none

/-- The number of days of a month, in the calendar that goes back without a first year. -/
def monthLength (year month : Nat) : Nat :=
  if month = 2 then if year % 4 = 0 ∧ (year % 100 ≠ 0 ∨ year % 400 = 0) then 29 else 28
  else if month = 4 ∨ month = 6 ∨ month = 9 ∨ month = 11 then 30
  else 31

/-- A date. -/
def readDate : Reader Unit := fun text => do
  let (year, text) ← readFixed 4 0 9999 text
  let (_, text) ← readWord "-" text
  let (month, text) ← readFixed 2 1 12 text
  let (_, text) ← readWord "-" text
  let (_, text) ← readFixed 2 1 (monthLength year month) text
  return ((), text)

/-- The fraction of a second, if there is one. -/
def skipFraction : List Char → List Char
  | '.' :: rest =>
      match rest.takeWhile Char.isDigit with
      | [] => '.' :: rest
      | digits => rest.drop digits.length
  | text => text

/-- A time of day. -/
def readTime : Reader Unit := fun text => do
  let (_, text) ← readFixed 2 0 23 text
  let (_, text) ← readWord ":" text
  let (_, text) ← readFixed 2 0 59 text
  let (_, text) ← readWord ":" text
  let (_, text) ← readFixed 2 0 60 text
  return ((), skipFraction text)

/-- The distance from world time. -/
def readOffset : Reader Unit
  | 'Z' :: rest | 'z' :: rest => some ((), rest)
  | '+' :: rest | '-' :: rest => do
      let (_, text) ← readFixed 2 0 23 rest
      let (_, text) ← readWord ":" text
      let (_, text) ← readFixed 2 0 59 text
      return ((), text)
  | _ => none

/-- What follows after something that may be there or not. -/
def skipOptional (reader : Reader Unit) (text : List Char) : List Char :=
  match reader text with
  | some (_, rest) => rest
  | none => text

/-- A time of day behind a date, with the letter or space before it. -/
def readTimeAfterDate : Reader Unit
  | mark :: rest =>
      if mark = 'T' ∨ mark = 't' ∨ mark = ' ' then do
        let (_, text) ← readTime rest
        return ((), skipOptional readOffset text)
      else none
  | [] => none

/-- What a reader passed over. -/
def consumed (text rest : List Char) : String :=
  String.ofList (text.take (text.length - rest.length))

/-- A date with or without a time, or a time alone. -/
def readMoment : Reader Value := fun text =>
  match readDate text with
  | some (_, rest) =>
      let rest := skipOptional readTimeAfterDate rest
      some (.moment (consumed text rest), rest)
  | none => (readTime text).map fun (_, rest) => (.moment (consumed text rest), rest)

/-- Whether low lines stand between digits only. -/
def isGrouped : Bool → List Char → Bool
  | afterDigit, [] => afterDigit
  | afterDigit, char :: rest =>
      if char = '_' then afterDigit && isGrouped false rest else isGrouped true rest

/-- Digits with low lines between them. -/
def readGrouped (isDigit : Char → Bool) : Reader (List Char) := fun text =>
  let run := text.takeWhile fun char => isDigit char || char == '_'
  if isGrouped false run then some (run.filter (· != '_'), text.drop run.length) else none

/-- Decimal digits without a leading zero, but a zero alone. -/
def readWhole : Reader (List Char) := fun text => do
  let (digits, rest) ← readGrouped Char.isDigit text
  if digits.head? = some '0' ∧ 1 < text.length - rest.length then none else some (digits, rest)

/-- The value of a digit in any base up to sixteen. -/
def anyDigit? (char : Char) : Option Nat :=
  if char.isDigit then some (char.toNat - '0'.toNat)
  else if 'a' ≤ char ∧ char ≤ 'f' then some (char.toNat - 'a'.toNat + 10)
  else if 'A' ≤ char ∧ char ≤ 'F' then some (char.toNat - 'A'.toNat + 10)
  else none

/-- The value of digits in a base. -/
def digitsIn (base : Nat) (digits : List Char) : Nat :=
  digits.foldl (fun value digit => base * value + (anyDigit? digit).getD 0) 0

/-- An integer of digits in a base. -/
def readInBase (base : Nat) : Reader Value := fun text => do
  let (digits, rest) ← readGrouped (fun char => (anyDigit? char).any (· < base)) text
  let number ← Decimal.inRange? (digitsIn base digits)
  return (.integer number, rest)

/-- The digits of a fraction, none without a point. -/
def readFraction : Reader (List Char)
  | '.' :: rest => readGrouped Char.isDigit rest
  | text => some ([], text)

/-- An exponent as sign and digits, zero without a letter for it. -/
def readExponent : Reader (Bool × List Char)
  | 'e' :: rest | 'E' :: rest =>
      let read (isNegative : Bool) : Reader (Bool × List Char) := fun text =>
        (readGrouped Char.isDigit text).map fun (digits, rest) => ((isNegative, digits), rest)
      match rest with
      | '-' :: rest => read true rest
      | '+' :: rest => read false rest
      | _ => read false rest
  | text => some ((false, []), text)

/-- The least number that is nearer to what is too large to be held than to the greatest number that
can be held with 53 binary digits and an exponent of eleven. -/
def tooLarge : Nat := Nat.pow 2 1024 - Nat.pow 2 970

/-- Whether digits times a power of ten are too large to be held. Exponents far from the bound are
decided by the number of digits alone. -/
def isTooLarge (digits : List Char) (exponent : Int) : Bool :=
  let digits := digits.dropWhile (· == '0')
  let magnitude := exponent + digits.length
  if digits.isEmpty || magnitude < 300 then false
  else if 320 < magnitude then true
  else
    let value := digitsIn 10 digits
    if 0 ≤ exponent then tooLarge ≤ value * Nat.pow 10 exponent.toNat
    else tooLarge * Nat.pow 10 exponent.natAbs ≤ value

/-- A decimal number without its sign: an integer, or a floating-point number if it has a fraction
or an exponent. -/
def readDecimal (isNegative : Bool) : Reader Value := fun text => do
  let (whole, afterWhole) ← readWhole text
  let (fraction, afterFraction) ← readFraction afterWhole
  let ((isSmall, exponent), rest) ← readExponent afterFraction
  if rest.length = afterWhole.length then
    let value : Int := digitsIn 10 whole
    let number ← Decimal.inRange? (if isNegative then -value else value)
    return (.integer number, rest)
  else
    let power : Int := digitsIn 10 exponent
    let shift := (if isSmall then -power else power) - fraction.length
    if !isNegative && isTooLarge (whole ++ fraction) shift then none
    else return (.float (consumed text rest), rest)

/-- An infinite number or one that is none. -/
def readSpecial : Reader Value := fun text =>
  match readWord "inf" text with
  | some (_, rest) => some (.float "inf", rest)
  | none => (readWord "nan" text).map fun (_, rest) => (.float "nan", rest)

/-- A number. -/
def readNumber : Reader Value
  | '0' :: 'x' :: rest => readInBase 16 rest
  | '0' :: 'o' :: rest => readInBase 8 rest
  | '0' :: 'b' :: rest => readInBase 2 rest
  | '+' :: rest => (readSpecial rest).or (readDecimal false rest)
  | '-' :: rest => (readSpecial rest).or (readDecimal true rest)
  | text => (readSpecial text).or (readDecimal false text)

/-- A truth value. -/
def readBoolean : Reader Value := fun text =>
  match readWord "true" text with
  | some (_, rest) => some (.boolean true, rest)
  | none => (readWord "false" text).map fun (_, rest) => (.boolean false, rest)

/-- A value that is neither a string nor a collection. -/
def readScalar : Reader Value := fun text =>
  (readMoment text).or ((readBoolean text).or (readNumber text))

end Notekeeper.Toml
