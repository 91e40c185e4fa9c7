import Notekeeper.Text.Property.Alphabetic
import Notekeeper.Text.Property.Mark
import Notekeeper.Text.Property.Numeral
import Notekeeper.Text.Property.Recent

/-!
# Word characters

Two classes of characters that make up words. `isWordChar` holds letters, numerals of every kind and
the low line. `isMarkerChar`, the class a context marker runs over, holds letters, combining marks,
decimal digits, connectors and the two joiners, as far as version 16 of the Unicode character
database knew them. Inside ASCII they agree.
-/

namespace Notekeeper.Text

/-- Letters: the `Alphabetic` characters. -/
def isAlphabetic (char : Char) : Bool :=
  if char.toNat < 128 then char.isAlpha else Property.alphabetic.has char

/-- Decimal digits of every script. -/
def isDecimalDigit (char : Char) : Bool :=
  if char.toNat < 128 then char.isDigit else Property.decimalDigit.has char

/-- Letters and numerals of every kind. -/
def isAlphanumeric (char : Char) : Bool :=
  isAlphabetic char || isDecimalDigit char || Property.otherNumeral.has char

/-- Letters, numerals and the low line. -/
def isWordChar (char : Char) : Bool :=
  isAlphanumeric char || char == '_'

/-- The characters a context marker runs over. -/
def isMarkerChar (char : Char) : Bool :=
  (isAlphabetic char || isDecimalDigit char || char == '_' || Property.mark.has char ||
    Property.connector.has char || char == '\u200C' || char == '\u200D') &&
  !Property.recentWordPart.has char

end Notekeeper.Text
