/-!
# Blank characters and trimming

A character is blank when it has the property `White_Space`. Trimming removes the blank characters
at both ends of a text and nothing between them.
-/

namespace Notekeeper.Text

/-- The `White_Space` characters: the ASCII controls from tab to carriage return, the space, next
line, the no-break spaces, the typographic spaces and the line and paragraph separators. -/
def isBlank (char : Char) : Bool :=
  let code := char.toNat
  (9 ≤ code && code ≤ 13) || code == 0x20 || code == 0x85 || code == 0xA0 || code == 0x1680 ||
    (0x2000 ≤ code && code ≤ 0x200A) || code == 0x2028 || code == 0x2029 || code == 0x202F ||
    code == 0x205F || code == 0x3000

/-- The text without its leading blank characters. -/
def trimStart (text : List Char) : List Char :=
  text.dropWhile isBlank

/-- The text without its trailing blank characters. -/
def trimEnd (text : List Char) : List Char :=
  (text.reverse.dropWhile isBlank).reverse

/-- The text without the blank characters at either end. -/
def trim (text : List Char) : List Char :=
  trimEnd (trimStart text)

/-- `trim` on strings. -/
def trimmed (text : String) : String :=
  String.ofList (trim text.toList)

/-- The text without the line feeds at either end. -/
def trimLineFeeds (text : String) : String :=
  String.ofList
    (((text.toList.dropWhile (· == '\n')).reverse.dropWhile (· == '\n')).reverse)

/-- A text on a single line: line feeds and carriage returns are dropped wherever they stand, then
blank characters at both ends. -/
def singleLine (text : String) : String :=
  String.ofList (trim (text.toList.filter fun char => char != '\n' && char != '\r'))

end Notekeeper.Text
