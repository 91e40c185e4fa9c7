import Notekeeper.Text.Property.Visible

/-!
# Quoted texts

A text between quotation marks, with every character that could not be read off the page written as
an escape: the quotation mark itself, the backslash, line breaks and tabs by a letter, controls,
invisible characters and characters that join the one before by their code in hexadecimal.
-/

namespace Notekeeper.Text

/-- A code point as an escape in braces. -/
def codeEscape (char : Char) : List Char :=
  "\\u".toList ++ ['\x7b'] ++ Nat.toDigits 16 char.toNat ++ ['\x7d']

/-- A character inside quotation marks of the given kind. -/
def quotedChar (quote : Char) (char : Char) : List Char :=
  if char = '\x00' then ['\\', '0']
  else if char = '\t' then ['\\', 't']
  else if char = '\r' then ['\\', 'r']
  else if char = '\n' then ['\\', 'n']
  else if char = '\\' || char = quote then ['\\', char]
  else if Property.graphemeExtend.has char || Property.unprintable.has char then codeEscape char
  else [char]

/-- A text in double quotation marks. -/
def quoted (text : String) : String :=
  String.ofList ('"' :: text.toList.flatMap (quotedChar '"') ++ ['"'])

/-- A character in single quotation marks. -/
def quotedSingle (char : Char) : String :=
  String.ofList ('\'' :: quotedChar '\'' char ++ ['\''])

end Notekeeper.Text
