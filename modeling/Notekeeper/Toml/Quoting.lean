/-!
# TOML strings

A string is written between double quotation marks with escapes, or between apostrophes as it
stands; three marks on either side let it run over several lines. `Quoting.choose` takes the
plainest of the four forms that can hold a text, `writeText` writes it; `readText` reads all four.
-/

namespace Notekeeper.Toml

/-- How a string is written. -/
inductive Quoting where
  /-- In quotation marks, with escapes. -/
  | basic
  /-- In apostrophes, as it stands. -/
  | literal
  /-- In three quotation marks, with escapes. -/
  | multilineBasic
  /-- In three apostrophes, as it stands. -/
  | multilineLiteral
  deriving DecidableEq, Repr

/-- Whether a character can only be written as an escape: the controls but tab and line feed. -/
def needsEscape (char : Char) : Bool :=
  (char.toNat < 32 && char != '\t' && char != '\n') || char.toNat == 127

/-- The length of the longest block of a character, the block before the text counted in. -/
def longestRun (mark : Char) (before : Nat) : List Char → Nat
  | [] => before
  | char :: rest =>
      if char = mark then longestRun mark (before + 1) rest
      else max before (longestRun mark 0 rest)

namespace Quoting

/-- Whether a text can stand in a form as it is, without escapes but that of the tab. -/
def holdsPlainly (quoting : Quoting) (text : List Char) : Bool :=
  !text.any needsEscape &&
    match quoting with
    | basic => !text.contains '\\' && !text.contains '"' && !text.contains '\n'
    | literal => !text.contains '\'' && !text.contains '\n'
    | multilineBasic => !text.contains '\\' && longestRun '"' 0 text ≤ 2
    | multilineLiteral => longestRun '\'' 0 text ≤ 2

/-- The forms in the order in which they are preferred. -/
def preferred : List Quoting :=
  [basic, literal, multilineBasic, multilineLiteral]

/-- The form a text is written in: the first that holds it plainly, else one with escapes. -/
def choose (text : List Char) : Quoting :=
  match preferred.find? fun quoting => quoting.holdsPlainly text with
  | some quoting => quoting
  | none => if text.contains '\n' then multilineBasic else basic

/-- The marks on either side. -/
def delimiter : Quoting → List Char
  | basic => ['"']
  | literal => ['\'']
  | multilineBasic => ['"', '"', '"']
  | multilineLiteral => ['\'', '\'', '\'']

/-- Whether a form lets a string run over several lines. -/
def isMultiline : Quoting → Bool
  | basic | literal => false
  | multilineBasic | multilineLiteral => true

/-- Whether backslashes begin escapes. -/
def hasEscapes : Quoting → Bool
  | basic | multilineBasic => true
  | literal | multilineLiteral => false

end Quoting

/-- A code in upper-case hexadecimal, filled up to four digits. -/
def hexadecimal (code : Nat) : List Char :=
  let digits := (Nat.toDigits 16 code).map Char.toUpper
  List.replicate (4 - digits.length) '0' ++ digits

/-- The escape of a character other than the quotation mark, `none` if it stands for itself. -/
def escape? (isMultiline : Bool) (char : Char) : Option (List Char) :=
  if char = '\x08' then some ['\\', 'b']
  else if char = '\t' then some ['\\', 't']
  else if char = '\n' then if isMultiline then none else some ['\\', 'n']
  else if char = '\x0c' then some ['\\', 'f']
  else if char = '\r' then some ['\\', 'r']
  else if char = '\\' then some ['\\', '\\']
  else if needsEscape char then some ('\\' :: 'u' :: hexadecimal char.toNat)
  else none

/-- A text with escapes. Up to two quotation marks in a row stand for themselves where the delimiter
has three; a quotation mark beyond that is escaped, and what follows an escape is counted anew. -/
def writeEscaped (isMultiline : Bool) (marks : Nat) : List Char → List Char
  | [] => []
  | char :: rest =>
      if char = '"' then
        if (if isMultiline then 2 else 0) < marks + 1 then
          '\\' :: '"' :: writeEscaped isMultiline 0 rest
        else
          '"' :: writeEscaped isMultiline (marks + 1) rest
      else
        (escape? isMultiline char).getD [char] ++ writeEscaped isMultiline 0 rest

/-- A string in a form. One that has line feeds begins on a line of its own. -/
def writeIn (quoting : Quoting) (text : List Char) : List Char :=
  quoting.delimiter ++ (if quoting.isMultiline && text.contains '\n' then ['\n'] else []) ++
    (if quoting.hasEscapes then writeEscaped quoting.isMultiline 0 text else text) ++
      quoting.delimiter

/-- A string in the form chosen for it. -/
def writeText (text : String) : List Char :=
  writeIn (Quoting.choose text.toList) text.toList

/-- Characters that may stand in comments and strings: all but the controls; the tab may. -/
def isPlain (char : Char) : Bool :=
  char == '\t' || (32 ≤ char.toNat && char.toNat != 127)

/-- The value of a hexadecimal digit. -/
def hexDigit? (char : Char) : Option Nat :=
  if char.isDigit then some (char.toNat - '0'.toNat)
  else if 'a' ≤ char ∧ char ≤ 'f' then some (char.toNat - 'a'.toNat + 10)
  else if 'A' ≤ char ∧ char ≤ 'F' then some (char.toNat - 'A'.toNat + 10)
  else none

/-- The character of a code in hexadecimal digits. -/
def codeEscape? (digits : List Char) : Option Char := do
  let values ← digits.mapM hexDigit?
  let code := values.foldl (fun value digit => 16 * value + digit) 0
  if code.isValidChar then some (Char.ofNat code) else none

/-- The character a letter stands for after a backslash. -/
def letterEscape? (letter : Char) : Option Char :=
  if letter = 'b' then some '\x08'
  else if letter = 't' then some '\t'
  else if letter = 'n' then some '\n'
  else if letter = 'f' then some '\x0c'
  else if letter = 'r' then some '\r'
  else if letter = '"' then some '"'
  else if letter = '\\' then some '\\'
  else none

/-- A character in front of what has been read. -/
def andThen (char : Char) (read : Option (List Char × List Char)) :
    Option (List Char × List Char) :=
  read.map fun (chars, rest) => (char :: chars, rest)

/-- The rest of a string in quotation marks, and what follows it. -/
def readBasic : List Char → Option (List Char × List Char)
  | [] => none
  | '"' :: rest => some ([], rest)
  | '\\' :: 'u' :: a :: b :: c :: d :: rest => do
      andThen (← codeEscape? [a, b, c, d]) (readBasic rest)
  | '\\' :: 'U' :: a :: b :: c :: d :: e :: f :: g :: h :: rest => do
      andThen (← codeEscape? [a, b, c, d, e, f, g, h]) (readBasic rest)
  | '\\' :: letter :: rest => do
      andThen (← letterEscape? letter) (readBasic rest)
  | char :: rest => if isPlain char && char != '\\' then andThen char (readBasic rest) else none

/-- The rest of a string in apostrophes, and what follows it. -/
def readLiteral : List Char → Option (List Char × List Char)
  | [] => none
  | '\'' :: rest => some ([], rest)
  | char :: rest => if isPlain char then andThen char (readLiteral rest) else none

/-- Where the reader of a string over several lines stands. -/
inductive LineState where
  /-- In the text. -/
  | text
  /-- After a backslash and blanks, before the line feed that it takes away. -/
  | joining
  /-- After such a line feed, where blanks and line feeds are passed over. -/
  | skipping
  deriving DecidableEq, Repr

/-- The rest of a string in three quotation marks, and what follows it. Two marks at its end may
belong to it. A backslash at the end of a line takes the line feed away with all blanks and line
feeds after it. -/
def readMultilineBasic (state : LineState) : List Char → Option (List Char × List Char)
  | [] => none
  | '\r' :: '\n' :: rest =>
      if state = .text then andThen '\n' (readMultilineBasic .text rest)
      else readMultilineBasic .skipping rest
  | '"' :: '"' :: '"' :: '"' :: '"' :: rest =>
      if state = .joining then none else some (['"', '"'], rest)
  | '"' :: '"' :: '"' :: '"' :: rest => if state = .joining then none else some (['"'], rest)
  | '"' :: '"' :: '"' :: rest => if state = .joining then none else some ([], rest)
  | '\\' :: 'u' :: a :: b :: c :: d :: rest =>
      if state = .joining then none
      else do andThen (← codeEscape? [a, b, c, d]) (readMultilineBasic .text rest)
  | '\\' :: 'U' :: a :: b :: c :: d :: e :: f :: g :: h :: rest =>
      if state = .joining then none
      else do andThen (← codeEscape? [a, b, c, d, e, f, g, h]) (readMultilineBasic .text rest)
  | '\\' :: '\r' :: '\n' :: rest =>
      if state = .joining then none else readMultilineBasic .skipping rest
  | '\\' :: letter :: rest =>
      if state = .joining then none
      else if letter = '\n' then readMultilineBasic .skipping rest
      else if letter = ' ' ∨ letter = '\t' then readMultilineBasic .joining rest
      else do andThen (← letterEscape? letter) (readMultilineBasic .text rest)
  | char :: rest =>
      if char = '\n' then
        if state = .text then andThen '\n' (readMultilineBasic .text rest)
        else readMultilineBasic .skipping rest
      else if state ≠ .text ∧ (char = ' ' ∨ char = '\t') then readMultilineBasic state rest
      else if state = .joining then none
      else if isPlain char && char != '\\' then andThen char (readMultilineBasic .text rest)
      else none

/-- The rest of a string in three apostrophes, and what follows it. Two apostrophes at its end may
belong to it. -/
def readMultilineLiteral : List Char → Option (List Char × List Char)
  | [] => none
  | '\r' :: '\n' :: rest => andThen '\n' (readMultilineLiteral rest)
  | '\'' :: '\'' :: '\'' :: '\'' :: '\'' :: rest => some (['\'', '\''], rest)
  | '\'' :: '\'' :: '\'' :: '\'' :: rest => some (['\''], rest)
  | '\'' :: '\'' :: '\'' :: rest => some ([], rest)
  | char :: rest =>
      if char = '\n' || isPlain char then andThen char (readMultilineLiteral rest) else none

/-- A text without the line break it begins with. -/
def dropLineBreak : List Char → List Char
  | '\n' :: rest => rest
  | '\r' :: '\n' :: rest => rest
  | text => text

/-- A string in any form, and what follows it. -/
def readText : List Char → Option (List Char × List Char)
  | '"' :: '"' :: '"' :: rest => readMultilineBasic .text (dropLineBreak rest)
  | '"' :: rest => readBasic rest
  | '\'' :: '\'' :: '\'' :: rest => readMultilineLiteral (dropLineBreak rest)
  | '\'' :: rest => readLiteral rest
  | _ => none

end Notekeeper.Toml
