/-!
# Splitting a text

`split` cuts a text at every occurrence of a separating character, `lines` reads a text as lines,
`cut?` cuts once at a longer separator. `join` is the converse of `split`: joining the pieces with
the separator gives the text again, and splitting a join of pieces without the separator gives the
pieces again.
-/

namespace Notekeeper.Text

/-- The pieces between the occurrences of a separator. There is always at least one piece. -/
def split (separator : Char) : List Char → List (List Char)
  | [] => [[]]
  | char :: rest =>
      if char = separator then [] :: split separator rest
      else
        match split separator rest with
        | [] => [[char]]
        | piece :: pieces => (char :: piece) :: pieces

/-- `split` on strings. -/
def splitAt (separator : Char) (text : String) : List String :=
  (split separator text.toList).map String.ofList

/-- The pieces with the separator between them. -/
def join (separator : String) (pieces : List String) : String :=
  separator.intercalate pieces

/-- A line without the carriage return before its line feed. -/
def dropReturn (line : List Char) : List Char :=
  if line.getLast? = some '\r' then line.dropLast else line

/-- Lines from pieces between line feeds: every piece but the last was ended by a line feed and
loses a carriage return before it; the last piece was not, and counts as a line only if it is not
empty. -/
def linesOfPieces : List (List Char) → List (List Char)
  | [] => []
  | [last] => if last.isEmpty then [] else [last]
  | piece :: next :: rest => dropReturn piece :: linesOfPieces (next :: rest)

/-- The lines of a text. -/
def lines (text : String) : List String :=
  (linesOfPieces (split '\n' text.toList)).map String.ofList

/-- Whether a word stands somewhere in a text, as a block of consecutive characters. -/
def occursIn (word : List Char) : List Char → Bool
  | [] => word.isEmpty
  | char :: rest => word.isPrefixOf (char :: rest) || occursIn word rest

/-- The parts of a text before and after the first occurrence of a separator. -/
def cut? (separator : List Char) : List Char → Option (List Char × List Char)
  | [] => if separator.isEmpty then some ([], []) else none
  | char :: rest =>
      if separator.isPrefixOf (char :: rest) then
        some ([], (char :: rest).drop separator.length)
      else
        (cut? separator rest).map fun parts => (char :: parts.1, parts.2)

/-- The first word of a line and what follows the space after it. -/
def firstWord (line : String) : String × Option String :=
  match cut? [' '] line.toList with
  | some (word, rest) => (String.ofList word, some (String.ofList rest))
  | none => (line, none)

/-- A text filled up on the left with a character to a least width. -/
def padLeft (width : Nat) (filler : Char) (text : String) : String :=
  String.ofList (List.replicate (width - text.length) filler) ++ text

end Notekeeper.Text
