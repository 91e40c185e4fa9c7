import Notekeeper.Text.Lines

/-!
# Bullet lists in markup

The body of a markup note is brought into a regular form: a line below a bullet line becomes a
bullet line of the same style, up to the next empty line, and the body begins and ends with at least
`paddingLines` empty lines. Carriage returns are dropped.
-/

namespace Notekeeper

namespace Bullets

/-- The words that begin a bullet line. -/
def styles : List (List Char) :=
  ["*", "**", "***", "****", "+", "-"].map String.toList

/-- The least number of empty lines at the beginning and at the end. -/
def paddingLines : Nat := 4

/-- The style of a line that is a bullet line of its own: a style before a space. -/
def style? (line : List Char) : Option (List Char) :=
  match Text.cut? [' '] line with
  | some (first, _) => if first ∈ styles then some first else none
  | none => none

/-- The lines with the style of the last bullet line carried on until an empty line. -/
def carryOn (style : Option (List Char)) : List (List Char) → List (List Char)
  | [] => []
  | line :: rest =>
      if line.isEmpty then line :: carryOn none rest
      else
        match style? line with
        | some own => line :: carryOn (some own) rest
        | none =>
            match style with
            | some above => (above ++ ' ' :: line) :: carryOn style rest
            | none => line :: carryOn none rest

/-- The number of empty lines at the beginning of a list of lines. -/
def emptyLines (lines : List (List Char)) : Nat :=
  (lines.takeWhile List.isEmpty).length

/-- The lines with empty lines added at both ends as far as there are too few. Lines that are all
empty count neither way and get the full number after them. -/
def pad (lines : List (List Char)) : List (List Char) :=
  if lines.all List.isEmpty then lines ++ List.replicate paddingLines []
  else
    List.replicate (paddingLines - emptyLines lines) [] ++ lines ++
      List.replicate (paddingLines - emptyLines lines.reverse) []

/-- The lines of a text without its carriage returns. -/
def linesOf (text : String) : List (List Char) :=
  Text.split '\n' (text.toList.filter (· != '\r'))

/-- A body in regular form. -/
def normalize (text : String) : String :=
  Text.join "\n" ((pad (carryOn none (linesOf text))).map String.ofList)

end Bullets

end Notekeeper
