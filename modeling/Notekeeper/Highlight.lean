import Notekeeper.Text.Case
import Notekeeper.Text.Lines

/-!
# Highlighting

Where the terms of a search occur in a line, without regard to letter case. Lower-casing may change
the number of characters, so every lower-cased character remembers which character of the line it
comes from, and a mark always covers whole characters of the line. `cut?` finds the earliest mark,
of several that begin together the shortest; `pieces` cuts the line at all of them.
-/

namespace Notekeeper.Highlight

/-- The characters of a text lower-cased one by one, each with the number of the character it comes
from, counted from the number of the first. -/
def lowered (first : Nat) : List Char → List (Char × Nat)
  | [] => []
  | char :: rest =>
      (Text.lowerChar char).map (fun lower => (lower, first)) ++ lowered (first + 1) rest

/-- The numbers of the first and the last character of a line that the first occurrence of a word in
its lower-cased text comes from. -/
def occurrence? (word : List Char) : List (Char × Nat) → Option (Nat × Nat)
  | [] => none
  | entry :: rest =>
      let window := (entry :: rest).take word.length
      if window.map Prod.fst = word then
        window.getLast?.map fun last => (entry.2, last.2)
      else occurrence? word rest

/-- The span of a term in a line, as the number of characters before it and in it. -/
def span? (line : List Char) (term : String) : Option (Nat × Nat) :=
  if term.isEmpty then none
  else
    (occurrence? (Text.lower term.toList) (lowered 0 line)).map fun (first, last) =>
      (first, last + 1 - first)

/-- The earlier of two spans, the shorter if they begin together. -/
def earlier (one other : Nat × Nat) : Nat × Nat :=
  if other.1 < one.1 ∨ (other.1 = one.1 ∧ other.2 < one.2) then other else one

/-- The earliest span of any of some terms. -/
def find? (line : List Char) (terms : List String) : Option (Nat × Nat) :=
  (terms.filterMap (span? line)).foldl
    (fun found span => some (found.elim span fun best => earlier best span)) none

/-- A line before, in and behind its earliest mark. -/
def cut? (line : List Char) (terms : List String) : Option (List Char × List Char × List Char) :=
  (find? line terms).map fun (start, count) =>
    (line.take start, (line.drop start).take count, line.drop (start + count))

/-- A piece of a line. -/
structure Piece where
  text : List Char
  isMarked : Bool
  deriving DecidableEq, Repr

/-- The pieces of a line, marked and unmarked ones in turn. -/
def pieces (line : List Char) (terms : List String) : List Piece :=
  match cut? line terms with
  | some (before, marked, rest) =>
      if rest.length < line.length then ⟨before, false⟩ :: ⟨marked, true⟩ :: pieces rest terms
      else [⟨line, false⟩]
  | none => [⟨line, false⟩]
  termination_by line.length

end Notekeeper.Highlight
