/-!
# Ranges of code points

Character classes and case mappings are tables. A class is a list of closed ranges of code points
(`Ranges`), a case mapping a list of runs of equally distant code points that move by one common
offset (`CaseRun`). Both are read by a plain scan of the table.
-/

namespace Notekeeper.Text

/-- A set of code points as closed ranges, each given by its first and last member. -/
abbrev Ranges := List (Nat × Nat)

/-- Membership of a character in a table of ranges. -/
def Ranges.has (ranges : Ranges) (char : Char) : Bool :=
  ranges.any fun range => range.1 ≤ char.toNat && char.toNat ≤ range.2

/-- A run of code points `first`, `first + step`, …, `last` that a case mapping moves by
`offset`. -/
structure CaseRun where
  first : Nat
  last : Nat
  step : Nat
  offset : Int

/-- The image of a character under a run, `none` for a character outside it. -/
def CaseRun.map? (run : CaseRun) (char : Char) : Option Char :=
  if run.first ≤ char.toNat && char.toNat ≤ run.last &&
      (char.toNat - run.first) % run.step == 0 then
    some (Char.ofNat (char.toNat + run.offset).toNat)
  else
    none

end Notekeeper.Text
