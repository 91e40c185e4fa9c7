/-!
# Huffman codes

A canonical prefix code is given by the length of the code word of each symbol; a length of zero
means that the symbol does not occur. Code words of one length are consecutive numbers in the order
of their symbols, and follow those of the shorter lengths (`Code.Search.step`).
-/

namespace Notekeeper.Package

/-- A canonical code: for each length from 1 on, the symbols with code words of that length, in
order. -/
structure Code where
  levels : List (List Nat)

namespace Code

/-- The symbols whose code words have a length. -/
def symbolsOfLength (lengths : List Nat) (length : Nat) : List Nat :=
  lengths.zipIdx.filterMap fun entry => if entry.1 = length then some entry.2 else none

/-- The code of some code word lengths, none of them beyond a greatest one. -/
def ofLengths (maxLength : Nat) (lengths : List Nat) : Code :=
  ⟨(List.range maxLength).map fun level => symbolsOfLength lengths (level + 1)⟩

/-- The greatest length that a code word can have. -/
def maxLength (code : Code) : Nat :=
  code.levels.length

/-- The number of code words of the longest length that a list of levels leaves unused, negative if
the levels ask for more code words than there are. -/
def unused : Int → List (List Nat) → Int
  | free, [] => free
  | free, level :: levels => unused (2 * free - level.length) levels

/-- The number of symbols that have code words. -/
def size (code : Code) : Nat :=
  code.levels.flatten.length

/-- Whether a code uses up all code words. -/
def isComplete (code : Code) : Bool :=
  unused 1 code.levels == 0

/-- Whether a code has no more than one symbol, with a code word of one bit. -/
def isTrivial (code : Code) : Bool :=
  code.maxLength ≤ 1 && code.size ≤ 1

/-- What is known of a symbol after some bits of its code word. -/
inductive Search where
  /-- The code word is complete. -/
  | found (symbol : Nat)
  /-- More bits are needed. `offset` tells how far the bits read lie beyond the code words of their
  length, and `levels` are the symbols of the greater lengths. -/
  | pending (offset : Nat) (levels : List (List Nat))
  /-- No code word begins with the bits read. -/
  | missing

/-- The search before the first bit. -/
def start (code : Code) : Search :=
  .pending 0 code.levels

/-- The search after one more bit. -/
def Search.step (bit : Bool) : Search → Search
  | .pending offset (level :: levels) =>
      let offset := 2 * offset + bit.toNat
      match level[offset]? with
      | some symbol => .found symbol
      | none => .pending (offset - level.length) levels
  | _ => .missing

end Code

end Notekeeper.Package
