import Notekeeper.Package.Framed.StateCode

/-!
# Literals

The octets of a block that do not come from references stand together at its beginning: as they are,
as one octet repeated, or under a Huffman code, which is transmitted or that of an earlier block.
The lengths of its code words are given by weights; that of the last symbol follows from the others.
-/

namespace Notekeeper.Package.Framed

/-- A Huffman code whose longer code words come first. With all bits flipped and the symbols in
reverse order it is a canonical one. -/
structure LiteralCode where
  symbolCount : Nat
  flipped : Code

namespace LiteralCode

/-- The greatest length of a code word. -/
def maxLength : Nat := 12

/-- The share of all code words that a weight stands for. -/
def share (weight : Nat) : Nat :=
  if weight = 0 then 0 else Nat.pow 2 (weight - 1)

/-- The weights with the last one, which makes the shares a power of two. Code words of the greatest
length come in pairs. -/
def completed? (weights : List Nat) : Option (List Nat) := do
  guard (weights.all (· ≤ maxLength))
  let total := (weights.map share).foldl (· + ·) 0
  guard (total ≠ 0)
  let log := Nat.log2 total + 1
  guard (log ≤ maxLength)
  let missing := Nat.pow 2 log - total
  let last := Nat.log2 missing + 1
  guard (share last = missing)
  let all := weights ++ [last]
  let ones := all.count 1
  guard (2 ≤ ones ∧ ones % 2 = 0)
  return all

/-- The code of some weights. A code word is the shorter the greater its weight. -/
def ofWeights (weights : List Nat) : LiteralCode :=
  let log := Nat.log2 ((weights.map share).foldl (· + ·) 0)
  let lengths := weights.map fun weight => if weight = 0 then 0 else log + 1 - weight
  ⟨weights.length, Code.ofLengths log lengths.reverse⟩

/-- The rest of a symbol. -/
def symbolFrom : Nat → Code.Search → BitReader Nat
  | _, .found symbol => return symbol
  | 0, _ => failure
  | left + 1, search => do
      symbolFrom left (search.step ((← BitReader.take 1) == [false]))

/-- The next symbol of a code. -/
def symbol (code : LiteralCode) : BitReader Nat := do
  return code.symbolCount - 1 - (← symbolFrom code.flipped.maxLength code.flipped.start)

/-! ### Weights -/

/-- The most weights that are transmitted. -/
def maxWeightCount : Nat := 255

/-- Weights under a state code with two states in turn, up to the one behind whose state the bits do
not lead; the weight of the other state is the last one. -/
def weightsFrom (code : StateCode) : Nat → CodeState → CodeState → BitReader (List Nat)
  | 0, _, _ => failure
  | left + 1, state, other => do
      if (← get).length < state.width then return [state.symbol, other.symbol]
      else
        let next ← code.next state
        return state.symbol :: (← weightsFrom code left other next)

/-- Weights under a state code that is transmitted before them. -/
def codedWeights? (octets : List UInt8) : Option (List Nat) := do
  let (frequencies, octets) ← Frequencies.read? maxWeightCount 6 octets
  let code := StateCode.ofFrequencies frequencies
  let reader : BitReader (List Nat) := do
    let first ← code.first
    let second ← code.first
    weightsFrom code (maxWeightCount - 1) first second
  let (weights, _) ← reader.run (← backwards? octets)
  return weights

/-- Weights of four bits each. -/
def plainWeights (octets : List UInt8) : List Nat :=
  octets.flatMap fun octet => [octet.toNat / 16, octet.toNat % 16]

/-- The code at the beginning of some octets and the octets behind it. -/
def read? : List UInt8 → Option (LiteralCode × List UInt8)
  | [] => none
  | first :: octets => do
      let head := first.toNat
      let count := head - 127
      let size := if head < 128 then head else (count + 1) / 2
      guard (size ≤ octets.length)
      let weights ←
        if head < 128 then codedWeights? (octets.take size)
        else some ((plainWeights (octets.take size)).take count)
      return (ofWeights (← completed? weights), octets.drop size)

/-! ### Streams -/

/-- A number of symbols from a stream, which they must use up. -/
def stream? (code : LiteralCode) (count : Nat) (octets : List UInt8) : Option (List UInt8) := do
  let (symbols, rest) ← (BitReader.repeated code.symbol count).run (← backwards? octets)
  guard rest.isEmpty
  return symbols.map Nat.toUInt8

/-- The least number of symbols that four streams can be used for. -/
def minSplitCount : Nat := 6

/-- A number of symbols from four streams, before which the sizes of the first three stand. The
first three give equal numbers of symbols. -/
def fourStreams? (code : LiteralCode) (count : Nat) (octets : List UInt8) :
    Option (List UInt8) := do
  guard (minSplitCount ≤ count)
  let (first, octets) ← splitNumber? 2 octets
  let (second, octets) ← splitNumber? 2 octets
  let (third, octets) ← splitNumber? 2 octets
  let each := (count + 3) / 4
  guard (first + second + third ≤ octets.length ∧ 3 * each ≤ count)
  let one ← code.stream? each (octets.take first)
  let two ← code.stream? each ((octets.drop first).take second)
  let three ← code.stream? each ((octets.drop (first + second)).take third)
  let four ← code.stream? (count - 3 * each) (octets.drop (first + second + third))
  return one ++ two ++ three ++ four

end LiteralCode

/-! ### The section of a block -/

/-- How the literals of a block are given. -/
structure LiteralHeader where
  /-- 0 for literals as they are, 1 for one octet repeated, 2 for those under a transmitted code and
  3 for those under the code of an earlier block. -/
  kind : Nat
  count : Nat
  /-- The number of octets that code and streams take. -/
  size : Nat
  isSplit : Bool
  deriving DecidableEq, Repr

/-- The header at the beginning of a block and the octets behind it. -/
def LiteralHeader.read? (octets : List UInt8) : Option (LiteralHeader × List UInt8) := do
  let head := (octets.headD 0).toNat
  let kind := head % 4
  let format := head / 4 % 4
  if kind < 2 then
    let width := if format % 2 = 0 then 1 else if format = 1 then 2 else 3
    let (number, octets) ← splitNumber? width octets
    return (⟨kind, number / (if width = 1 then 8 else 16), 0, false⟩, octets)
  else
    guard (5 ≤ octets.length)
    let width := if format < 2 then 10 else if format = 2 then 14 else 18
    let length := if format < 2 then 3 else if format = 2 then 4 else 5
    let number := littleEndian (octets.take length) / 16
    return (⟨kind, number % Nat.pow 2 width, number / Nat.pow 2 width, format ≠ 0⟩,
      octets.drop length)

/-- The literals of a block, of which there may be a number at most, the code that is then in use,
and the octets behind them. -/
def literals? (maxCount : Nat) (code? : Option LiteralCode) (octets : List UInt8) :
    Option (List UInt8 × Option LiteralCode × List UInt8) := do
  let (header, octets) ← LiteralHeader.read? octets
  guard (header.count ≤ maxCount)
  match header.kind with
  | 0 =>
      guard (header.count ≤ octets.length)
      return (octets.take header.count, code?, octets.drop header.count)
  | 1 =>
      let octet ← octets.head?
      return (List.replicate header.count octet, code?, octets.drop 1)
  | kind =>
      guard (header.size ≤ octets.length ∧ header.count ≠ 0)
      let coded := octets.take header.size
      let (code, streams) ←
        if kind = 2 then LiteralCode.read? coded
        else code?.map fun code => (code, coded)
      let literals ←
        if header.isSplit then code.fourStreams? header.count streams
        else code.stream? header.count streams
      return (literals, some code, octets.drop header.size)

end Notekeeper.Package.Framed
