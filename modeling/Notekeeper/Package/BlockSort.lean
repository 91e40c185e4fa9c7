import Notekeeper.Package.Bits
import Notekeeper.Package.Disturbance

/-!
# Block-sorted data

Decompression of a format that sorts its data block by block. The octets of a block are put into the
order of what follows them, which brings equal octets together; they are then written as ranks in a
list of the octets met last (`Ranks`), with the lengths of runs of the first rank as numbers, under
several Huffman codes in turn. Before the sorting, four equal octets are followed by the number of
further ones (`expandRuns`).

Every block carries a checksum of its octets, and the data one of these checksums. The octets of a
block go out before its checksum is compared.
-/

namespace Notekeeper.Package

namespace BlockSort

/-- The next bit. -/
def bit : Unpacker Bool :=
  Unpacker.bit .mostFirst

/-- A number of which some bits have been read and a number of bits are left, most significant bit
first. -/
def numberAfter (value : Nat) : Nat → Unpacker Nat
  | 0 => return value
  | width + 1 => do numberAfter (2 * value + (← bit).toNat) width

/-- A number of a width in bits. -/
def number (width : Nat) : Unpacker Nat :=
  numberAfter 0 width

/-- As many results of a step as are wanted. -/
def repeated {result : Type} (step : Unpacker result) : Nat → Unpacker (List result)
  | 0 => return []
  | count + 1 => do
      let first ← step
      return first :: (← repeated step count)

/-- The number of octets that come in at a time. -/
def fetchSize : Nat := 8192

/-- One octet is put out. A portion is handed on when it is full before that. -/
def emit (octet : UInt8) : Unpacker Unit := do
  let state ← get
  if state.output.size - state.handedOn == portionSize then Unpacker.handOn
  Unpacker.emit octet

/-- The octets of a mark are read. -/
def expect : List Nat → Unpacker Unit
  | [] => return ()
  | octet :: rest => do if (← number 8) = octet then expect rest else throw .corrupt

/-! ### Checksums -/

/-- A number of bits are shifted out of a remainder at its most significant end. -/
def shiftBits : Nat → UInt32 → UInt32
  | 0, remainder => remainder
  | count + 1, remainder =>
      let shifted := remainder <<< 1
      shiftBits count (if remainder &&& 0x80000000 == 0 then shifted else shifted ^^^ 0x04C11DB7)

/-- The remainder after one more octet. -/
def addOctet (remainder : UInt32) (octet : UInt8) : UInt32 :=
  shiftBits 8 (remainder ^^^ (octet.toUInt32 <<< 24))

/-- The checksum of the octets of a block. -/
def blockChecksum (octets : Array UInt8) : UInt32 :=
  octets.foldl addOctet 0xFFFFFFFF ^^^ 0xFFFFFFFF

/-- The checksum of blocks and of one more. -/
def joinChecksums (blocks block : UInt32) : UInt32 :=
  ((blocks <<< 1) ||| (blocks >>> 31)) ^^^ block

/-! ### Codes -/

/-- The item at a position, and the list with this item at the front. -/
def toFront? {item : Type} (items : List item) (position : Nat) : Option (item × List item) :=
  items[position]?.map fun found => (found, found :: items.eraseIdx position)

/-- The number of set bits before the next clear one, which must be less than a limit. -/
def ones : Nat → Unpacker Nat
  | 0 => throw .corrupt
  | limit + 1 => do if ← bit then return (← ones limit) + 1 else return 0

/-- The codes of as many groups of symbols as are wanted, each given by its rank among the codes
used last. -/
def selectors (codeCount : Nat) : Nat → List Nat → Unpacker (List Nat)
  | 0, _ => return []
  | count + 1, recent => do
      match toFront? recent (← ones codeCount) with
      | some (code, recent) => return code :: (← selectors codeCount count recent)
      | none => throw .corrupt

/-- The greatest length of a code word. -/
def maxCodeLength : Nat := 20

/-- A code word length, found by steps from another one; every step takes bits. -/
def lengthWithin : Nat → Nat → Unpacker Nat
  | 0, _ => throw .corrupt
  | left + 1, length => do
      if length < 1 ∨ maxCodeLength < length then throw .corrupt
      else if ← bit then lengthWithin left (if ← bit then length - 1 else length + 1)
      else return length

/-- As many code word lengths as are wanted, each found from the one before. -/
def lengthsFrom (bitCount : Nat) : Nat → Nat → Unpacker (List Nat)
  | 0, _ => return []
  | count + 1, before => do
      let length ← lengthWithin bitCount before
      return length :: (← lengthsFrom bitCount count length)

/-- A code for a number of symbols. -/
def code (bitCount symbolCount : Nat) : Unpacker Code := do
  let first ← number 5
  return Code.ofLengths maxCodeLength (← lengthsFrom bitCount symbolCount first)

/-- The numbers, from a first one on, whose bits are set. -/
def marked (first : Nat) (bits : List Bool) : List Nat :=
  (bits.zipIdx first).filterMap fun (bit, number) => if bit then some number else none

/-- The octets that occur in a block: sixteen bits tell in which of sixteen ranges some do, and
sixteen more for each of these which ones. -/
def octetsInUse : Unpacker (List UInt8) := do
  let ranges := marked 0 (← repeated bit 16)
  let octets ← ranges.mapM fun range => do return marked (16 * range) (← repeated bit 16)
  return octets.flatten.map Nat.toUInt8

/-! ### Blocks -/

/-- A block of which some ranks have been read. -/
structure Ranks where
  /-- The octets of the block, the one met last first. -/
  recent : List UInt8
  /-- What the next digit counts if it continues the length of a run. -/
  weight : Nat
  block : Array UInt8

/-- One more octet, given by its rank. -/
def Ranks.take? (ranks : Ranks) (rank : Nat) : Option Ranks :=
  (toFront? ranks.recent rank).map fun (octet, recent) => ⟨recent, 1, ranks.block.push octet⟩

/-- One more digit, 1 or 2, of the length of a run of the first rank. -/
def Ranks.run? (capacity : Nat) (ranks : Ranks) (digit : Nat) : Option Ranks :=
  match ranks.recent with
  | octet :: _ =>
      if capacity < ranks.weight then none
      else
        some
          { ranks with
            weight := 2 * ranks.weight
            block := ranks.block ++ Array.replicate (digit * ranks.weight) octet }
  | [] => none

/-- The number of symbols after which the code changes. -/
def groupSize : Nat := 50

/-- The octets of a block up to its end symbol. The code in use serves a number of further symbols,
and those of the selectors follow it. Symbols take bits, and only one in a group of them comes with
a change of the code. -/
def rankedWithin (codes : List Code) (capacity endSymbol : Nat) :
    Nat → List Nat → Nat → Code → Ranks → Unpacker (Array UInt8)
  | 0, _, _, _, _ => throw .corrupt
  | left + 1, selectors, 0, _, ranks =>
      match selectors with
      | selector :: selectors =>
          match codes[selector]? with
          | some code => rankedWithin codes capacity endSymbol left selectors groupSize code ranks
          | none => throw .corrupt
      | [] => throw .corrupt
  | left + 1, selectors, inGroup + 1, code, ranks => do
      let symbol ← Unpacker.symbol .mostFirst code
      if symbol = endSymbol then return ranks.block
      else
        match if symbol < 2 then ranks.run? capacity (symbol + 1) else ranks.take? (symbol - 1) with
        | some ranks =>
            if ranks.block.size ≤ capacity then
              rankedWithin codes capacity endSymbol left selectors inGroup code ranks
            else throw .corrupt
        | none => throw .corrupt

/-- The positions of a block in the order of their octets; those of one octet stay in order. -/
def sortedPositions (block : Array UInt8) : Array Nat :=
  let buckets := block.toList.zipIdx.foldl
    (fun buckets (octet, position) => buckets.modify octet.toNat (·.push position))
    (Array.replicate 256 (#[] : Array Nat))
  buckets.flatten

/-- A number of octets from a position on, in the order before the sorting. -/
def follow (block : Array UInt8) (positions : Array Nat) :
    Nat → Nat → Array UInt8 → Array UInt8
  | 0, _, done => done
  | count + 1, position, done =>
      follow block positions count (positions.getD position 0) (done.push (block.getD position 0))

/-- The octets of a block before the sorting; the entry is where the first of them went. -/
def unsorted (block : Array UInt8) (entry : Nat) : Array UInt8 :=
  let positions := sortedPositions block
  follow block positions block.size (positions.getD entry 0) #[]

/-- Octets with their runs written out. -/
structure Runs where
  octets : Array UInt8 := #[]
  last : UInt8 := 0
  /-- How often the last octet has come in a row. -/
  count : Nat := 0

/-- One more octet. After four equal ones it is the number of further ones. -/
def Runs.add (runs : Runs) (octet : UInt8) : Runs :=
  if runs.count = 4 then
    ⟨runs.octets ++ Array.replicate octet.toNat runs.last, octet, 0⟩
  else
    ⟨runs.octets.push octet, octet, if octet = runs.last then runs.count + 1 else 1⟩

/-- Whether the number of further octets of a run is still to come. -/
def Runs.isOpen (runs : Runs) : Bool :=
  runs.count == 4

/-- A block with its runs written out. -/
def expandRuns (block : Array UInt8) : Runs :=
  block.foldl Runs.add {}

/-- A block behind its mark. The result is its checksum. -/
def block (bitCount capacity : Nat) : Unpacker UInt32 := do
  let checksum ← number 32
  let isDisturbed ← bit
  let entry ← number 24
  let octets ← octetsInUse
  if octets.isEmpty then throw .corrupt
  let codeCount ← number 3
  if codeCount < 2 ∨ 6 < codeCount then throw .corrupt
  let selectorCount ← number 15
  if selectorCount = 0 then throw .corrupt
  let selectors ← selectors codeCount selectorCount (List.range codeCount)
  let codes ← repeated (code bitCount (octets.length + 2)) codeCount
  let sorted ← rankedWithin codes capacity (octets.length + 1) (2 * bitCount) selectors 0 ⟨[]⟩
    ⟨octets, 1, #[]⟩
  if sorted.size ≤ entry then throw .corrupt
  let whole := unsorted sorted entry
  let runs := expandRuns (if isDisturbed then calm whole else whole)
  runs.octets.forM emit
  if runs.isOpen ∨ (blockChecksum runs.octets).toNat ≠ checksum then throw .corrupt
  return blockChecksum runs.octets

/-- The blocks up to the end, with the checksum of those before them. The mark before a block and
that behind the last one differ in their first octet. -/
def blocksWithin (bitCount capacity : Nat) : Nat → UInt32 → Unpacker Unit
  | 0, _ => throw .corrupt
  | left + 1, checksum => do
      let mark ← number 8
      if mark = 0x31 then
        expect [0x41, 0x59, 0x26, 0x53, 0x59]
        blocksWithin bitCount capacity left
          (joinChecksums checksum (← block bitCount capacity))
      else if mark = 0x17 then
        expect [0x72, 0x45, 0x38, 0x50, 0x90]
        if (← number 32) ≠ checksum.toNat then throw .corrupt
      else throw .corrupt

/-- The number of octets in a block for each step of the level. -/
def levelSize : Nat := 100000

/-- All data. They begin with a mark and the level. -/
def whole (bitCount : Nat) : Unpacker Unit := do
  expect [0x42, 0x5A, 0x68]
  let level ← number 8
  if '1'.toNat ≤ level ∧ level ≤ '9'.toNat then
    blocksWithin bitCount (levelSize * (level - '0'.toNat)) bitCount 0
  else throw .corrupt

end BlockSort

/-- What block-sorted data decode to. -/
def unsort (compressed : List UInt8) : Decoded :=
  (BlockSort.whole (8 * compressed.length + 1)).decode BlockSort.fetchSize compressed

end Notekeeper.Package
