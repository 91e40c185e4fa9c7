import Notekeeper.Package.Bits

/-!
# Inflation

Decompression of the deflate format: a sequence of blocks, each stored as it is or coded with a
fixed or a transmitted Huffman code, whose symbols are octets and references back into the output.

The octets that references can reach stand in a window, whose octets are handed on when it has to be
filled anew. Before the first output the window holds zeros, and a reference may reach these.
-/

namespace Notekeeper.Package

namespace Inflate

/-- The next bit. -/
def bit : Unpacker Bool :=
  Unpacker.bit .leastFirst

/-- The next symbol of a code. -/
def symbol (code : Code) : Unpacker Nat :=
  Unpacker.symbol .leastFirst code

/-- A number of a width in bits, least significant bit first. -/
def number : Nat → Unpacker Nat
  | 0 => return 0
  | width + 1 => do
      let low ← bit
      let high ← number width
      return low.toNat + 2 * high

/-! ### The window -/

/-- The number of octets in the window. -/
def windowSize : Nat := 32768

/-- The number of octets that come in at a time. -/
def fetchSize : Nat := 32768

/-- One octet is put out. When the window is full before that, it is handed on, unless what it adds
to the portion in the making leaves room there and more can be read at once. -/
def emit (octet : UInt8) : Unpacker Unit := do
  let state ← get
  if state.output.size % windowSize == 0 then
    if state.needsFetch || portionSize ≤ state.output.size - state.handedOn then Unpacker.handOn
  Unpacker.emit octet

/-- Octets are copied from a distance back, one by one, so that a copy may reach into itself. -/
def copy (distance : Nat) : Nat → Unpacker Unit
  | 0 => return ()
  | length + 1 => do
      let output := (← get).output
      emit (if distance ≤ output.size then output.getD (output.size - distance) 0 else 0)
      copy distance length

/-! ### Blocks -/

/-- The least length and the number of further bits for each length symbol from 257 on. -/
def lengthTable : List (Nat × Nat) :=
  [(3, 0), (4, 0), (5, 0), (6, 0), (7, 0), (8, 0), (9, 0), (10, 0), (11, 1), (13, 1), (15, 1),
    (17, 1), (19, 2), (23, 2), (27, 2), (31, 2), (35, 3), (43, 3), (51, 3), (59, 3), (67, 4),
    (83, 4), (99, 4), (115, 4), (131, 5), (163, 5), (195, 5), (227, 5), (258, 0)]

/-- The least distance and the number of further bits for each distance symbol. -/
def distanceTable : List (Nat × Nat) :=
  [(1, 0), (2, 0), (3, 0), (4, 0), (5, 1), (7, 1), (9, 2), (13, 2), (17, 3), (25, 3), (33, 4),
    (49, 4), (65, 5), (97, 5), (129, 6), (193, 6), (257, 7), (385, 7), (513, 8), (769, 8),
    (1025, 9), (1537, 9), (2049, 10), (3073, 10), (4097, 11), (6145, 11), (8193, 12), (12289, 12),
    (16385, 13), (24577, 13)]

/-- The amount that a symbol and its further bits stand for. -/
def amount (table : List (Nat × Nat)) (index : Nat) : Unpacker Nat :=
  match table[index]? with
  | some (least, width) => do return least + (← number width)
  | none => throw .corrupt

/-- The symbols of a coded block up to its end. Each takes at least a bit, so the number of bits of
the data bounds them. -/
def codedWithin (literals distances : Code) : Nat → Unpacker Unit
  | 0 => throw .corrupt
  | left + 1 => do
      let next ← symbol literals
      if next < 256 then
        emit next.toUInt8
        codedWithin literals distances left
      else if next = 256 then return ()
      else
        let length ← amount lengthTable (next - 257)
        let distance ← amount distanceTable (← symbol distances)
        copy distance length
        codedWithin literals distances left

/-- A number of octets as they stand. -/
def stored : Nat → Unpacker Unit
  | 0 => return ()
  | length + 1 => do
      emit (← number 8).toUInt8
      stored length

/-- A stored block: it begins at a full octet with its length and the complement of that. -/
def storedBlock : Unpacker Unit := do
  modify fun state => { state with bits := [] }
  let length ← number 16
  let complement ← number 16
  if length + complement = 0xFFFF then stored length else throw .corrupt

/-- The lengths of the fixed code for literals. -/
def fixedLiterals : List Nat :=
  List.replicate 144 8 ++ List.replicate 112 9 ++ List.replicate 24 7 ++ List.replicate 8 8

/-- The lengths of the fixed code for distances. -/
def fixedDistances : List Nat :=
  List.replicate 32 5

/-- The order in which the lengths of the code for lengths are transmitted. -/
def transmissionOrder : List Nat :=
  [16, 17, 18, 0, 8, 7, 9, 6, 10, 5, 11, 4, 12, 3, 13, 2, 14, 1, 15]

/-- The code of some lengths, which is not searched beyond the greatest of them. -/
def codeOf (lengths : List Nat) : Code :=
  Code.ofLengths (lengths.foldl max 1) lengths

/-- A transmitted code, which must satisfy a condition. -/
def checked (isSound : Code → Bool) (lengths : List Nat) : Unpacker Code :=
  let code := codeOf lengths
  if isSound code then return code else throw .corrupt

/-- Whether a code can serve for literals or distances: it must use up all code words, unless it has
at most one symbol and that a code word of one bit. -/
def isUsable (code : Code) : Bool :=
  code.isComplete || code.isTrivial

/-- The most symbols that a transmitted code for literals has. -/
def maxLiteralCount : Nat := 286

/-- The most symbols that a transmitted code for distances has. -/
def maxDistanceCount : Nat := 30

/-- A number of values of three bits. -/
def shortLengths : Nat → Unpacker (List Nat)
  | 0 => return []
  | count + 1 => do
      let length ← number 3
      return length :: (← shortLengths count)

/-- Code word lengths until there are enough of them. `done` holds those read, last first. Each
symbol gives at least one length. -/
def lengthsWithin (code : Code) (count : Nat) : Nat → List Nat → Unpacker (List Nat)
  | left, done =>
      if count < done.length then throw .corrupt
      else if done.length = count then return done.reverse
      else
        match left with
        | 0 => throw .corrupt
        | left + 1 => do
            let next ← symbol code
            if next < 16 then lengthsWithin code count left (next :: done)
            else if next = 16 then
              let times ← number 2
              match done with
              | last :: _ => lengthsWithin code count left (List.replicate (3 + times) last ++ done)
              | [] => throw .corrupt
            else if next = 17 then
              let times ← number 3
              lengthsWithin code count left (List.replicate (3 + times) 0 ++ done)
            else
              let times ← number 7
              lengthsWithin code count left (List.replicate (11 + times) 0 ++ done)

/-- The two codes at the beginning of a block that transmits its codes. -/
def transmittedCodes : Unpacker (Code × Code) := do
  let literalCount := 257 + (← number 5)
  let distanceCount := 1 + (← number 5)
  let shortCount := 4 + (← number 4)
  if maxLiteralCount < literalCount ∨ maxDistanceCount < distanceCount then throw .corrupt
  let short ← shortLengths shortCount
  let given := transmissionOrder.zip short
  let code ← checked Code.isComplete
    ((List.range 19).map fun index => (given.lookup index).getD 0)
  let total := literalCount + distanceCount
  let lengths ← lengthsWithin code total total []
  return (← checked isUsable (lengths.take literalCount),
    ← checked isUsable (lengths.drop literalCount))

/-- The blocks up to the last one. -/
def blocksWithin (bitCount : Nat) : Nat → Unpacker Unit
  | 0 => throw .corrupt
  | left + 1 => do
      let final ← bit
      match ← number 2 with
      | 0 => storedBlock
      | 1 => codedWithin (codeOf fixedLiterals) (codeOf fixedDistances) bitCount
      | 2 => do
          let (literals, distances) ← transmittedCodes
          codedWithin literals distances bitCount
      | _ => throw .corrupt
      if final then return () else blocksWithin bitCount left

end Inflate

/-- What deflated data decode to. -/
def inflate (compressed : List UInt8) : Decoded :=
  let bitCount := 8 * compressed.length + 1
  (Inflate.blocksWithin bitCount bitCount).decode Inflate.fetchSize compressed

end Notekeeper.Package
