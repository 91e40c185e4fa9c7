import Notekeeper.Package.Framed.Literals

/-!
# Sequences

Behind its literals a block tells how they are mixed with copies of earlier octets. Each sequence
takes a number of literals and then copies a number of octets from an offset back; the literals left
after the last sequence end the block.

The three numbers of a sequence are given by symbols under a state code each, and further bits. An
offset may also be one of the three used last (`RecentOffsets`).
-/

namespace Notekeeper.Package.Framed

/-! ### Numbers -/

/-- The numbers that a symbol stands for: further bits of a width are added to a base. -/
structure NumberRange where
  base : Nat
  width : Nat
  deriving DecidableEq, Repr, Inhabited

/-- Ranges of some widths, one behind the other. -/
def NumberRange.listFrom (base : Nat) : List Nat → List NumberRange
  | [] => []
  | width :: widths => ⟨base, width⟩ :: listFrom (base + Nat.pow 2 width) widths

/-- A kind of number in sequences. -/
structure NumberKind where
  ranges : Array NumberRange
  /-- The greatest exponent of a transmitted code. -/
  maxLog : Nat
  /-- The frequencies of the code that is used without being transmitted. -/
  usual : Frequencies

namespace NumberKind

/-- Numbers of literals. -/
def literalLength : NumberKind where
  ranges := (NumberRange.listFrom 0 (List.replicate 16 0 ++
    [1, 1, 1, 1, 2, 2, 3, 3, 4, 6, 7, 8, 9, 10, 11, 12, 13, 14, 15, 16])).toArray
  maxLog := 9
  usual := ⟨6, [4, 3] ++ List.replicate 11 2 ++ List.replicate 3 1 ++ List.replicate 9 2 ++
    [3, 2] ++ List.replicate 5 1 ++ List.replicate 4 (-1)⟩

/-- Numbers of octets to be copied. -/
def matchLength : NumberKind where
  ranges := (NumberRange.listFrom 3 (List.replicate 32 0 ++
    [1, 1, 1, 1, 2, 2, 3, 3, 4, 4, 5, 7, 8, 9, 10, 11, 12, 13, 14, 15, 16])).toArray
  maxLog := 9
  usual := ⟨6, [1, 4, 3] ++ List.replicate 6 2 ++ List.replicate 37 1 ++ List.replicate 7 (-1)⟩

/-- Offsets, which need to be resolved yet. -/
def offset : NumberKind where
  ranges := (NumberRange.listFrom 1 (List.range 32)).toArray
  maxLog := 8
  usual := ⟨5, List.replicate 6 1 ++ List.replicate 3 2 ++ List.replicate 15 1 ++
    List.replicate 5 (-1)⟩

/-- The code for a kind of number, and the octets behind what transmits it. Mode 0 is the usual
code, mode 1 that of a single symbol, mode 2 a transmitted one, and any other that of an earlier
block. -/
def code? (kind : NumberKind) (mode : Nat) (earlier? : Option StateCode) (octets : List UInt8) :
    Option (StateCode × List UInt8) :=
  match mode with
  | 0 => some (StateCode.ofFrequencies kind.usual, octets)
  | 1 => do
      let symbol ← octets.head?
      guard (symbol.toNat < kind.ranges.size)
      return (StateCode.constant symbol.toNat, octets.drop 1)
  | 2 => do
      let (frequencies, octets) ← Frequencies.read? (kind.ranges.size - 1) kind.maxLog octets
      return (StateCode.ofFrequencies frequencies, octets)
  | _ => earlier?.map fun code => (code, octets)

/-- The number of a symbol. -/
def number (kind : NumberKind) (symbol : Nat) : BitReader Nat := do
  let range := kind.ranges.getD symbol default
  return range.base + (← BitReader.high range.width)

end NumberKind

/-! ### Reading -/

/-- A sequence as it is written. -/
structure Sequence where
  literalLength : Nat
  matchLength : Nat
  /-- A number up to 3 stands for a recent offset. -/
  offset : Nat
  deriving DecidableEq, Repr

/-- The codes that sequences are written with. -/
structure SequenceCodes where
  literalLength : StateCode
  offset : StateCode
  matchLength : StateCode
  deriving DecidableEq, Repr

/-- The codes at the beginning of some octets and the octets behind them. The codes of an earlier
block may be used again. -/
def SequenceCodes.read? (earlier? : Option SequenceCodes) (octets : List UInt8) :
    Option (SequenceCodes × List UInt8) := do
  let modes ← octets.head?.map UInt8.toNat
  guard (modes % 4 = 0)
  let (literalLength, octets) ← NumberKind.literalLength.code? (modes / 64)
    (earlier?.map SequenceCodes.literalLength) (octets.drop 1)
  let (offset, octets) ← NumberKind.offset.code? (modes / 16 % 4)
    (earlier?.map SequenceCodes.offset) octets
  let (matchLength, octets) ← NumberKind.matchLength.code? (modes / 4 % 4)
    (earlier?.map SequenceCodes.matchLength) octets
  return (⟨literalLength, offset, matchLength⟩, octets)

/-- The states of the codes. -/
structure SequenceStates where
  literalLength : CodeState
  offset : CodeState
  matchLength : CodeState
  deriving DecidableEq, Repr

namespace SequenceCodes

/-- The states before the first sequence. -/
def first (codes : SequenceCodes) : BitReader SequenceStates := do
  let literalLength ← codes.literalLength.first
  let offset ← codes.offset.first
  let matchLength ← codes.matchLength.first
  return ⟨literalLength, offset, matchLength⟩

/-- The states after those of a sequence. -/
def next (codes : SequenceCodes) (states : SequenceStates) : BitReader SequenceStates := do
  let literalLength ← codes.literalLength.next states.literalLength
  let matchLength ← codes.matchLength.next states.matchLength
  let offset ← codes.offset.next states.offset
  return ⟨literalLength, offset, matchLength⟩

/-- The sequence of some states. -/
def sequence (states : SequenceStates) : BitReader Sequence := do
  let offset ← NumberKind.offset.number states.offset.symbol
  let matchLength ← NumberKind.matchLength.number states.matchLength.symbol
  let literalLength ← NumberKind.literalLength.number states.literalLength.symbol
  return ⟨literalLength, matchLength, offset⟩

/-- A number of sequences behind those that are there, which come last first. -/
def sequencesAfter (codes : SequenceCodes) (done : List Sequence) (states : SequenceStates) :
    Nat → BitReader (List Sequence)
  | 0 => return done.reverse
  | 1 => return ((← sequence states) :: done).reverse
  | count + 1 => do
      let last ← sequence states
      sequencesAfter codes (last :: done) (← codes.next states) count

/-- A number of sequences in some octets, which they must use up. -/
def sequences? (codes : SequenceCodes) (count : Nat) (octets : List UInt8) :
    Option (List Sequence) := do
  let reader : BitReader (List Sequence) := do
    sequencesAfter codes [] (← codes.first) count
  let (sequences, rest) ← reader.run (← backwards? octets)
  guard rest.isEmpty
  return sequences

end SequenceCodes

/-- The number of sequences at the beginning of some octets and the octets behind it. -/
def sequenceCount? : List UInt8 → Option (Nat × List UInt8)
  | [] => none
  | head :: octets =>
      if head.toNat < 128 then some (head.toNat, octets)
      else if head.toNat < 255 then
        (splitNumber? 1 octets).map fun (low, octets) => (256 * (head.toNat - 128) + low, octets)
      else (splitNumber? 2 octets).map fun (number, octets) => (number + 0x7F00, octets)

/-- The sequences of a block, with the codes that are then in use. Where there are none, nothing may
follow their number. -/
def sequences? (earlier? : Option SequenceCodes) (octets : List UInt8) :
    Option (List Sequence × Option SequenceCodes) := do
  let (count, octets) ← sequenceCount? octets
  if count = 0 then
    guard octets.isEmpty
    return ([], earlier?)
  else
    let (codes, octets) ← SequenceCodes.read? earlier? octets
    return (← codes.sequences? count octets, some codes)

/-! ### Following -/

/-- The three offsets used last. -/
structure RecentOffsets where
  first : Nat := 1
  second : Nat := 4
  third : Nat := 8
  deriving DecidableEq, Repr

/-- The offset of a sequence and the offsets that are then the recent ones. Behind literals the
numbers 1 to 3 stand for the recent offsets; without literals the first of them would only continue
the copy before, so that the numbers stand for the second, the third and one less than the first. -/
def RecentOffsets.resolve? (recent : RecentOffsets) (sequence : Sequence) :
    Option (Nat × RecentOffsets) :=
  if 3 < sequence.offset then
    some (sequence.offset - 3, ⟨sequence.offset - 3, recent.first, recent.second⟩)
  else
    match if sequence.literalLength = 0 then sequence.offset + 1 else sequence.offset with
    | 1 => some (recent.first, recent)
    | 2 => some (recent.second, ⟨recent.second, recent.first, recent.third⟩)
    | 3 => some (recent.third, ⟨recent.third, recent.first, recent.second⟩)
    | _ =>
        if recent.first ≤ 1 then none
        else some (recent.first - 1, ⟨recent.first - 1, recent.first, recent.second⟩)

/-- A number of octets copied from an offset back, one by one, so that a copy may reach into
itself. -/
def copyBack (offset : Nat) : Nat → Array UInt8 → Array UInt8
  | 0, output => output
  | count + 1, output =>
      copyBack offset count (output.push (output.getD (output.size - offset) 0))

/-- A block of which some sequences have been followed. -/
structure Following where
  literals : List UInt8
  recent : RecentOffsets
  output : Array UInt8

/-- One more sequence is followed. Copies do not reach behind the start of the frame, and the output
has a limit. -/
def Following.follow? (start limit : Nat) : Following → Sequence → Option Following
  | ⟨literals, recent, output⟩, sequence => do
      let taken := literals.take sequence.literalLength
      guard (taken.length = sequence.literalLength)
      let (offset, recent) ← recent.resolve? sequence
      let output := output ++ taken
      guard (offset ≤ output.size - start ∧ output.size + sequence.matchLength ≤ limit)
      return ⟨literals.drop sequence.literalLength, recent,
        copyBack offset sequence.matchLength output⟩

end Notekeeper.Package.Framed
