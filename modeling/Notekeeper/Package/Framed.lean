import Notekeeper.Package.Framed.Fingerprint
import Notekeeper.Package.Framed.Sequences

/-!
# Framed data

Decompression of a format whose data are a sequence of frames, each a sequence of blocks. The octets
of a block are given as they are, as one octet repeated, or by literals and sequences that copy from
what the frame has put out before. Frames of another mark are skipped.

A short frame that has come in as a whole is decoded at once; any other is decoded block by block,
with buffers that limit the sizes of its blocks (`Frame.isWhole`).
-/

namespace Notekeeper.Package

namespace Framed

/-- The number of octets that come in at a time. -/
def fetchSize : Nat := 131075

/-- A number of octets behind those that are there, which come last first. -/
def octetsAfter : List UInt8 → Nat → Unpacker (List UInt8)
  | done, 0 => return done.reverse
  | done, count + 1 => do octetsAfter ((← Unpacker.octet) :: done) count

/-- A number of octets. -/
def octets (count : Nat) : Unpacker (List UInt8) :=
  octetsAfter [] count

/-- A number in a number of octets, least significant octet first. -/
def number (width : Nat) : Unpacker Nat := do
  return littleEndian (← octets width)

/-- Decoding stops unless a condition holds. -/
def require (condition : Bool) : Unpacker Unit :=
  if condition then return () else throw .corrupt

/-- Full portions of output are handed on when there is more than that. -/
def handOnPortions : Unpacker Unit :=
  modify fun state =>
    let pending := state.output.size - state.handedOn
    { state with handedOn := state.handedOn + portionSize * ((pending - 1) / portionSize) }

/-! ### Headers -/

/-- What the header of a frame tells. -/
structure FrameHeader where
  /-- How far back copies reach. -/
  windowSize : Nat
  contentSize? : Option Nat
  /-- Whether the fingerprint of the content follows the blocks. -/
  hasFingerprint : Bool
  deriving DecidableEq, Repr

/-- The number that stands for a content size that is not known. -/
def unknownSize : Nat := 0xFFFFFFFFFFFFFFFF

/-- The content size under a code for its width. -/
def contentSize? (code : Nat) (isSingle : Bool) : Unpacker (Option Nat) := do
  match code with
  | 0 => if isSingle then return some (← number 1) else return none
  | 1 => return some ((← number 2) + 256)
  | 2 => return some (← number 4)
  | _ =>
      let size ← number 8
      return if size = unknownSize then none else some size

/-- The greatest exponent of a window size. -/
def maxWindowLog : Nat := 31

/-- The window size, a power of two and some eighths of it. -/
def windowSize : Unpacker Nat := do
  let octet ← number 1
  let log := octet / 8 + 10
  require (log ≤ maxWindowLog)
  let whole := Nat.pow 2 log
  return whole + whole / 8 * (octet % 8)

/-- The header behind the mark of a frame. No dictionary is there that it could name. The window of
a frame in a single segment is its content. -/
def frameHeader : Unpacker FrameHeader := do
  let descriptor ← number 1
  let isSingle := descriptor.testBit 5
  let window ← if isSingle then pure 0 else windowSize
  let dictionary ← number (if descriptor % 4 = 3 then 4 else descriptor % 4)
  let size? ← contentSize? (descriptor / 64) isSingle
  require (!descriptor.testBit 3 && dictionary == 0)
  return ⟨if isSingle then size?.getD unknownSize else window, size?, descriptor.testBit 2⟩

/-- The most octets of any block. -/
def maxBlockSize : Nat := 131072

/-- The most octets of a block in a frame. -/
def FrameHeader.blockSize (header : FrameHeader) : Nat :=
  min header.windowSize maxBlockSize

/-- The header of a block. -/
structure BlockHeader where
  isLast : Bool
  /-- 0 for octets as they are, 1 for one octet repeated, 2 for literals and sequences. -/
  kind : Nat
  size : Nat
  deriving DecidableEq, Repr

namespace BlockHeader

/-- The number of octets of a header. -/
def width : Nat := 3

/-- The header in a number. -/
def ofNumber (number : Nat) : BlockHeader :=
  ⟨number % 2 == 1, number / 2 % 4, number / 8⟩

/-- The number of octets that follow the header. -/
def following (header : BlockHeader) : Nat :=
  if header.kind = 1 then 1 else header.size

end BlockHeader

/-! ### Frames -/

/-- A frame being decoded. -/
structure Frame where
  header : FrameHeader
  /-- Whether the frame is decoded at once. -/
  isWhole : Bool
  /-- The size of the output before the frame. -/
  start : Nat

/-- What a block leaves to those after it in its frame. -/
structure Inheritance where
  literalCode? : Option LiteralCode := none
  sequenceCodes? : Option SequenceCodes := none
  recent : RecentOffsets := {}

namespace Frame

/-- The size beyond which the output must not grow by a block, from its size before. -/
def limit (frame : Frame) (size : Nat) : Nat :=
  let room := size + frame.header.blockSize
  match frame.header.contentSize? with
  | some contentSize =>
      let finish := frame.start + contentSize
      if frame.isWhole then finish else min room finish
  | none => room

/-- The output after a block of literals and sequences. -/
def compressed? (frame : Frame) (inheritance : Inheritance) (octets : List UInt8)
    (output : Array UInt8) : Option (Inheritance × Array UInt8) := do
  let (literals, literalCode?, octets) ←
    literals? frame.header.blockSize inheritance.literalCode? octets
  let (sequences, sequenceCodes?) ← sequences? inheritance.sequenceCodes? octets
  let limit := frame.limit output.size
  let following ← sequences.foldlM (Following.follow? frame.start limit)
    ⟨literals, inheritance.recent, output⟩
  return (⟨literalCode?, sequenceCodes?, following.recent⟩, following.output ++ following.literals)

/-- The output after a block whose octets have all been read. Block by block, it may be empty. -/
def block? (frame : Frame) (inheritance : Inheritance) (header : BlockHeader)
    (octets : List UInt8) (output : Array UInt8) : Option (Inheritance × Array UInt8) := do
  let (inheritance, result) ←
    if header.kind = 1 then
      some (inheritance, output ++ Array.replicate header.size (octets.headD 0))
    else if octets.isEmpty && !frame.isWhole then some (inheritance, output)
    else frame.compressed? inheritance octets output
  guard (result.size ≤ frame.limit output.size)
  return (inheritance, result)

/-- Whether the size of what follows a block header is admissible. -/
def admits (frame : Frame) (header : BlockHeader) : Bool :=
  header.following ≤ frame.header.blockSize || (frame.isWhole && header.kind != 2)

/-- Whether the content of a frame may have a size. Block by block, this is not checked when the
last block is empty. -/
def isCompleteAt (frame : Frame) (last : BlockHeader) (size : Nat) : Bool :=
  match frame.header.contentSize? with
  | some contentSize => size == contentSize || (!frame.isWhole && last.following == 0)
  | none => true

/-- A block of literals and sequences, or of one octet repeated. -/
def codedBlock (frame : Frame) (inheritance : Inheritance) (header : BlockHeader) :
    Unpacker Inheritance := do
  let octets ← octets header.following
  match frame.block? inheritance header octets (← get).output with
  | none => throw .corrupt
  | some (inheritance, output) =>
      modify fun state => { state with output := output }
      return inheritance

/-- A number of octets as they stand. Each is put out as soon as it is read, as long as the output
is below a limit. -/
def plain (limit : Nat) : Nat → Unpacker Unit
  | 0 => return ()
  | count + 1 => do
      let octet ← Unpacker.octet
      require ((← get).output.size < limit)
      Unpacker.emit octet
      plain limit count

/-- A block. -/
def block (frame : Frame) (inheritance : Inheritance) (header : BlockHeader) :
    Unpacker Inheritance := do
  require (header.kind < 3 && frame.admits header)
  if header.kind = 0 then
    plain (frame.limit (← get).output.size) header.size
    return inheritance
  else frame.codedBlock inheritance header

/-- The blocks of a frame up to the last one. Each takes octets. -/
def blocksWithin (frame : Frame) : Nat → Inheritance → Unpacker Unit
  | 0, _ => throw .corrupt
  | left + 1, inheritance => do
      let header := BlockHeader.ofNumber (← number BlockHeader.width)
      let inheritance ← frame.block inheritance header
      if header.isLast then
        require (frame.isCompleteAt header ((← get).output.size - frame.start))
      handOnPortions
      if header.isLast then return () else blocksWithin frame left inheritance

/-- The fingerprint behind the blocks. -/
def expectFingerprint (frame : Frame) : Unpacker Unit := do
  let expected ← number 4
  let output := (← get).output
  let content := output.extract frame.start output.size
  require ((fingerprint content).toUInt32.toNat == expected)

end Frame

/-- The number of octets of the blocks at the beginning of some octets, a number of blocks at most.
-/
def blocksSize? : Nat → List UInt8 → Option Nat
  | 0, _ => none
  | left + 1, octets => do
      let (number, octets) ← splitNumber? BlockHeader.width octets
      let header := BlockHeader.ofNumber number
      guard (header.kind ≠ 3)
      let size := BlockHeader.width + header.following
      if header.isLast then return size
      else return size + (← blocksSize? left (octets.drop header.following))

/-- The window size up to which frames are decoded block by block. -/
def maxWindowSize : Nat := Nat.pow 2 27 + 1

/-- Whether a frame is decoded at once: its content fits a portion, and all its octets have come in
together. `begun` is the number of octets taken before the frame. -/
def isWhole (header : FrameHeader) (begun : Nat) (state : Unpacking) : Bool :=
  match header.contentSize? with
  | none => false
  | some contentSize =>
      if portionSize < contentSize then false
      else
        match blocksSize? fetchSize state.octets with
        | none => false
        | some size =>
            let size := size + if header.hasFingerprint then 4 else 0
            (state.octets.take size).length == size
              && begun % fetchSize + (state.taken - begun) + size ≤ fetchSize

/-- The mark before a frame. -/
def frameMark : Nat := 0xFD2FB528

/-- The mark before a frame to be skipped, without its last hexadecimal digit. -/
def skippedMark : Nat := 0x184D2A5

/-- One frame. There are not more blocks than a number. -/
def frame (maxBlockCount : Nat) : Unpacker Unit := do
  let begun := (← get).taken
  let mark ← number 4
  if mark / 16 = skippedMark then
    let _ ← octets (← number 4)
  else
    require (mark == frameMark)
    let header ← frameHeader
    let state ← get
    let frame : Frame := ⟨header, isWhole header begun state, state.output.size⟩
    require (frame.isWhole || header.windowSize ≤ maxWindowSize)
    frame.blocksWithin maxBlockCount {}
    if header.hasFingerprint then frame.expectFingerprint
  Unpacker.handOn

/-- The frames up to the end of the data. There is at least one, and each takes octets. -/
def framesWithin (maxBlockCount : Nat) : Nat → Unpacker Unit
  | 0 => throw .corrupt
  | left + 1 => do
      frame maxBlockCount
      if (← get).octets.isEmpty then return () else framesWithin maxBlockCount left

end Framed

/-- What framed data decode to. -/
def unframe (compressed : List UInt8) : Decoded :=
  let octetCount := compressed.length + 1
  (Framed.framesWithin octetCount octetCount).decode Framed.fetchSize compressed

end Notekeeper.Package
