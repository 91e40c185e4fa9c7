import Notekeeper.Package.Archive.Octets

/-!
# The trailer of an archive

An archive ends with a trailer that says where its directory lies, perhaps with a comment after it.
Offsets count from the beginning of the archive, which need not be that of the octets: whatever
stands before it is passed over. An archive beyond four gigabytes has a further trailer with wider
fields, and a locator of that one right before the first. Archives in several parts are refused.
-/

namespace Notekeeper.Package

/-- The mark of the trailer. -/
def trailerMark : Nat := 0x06054B50

/-- The mark of the locator of a wide trailer. -/
def locatorMark : Nat := 0x07064B50

/-- The mark of a wide trailer. -/
def wideTrailerMark : Nat := 0x06064B50

/-- The length of the trailer without its comment. -/
def trailerLength : Nat := 22

/-- The length of a locator. -/
def locatorLength : Nat := 20

/-- How far before the trailer a wide one has to begin at least. -/
def wideTrailerDistance : Nat := 60

/-- Where the directory of an archive lies. -/
structure DirectoryPlace where
  start : Nat
  entryCount : Nat
  /-- The number of octets before the archive. -/
  shift : Nat
  deriving DecidableEq, Repr

/-- The trailer of an archive. -/
structure Trailer where
  /-- Where the trailer begins. -/
  start : Nat
  disk : Nat
  directoryDisk : Nat
  entryCount : Nat
  totalCount : Nat
  directorySize : Nat
  directoryOffset : Nat
  commentLength : Nat
  deriving DecidableEq, Repr

/-- The locator of a wide trailer. -/
structure Locator where
  directoryDisk : Nat
  /-- Where the wide trailer begins, counted from the beginning of the archive. -/
  offset : Nat
  deriving DecidableEq, Repr

namespace Trailer

/-- The trailer that begins at an offset. -/
def at? (octets : ByteArray) (start : Nat) : Option Trailer := do
  let disk ← numberAt? octets (start + 4) 2
  let directoryDisk ← numberAt? octets (start + 6) 2
  let entryCount ← numberAt? octets (start + 8) 2
  let totalCount ← numberAt? octets (start + 10) 2
  let directorySize ← numberAt? octets (start + 12) 4
  let directoryOffset ← numberAt? octets (start + 16) 4
  let commentLength ← numberAt? octets (start + 20) 2
  guard (start + trailerLength + commentLength ≤ octets.size)
  return ⟨start, disk, directoryDisk, entryCount, totalCount, directorySize, directoryOffset,
    commentLength⟩

/-- The trailer at the last of a number of offsets that has its mark; the greatest offset is given.
It must be whole: an earlier one does not count instead. -/
def search? (octets : ByteArray) (start : Nat) : Nat → Option Trailer
  | 0 => none
  | count + 1 =>
      if numberAt? octets start 4 = some trailerMark then at? octets start
      else if start = 0 then none
      else search? octets (start - 1) count

/-- The trailer of an archive. A comment has at most 65535 octets, so no earlier offset need be
looked at. -/
def find? (octets : ByteArray) : Option Trailer :=
  if octets.size < trailerLength then none
  else search? octets (octets.size - trailerLength) 65536

/-- Whether a field of the trailer is at its greatest value, where the true value stands
elsewhere. -/
def isTooSmall (trailer : Trailer) : Bool :=
  trailer.disk == 0xFFFF || trailer.directoryDisk == 0xFFFF || trailer.entryCount == 0xFFFF ||
    trailer.totalCount == 0xFFFF || trailer.directorySize == 0xFFFFFFFF ||
    trailer.directoryOffset == 0xFFFFFFFF

/-- The place of the directory after the trailer alone. The directory ends where the trailer
begins. -/
def narrowPlace? (trailer : Trailer) : Option DirectoryPlace := do
  guard (trailer.directorySize + trailer.directoryOffset ≤ trailer.start)
  let shift := trailer.start - trailer.directorySize - trailer.directoryOffset
  return ⟨trailer.directoryOffset + shift, trailer.entryCount, shift⟩

/-- The locator of a wide trailer, if there is one as far from the end as the trailer and its
comment are long. -/
def locator? (trailer : Trailer) (octets : ByteArray) : Option Locator := do
  let behind := trailer.commentLength + trailerLength + locatorLength
  guard (behind ≤ octets.size)
  let start := octets.size - behind
  let mark ← numberAt? octets start 4
  guard (mark = locatorMark)
  return ⟨← numberAt? octets (start + 4) 4, ← numberAt? octets (start + 8) 8⟩

/-- The first of a number of offsets that has the mark of a wide trailer. -/
def searchWide? (octets : ByteArray) (start : Nat) : Nat → Option Nat
  | 0 => none
  | count + 1 =>
      if numberAt? octets start 4 = some wideTrailerMark then some start
      else searchWide? octets (start + 1) count

/-- The place of the directory after the wide trailer that a locator leads to. It may begin later
than it should, by what stands before the archive. -/
def widePlace? (trailer : Trailer) (octets : ByteArray) (locator : Locator) :
    Option DirectoryPlace := do
  guard (trailer.isTooSmall ∨ trailer.disk = locator.directoryDisk)
  guard (wideTrailerDistance ≤ trailer.start)
  let start ← searchWide? octets locator.offset
    (trailer.start - wideTrailerDistance + 1 - locator.offset)
  let disk ← numberAt? octets (start + 16) 4
  let directoryDisk ← numberAt? octets (start + 20) 4
  guard (disk = directoryDisk)
  let entryCount ← numberAt? octets (start + 32) 8
  let directoryOffset ← numberAt? octets (start + 48) 8
  let shift := start - locator.offset
  return ⟨directoryOffset + shift, entryCount, shift⟩

/-- The place of the directory. -/
def place? (trailer : Trailer) (octets : ByteArray) : Option DirectoryPlace := do
  guard (trailer.isTooSmall ∨ trailer.disk = trailer.directoryDisk)
  match trailer.locator? octets with
  | some locator => trailer.widePlace? octets locator
  | none => trailer.narrowPlace?

end Trailer

end Notekeeper.Package
