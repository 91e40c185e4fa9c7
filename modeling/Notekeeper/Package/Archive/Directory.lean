import Notekeeper.Package.Archive.Octets

/-!
# The directory of an archive

The directory gives the name, the checksum, the method and the place of each file. What the fields
of an entry cannot hold stands in its extra fields: sizes and offsets beyond four gigabytes, and the
kind of a strong encryption. Extra fields that end too early are passed over from there on; an
encryption that is not known makes the whole archive refused.
-/

namespace Notekeeper.Package

/-- The mark of an entry of the directory. -/
def directoryMark : Nat := 0x02014B50

/-- What the directory says about a file. -/
structure DirectoryEntry where
  name : List UInt8
  isEncrypted : Bool
  method : Nat
  checksum : Nat
  compressedSize : Nat
  size : Nat
  /-- Where the file begins, counted from the beginning of the archive. -/
  offset : Nat
  /-- Whether an extra field tells of a strong encryption. -/
  isSealed : Bool
  deriving DecidableEq, Repr

namespace DirectoryEntry

/-! ### Extra fields -/

/-- The greatest number in four octets. It stands for one that an extra field gives. -/
def elsewhere : Nat := 0xFFFFFFFF

/-- The kind of the extra field with wide numbers. -/
def wideKind : Nat := 0x0001

/-- The kind of the extra field of a strong encryption. -/
def sealKind : Nat := 0x9901

/-- The length of the extra field of a strong encryption. -/
def sealLength : Nat := 7

/-- The method of files whose true method stands in the extra field of their encryption. -/
def sealedMethod : Nat := 99

/-- What reading of extra fields leads to. -/
inductive Reading where
  /-- The entry so far, and the octets to go on with. -/
  | more (entry : DirectoryEntry) (rest : List UInt8)
  /-- The octets ended too early; the entry stands as it is. -/
  | cut (entry : DirectoryEntry)
  /-- The archive is refused. -/
  | refused

/-- A wide number is read, if the number that an entry has in its place stands for one. -/
def Reading.wide (number : DirectoryEntry → Nat) (put : Nat → DirectoryEntry → DirectoryEntry) :
    Reading → Reading
  | .more entry octets =>
      if number entry = elsewhere then
        match splitNumber? 8 octets with
        | some (wide, rest) => .more (put wide entry) rest
        | none => .cut entry
      else .more entry octets
  | other => other

/-- The wide numbers of an extra field: both sizes and the offset, those of them that the entry
lacks. What remains of the length of the field is passed over. -/
def readWide (entry : DirectoryEntry) (length : Nat) (octets : List UInt8) : Reading :=
  let start := Reading.more entry octets
  let sized := start.wide size fun wide entry => { entry with size := wide }
  let compressed :=
    sized.wide compressedSize fun wide entry => { entry with compressedSize := wide }
  match compressed.wide offset fun wide entry => { entry with offset := wide } with
  | .more entry rest => .more entry (rest.drop (length - (octets.length - rest.length)))
  | other => other

/-- The extra field of a strong encryption: a version, a maker, a strength and the true method. As
many octets again as the field has are passed over after it. -/
def readSeal (entry : DirectoryEntry) (length : Nat) (octets : List UInt8) : Reading :=
  if length ≠ sealLength then .refused
  else if octets.length < sealLength then .cut entry
  else
    let version := littleEndian (octets.take 2)
    let maker := littleEndian ((octets.drop 2).take 2)
    let strength := littleEndian ((octets.drop 4).take 1)
    let method := littleEndian ((octets.drop 5).take 2)
    if maker = 0x4541 ∧ 1 ≤ version ∧ version ≤ 2 ∧ 1 ≤ strength ∧ strength ≤ 3 then
      .more { entry with method := method, isSealed := true } (octets.drop (2 * sealLength))
    else .refused

/-- One extra field: its kind, its length and what it holds. -/
def readField (entry : DirectoryEntry) (octets : List UInt8) : Reading :=
  match splitNumber? 2 octets with
  | some (kind, octets) =>
      match splitNumber? 2 octets with
      | some (length, octets) =>
          if kind = wideKind then entry.readWide length octets
          else if kind = sealKind then entry.readSeal length octets
          else .more entry (octets.drop length)
      | none => .cut entry
  | none => .cut entry

/-- An entry with its extra fields, `none` if the archive is refused. A field takes octets, so the
number of octets bounds that of the fields. -/
def withExtra? (entry : DirectoryEntry) : Nat → List UInt8 → Option DirectoryEntry
  | _, [] => some entry
  | 0, _ => some entry
  | left + 1, octets =>
      match entry.readField octets with
      | .more entry rest => entry.withExtra? left rest
      | .cut entry => some entry
      | .refused => none

/-! ### Entries -/

/-- The directory entry at an offset, and where it ends. -/
def at? (octets : ByteArray) (start : Nat) : Option (DirectoryEntry × Nat) := do
  let mark ← numberAt? octets start 4
  guard (mark = directoryMark)
  let flags ← numberAt? octets (start + 8) 2
  let method ← numberAt? octets (start + 10) 2
  let checksum ← numberAt? octets (start + 16) 4
  let compressedSize ← numberAt? octets (start + 20) 4
  let size ← numberAt? octets (start + 24) 4
  let nameLength ← numberAt? octets (start + 28) 2
  let extraLength ← numberAt? octets (start + 30) 2
  let commentLength ← numberAt? octets (start + 32) 2
  let offset ← numberAt? octets (start + 42) 4
  let name ← octetsAt? octets (start + 46) nameLength
  let extra ← octetsAt? octets (start + 46 + nameLength) extraLength
  let finish := start + 46 + nameLength + extraLength + commentLength
  guard (finish ≤ octets.size)
  let plain : DirectoryEntry :=
    ⟨name, flags % 2 == 1, method, checksum, compressedSize, size, offset, false⟩
  let entry ← plain.withExtra? extra.length extra
  guard (entry.method ≠ sealedMethod ∨ entry.isSealed)
  return (entry, finish)

/-- A number of directory entries from an offset on. -/
def list? (octets : ByteArray) : Nat → Nat → Option (List DirectoryEntry)
  | 0, _ => some []
  | count + 1, start => do
      let (entry, finish) ← at? octets start
      let entries ← list? octets count finish
      return entry :: entries

end DirectoryEntry

end Notekeeper.Package
