import Notekeeper.Package.Archive.Directory
import Notekeeper.Package.Archive.Trailer
import Notekeeper.Package.BlockSort
import Notekeeper.Package.Checksum
import Notekeeper.Package.Framed
import Notekeeper.Package.Inflate

/-!
# Archives

An exchange package is a zip archive with one file in it. `Archive.pack` makes such an archive;
`Archive.extract?` finds a file by its name in any archive and takes it out. Of several files of one
name the last one counts. Files may be stored, deflated, block-sorted or framed; encrypted files are
refused.
-/

namespace Notekeeper.Package

/-- The mark before a file. -/
def fileMark : Nat := 0x04034B50

/-- What could be taken out of an archive. -/
structure Extraction where
  /-- The octets that were decoded. -/
  content : ByteArray
  /-- Whether they are complete and have the checksum that the directory gives. -/
  isIntact : Bool

/-- The content of a file from what its data decode to. -/
def decoded (entry : DirectoryEntry) (decoded : Decoded) : Extraction :=
  ⟨decoded.content,
    decoded.isComplete && (checksum decoded.content).toNat == entry.checksum⟩

/-- The content of a file whose data are given, with the method of its directory entry. -/
def extraction? (entry : DirectoryEntry) (data : ByteArray) : Option Extraction :=
  if entry.method = 0 then some ⟨data, (checksum data).toNat = entry.checksum⟩
  else if entry.method = 8 then some (decoded entry (inflate data.toList))
  else if entry.method = 12 then some (decoded entry (unsort data.toList))
  else if entry.method = 93 then some (decoded entry (unframe data.toList))
  else none

namespace Archive

/-- The file of a name in an archive. -/
def extract? (name : String) (octets : ByteArray) : Option Extraction := do
  let trailer ← Trailer.find? octets
  let place ← trailer.place? octets
  let entries ← DirectoryEntry.list? octets place.entryCount place.start
  let entry ← entries.reverse.find? fun entry => entry.name == name.toUTF8.toList
  guard (!entry.isEncrypted ∧ !entry.isSealed)
  let start := entry.offset + place.shift
  let mark ← numberAt? octets start 4
  guard (mark = fileMark)
  let nameLength ← numberAt? octets (start + 26) 2
  let extraLength ← numberAt? octets (start + 28) 2
  let begin := start + 30 + nameLength + extraLength
  let finish := min (begin + entry.compressedSize) octets.size
  extraction? entry (octets.extract begin finish)

/-- The fields that stand both before a file and in its directory entry: version, flags, method,
time, date, checksum, both sizes and the length of the name. -/
def sharedFields (name : List UInt8) (content : ByteArray) : List UInt8 :=
  toLittleEndian 2 10 ++ toLittleEndian 2 0 ++ toLittleEndian 2 0 ++ toLittleEndian 2 0 ++
    toLittleEndian 2 0x21 ++ toLittleEndian 4 (checksum content).toNat ++
    toLittleEndian 4 content.size ++ toLittleEndian 4 content.size ++ toLittleEndian 2 name.length

/-- An archive with one file. The file is stored as it is and its time is fixed, so that what is packed
tells nothing but the name and the content. A packer may deflate the file and note the time instead;
the octets are others then, and what `extract?` finds in them is the same. -/
def pack (name : String) (content : ByteArray) : ByteArray :=
  let name := name.toUTF8.toList
  let file :=
    toLittleEndian 4 fileMark ++ sharedFields name content ++ toLittleEndian 2 0 ++ name ++
      content.toList
  let entry :=
    toLittleEndian 4 directoryMark ++ toLittleEndian 2 10 ++ sharedFields name content ++
      toLittleEndian 2 0 ++ toLittleEndian 2 0 ++ toLittleEndian 2 0 ++ toLittleEndian 2 0 ++
      toLittleEndian 4 0 ++ toLittleEndian 4 0 ++ name
  let trailer :=
    toLittleEndian 4 trailerMark ++ toLittleEndian 2 0 ++ toLittleEndian 2 0 ++
      toLittleEndian 2 1 ++ toLittleEndian 2 1 ++ toLittleEndian 4 entry.length ++
      toLittleEndian 4 file.length ++ toLittleEndian 2 0
  ⟨(file ++ entry ++ trailer).toArray⟩

end Archive

end Notekeeper.Package
