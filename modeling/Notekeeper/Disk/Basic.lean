import Notekeeper.Attempt
import Notekeeper.Disk.Path
import Notekeeper.Text.Utf8
import Std.Data.ExtTreeMap

/-!
# Disks

A disk holds folders and files by their place. A path is followed name by name through folders that
exist (`find?`). Reading gives the octets of a file; writing replaces them whole, in a folder that
exists. A write may also be refused: the disk says of each write, by its number, whether it takes
it, and a refused write changes no file. With the refusals left open, statements about a disk cover
every way in which writes can fail.
-/

namespace Notekeeper

/-- What stands at a place of a disk. -/
inductive DiskEntry where
  | folder
  | file (octets : ByteArray)

instance : DecidableEq DiskEntry
  | .folder, .folder => isTrue rfl
  | .folder, .file _ => isFalse nofun
  | .file _, .folder => isFalse nofun
  | .file octets, .file others =>
      match ByteArray.instDecidableEq octets others with
      | isTrue same => isTrue (congrArg DiskEntry.file same)
      | isFalse differ => isFalse fun same => differ (DiskEntry.file.inj same)

/-- A disk. -/
structure Disk where
  /-- The folders and files. The root is a folder without an entry. -/
  entries : Std.ExtTreeMap Place DiskEntry
  /-- The number of writes asked for so far. -/
  writes : Nat
  /-- Whether the write of a number is refused. -/
  refuses : Nat → Bool
  /-- The folder in which paths begin that do not begin at the root. -/
  here : Place := []

namespace Disk

/-- A disk with nothing on it that takes every write. -/
def empty : Disk := ⟨∅, 0, fun _ => false, []⟩

/-! ### Places -/

/-- What stands at a place. -/
def at? (disk : Disk) (place : Place) : Option DiskEntry :=
  if place = [] then some .folder else disk.entries[place]?

/-- Whether a folder stands at a place. -/
def isFolderAt (disk : Disk) (place : Place) : Bool :=
  disk.at? place == some .folder

/-- The disk with a file at a place. -/
def putFile (disk : Disk) (place : Place) (octets : ByteArray) : Disk :=
  { disk with entries := disk.entries.insert place (.file octets) }

/-- The disk with a folder at a place. -/
def putFolder (disk : Disk) (place : Place) : Disk :=
  { disk with entries := disk.entries.insert place .folder }

/-! ### Following paths -/

/-- The place that names lead to from another. Each is met in a folder that exists; the place that
the last one leads to may be free. -/
def follow? (disk : Disk) (place : Place) : List String → Option Place
  | [] => some place
  | name :: rest =>
      if !disk.isFolderAt place then none
      else if Path.isIdle name then disk.follow? place rest
      else if name = ".." then disk.follow? place.dropLast rest
      else if Path.longestName < name.utf8ByteSize then none
      else disk.follow? (place ++ [name]) rest

/-- The place at which a path begins. -/
def startOf (disk : Disk) (path : String) : Place :=
  if Path.isAbsolute path then [] else disk.here

/-- The place that a path leads to. -/
def find? (disk : Disk) (path : String) : Option Place :=
  if Path.isValid path then disk.follow? (disk.startOf path) (Path.names path) else none

/-- What stands at a path. -/
def atPath? (disk : Disk) (path : String) : Option DiskEntry :=
  (disk.find? path).bind disk.at?

/-- Whether anything stands at a path. -/
def holds (disk : Disk) (path : String) : Bool :=
  (disk.atPath? path).isSome

/-- The octets of the file at a path. -/
def octets? (disk : Disk) (path : String) : Option ByteArray :=
  match disk.atPath? path with
  | some (.file octets) => some octets
  | _ => none

/-- Whether a file stands at a path. -/
def isFile (disk : Disk) (path : String) : Bool :=
  (disk.octets? path).isSome

/-- Whether a folder stands at a path. -/
def isFolder (disk : Disk) (path : String) : Bool :=
  disk.atPath? path == some .folder

/-! ### Reading and writing -/

/-- The octets of the file at a path are read. -/
def read (path : String) : Attempt Disk ByteArray := fun disk =>
  match disk.octets? path with
  | some octets => .ok octets disk
  | none => .error .disk disk

/-- The text of the file at a path is read. -/
def readText (path : String) : Attempt Disk String := fun disk =>
  match (disk.octets? path).bind Text.decode? with
  | some text => .ok text disk
  | none => .error .disk disk

/-- The place of the file that a path may name, free or taken by a file. -/
def filePlace? (disk : Disk) (path : String) : Option Place :=
  (disk.find? path).filter fun place => !disk.isFolderAt place

/-- The file at a path is written whole. -/
def write (path : String) (octets : ByteArray) : Attempt Disk Unit := fun disk =>
  let counted := { disk with writes := disk.writes + 1 }
  match disk.filePlace? path with
  | some place =>
      if disk.refuses disk.writes then .error .disk counted
      else .ok () (counted.putFile place octets)
  | none => .error .disk counted

/-- The file at a path is written whole with a text. -/
def writeText (path text : String) : Attempt Disk Unit :=
  write path (Text.encode text)

/-! ### Folders -/

/-- Whether names end on a dot that stays where they lead. Such a dot asks for a folder that is
there already. -/
def endInDot (names : List String) : Bool :=
  names.contains "." && names.all Path.isIdle

/-- The folders are made that names lead through from a place on and that are missing, from the top
down, as far as nothing is in the way. -/
def makeFoldersBelow (place : Place) : List String → Attempt Disk Unit
  | [] => pure ()
  | name :: rest => do
      let disk ← get
      let inner := place ++ [name]
      if Path.isIdle name then makeFoldersBelow place rest
      else if name = ".." then makeFoldersBelow place.dropLast rest
      else if disk.isFolderAt inner then makeFoldersBelow inner rest
      else if (disk.at? inner).isSome || Path.longestName < name.utf8ByteSize || endInDot rest then
        throw .disk
      else
        set (disk.putFolder inner)
        makeFoldersBelow inner rest

/-- The folder at a path is made, with all folders above it. The empty path asks for none. -/
def makeFolders (path : String) : Attempt Disk Unit := do
  if path != "" then
    if Path.isValid path then
      makeFoldersBelow ((← get).startOf path) (Path.names path)
    else throw .disk

/-- The disk without what stands at a path and below it. -/
def remove (disk : Disk) (path : String) : Disk :=
  match disk.find? path with
  | some top => { disk with entries := disk.entries.filter fun place _ => !top.isPrefixOf place }
  | none => disk

/-- The names and entries directly in the folder at a path, in order. -/
def listing (disk : Disk) (path : String) : List (String × DiskEntry) :=
  match disk.find? path with
  | some top =>
      disk.entries.toList.filterMap fun (place, entry) =>
        if place.dropLast = top then place.getLast?.map fun name => (name, entry) else none
  | none => []

/-- The places below the folder at a path, seen from it, in order. -/
def placesBelow (disk : Disk) (path : String) : List Place :=
  match disk.find? path with
  | some top =>
      (disk.entries.keys.filter fun place => top.isPrefixOf place && place != top).map
        (·.drop top.length)
  | none => []

end Disk

end Notekeeper
