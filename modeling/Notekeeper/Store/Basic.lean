import Notekeeper.Fault
import Notekeeper.Note.Basic
import Std.Data.ExtTreeMap

/-!
# Stores

A store holds notes by their ids and numbers their versions with a Lamport clock: a note that is
added or touched gets a version above every version in the store (`Store.add`, `Store.touch`). It
remembers which notes were touched since it was last written as a whole, and whether something else
has changed since, on which depends how it is saved.

Versions and clocks are whole numbers. In a file they are words of 64 bits, and nothing is read that
is none; how many versions can be given before one is too high for a word is told by `Store.HasRoom`.
-/

namespace Notekeeper

/-- A collection of notes. -/
structure Store where
  /-- The path of the file of the store, if it has one. -/
  path? : Option String := none
  notes : Std.ExtTreeMap String Note := ∅
  /-- The Lamport clock. -/
  clock : Int := 1
  /-- The clock at the last export, -1 before any. -/
  exportClock : Int := -1
  /-- The clock after the last import, -1 before any. -/
  importClock : Int := -1
  /-- The ids of the notes touched since the store was last written as a whole. -/
  touched : TextSet := ∅
  /-- Whether something changed that the touched notes do not tell. -/
  fullSaveDue : Bool := false
  deriving DecidableEq

namespace Store

/-- The note with an id. -/
def get? (store : Store) (id : String) : Option Note :=
  store.notes[id]?

/-- Whether the store holds a note with an id. -/
def contains (store : Store) (id : String) : Bool :=
  store.notes.contains id

/-- The ids in order. -/
def ids (store : Store) : List String :=
  store.notes.keys

/-- The notes in the order of their ids. -/
def all (store : Store) : List Note :=
  store.notes.values

/-- The number of notes. -/
def size (store : Store) : Nat :=
  store.notes.size

/-- The store with its next save a save of everything. -/
def requireFullSave (store : Store) : Store :=
  { store with touched := ∅, fullSaveDue := true }

/-- A note is added under a new version, with defaults for an empty name and folder. -/
def add (store : Store) (note : Note) : Store :=
  let version := 1 + max store.clock note.version
  { store with
    clock := version
    notes := store.notes.insert note.id { note.withDefaults with version := version }
    touched := ∅
    fullSaveDue := true }

/-- A note that already has a version is put in as it is, with defaults for an empty name and
folder. -/
def restore (store : Store) (note : Note) : Store :=
  { store with
    clock := max store.clock note.version
    notes := store.notes.insert note.id note.withDefaults
    touched := ∅ }

/-- A note is given a new version and remembered as touched. -/
def touch (store : Store) (id : String) : Except Fault Store :=
  match store.get? id with
  | none => .error (.notFound id)
  | some note =>
      let version := 1 + max store.clock note.version
      .ok
        { store with
          clock := version
          notes := store.notes.insert id { note with version := version }
          touched := store.touched.insert id }

/-- A note is taken out; the clock advances by one. -/
def remove (store : Store) (id : String) : Except Fault (Note × Store) :=
  match store.get? id with
  | none => .error (.notFound id)
  | some note =>
      .ok
        (note,
          { store with
            clock := store.clock + 1
            notes := store.notes.erase id
            touched := ∅
            fullSaveDue := true })

/-- The clock is raised to another clock. -/
def raiseClock (store : Store) (clock : Int) : Store :=
  { store with clock := max store.clock clock }

/-- All notes are dropped; the clocks stay. -/
def clear (store : Store) : Store :=
  { store with notes := ∅, touched := ∅, fullSaveDue := true }

/-- The note with an id is edited, if there is one, without a new version. -/
def edit (store : Store) (id : String) (change : Note → Note) : Store :=
  match store.get? id with
  | none => store
  | some note => { store with notes := store.notes.insert id (change note) }

/-- All notes are edited, without new versions. -/
def editAll (store : Store) (change : Note → Note) : Store :=
  { store with notes := store.notes.map fun _ note => change note }

/-- The store with every empty name and folder replaced by its default. -/
def withDefaults (store : Store) : Store :=
  store.editAll Note.withDefaults

/-- Notes by version, highest first; notes of one version stay in their order. -/
def newestFirst (notes : List Note) : List Note :=
  notes.mergeSort fun first second => decide (second.version ≤ first.version)

/-- Ids with the versions of their notes; the first unknown id is a fault. -/
def versioned (store : Store) : List String → Except Fault (List (String × Int))
  | [] => .ok []
  | id :: rest =>
      match store.get? id with
      | none => .error (.notFound id)
      | some note => (store.versioned rest).map ((id, note.version) :: ·)

/-- Ids by the versions of their notes, highest first; ids of one version stay in their order. The
first unknown id is a fault. -/
def sortIds (store : Store) (ids : List String) : Except Fault (List String) :=
  (store.versioned ids).map fun entries =>
    (entries.mergeSort fun first second => decide (second.2 ≤ first.2)).map Prod.fst

/-- The ids of all notes by version, highest first, and by id within a version. -/
def sortedIds (store : Store) : List String :=
  (newestFirst store.all).map Note.id

/-- All notes by version, highest first. -/
def sortedNotes (store : Store) : List Note :=
  store.sortedIds.filterMap store.get?

end Store

end Notekeeper
