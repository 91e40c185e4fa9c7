import Notekeeper.Disk.Basic
import Notekeeper.Store.Text

/-!
# Saving and loading a store

A store lives in two files: a main file with all notes, and beside it a diff file with notes changed
since the main file was written. `Store.save` writes the diff file alone when fewer than
`diffLimit` notes were touched and nothing else changed, and otherwise the main file, after which it
empties the diff file. `Store.load` reads the main file and then the diff file, whose notes replace
those of the main file.
-/

namespace Notekeeper

/-- A store with the disk it is saved to and the supply for the notes it reads. -/
structure Shelf where
  store : Store
  disk : Disk
  supply : Supply

namespace Shelf

/-- An attempt on the disk of a shelf. -/
def onDisk {result : Type} (attempt : Attempt Disk result) : Attempt Shelf result :=
  attempt.within Shelf.disk fun disk shelf => { shelf with disk := disk }

/-- The store of a shelf is changed. -/
def change (change : Store → Store) : Attempt Shelf Unit :=
  modify fun shelf => { shelf with store := change shelf.store }

/-- The store of a shelf. -/
def getStore : Attempt Shelf Store := do
  return (← get).store

end Shelf

/-- What a save wrote. -/
inductive SaveKind where
  /-- The touched notes, to the diff file. -/
  | diff
  /-- All notes, to the main file; the diff file was emptied. -/
  | full
  /-- All notes, to another file. -/
  | alternate
  deriving DecidableEq, Repr

namespace Store

/-- The number of touched notes from which on everything is saved. -/
def diffLimit : Nat := 5

/-- The path of the diff file of a main file. -/
def diffPath (path : String) : String :=
  path ++ ".diffnew"

/-- Whether a save need write only the touched notes. -/
def savesDiff (store : Store) : Bool :=
  !store.fullSaveDue && !store.touched.isEmpty && store.touched.size < diffLimit

/-- The store as it is remembered once it has been written as a whole. -/
def settled (store : Store) : Store :=
  { store with touched := ∅, fullSaveDue := false }

/-- The store is written to its own files. -/
def save : Attempt Shelf SaveKind := do
  Shelf.change Store.withDefaults
  let store ← Shelf.getStore
  match store.path? with
  | none => throw .noPath
  | some path =>
      if store.savesDiff then
        Shelf.onDisk (Disk.writeText (diffPath path) store.touchedText)
        return .diff
      else
        Shelf.change Store.settled
        Shelf.onDisk (Disk.writeText path store.text)
        Shelf.onDisk (Disk.writeText (diffPath path) "")
        return .full

/-- All notes of the store are written to another file. -/
def saveTo (path : String) : Attempt Shelf SaveKind := do
  Shelf.change Store.withDefaults
  let store ← Shelf.getStore
  Shelf.onDisk (Disk.writeText path store.text)
  return .alternate

/-- What the file at a path holds is put into the store. The ids of the notes read are the
result. -/
def readFile (path : String) : Attempt Shelf (List String) := do
  let text ← Shelf.onDisk (Disk.readText path)
  modifyGet fun shelf =>
    let (store, supply, ids) := shelf.store.read shelf.supply text
    (ids, { shelf with store := store, supply := supply })

/-- The main file at a path is read; the next save writes everything. -/
def loadFrom (path : String) : Attempt Shelf Unit := do
  Shelf.change Store.requireFullSave
  let _ ← readFile path

/-- The main file is read, then the diff file if there is one. Notes of the diff file count as
touched, so that further small changes go on being written to the diff file. -/
def load : Attempt Shelf Unit := do
  match (← Shelf.getStore).path? with
  | none => throw .noPath
  | some path =>
      loadFrom path
      if (← get).disk.isFile (diffPath path) then
        let ids ← readFile (diffPath path)
        Shelf.change fun store =>
          { store with touched := store.touched.insertMany ids, fullSaveDue := false }

end Store

end Notekeeper
