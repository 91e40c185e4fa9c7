import Notekeeper.Notebook.Basic
import Notekeeper.Package.Archive
import Notekeeper.Sync.Merge

/-!
# Exchanging snapshots

Export stamps every note with the clock of the store, saves, and packs the store as a snapshot into
the exchange package. Import takes the snapshot out of the package and merges it, or lets it replace
the primary store. Both make backups first; an import that merges makes others after it. A stale
snapshot is refused before any note is changed.
-/

namespace Notekeeper

/-- What an import does with the notes that are there. -/
inductive ImportMode where
  /-- The snapshot is merged note by note. -/
  | merge
  /-- The snapshot replaces the primary store. -/
  | replace
  deriving DecidableEq, Repr

namespace Disk

/-- The snapshot at a path is packed into the package at another, whose folder is made if it is
missing. -/
def packSnapshot (snapshot package folder : String) : Attempt Disk Unit := do
  let content ← read snapshot
  makeFolders folder
  write package (Package.Archive.pack Layout.snapshotName content)

/-- The snapshot in the package at a path is written to another path. A snapshot that is damaged is
written as far as it can be read. -/
def extractSnapshot (package snapshot : String) : Attempt Disk Unit := do
  match (← get).atPath? package with
  | some (.file octets) =>
      match Package.Archive.extract? Layout.snapshotName octets with
      | some extraction =>
          write snapshot extraction.content
          if !extraction.isIntact then throw .disk
      | none => throw .package
  | some .folder => throw .package
  | none => throw .disk

end Disk

namespace Store

/-- The store with every note stamped as exported at the present clock. -/
def stampExport (store : Store) : Store :=
  ({ store with exportClock := store.clock }.editAll fun note =>
    { note with exportVersion := store.clock }).requireFullSave

/-- The store after a snapshot with an export clock has been accepted. -/
def acceptImport (store : Store) (exportClock : Int) : Store :=
  let raised := store.raiseClock exportClock
  { raised with importClock := raised.clock }

end Store

namespace Notebook

/-- The store that a file holds. -/
def readSnapshot (path : String) : Attempt Notebook Store :=
  Attempt.within
    (fun notebook => Shelf.mk {} notebook.disk notebook.supply)
    (fun shelf notebook => { notebook with disk := shelf.disk, supply := shelf.supply })
    (do
      Store.loadFrom path
      Shelf.getStore)

/-- The notes are exported. -/
def exportPackage : Attempt Notebook Unit := do
  backUpBoth none
  changeNotes Store.stampExport
  save
  let layout := (← get).layout
  let _ ← onNotes (Store.saveTo layout.snapshotPath)
  onDisk (Disk.packSnapshot layout.snapshotPath layout.packagePath layout.exchange)

/-- The snapshot replaces the primary store. -/
def replaceBy (snapshot : String) (remotes : Store) : Attempt Notebook Unit := do
  changeNotes Store.clear
  onNotes (Store.loadFrom snapshot)
  changeNotes (·.acceptImport remotes.exportClock)

/-- The snapshot is merged into both stores. -/
def mergeIn (remotes : Store) : Attempt Notebook Sync.Report := do
  Attempt.ofExcept (Sync.checkImport (← get).notes remotes)
  changeNotes (·.acceptImport remotes.exportClock)
  modifyGet fun notebook =>
    let merging := Sync.merge notebook.notes notebook.trash remotes notebook.supply
    (merging.report,
      { notebook with
        notes := merging.locals.requireFullSave
        trash := merging.trash.requireFullSave
        supply := merging.supply })

/-- The exchange package is imported into the stores, which are left to be saved. -/
def takeImport (mode : ImportMode) : Attempt Notebook (Option Sync.Report) := do
  save
  backUpBoth (some "imp0")
  let layout := (← get).layout
  onDisk (Disk.extractSnapshot layout.packagePath layout.snapshotPath)
  let remotes ← readSnapshot layout.snapshotPath
  match mode with
  | .replace =>
      replaceBy layout.snapshotPath remotes
      return none
  | .merge =>
      let report ← mergeIn remotes
      backUpBoth (some "imp1")
      return some report

/-- The exchange package is imported. A merge reports what it did. -/
def importPackage (mode : ImportMode) : Attempt Notebook (Option Sync.Report) := do
  let report ← takeImport mode
  save
  return report

end Notebook

end Notekeeper
