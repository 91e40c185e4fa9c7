import Notekeeper.Note.Input
import Notekeeper.Notebook.Layout
import Notekeeper.Store.Saving
import Notekeeper.VirtualFolder

/-!
# Notebooks

A notebook is a primary store and a trash, the layout that says where they live, and the disk and
the supply they are worked on with. Every operation that changes a store saves it before it ends. An
operation on several notes first looks whether all of them are there.
-/

namespace Notekeeper

/-- A notebook at work. -/
structure Notebook where
  layout : Layout
  notes : Store
  trash : Store
  disk : Disk
  supply : Supply

/-- One of the two stores of a notebook. -/
inductive StoreKind where
  | notes
  | trash
  deriving DecidableEq, Repr

/-- The word for one of the two stores. -/
def StoreKind.word : StoreKind → String
  | notes => "notes"
  | trash => "trash"

/-- The store that a word stands for. -/
def StoreKind.ofWord (word : String) : Except Fault StoreKind :=
  if word = "notes" then .ok .notes
  else if word = "trash" then .ok .trash
  else .error (.invalidInput ("Unknown store: " ++ word))

namespace Notebook

/-- One of the two stores. -/
def store (notebook : Notebook) : StoreKind → Store
  | .notes => notebook.notes
  | .trash => notebook.trash

/-- An attempt on the primary store. -/
def onNotes {result : Type} (attempt : Attempt Shelf result) : Attempt Notebook result :=
  attempt.within (fun notebook => ⟨notebook.notes, notebook.disk, notebook.supply⟩)
    fun shelf notebook =>
      { notebook with notes := shelf.store, disk := shelf.disk, supply := shelf.supply }

/-- An attempt on the trash. -/
def onTrash {result : Type} (attempt : Attempt Shelf result) : Attempt Notebook result :=
  attempt.within (fun notebook => ⟨notebook.trash, notebook.disk, notebook.supply⟩)
    fun shelf notebook =>
      { notebook with trash := shelf.store, disk := shelf.disk, supply := shelf.supply }

/-- An attempt on the disk. -/
def onDisk {result : Type} (attempt : Attempt Disk result) : Attempt Notebook result :=
  attempt.within Notebook.disk fun disk notebook => { notebook with disk := disk }

/-- The primary store is changed. -/
def changeNotes (change : Store → Store) : Attempt Notebook Unit :=
  modify fun notebook => { notebook with notes := change notebook.notes }

/-- The trash is changed. -/
def changeTrash (change : Store → Store) : Attempt Notebook Unit :=
  modify fun notebook => { notebook with trash := change notebook.trash }

/-- The clock is read. -/
def look : Attempt Notebook Moment :=
  modifyGet fun notebook =>
    (notebook.supply.now, { notebook with supply := notebook.supply.afterReading })

/-- Both stores are saved. -/
def save : Attempt Notebook Unit := do
  let _ ← onNotes Store.save
  let _ ← onTrash Store.save

/-- A store is written to a backup file named for the moment. -/
def backUp (kind : StoreKind) (suffix? : Option String) (file : String) :
    Attempt Notebook Unit := do
  let moment ← look
  let path := (← get).layout.backupPath moment suffix? file
  let _ ←
    match kind with
    | .notes => onNotes (Store.saveTo path)
    | .trash => onTrash (Store.saveTo path)

/-- Both stores are written to backup files. -/
def backUpBoth (suffix? : Option String) : Attempt Notebook Unit := do
  onDisk (Disk.makeFolders (← get).layout.backups)
  backUp .notes suffix? Layout.notesName
  backUp .trash suffix? Layout.trashName

/-- A notebook whose stores have not been read yet. -/
def unread (layout : Layout) (disk : Disk) (supply : Supply) : Notebook where
  layout := layout
  notes := { path? := some layout.notesPath }
  trash := { path? := some layout.trashPath }
  disk := disk
  supply := supply

/-- The folders are made and the stores are read; a store without a file is empty. -/
def openStores : Attempt Notebook Unit := do
  let layout := (← get).layout
  onDisk (Disk.makeFolders layout.home)
  onDisk (Disk.makeFolders layout.backups)
  onDisk (Disk.makeFolders layout.exchange)
  if (← get).disk.isFile layout.notesPath then onNotes Store.load
  if (← get).disk.isFile layout.trashPath then onTrash Store.load
  if layout.backsUpOnOpen then backUpBoth none

/-- The note of an id in one of the stores. -/
def find (notebook : Notebook) (kind : StoreKind) (id : String) : Except Fault Note :=
  match (notebook.store kind).get? id with
  | some note => .ok note
  | none => .error (.notFound id)

/-- A new note is made from an input. The result is its id. -/
def create (input : NoteInput) : Attempt Notebook String := do
  let note ← modifyGet fun notebook =>
    let (note, supply) :=
      input.applyTo (Note.blank notebook.supply) notebook.supply.afterBlank
    (note, { notebook with supply := supply })
  changeNotes (·.add note)
  let _ ← onNotes Store.save
  return note.id

/-- A note is given a new version. -/
def touch (id : String) : Attempt Notebook Unit := do
  let notes ← Attempt.ofExcept ((← get).notes.touch id)
  changeNotes fun _ => notes

/-- The values of an input replace those of a note. -/
def update (id : String) (input : NoteInput) : Attempt Notebook Unit := do
  let note ← Attempt.ofExcept ((← get).find .notes id)
  let note ← modifyGet fun notebook =>
    let (note, supply) := input.applyTo note notebook.supply
    (note, { notebook with supply := supply })
  let moment ← look
  changeNotes (·.edit id fun _ => { note with changed := moment.timestamp })
  touch id
  let _ ← onNotes Store.save

/-- The first of some ids that the primary store does not know is a fault. -/
def checkIds (ids : List String) : Attempt Notebook Unit := do
  let notes := (← get).notes
  match ids.find? fun id => !notes.contains id with
  | some id => throw (.notFound id)
  | none => return ()

/-- A note moves from the primary store to the trash, under a new version. -/
def discard (id : String) : Attempt Notebook Unit := do
  let (note, notes) ← Attempt.ofExcept ((← get).notes.remove id)
  changeNotes fun _ => notes
  changeTrash (·.add note)

/-- A list without repetitions: of equal items the first stays. -/
def distinct (ids : List String) : List String :=
  ids.reverse.foldr (fun id kept => if kept.contains id then kept else kept ++ [id]) []

/-- Notes move to the trash. -/
def delete (ids : List String) : Attempt Notebook Unit := do
  let ids := distinct ids
  checkIds ids
  ids.forM discard
  let _ ← onNotes Store.save
  let _ ← onTrash Store.save

/-- A note is edited and, if the edit changes something, given a new version. -/
def editOne (change : Note → Note × Bool) (id : String) : Attempt Notebook Unit := do
  match (← get).notes.get? id with
  | none => return ()
  | some note =>
      let (edited, isChanged) := change note
      changeNotes (·.edit id fun _ => edited)
      if isChanged then touch id

/-- Notes are edited in turn. -/
def editEach (ids : List String) (change : Note → Note × Bool) : Attempt Notebook Unit := do
  checkIds ids
  ids.forM (editOne change)
  let _ ← onNotes Store.save

/-- Notes are given a tag. -/
def addTag (ids : List String) (tag : String) : Attempt Notebook Unit :=
  editEach ids fun note => ({ note with tags := note.tags.insert tag }, true)

/-- Notes lose a tag; those without it keep their version. -/
def removeTag (ids : List String) (tag : String) : Attempt Notebook Unit :=
  editEach ids fun note => ({ note with tags := note.tags.erase tag }, note.tags.contains tag)

/-- Notes are put into a folder. -/
def moveTo (ids : List String) (folder : String) : Attempt Notebook Unit :=
  editEach ids fun note => ({ note with folder := folder }, true)

/-- The reminders of notes are dismissed. -/
def dismissReminders (ids : List String) : Attempt Notebook Unit :=
  editEach ids fun note => ({ note with reminderDismissed := true }, true)

/-- The virtual folders. The store is saved if it had to be given a configuration note. -/
def virtualFolders : Attempt Notebook VirtualFolders := do
  let before := (← get).notes.size
  let folders ← modifyGet fun notebook =>
    let (folders, notes, supply) := VirtualFolders.ofStore notebook.notes notebook.supply
    (folders, { notebook with notes := notes, supply := supply })
  if (← get).notes.size ≠ before then
    let _ ← onNotes Store.save
  return folders

/-- What a virtual folder holds, `none` if there is no such folder. -/
def virtualFolder (name : String) : Attempt Notebook (Option Query.Found) := do
  let folders ← virtualFolders
  return folders.evaluate? name (← get).notes

end Notebook

end Notekeeper
