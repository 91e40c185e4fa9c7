import Mathlib
import Notekeeper.Notebook.Exchange

/-!
# What can be done with a notebook

The operations of an open notebook as data, so that a run of a notebook is a list of them. Those on
notes are a type of their own; the others save, back up, exchange packages, and close the notebook
and open it again. Packages of other replicas come in from outside (`Operation.receive`).
-/

namespace Notekeeper

namespace Notebook

/-- An operation on notes. -/
inductive NoteOperation where
  | create (input : NoteInput)
  | update (id : String) (input : NoteInput)
  | delete (ids : List String)
  | addTag (ids : List String) (tag : String)
  | removeTag (ids : List String) (tag : String)
  | moveTo (ids : List String) (folder : String)
  | dismissReminders (ids : List String)
  | virtualFolders
  deriving DecidableEq, Repr

/-- An operation on notes is performed; what it returns is dropped. -/
def NoteOperation.perform : NoteOperation → Attempt Notebook Unit
  | create input => do let _ ← Notebook.create input
  | update id input => Notebook.update id input
  | delete ids => Notebook.delete ids
  | addTag ids tag => Notebook.addTag ids tag
  | removeTag ids tag => Notebook.removeTag ids tag
  | moveTo ids folder => Notebook.moveTo ids folder
  | dismissReminders ids => Notebook.dismissReminders ids
  | virtualFolders => do let _ ← Notebook.virtualFolders

/-- An operation on a notebook. -/
inductive Operation where
  | note (operation : NoteOperation)
  | backUp (suffix? : Option String)
  | exportPackage
  | importPackage (mode : ImportMode)
  | save
  /-- The notebook is closed and opened again. -/
  | reopen
  /-- The package of another replica is put where the next import looks for it. -/
  | receive (package : ByteArray)
  deriving DecidableEq

/-- The notebook is closed and opened again: all but its disk and its supply is read anew. -/
def reopen : Attempt Notebook Unit := do
  modify fun notebook => unread notebook.layout notebook.disk notebook.supply
  openStores

/-- A package is put at the path of the exchange package. -/
def receive (package : ByteArray) : Attempt Notebook Unit := do
  onDisk (Disk.write (← get).layout.packagePath package)

/-- An operation is performed; what it returns is dropped. -/
def Operation.perform : Operation → Attempt Notebook Unit
  | note operation => operation.perform
  | backUp suffix? => backUpBoth suffix?
  | exportPackage => Notebook.exportPackage
  | importPackage mode => do let _ ← Notebook.importPackage mode
  | save => Notebook.save
  | reopen => Notebook.reopen
  | receive package => Notebook.receive package

end Notebook

end Notekeeper
