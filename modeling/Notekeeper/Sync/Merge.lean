import Notekeeper.Sync.Change

/-!
# Merging a snapshot

A snapshot is merged into a store and its trash in three passes. First come the notes on both sides:
a note changed there only is replaced, and of a note changed on both sides the local one is kept as
a copy under a new id. Then come the notes of the snapshot alone: a note in the trash is backed up
there as a renamed copy, any other is taken over. Last come the notes of the store alone: those that
the other replica deleted move to the trash. `Sync.merge` reports every note it touched.
-/

namespace Notekeeper

namespace Sync

/-- What a merge did, by the ids of the notes. -/
structure Report where
  /-- Notes replaced by the copy of the other replica. -/
  updated : List String := []
  /-- Notes changed on both sides, each with the id of the copy that keeps the local one. -/
  conflicts : List (String × String) := []
  /-- Notes taken over. -/
  imported : List String := []
  /-- The copies put into the trash for notes that had been trashed here. -/
  trashBackups : List String := []
  /-- Notes moved to the trash. -/
  trashed : List String := []
  deriving DecidableEq, Repr

/-- A merge under way. -/
structure Merging where
  locals : Store
  trash : Store
  supply : Supply
  report : Report := {}
  /-- The ids met on both sides. -/
  met : TextSet := ∅

/-- The suffix for the name of a copy that keeps a local note. -/
def conflictSuffix (moment : Moment) (id : String) : String :=
  " (conflicted local copy, conflict date " ++ moment.timestamp ++ ", orig ID " ++ id ++ ")"

/-- The suffix for the name of a copy put into the trash. -/
def backupSuffix (moment : Moment) (id : String) : String :=
  " (remote backup of locally trashed note, backup date " ++ moment.timestamp ++ ", orig ID " ++
    id ++ ")"

/-- The copy of a note under the next token, with a suffix that tells the time. -/
def datedCopy (suffix : Moment → String → String) (note : Note) (supply : Supply) : Note :=
  note.renamedCopy (supply.token 0) (suffix supply.now note.id)

/-- The supply after a copy has been made. -/
def afterCopy (supply : Supply) : Supply :=
  (supply.dropTokens 1).afterReading

namespace Merging

/-- The first pass, for a note of the snapshot. -/
def meet (merging : Merging) (there : Note) : Merging :=
  match merging.locals.get? there.id with
  | none => merging
  | some here =>
      let merging := { merging with met := merging.met.insert there.id }
      if remoteChangeOnly here there then
        { merging with
          locals := merging.locals.restore there
          report :=
            { merging.report with updated := merging.report.updated ++ [there.id] } }
      else if bothChange here there then
        let copy := datedCopy conflictSuffix here merging.supply
        { merging with
          locals := (merging.locals.add copy).restore there
          supply := afterCopy merging.supply
          report :=
            { merging.report with
              conflicts := merging.report.conflicts ++ [(there.id, copy.id)] } }
      else merging

/-- The second pass, for a note of the snapshot. -/
def takeOver (merging : Merging) (there : Note) : Merging :=
  if merging.met.contains there.id then merging
  else if merging.trash.contains there.id then
    let copy := datedCopy backupSuffix there merging.supply
    { merging with
      trash := merging.trash.add copy
      supply := afterCopy merging.supply
      report :=
        { merging.report with trashBackups := merging.report.trashBackups ++ [copy.id] } }
  else
    { merging with
      locals := merging.locals.restore there
      report := { merging.report with imported := merging.report.imported ++ [there.id] } }

/-- The third pass, for the id of a note that was in the store before the merge. -/
def discard (remotes : Store) (merging : Merging) (id : String) : Merging :=
  if merging.met.contains id then merging
  else
    match merging.locals.get? id with
    | none => merging
    | some here =>
        if remotelyTrashed here merging.locals remotes then
          match merging.locals.remove id with
          | .error _ => merging
          | .ok (note, locals) =>
              { merging with
                locals := locals
                trash := merging.trash.restore note
                report := { merging.report with trashed := merging.report.trashed ++ [id] } }
        else merging

end Merging

/-- The merge of a snapshot into a store and its trash. -/
def merge (locals trash remotes : Store) (supply : Supply) : Merging :=
  let met := remotes.all.foldl Merging.meet { locals := locals, trash := trash, supply := supply }
  let taken := remotes.all.foldl Merging.takeOver met
  locals.ids.foldl (Merging.discard remotes) taken

end Sync

end Notekeeper
