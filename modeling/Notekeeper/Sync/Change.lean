import Notekeeper.Store.Basic

/-!
# Changes since the last export

Two replicas of a store exchange snapshots. Each note carries its version and the version the whole
store had at the last export; comparing them with the copy of the other replica tells on which side
the note was changed. A snapshot is stale if its writer had not yet imported our latest export.
-/

namespace Notekeeper

namespace Sync

/-- The note was changed here since the last export. -/
def localChange (here : Note) : Bool :=
  here.exportVersion < here.version

/-- The copy of the other replica is newer than what was last exported here. -/
def remoteChange (here there : Note) : Bool :=
  here.exportVersion < there.version

/-- Neither side changed the note. -/
def noChange (here there : Note) : Bool :=
  !localChange here && !remoteChange here there

/-- Both sides changed the note. -/
def bothChange (here there : Note) : Bool :=
  localChange here && remoteChange here there

/-- Only this side changed the note. -/
def localChangeOnly (here there : Note) : Bool :=
  localChange here && !remoteChange here there

/-- Only the other side changed the note. -/
def remoteChangeOnly (here there : Note) : Bool :=
  remoteChange here there && !localChange here

/-- The note was in the last export and is missing in the snapshot. -/
def remotelyTrashed (here : Note) (locals remotes : Store) : Bool :=
  !remotes.contains here.id && here.exportVersion == locals.exportClock

/-- A snapshot is accepted if its writer had imported the last export. -/
def checkImport (locals remotes : Store) : Except Fault Unit :=
  if remotes.importClock < locals.exportClock then
    .error (.stale locals.exportClock remotes.importClock)
  else
    .ok ()

end Sync

end Notekeeper
