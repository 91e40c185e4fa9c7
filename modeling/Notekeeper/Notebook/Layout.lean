import Notekeeper.Calendar.Moment
import Notekeeper.Disk.Path

/-!
# Where a notebook lives

A notebook has a folder for its stores and for the snapshot in transit, one for backups and one in
which it exchanges packages with other replicas.
-/

namespace Notekeeper

/-- The folders of a notebook. -/
structure Layout where
  /-- The folder of both stores and of the snapshot in transit. -/
  home : String
  backups : String
  /-- The folder that export writes a package to and import reads one from. -/
  exchange : String
  /-- Whether both stores are backed up every time the notebook is opened. -/
  backsUpOnOpen : Bool := false
  deriving DecidableEq, Repr

namespace Layout

/-- The file name of the primary store. -/
def notesName : String := "notes.dat"

/-- The file name of the trash. -/
def trashName : String := "notes_trash.dat"

/-- The file name of a snapshot, on the disk and inside a package. -/
def snapshotName : String := "exchange.dat"

/-- The file name of a package. -/
def packageName : String := "exchange.zip"

/-- The usual layout: backups and exchange inside the home folder. -/
def inFolder (home : String) : Layout where
  home := home
  backups := Path.join home "backup"
  exchange := Path.join home "exchange"

/-- The file of the primary store. -/
def notesPath (layout : Layout) : String :=
  Path.join layout.home notesName

/-- The file of the trash. -/
def trashPath (layout : Layout) : String :=
  Path.join layout.home trashName

/-- The snapshot in transit. -/
def snapshotPath (layout : Layout) : String :=
  Path.join layout.home snapshotName

/-- The exchange package. -/
def packagePath (layout : Layout) : String :=
  Path.join layout.exchange packageName

/-- The name of a backup of a file made at a moment, with a suffix to tell its occasion. -/
def backupName (moment : Moment) (suffix? : Option String) (file : String) : String :=
  let suffix :=
    match suffix? with
    | some suffix => "_" ++ suffix
    | none => ""
  "backup_" ++ moment.fileStamp ++ suffix ++ "_" ++ file

/-- The backup of a file made at a moment. -/
def backupPath (layout : Layout) (moment : Moment) (suffix? : Option String) (file : String) :
    String :=
  Path.join layout.backups (backupName moment suffix? file)

end Layout

end Notekeeper
