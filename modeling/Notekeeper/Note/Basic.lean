import Notekeeper.Supply
import Std.Data.ExtTreeSet

/-!
# Notes

A note with all that is kept about it: its texts, tags and dates, the token under which it may be
shared, its version and the version it had at the last export, and the delimiter that frames its
body in a file.
-/

namespace Notekeeper

/-- How the body of a note is meant to be shown. -/
inductive BodyFormat where
  | markup
  | plain
  deriving DecidableEq, Repr

/-- The word for a body format. -/
def BodyFormat.word : BodyFormat → String
  | markup => "MARKUP"
  | plain => "PLAIN"

/-- The body format that a word stands for. -/
def BodyFormat.ofWord? (word : String) : Option BodyFormat :=
  if word = "MARKUP" then some .markup
  else if word = "PLAIN" then some .plain
  else none

/-- The report on a word that stands for no body format. -/
def BodyFormat.unknownMessage (word : String) : String :=
  "unknown body format '" ++ word ++ "'"

/-- A set of texts, listed in the order of their code points. -/
abbrev TextSet := Std.ExtTreeSet String

/-- A note. -/
structure Note where
  /-- The key of the note, never changed after its creation. -/
  id : String
  name : String
  folder : String
  tags : TextSet
  body : String
  format : BodyFormat
  /-- The timestamp of the creation. -/
  created : String
  /-- The timestamp of the last change. -/
  changed : String
  /-- The timestamp the note is due at, empty if it is not due. -/
  due : String
  reminderDismissed : Bool
  shareToken : String
  /-- The version, given by the store that holds the note. -/
  version : Int
  /-- The version at the last export, -1 before any. -/
  exportVersion : Int
  /-- The word that frames the body in a file. -/
  delimiter : String
  deriving DecidableEq

/-- The name of a note that was given none. -/
def defaultName : String := "Unnamed"

/-- The folder of a note that was given none. -/
def defaultFolder : String := "inbox"

/-- The number of characters from which on a share token is safe to use. -/
def leastShareTokenLength : Nat := 5

namespace Note

/-- A new note with nothing in it. Its id, share token and delimiter are the next three tokens, its
dates the next reading of the clock. -/
def blank (supply : Supply) : Note where
  id := supply.token 0
  name := ""
  folder := ""
  tags := ∅
  body := ""
  format := .markup
  created := supply.now.timestamp
  changed := supply.now.timestamp
  due := ""
  reminderDismissed := false
  shareToken := supply.token 1
  version := 1
  exportVersion := -1
  delimiter := supply.token 2

/-- Whether a share token is long enough to be honoured. -/
def isSafeShareToken (token : String) : Bool :=
  leastShareTokenLength ≤ token.length

/-- Whether the share token of the note is long enough to be honoured. -/
def hasSafeShareToken (note : Note) : Bool :=
  isSafeShareToken note.shareToken

/-- The name under which the note is kept and written. -/
def nameOrDefault (note : Note) : String :=
  if note.name.isEmpty then defaultName else note.name

/-- The folder under which the note is kept and written. -/
def folderOrDefault (note : Note) : String :=
  if note.folder.isEmpty then defaultFolder else note.folder

/-- The note with an empty name or folder replaced by its default. -/
def withDefaults (note : Note) : Note :=
  { note with name := note.nameOrDefault, folder := note.folderOrDefault }

/-- A copy under another id, with a suffix to the name. -/
def renamedCopy (note : Note) (id suffix : String) : Note :=
  { note with id := id, name := note.name ++ suffix }

end Note

/-- The supply after a blank note has been made. -/
def Supply.afterBlank (supply : Supply) : Supply :=
  (supply.dropTokens 3).afterReading

end Notekeeper
