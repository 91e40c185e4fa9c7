import Notekeeper.Highlight
import Notekeeper.Json
import Notekeeper.Note.Record
import Notekeeper.VirtualFolder

/-!
# Showing notes

The texts in which notes, names and virtual folders are shown: for reading, in plain lines for other
programs, or as JSON.
-/

namespace Notekeeper

/-- A form of output. -/
inductive OutputFormat where
  | pretty
  | plain
  | json
  deriving DecidableEq, Repr

/-- The form a word names. -/
def OutputFormat.ofWord? (word : String) : Option OutputFormat :=
  if word = "pretty" then some .pretty
  else if word = "plain" then some .plain
  else if word = "json" then some .json
  else none

namespace Display

/-- A line with its end. -/
def line (content : String) : String :=
  content ++ "\n"

/-- A value in JSON, with the end of its last line. -/
def jsonLine (value : Json) : String :=
  line value.render

/-- The number of characters of an id that are shown, enough to refer to the note. -/
def shortIdLength : Nat := 8

/-- The name of a body format in JSON. -/
def formatName : BodyFormat → String
  | .markup => "Markup"
  | .plain => "Plain"

/-- A note in JSON. -/
def noteJson (note : Note) : Json :=
  .object
    [("id", .text note.id), ("name", .text note.name), ("folder", .text note.folder),
      ("tags", .ofTexts note.tags.toList), ("body", .text note.body),
      ("body_format", .text (formatName note.format)), ("created_date", .text note.created),
      ("changed_date", .text note.changed), ("due_date", .text note.due),
      ("due_date_reminder_dismissed", .boolean note.reminderDismissed),
      ("public_share_auth", .text note.shareToken), ("lamport_timestamp", .integer note.version),
      ("export_lamport_timestamp", .integer note.exportVersion)]

/-- The line that names a note. -/
def heading (note : Note) : String :=
  let tags := String.join (note.tags.toList.map (" #" ++ ·))
  let due := if note.due.isEmpty then "" else "  due " ++ note.due
  line (String.ofList (note.id.toList.take shortIdLength) ++ "  " ++ note.name ++ "  [" ++
    note.folder ++ "]" ++ tags ++ due)

/-- The first line of the body that is not blank, without the blanks around it. -/
def preview? (note : Note) : Option String :=
  ((Text.lines note.body).map Text.trimmed).find? fun line => !line.isEmpty

/-- A line with its marked pieces, for output that has no means to mark them. -/
def unmarked (pieces : List Highlight.Piece) : String :=
  String.ofList (pieces.flatMap Highlight.Piece.text)

/-- A note in a list: its heading, and below it what its body begins with. -/
def entry (highlights : List String) (note : Note) : String :=
  heading note ++
    match preview? note with
    | some preview => line ("    " ++ unmarked (Highlight.pieces preview.toList highlights))
    | none => ""

/-- A list of notes. -/
def notes (format : OutputFormat) (notes : List Note) (highlights : List String) : String :=
  match format with
  | .json => jsonLine (.array (notes.map noteJson))
  | .plain =>
      String.join (notes.map fun note =>
        line (note.id ++ "\t" ++ note.folder ++ "\t" ++ note.name))
  | .pretty =>
      if notes.isEmpty then line "No notes found" else String.join (notes.map (entry highlights))

/-- A labelled value. -/
def labelled (label value : String) : String :=
  line (Text.padLeft 8 ' ' label ++ ": " ++ value)

/-- A note with all that is known about it. -/
def note (format : OutputFormat) (note : Note) : String :=
  match format with
  | .json => jsonLine (noteJson note)
  | .plain => note.record
  | .pretty =>
      heading note ++ labelled "id" note.id ++ labelled "created" note.created ++
        labelled "changed" note.changed ++ labelled "format" note.format.word ++
        labelled "version" (Decimal.write note.version) ++ line "" ++
        line (Text.trimLineFeeds note.body)

/-- A list of names. -/
def names (format : OutputFormat) (names : List String) : String :=
  match format with
  | .json => jsonLine (.ofTexts names)
  | .plain | .pretty => String.join (names.map line)

/-- The virtual folders with their queries. -/
def virtualFolders (format : OutputFormat) (folders : VirtualFolders) : String :=
  match format with
  | .json => jsonLine (.object (folders.toList.map fun (name, query) => (name, .text query)))
  | .plain => String.join (folders.toList.map fun (name, query) => line (name ++ "\t" ++ query))
  | .pretty => String.join (folders.toList.map fun (name, query) => line (name ++ "  " ++ query))

end Display

end Notekeeper
