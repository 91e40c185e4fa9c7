import Notekeeper.Note.Basic
import Notekeeper.Text.Blank
import Notekeeper.Text.Lines

/-!
# Records

A note in a file is a record: a block of lines, each a keyword with a value, and the body between
two lines that carry the note's delimiter. `Note.record` writes the record of a note,
`Note.ofRecord?` reads one.

Reading takes every keyword from the first line that carries it and ignores lines with other words.
An id, a name and a closed body are required; what else is missing is taken from a blank note. A
version that is not a number spoils the record.
-/

namespace Notekeeper

namespace Record

/-- The line that opens a record. -/
def opening : String := "TASK-BEGIN"

/-- The keyword of the line that closes a record. -/
def closing : String := "TASK-END"

/-- The keyword of the line before the body. -/
def bodyOpening : String := "TASK-BODY-BEGIN"

/-- The keyword of the line after the body. -/
def bodyClosing : String := "TASK-BODY-END"

/-- The keywords of the single lines of a record. -/
inductive Key where
  | id
  | name
  | folder
  | version
  | exportVersion
  | created
  | changed
  | due
  | dismissed
  | format
  | shareToken
  | tags
  deriving DecidableEq, Repr

/-- The word a key is written as. -/
def Key.word : Key → String
  | id => "TASK-ID"
  | name => "TASK-NAME"
  | folder => "TASK-FOLDER"
  | version => "TASK-LAMPORT-TIMESTAMP"
  | exportVersion => "TASK-EXPORT-LAMPORT-TIMESTAMP"
  | created => "TASK-CREATED-DATE"
  | changed => "TASK-CHANGED-DATE"
  | due => "TASK-DUE-DATE"
  | dismissed => "TASK-DUE-DATE-REMINDER-DISMISSED"
  | format => "TASK-BODY-FORMAT"
  | shareToken => "TASK-PUBLIC-SHARE-AUTH"
  | tags => "TASK-TAGS"

/-- The keys in the order in which a record lists them. -/
def Key.all : List Key :=
  [id, name, folder, version, exportVersion, created, changed, due, dismissed, format, shareToken,
    tags]

/-- The key that a word stands for. -/
def Key.ofWord? (word : String) : Option Key :=
  Key.all.find? fun key => key.word == word

/-- A line read as a keyword with a value. -/
structure Entry where
  /-- What stands before the first space. -/
  key : String
  /-- What stands between the first space and the next, `none` without a space. -/
  word? : Option String
  /-- What stands after the first space. -/
  value : String
  deriving DecidableEq, Repr

/-- A line as keyword and value. -/
def Entry.ofLine (line : String) : Entry :=
  match Text.firstWord line with
  | (key, none) => ⟨key, none, ""⟩
  | (key, some value) => ⟨key, some (Text.firstWord value).1, value⟩

/-- The first word of the value, empty without a value. -/
def Entry.word (entry : Entry) : String :=
  entry.word?.getD ""

/-- Whether a line closes the body that a delimiter frames. -/
def Entry.closesBody (entry : Entry) (delimiter : String) : Bool :=
  entry.key == bodyClosing && entry.word? == some delimiter

/-- Tags from their text: the parts between commas, trimmed, without the empty ones. -/
def readTags (text : String) : TextSet :=
  Std.ExtTreeSet.ofList
    (((Text.splitAt ',' text).map Text.trimmed).filter fun tag => !tag.isEmpty)

/-- Tags as a text: in order, with a comma and a space between them. -/
def writeTags (tags : TextSet) : String :=
  Text.join ", " tags.toList

/-- The note with the value of a key taken from a line; `none` if a version is not a number. -/
def Key.read? (key : Key) (entry : Entry) (note : Note) : Option Note :=
  match key with
  | id => some { note with id := entry.word }
  | name => some { note with name := entry.value }
  | folder => some { note with folder := entry.value }
  | version => (Decimal.read? entry.word).map fun version => { note with version := version }
  | exportVersion =>
      (Decimal.read? entry.word).map fun version => { note with exportVersion := version }
  | created => some { note with created := entry.value }
  | changed => some { note with changed := entry.value }
  | due => some { note with due := entry.value }
  | dismissed => some { note with reminderDismissed := entry.word == "True" }
  | format => some { note with format := (BodyFormat.ofWord? entry.word).getD note.format }
  | shareToken => some { note with shareToken := entry.word }
  | tags => some { note with tags := readTags entry.value }

/-- The value of a key on its line. -/
def Key.write (key : Key) (note : Note) : String :=
  match key with
  | id => Text.singleLine note.id
  | name => Text.singleLine note.nameOrDefault
  | folder => Text.singleLine note.folderOrDefault
  | version => Decimal.write note.version
  | exportVersion => Decimal.write note.exportVersion
  | created => Text.singleLine note.created
  | changed => Text.singleLine note.changed
  | due => Text.singleLine note.due
  | dismissed => if note.reminderDismissed then "True" else "False"
  | format => note.format.word
  | shareToken => Text.singleLine note.shareToken
  | tags => Text.singleLine (writeTags note.tags)

/-- A line of a keyword and a value. -/
def line (word value : String) : String :=
  word ++ " " ++ value

/-- How far the body of a record has been read. -/
inductive Body where
  /-- The body has not begun. -/
  | awaited
  /-- The lines of the body so far, last first. -/
  | open (lines : List String)
  /-- The body is complete. -/
  | closed
  deriving DecidableEq, Repr

/-- A record of which some lines have been read. -/
structure Reader where
  /-- The note as far as it is known; what has not been read is as in a blank note. -/
  note : Note
  /-- The keys that have been read. -/
  seen : List Key
  body : Body
  deriving DecidableEq

/-- A line outside the body. An id counts only if it is not empty. -/
def Reader.field? (reader : Reader) (entry : Entry) : Option Reader :=
  match Key.ofWord? entry.key with
  | some key =>
      if key ∈ reader.seen ∨ (key = .id ∧ entry.word.isEmpty) then some reader
      else
        (key.read? entry reader.note).map fun note =>
          { reader with note := note, seen := key :: reader.seen }
  | none =>
      if entry.key = bodyOpening ∧ reader.body = .awaited then
        some
          { reader with note := { reader.note with delimiter := entry.word }, body := .open [] }
      else some reader

/-- One more line; `none` if it spoils the record. -/
def Reader.step? (reader : Reader) (text : String) : Option Reader :=
  let entry := Entry.ofLine text
  match reader.body with
  | .open lines =>
      if entry.closesBody reader.note.delimiter then
        some
          { reader with
            note := { reader.note with body := Text.join "\n" lines.reverse }, body := .closed }
      else some { reader with body := .open (text :: lines) }
  | _ => reader.field? entry

/-- All lines of a record, from left to right. -/
def Reader.run? (reader : Reader) (lines : List String) : Option Reader :=
  lines.foldlM Reader.step? reader

/-- The note of a record that has been read to its end. -/
def Reader.finish? (reader : Reader) : Option Note :=
  if Key.id ∈ reader.seen ∧ Key.name ∈ reader.seen ∧ reader.body = .closed then some reader.note
  else none

end Record

namespace Note

/-- The lines of the record of a note; the body is given as one piece. -/
def recordLines (note : Note) : List String :=
  ["", Record.opening] ++
    Record.Key.all.map (fun key => Record.line key.word (key.write note)) ++
    [Record.line Record.bodyOpening (Text.singleLine note.delimiter), note.body,
      Record.line Record.bodyClosing (Text.singleLine note.delimiter),
      Record.line Record.closing (Text.singleLine note.id), ""]

/-- The record of a note. -/
def record (note : Note) : String :=
  Text.join "\n" note.recordLines

/-- The note of a record, with what is missing taken from a blank note. -/
def ofRecord? (blank : Note) (text : String) : Option Note :=
  ((Record.Reader.mk blank [] .awaited).run? (Text.lines text)).bind Record.Reader.finish?

end Note

end Notekeeper
