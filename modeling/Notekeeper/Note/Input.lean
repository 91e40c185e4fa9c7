import Notekeeper.Note.Bullets
import Notekeeper.Note.Record

/-!
# Input for a note

The values a user enters for a note, as texts, and how they are applied to it: single-line values
lose their line breaks and surrounding blanks, tags are cut at commas, a changed due date makes the
reminder count again, a share token that is too short is replaced by a fresh one, and a markup body
is brought into regular form.
-/

namespace Notekeeper

/-- What a user entered for a note. -/
structure NoteInput where
  name : String := ""
  folder : String := ""
  /-- The tags with commas between them. -/
  tags : String := ""
  body : String := ""
  due : String := ""
  shareToken : String := ""
  /-- The word for a body format; any other text leaves the format as it is. -/
  format : String := ""
  deriving DecidableEq, Repr

/-- The word a user enters for a body format. -/
def BodyFormat.inputWord : BodyFormat → String
  | markup => "markup"
  | plain => "plaintext"

/-- The body format that a word entered by a user stands for. -/
def BodyFormat.ofInputWord? (word : String) : Option BodyFormat :=
  if word = "markup" then some .markup
  else if word = "plaintext" then some .plain
  else none

namespace NoteInput

/-- The input that holds the values of a note. -/
def ofNote (note : Note) : NoteInput where
  name := note.name
  folder := note.folder
  tags := Record.writeTags note.tags
  body := note.body
  due := note.due
  shareToken := note.shareToken
  format := note.format.inputWord

/-- A text without the comma and space it may end with. -/
def dropLastComma (text : List Char) : List Char :=
  if [' ', ','].isPrefixOf text.reverse then text.dropLast.dropLast else text

/-- The tags that a text stands for. -/
def readTags (text : String) : TextSet :=
  Std.ExtTreeSet.ofList
    (((Text.split ',' (dropLastComma text.toList)).map fun tag =>
      Text.singleLine (String.ofList tag)).filter fun tag => !tag.isEmpty)

/-- The body that a text stands for in a format. -/
def readBody (format : BodyFormat) (text : String) : String :=
  match format with
  | .markup => Bullets.normalize text
  | .plain => String.ofList (text.toList.filter (· != '\r'))

/-- The note with the values of an input, and the supply left. Version and dates of the note stay as
they are. -/
def applyTo (input : NoteInput) (note : Note) (supply : Supply) : Note × Supply :=
  let due := Text.singleLine input.due
  let format := (BodyFormat.ofInputWord? input.format).getD note.format
  let entered := Text.singleLine input.shareToken
  let keepsToken := Note.isSafeShareToken entered
  ({ note with
      name := Text.singleLine input.name
      folder := Text.singleLine input.folder
      tags := readTags input.tags
      body := readBody format input.body
      format := format
      due := due
      reminderDismissed := note.reminderDismissed && due == note.due
      shareToken := if keepsToken then entered else supply.token 0 },
    if keepsToken then supply else supply.dropTokens 1)

end NoteInput

end Notekeeper
