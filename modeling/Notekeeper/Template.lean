import Notekeeper.DueDate
import Notekeeper.Note.Input
import Notekeeper.Toml.Document

/-!
# Templates

A template is the text in which a user edits a note: a TOML header with all values but the body, a
line with the delimiter, and the body below it. The first line that is only the delimiter counts;
later ones belong to the body. A template that cannot be read is handed back under a comment that
says why, and the comment is nothing to its next reading.
-/

namespace Notekeeper

/-- The values of a note as they are edited. -/
structure Template where
  name : String := ""
  folder : String := ""
  tags : List String := []
  /-- A due date as it is stated. -/
  due : String := ""
  /-- The word for a body format, or empty. -/
  format : String := ""
  body : String := ""
  deriving DecidableEq, Repr

/-- Why a text is no template. -/
inductive TemplateFault where
  /-- The header is no TOML, or one of its values is of the wrong kind. The reader of TOML says so in
  its own words. -/
  | header (message : String)
  | due (stated : String) (fault : Calendar.ReadingFault)
  | format (word : String)
  deriving DecidableEq, Repr

/-- What a user is told first about a fault. -/
def TemplateFault.headline : TemplateFault → String
  | header message => message
  | due stated _ => "Invalid due date '" ++ stated ++ "'"
  | format word => "Unknown format '" ++ word ++ "', use markup or plaintext"

namespace Template

/-- The line between header and body. -/
def delimiter : String := "+++"

/-- The template of an input. Line feeds around the body are dropped. -/
def ofInput (input : NoteInput) : Template where
  name := input.name
  folder := input.folder
  tags := ((Text.splitAt ',' input.tags).map Text.trimmed).filter fun tag => !tag.isEmpty
  due := input.due
  format := input.format
  body := Text.trimLineFeeds input.body

/-- A line of the header. -/
def headerLine (key : String) (value : List Char) : String :=
  key ++ " = " ++ String.ofList value ++ "\n"

/-- A list of texts on a single line. -/
def writeTexts (texts : List String) : List Char :=
  '[' :: [',', ' '].intercalate (texts.map Toml.writeText) ++ [']']

/-- The header of a template. -/
def header (template : Template) : String :=
  headerLine "name" (Toml.writeText template.name) ++
    headerLine "folder" (Toml.writeText template.folder) ++
    headerLine "tags" (writeTexts template.tags) ++
    headerLine "due" (Toml.writeText template.due) ++
    headerLine "format" (Toml.writeText template.format)

/-- The text of a template. -/
def render (template : Template) : String :=
  template.header ++ delimiter ++ "\n" ++ template.body

/-- Whether a line is the delimiter. -/
def isDelimiter (line : String) : Bool :=
  Text.trimmed line == delimiter

/-- The values of a header, with an empty body. -/
def ofHeader? (text : String) : Option Template := do
  let entries ← Toml.readDocument text
  return {
    name := ← entries.textOrEmpty? "name"
    folder := ← entries.textOrEmpty? "folder"
    tags := ← entries.texts? "tags"
    due := ← entries.textOrEmpty? "due"
    format := ← entries.textOrEmpty? "format" }

/-- The words that may stand for the format. -/
def formatWords : List String :=
  ["", BodyFormat.markup.inputWord, BodyFormat.plain.inputWord]

/-- The template, if due date and format are understood. -/
def check (template : Template) : Except TemplateFault Template :=
  match DueDate.ofText template.due with
  | .error fault => .error (.due template.due fault)
  | .ok _ =>
      if template.format ∈ formatWords then .ok template else .error (.format template.format)

/-- The template that a text holds. A complaint is what the reader of TOML says about a header that
it refuses. -/
def parse (complaint : String → String) (text : String) : Except TemplateFault Template :=
  let lines := Text.lines text
  let headerLines := lines.takeWhile fun line => !isDelimiter line
  let header := Text.join "\n" headerLines
  match ofHeader? header with
  | none => .error (.header (complaint header))
  | some template =>
      check
        { template with body := Text.join "\n" (lines.drop (headerLines.length + 1)) }

/-- The input with the values of a template; its share token stays. -/
def applyTo (template : Template) (input : NoteInput) (today : Date) :
    Except Calendar.ReadingFault NoteInput := do
  let due ← DueDate.ofText template.due
  return { input with
    name := template.name
    folder := template.folder
    tags := Text.join "," template.tags
    due := due.timestamp today
    format := template.format
    body := template.body }

/-- A text that could not be read, under comments with the report on it. -/
def withReport (report text : String) : String :=
  "# ===== PARSING ERROR =====\n" ++
    Text.join "\n" ((Text.lines report).map ("# " ++ ·)) ++
    "\n# ===== Fix the issue below and save again =====\n\n" ++ text

end Template

end Notekeeper
