import Notekeeper.Command.Usage
import Notekeeper.Display
import Notekeeper.DueDate
import Notekeeper.Note.Input
import Notekeeper.Number.Decimal

/-!
# The commands

The commands of the program with their arguments, and how they are read from a command line.
-/

namespace Notekeeper

/-- Values for a note as they stand on the command line. -/
structure NoteFields where
  name? : Option String := none
  folder? : Option String := none
  tags? : Option (List String) := none
  due? : Option DueDate := none
  format? : Option BodyFormat := none
  /-- Whether the note is opened in the editor. -/
  isInteractive : Bool := false
  deriving DecidableEq, Repr

/-- What of a store is listed, and in which form. -/
structure ListArguments where
  folder? : Option String := none
  tag? : Option String := none
  limit? : Option Nat := none
  format : OutputFormat := .pretty
  deriving DecidableEq, Repr

/-- What is searched for, and in which form it is shown. -/
structure SearchArguments where
  query : List String
  limit? : Option Nat := none
  format : OutputFormat := .pretty
  deriving DecidableEq, Repr

/-- The lists of names that a notebook gives. -/
inductive NameList where
  | folders
  | tags
  | contexts
  deriving DecidableEq, Repr

/-- A command. -/
inductive Command where
  | showSettings
  | useProfile (name : String)
  | listProfiles
  | showProfile
  | addNote (fields : NoteFields) (content : List String)
  | showNote (reference : String) (format : OutputFormat)
  | editNote (reference : String) (fields : NoteFields) (body? : Option String)
  | listNotes (arguments : ListArguments)
  | searchNotes (arguments : SearchArguments)
  | deleteNotes (references : List String)
  | addTag (tag : String) (references : List String)
  | removeTag (tag : String) (references : List String)
  | moveNotes (folder : String) (references : List String)
  | dismissReminders (references : List String)
  | listTrash (arguments : ListArguments)
  | searchTrash (arguments : SearchArguments)
  | listNames (list : NameList) (format : OutputFormat)
  | listVirtualFolders (format : OutputFormat)
  | showVirtualFolder (name : String) (format : OutputFormat)
  | exportNotes
  | importNotes (replaces : Bool)
  deriving DecidableEq, Repr

namespace Command

open Usage

/-- Every text is taken. -/
def anyText (_ : String) : Option Stop := none

/-- The words of a choice are taken. -/
def oneOf (words : List String) (value : String) : Option Stop :=
  if value ∈ words then none else some .unknownChoice

/-- Texts that state a due date are taken. -/
def dueText (value : String) : Option Stop :=
  match DueDate.ofText value with
  | .ok _ => none
  | .error _ => some .malformedValue

/-- The greatest number of results that can be asked for. -/
def greatestLimit : Nat := 18446744073709551615

/-- The number that a text gives as a limit. A plus sign may stand before it. -/
def readLimit? (value : String) : Option Nat :=
  let digits :=
    match value.toList with
    | '+' :: digits => digits
    | digits => digits
  (Decimal.readNat? digits).filter (· ≤ greatestLimit)

/-- Texts that give a limit are taken. -/
def limitText (value : String) : Option Stop :=
  if (readLimit? value).isSome then none else some .malformedValue

/-- A switch that takes a value once. -/
def valued (name : String) (letter? : Option Char) (check : String → Option Stop) : Switch :=
  ⟨name, letter?, .single, check⟩

/-- A switch that takes nothing. -/
def flag (name : String) (letter? : Option Char) : Switch :=
  ⟨name, letter?, .flag, anyText⟩

/-- The switch that every command has. -/
def helpSwitch : Switch := ⟨"help", some 'h', .stop .help, anyText⟩

/-- The switch for the form of output. -/
def outputSwitch : Switch := valued "output" none (oneOf ["pretty", "plain", "json"])

/-- The switch for the number of results. -/
def limitSwitch : Switch := valued "limit" (some 'l') limitText

/-- The switches for the values of a note. -/
def fieldSwitches : List Switch :=
  [valued "name" (some 'n') anyText, valued "folder" (some 'f') anyText,
    ⟨"tag", none, .many, anyText⟩, valued "due" (some 'd') dueText,
    valued "format" none (oneOf [BodyFormat.markup.inputWord, BodyFormat.plain.inputWord]),
    flag "interactive" (some 'i')]

/-- An operand that must be there. -/
def required : Operand := ⟨true, false, false⟩

/-- Operands of which there must be at least one. -/
def several : Operand := ⟨true, true, false⟩

/-- All the rest of the command line. -/
def trailing : Operand := ⟨false, true, true⟩

/-- A command without further ones. -/
def leaf (switches : List Switch) (operands : List Operand) : Grammar :=
  .node (switches ++ [helpSwitch]) operands false []

/-- A command that stands before further ones. -/
def group (needsCommand : Bool) (commands : List (String × Grammar)) : Grammar :=
  .node [helpSwitch] [] needsCommand commands

/-- The arguments of a list. -/
def listGrammar : Grammar :=
  leaf
    [valued "folder" (some 'f') anyText, valued "tag" (some 't') anyText, limitSwitch,
      outputSwitch] []

/-- The arguments of a search. -/
def searchGrammar : Grammar :=
  leaf [limitSwitch, outputSwitch] [trailing]

/-- The commands on notes. -/
def noteGrammar : Grammar :=
  group true
    [("add", leaf fieldSwitches [trailing]), ("show", leaf [outputSwitch] [required]),
      ("edit", leaf (fieldSwitches ++ [valued "body" (some 'b') anyText]) [required]),
      ("list", listGrammar), ("search", searchGrammar), ("delete", leaf [] [several]),
      ("tag-add", leaf [] [required, several]), ("tag-del", leaf [] [required, several]),
      ("move", leaf [] [required, several]), ("dismiss", leaf [] [several])]

/-- The whole command line. -/
def grammar : Grammar :=
  .node
    [valued "profile" (some 'p') anyText, helpSwitch,
      ⟨"version", some 'V', .stop .version, anyText⟩]
    [] false
    [("config", leaf [] []),
      ("profile",
        group false [("use", leaf [] [required]), ("list", leaf [] []), ("current", leaf [] [])]),
      ("note", noteGrammar),
      ("trash", group true [("list", listGrammar), ("search", searchGrammar)]),
      ("folders", leaf [outputSwitch] []), ("tags", leaf [outputSwitch] []),
      ("contexts", leaf [outputSwitch] []),
      ("vfolder",
        group true [("list", leaf [outputSwitch] []), ("show", leaf [outputSwitch] [required])]),
      ("export", leaf [] []), ("import", leaf [flag "replace" none] [])]

/-- The first operand. -/
def firstOperand (level : Level) : String :=
  level.operands.headD ""

/-- The form of output that was asked for. -/
def outputFormat (level : Level) : OutputFormat :=
  ((level.value? "output").bind OutputFormat.ofWord?).getD .pretty

/-- The limit that was asked for. -/
def limit? (level : Level) : Option Nat :=
  (level.value? "limit").bind readLimit?

/-- The values of a note that were given. -/
def noteFields (level : Level) : NoteFields where
  name? := level.value? "name"
  folder? := level.value? "folder"
  tags? := if level.has "tag" then some (level.values "tag") else none
  due? := (level.value? "due").bind fun text => (DueDate.ofText text).toOption
  format? := (level.value? "format").bind BodyFormat.ofInputWord?
  isInteractive := level.has "interactive"

/-- The arguments of a list that were given. -/
def listArguments (level : Level) : ListArguments :=
  ⟨level.value? "folder", level.value? "tag", limit? level, outputFormat level⟩

/-- The arguments of a search that were given. -/
def searchArguments (level : Level) : SearchArguments :=
  ⟨level.operands, limit? level, outputFormat level⟩

/-- The command on notes of a name. -/
def ofNoteLevel? (level : Level) : Option Command :=
  match level.name with
  | "add" => some (addNote (noteFields level) level.operands)
  | "show" => some (showNote (firstOperand level) (outputFormat level))
  | "edit" => some (editNote (firstOperand level) (noteFields level) (level.value? "body"))
  | "list" => some (listNotes (listArguments level))
  | "search" => some (searchNotes (searchArguments level))
  | "delete" => some (deleteNotes level.operands)
  | "tag-add" => some (addTag (firstOperand level) level.operands.tail)
  | "tag-del" => some (removeTag (firstOperand level) level.operands.tail)
  | "move" => some (moveNotes (firstOperand level) level.operands.tail)
  | "dismiss" => some (dismissReminders level.operands)
  | _ => none

/-- The command that the levels below the program name, if they name one. -/
def ofLevels? : List Level → Option Command
  | [level] =>
      match level.name with
      | "config" => some showSettings
      | "profile" => some showProfile
      | "folders" => some (listNames .folders (outputFormat level))
      | "tags" => some (listNames .tags (outputFormat level))
      | "contexts" => some (listNames .contexts (outputFormat level))
      | "export" => some exportNotes
      | "import" => some (importNotes (level.has "replace"))
      | _ => none
  | [level, inner] =>
      match level.name, inner.name with
      | "profile", "use" => some (useProfile (firstOperand inner))
      | "profile", "list" => some listProfiles
      | "profile", "current" => some showProfile
      | "note", _ => ofNoteLevel? inner
      | "trash", "list" => some (listTrash (listArguments inner))
      | "trash", "search" => some (searchTrash (searchArguments inner))
      | "vfolder", "list" => some (listVirtualFolders (outputFormat inner))
      | "vfolder", "show" => some (showVirtualFolder (firstOperand inner) (outputFormat inner))
      | _, _ => none
  | _ => none

end Command

/-- A command line that has been understood. -/
structure Invocation where
  profile? : Option String
  /-- The command, `none` if the command line names none. -/
  command? : Option Command
  deriving DecidableEq, Repr

namespace Invocation

/-- The name the program goes by. -/
def program : String := "wool"

/-- What the arguments of a command line ask for. -/
def ofArguments (arguments : List String) : Except Usage.Stop Invocation := do
  match ← Command.grammar.read program arguments with
  | [] => return ⟨none, none⟩
  | level :: below => return ⟨level.value? "profile", Command.ofLevels? below⟩

end Invocation

end Notekeeper
