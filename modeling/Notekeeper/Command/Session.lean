import Notekeeper.Notebook.Exchange
import Notekeeper.Profile
import Notekeeper.Store.Selection
import Notekeeper.Template

/-!
# Sessions

A command works in a session: a console, a disk and a supply. The console collects what is printed,
gives the lines that the user types, and runs the editor. The lines and what the editor will do are
laid down beforehand, and so is what the reader of TOML says about texts that it refuses. When there
are no more lines, an empty one is read; when there are no more edits, the editor fails. A command
that fails tells what it was about and why.
-/

namespace Notekeeper

/-- What the editor does with the text it is given. -/
inductive Edit where
  | keep
  | replace (text : String)
  deriving DecidableEq, Repr

/-- The text that an edit leaves of another. -/
def Edit.apply (edit : Edit) (text : String) : String :=
  match edit with
  | keep => text
  | replace left => left

/-- What the reader of TOML says about texts that it refuses. -/
structure Complaints where
  /-- About the header of a template. -/
  header : String → String
  /-- About the file of a profile. -/
  profile : String → String

/-- A console. -/
structure Console where
  complaints : Complaints
  /-- What has been printed. -/
  printed : String := ""
  /-- The lines the user will type. -/
  typed : List String := []
  /-- The number of lines that have been asked for. -/
  asked : Nat := 0
  /-- What the editor will do, one after another. -/
  edits : List Edit := []
  /-- The texts that the editor was given. -/
  shown : List String := []

namespace Console

/-- One more text is printed. -/
def print (console : Console) (text : String) : Console :=
  { console with printed := console.printed ++ text }

/-- The next line that the user types, and the console then. -/
def readLine (console : Console) : String × Console :=
  (console.typed.headD "",
    { console with typed := console.typed.tail, asked := console.asked + 1 })

/-- The editor is given a text. -/
def hand (console : Console) (text : String) : Console :=
  { console with shown := console.shown ++ [text] }

end Console

/-- Why a command fails, at the bottom. -/
inductive Cause where
  | fault (fault : Fault)
  /-- The file of a profile is no TOML, or one of its values is of the wrong kind. The reader of TOML
  says so in its own words. -/
  | profileText (message : String)
  | told (message : String)
  deriving DecidableEq, Repr

/-- The sentence for a cause. -/
def Cause.message : Cause → String
  | fault reason => reason.message
  | profileText message => message
  | told message => message

/-- Why a command fails. -/
structure Failure where
  /-- What it was about, the most general first. -/
  contexts : List String
  cause : Cause
  deriving DecidableEq, Repr

namespace Failure

/-- A failure that tells no more than a sentence. -/
def told (message : String) : Failure := ⟨[], .told message⟩

/-- The report on a failure. -/
def message (failure : Failure) : String :=
  Text.join ": " (failure.contexts ++ [failure.cause.message])

end Failure

/-- An action on a state that may fail and then keeps the state it had reached. -/
abbrev Action (state result : Type) := EStateM Failure state result

/-- The surroundings of a running command. -/
structure Session where
  console : Console
  disk : Disk
  supply : Supply

/-- A session with an open notebook, which has the disk and the supply. -/
structure Desk where
  console : Console
  notebook : Notebook

namespace Session

/-- A text is printed. -/
def print (text : String) : Action Session Unit :=
  modify fun session => { session with console := session.console.print text }

/-- An attempt on the disk, with what it is about. -/
def onDisk {result : Type} (contexts : List String) (attempt : Attempt Disk result) :
    Action Session result := fun session =>
  match attempt session.disk with
  | .ok value disk => .ok value { session with disk := disk }
  | .error fault disk => .error ⟨contexts, .fault fault⟩ { session with disk := disk }

/-- The session after a notebook has been worked on. -/
def putBack (console : Console) (notebook : Notebook) : Session :=
  ⟨console, notebook.disk, notebook.supply⟩

/-- An action on the notebook of the settings, which is opened for it. -/
def withNotebook {result : Type} (settings : Settings) (action : Action Desk result) :
    Action Session result := fun session =>
  match Notebook.openStores (Notebook.unread settings.layout session.disk session.supply) with
  | .error fault notebook =>
      .error
        ⟨["Failed to open notebook at " ++ Text.quoted settings.home], .fault fault⟩
        (putBack session.console notebook)
  | .ok _ notebook =>
      match action ⟨session.console, notebook⟩ with
      | .ok value desk => .ok value (putBack desk.console desk.notebook)
      | .error failure desk => .error failure (putBack desk.console desk.notebook)

end Session

namespace Desk

/-- A text is printed. -/
def print (text : String) : Action Desk Unit :=
  modify fun desk => { desk with console := desk.console.print text }

/-- An attempt on the notebook, with what it is about. -/
def attempt {result : Type} (context : String) (attempt : Attempt Notebook result) :
    Action Desk result := fun desk =>
  match attempt desk.notebook with
  | .ok value notebook => .ok value { desk with notebook := notebook }
  | .error fault notebook => .error ⟨[context], .fault fault⟩ { desk with notebook := notebook }

/-- One of the stores. -/
def store (kind : StoreKind) : Action Desk Store := do
  return (← get).notebook.store kind

/-- The present day. -/
def today : Action Desk Date :=
  modifyGet fun desk =>
    let supply := desk.notebook.supply
    (supply.now.date,
      { desk with notebook := { desk.notebook with supply := supply.afterReading } })

/-- The id that a reference means. -/
def resolve (kind : StoreKind) (reference : String) : Action Desk String := do
  match (← store kind).resolve reference with
  | .ok id => return id
  | .error fault => throw (.told fault.message)

/-- The ids that several references mean. -/
def resolveAll (kind : StoreKind) (references : List String) : Action Desk (List String) := do
  match (← store kind).resolveAll references with
  | .ok ids => return ids
  | .error fault => throw (.told fault.message)

/-- The note of an id. -/
def find (kind : StoreKind) (id : String) : Action Desk Note := do
  match (← get).notebook.find kind id with
  | .ok note => return note
  | .error fault => throw ⟨["Failed to read note " ++ id], .fault fault⟩

end Desk

end Notekeeper
