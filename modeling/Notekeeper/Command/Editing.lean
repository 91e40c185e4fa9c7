import Notekeeper.Command.Session

/-!
# Editing a note in the editor

The editor is run on the template of a note. When what it leaves is no template, the user is told
why and may give up; otherwise the editor is run again on what was left, under a report.
-/

namespace Notekeeper

namespace Console

/-- What the user is told and asked about a text that is no template. -/
def question (report : String) : String :=
  "Error parsing note: " ++ report ++ "\n\n" ++
    "Your changes have been preserved in the editor.\n" ++
    "Do you want to:\n" ++
    "  [R]etry (re-open editor with your changes)\n" ++
    "  [A]bort (discard changes)\n" ++
    "Choice (R/a): "

/-- Whether an answer gives the edit up. -/
def givesUp (answer : String) : Bool :=
  Text.lowercase (Text.trimmed answer) == "a"

/-- The editor is run on a text, with some edits to come, until it leaves a template. -/
def editUntilRead (text : String) : List Edit → Action Console Template
  | [] => fun console => .error (.told "Editor returned non-zero exit code") (console.hand text)
  | edit :: edits => fun console =>
      let handed := { console.hand text with edits := edits }
      let left := edit.apply text
      match Template.parse console.complaints.header left with
      | .ok template => .ok template handed
      | .error fault =>
          let (answer, asked) := (handed.print (question fault.headline)).readLine
          if givesUp answer then .error (.told "User aborted edit") asked
          else editUntilRead (Template.withReport fault.headline left) edits asked

/-- A text is edited until it is a template. -/
def edit (text : String) : Action Console Template := fun console =>
  editUntilRead text console.edits console

end Console

namespace Desk

/-- An action on the console. -/
def onConsole {result : Type} (action : Action Console result) : Action Desk result := fun desk =>
  match action desk.console with
  | .ok value console => .ok value { desk with console := console }
  | .error failure console => .error failure { desk with console := console }

/-- The input that the user makes of another in the editor. -/
def editInput (input : NoteInput) : Action Desk NoteInput := do
  let template ← onConsole (Console.edit (Template.ofInput input).render)
  match template.applyTo input (← today) with
  | .ok edited => return edited
  | .error fault => throw (.told (DueDate.faultMessage fault))

end Desk

end Notekeeper
