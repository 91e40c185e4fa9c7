import Notekeeper.Command.Arguments
import Notekeeper.Command.Editing

/-!
# Running commands

What each command does in a session and what it prints. `Session.run` runs a command line from the
reading of its arguments to the end.
-/

namespace Notekeeper

namespace Session

/-- The name of the profile in use: that of the file which names it, else the default. -/
def currentProfile (surroundings : Surroundings) : Action Session String := do
  if (← get).disk.holds surroundings.currentPath then
    let text ← onDisk ["Failed to read current profile"]
      (Disk.readText surroundings.currentPath)
    return Text.trimmed text
  else return Profile.defaultName

/-- The name of the profile in use, or the default if it cannot be read. -/
def currentProfileOrDefault (surroundings : Surroundings) : Action Session String := fun session =>
  match currentProfile surroundings session with
  | .ok name session => .ok name session
  | .error _ session => .ok Profile.defaultName session

/-- The profile of a name, if it has a file. -/
def readProfile (surroundings : Surroundings) (name : String) :
    Action Session (Option Profile) := do
  let path := surroundings.profilePath name
  if (← get).disk.holds path then
    let text ← onDisk ["Failed to read profile file"] (Disk.readText path)
    match Profile.ofText? text with
    | some profile => return some profile
    | none =>
        throw ⟨["Failed to deserialize profile"],
          .profileText ((← get).console.complaints.profile text)⟩
  else return none

/-- The settings of the profile of a name. -/
def settingsOf (surroundings : Surroundings) (name : String) : Action Session Settings := do
  return Settings.ofProfile surroundings name (← readProfile surroundings name)

/-- The names of all profiles that have a file, with the default, in order. -/
def profileNames (surroundings : Surroundings) : Action Session (List String) := do
  let folder := surroundings.profilesFolder
  let disk := (← get).disk
  if !disk.holds folder then return [Profile.defaultName]
  if disk.isFile folder then throw ⟨["Failed to read profiles directory"], .fault .disk⟩
  let names := (disk.listing folder).filterMap fun (file, entry) =>
    if entry = .folder then none else Profile.ofFileName? file
  return (Std.ExtTreeSet.ofList (Profile.defaultName :: names) : TextSet).toList

/-- The settings are shown. -/
def showSettings (settings : Settings) : Action Session Unit :=
  print (Display.jsonLine settings.json)

/-- A profile is made the one in use. A profile without a file is given one. -/
def useProfile (surroundings : Surroundings) (name : String) : Action Session Unit := do
  let path := surroundings.profilePath name
  if !(← get).disk.holds path then
    onDisk [] (Disk.makeFolders (Path.parent path))
    onDisk ["Failed to write profile"] (Disk.writeText path Profile.newText)
    print (Display.line ("Created new profile: " ++ name))
  onDisk ["Failed to create config directory"] (Disk.makeFolders surroundings.settingsFolder)
  onDisk ["Failed to write current profile"] (Disk.writeText surroundings.currentPath name)
  print (Display.line ("Switched to profile: " ++ name))

/-- A profile is shown in a list, with a star if it is the one in use. -/
def showInList (surroundings : Surroundings) (current name : String) : Action Session Unit := do
  let marker := if name = current then "*" else " "
  let settings ← settingsOf surroundings name
  print (Display.line (marker ++ " " ++ name ++ " (" ++ settings.home ++ ")"))

/-- All profiles are listed. -/
def listProfiles (surroundings : Surroundings) : Action Session Unit := do
  let current ← currentProfileOrDefault surroundings
  print (Display.line "Available profiles:")
  (← profileNames surroundings).forM (showInList surroundings current)

/-- The profile in use is shown. -/
def showProfile (surroundings : Surroundings) : Action Session Unit := do
  let current ← currentProfile surroundings
  let settings ← settingsOf surroundings current
  print (Display.line ("Current profile: " ++ current ++ " (" ++ settings.home ++ ")"))
  print (Display.line ("  backups:  " ++ settings.backups))
  print (Display.line ("  exchange: " ++ settings.exchange))

end Session

namespace Desk

/-- The input of a new note. -/
def newInput (fields : NoteFields) (content defaultTags : List String) (today : Date) :
    NoteInput where
  name := fields.name?.getD defaultName
  folder := fields.folder?.getD defaultFolder
  tags := Text.join "," (defaultTags ++ fields.tags?.getD [])
  body := Text.join " " content
  due := (fields.due?.map (·.timestamp today)).getD ""
  format := (fields.format?.getD .markup).inputWord

/-- The input of a note with the values that were given in place of its own. -/
def changedInput (input : NoteInput) (fields : NoteFields) (body? : Option String)
    (today : Date) : NoteInput :=
  { input with
    name := fields.name?.getD input.name
    folder := fields.folder?.getD input.folder
    tags := (fields.tags?.map (Text.join ",")).getD input.tags
    due := (fields.due?.map (·.timestamp today)).getD input.due
    format := (fields.format?.map BodyFormat.inputWord).getD input.format
    body := body?.getD input.body }

/-- The input as the user leaves it in the editor, if the editor is wanted. -/
def editIf (isInteractive : Bool) (input : NoteInput) : Action Desk NoteInput :=
  if isInteractive then editInput input else return input

/-- A number in decimal. -/
def count {item : Type} (items : List item) : String :=
  Decimal.write items.length

/-- A note is added. -/
def addNote (settings : Settings) (fields : NoteFields) (content : List String) :
    Action Desk Unit := do
  let input ← editIf fields.isInteractive
    (newInput fields content settings.defaultTags (← today))
  let id ← attempt "Failed to create note" (Notebook.create input)
  print (Display.line ("Note added successfully (" ++ id ++ ")"))

/-- A note is shown. -/
def showNote (reference : String) (format : OutputFormat) : Action Desk Unit := do
  let id ← resolve .notes reference
  print (Display.note format (← find .notes id))

/-- A note is edited. -/
def editNote (reference : String) (fields : NoteFields) (body? : Option String) :
    Action Desk Unit := do
  let id ← resolve .notes reference
  let note ← find .notes id
  let input ← editIf fields.isInteractive
    (changedInput (NoteInput.ofNote note) fields body? (← today))
  attempt "Failed to update note" (Notebook.update id input)
  print (Display.line ("Note updated (" ++ id ++ ")"))

/-- Notes of a store are listed. -/
def listNotes (kind : StoreKind) (arguments : ListArguments) : Action Desk Unit := do
  match (← store kind).listNotes arguments.folder? arguments.tag? arguments.limit? with
  | .ok notes => print (Display.notes arguments.format notes [])
  | .error fault => throw ⟨["Failed to sort notes"], .fault fault⟩

/-- A store is searched. -/
def searchNotes (kind : StoreKind) (arguments : SearchArguments) : Action Desk Unit := do
  let store ← store kind
  let found := Query.search store (Text.join " " arguments.query)
  print
    (Display.notes arguments.format (store.fetch arguments.limit? found.ids) found.highlights)

/-- Something is done to the notes that references mean, and reported. -/
def forNotes (references : List String) (context : String)
    (change : List String → Attempt Notebook Unit) (report : List String → String) :
    Action Desk Unit := do
  let ids ← resolveAll .notes references
  attempt context (change ids)
  print (Display.line (report ids))

/-- Notes are deleted. -/
def deleteNotes (references : List String) : Action Desk Unit :=
  forNotes references "Failed to move notes to trash" Notebook.delete fun ids =>
    "Moved " ++ count ids ++ " note(s) to trash"

/-- Notes are given a tag. -/
def addTag (tag : String) (references : List String) : Action Desk Unit :=
  forNotes references "Failed to add tag" (Notebook.addTag · tag) fun ids =>
    "Tagged " ++ count ids ++ " note(s) with '" ++ tag ++ "'"

/-- Notes lose a tag. -/
def removeTag (tag : String) (references : List String) : Action Desk Unit :=
  forNotes references "Failed to remove tag" (Notebook.removeTag · tag) fun ids =>
    "Removed tag '" ++ tag ++ "' from " ++ count ids ++ " note(s)"

/-- Notes are put into a folder. -/
def moveNotes (folder : String) (references : List String) : Action Desk Unit :=
  forNotes references "Failed to move notes" (Notebook.moveTo · folder) fun ids =>
    "Moved " ++ count ids ++ " note(s) to '" ++ folder ++ "'"

/-- The reminders of notes are dismissed. -/
def dismissReminders (references : List String) : Action Desk Unit :=
  forNotes references "Failed to dismiss reminders" Notebook.dismissReminders fun ids =>
    "Dismissed " ++ count ids ++ " reminder(s)"

/-- Names are listed. -/
def listNames (list : NameList) (format : OutputFormat) : Action Desk Unit := do
  let store ← store .notes
  let names :=
    match list with
    | .folders => store.folders
    | .tags => store.tags
    | .contexts => store.contexts
  print (Display.names format names)

/-- The virtual folders are listed. -/
def listVirtualFolders (format : OutputFormat) : Action Desk Unit := do
  let folders ← attempt "Failed to read virtual folders" Notebook.virtualFolders
  print (Display.virtualFolders format folders)

/-- The notes of a virtual folder are shown. -/
def showVirtualFolder (name : String) (format : OutputFormat) : Action Desk Unit := do
  match ← attempt "Failed to read virtual folders" (Notebook.virtualFolder name) with
  | some found =>
      print (Display.notes format ((← store .notes).fetch none found.ids) found.highlights)
  | none => throw (.told ("Virtual folder not found: " ++ name))

/-- The exchange package of the notebook. -/
def packagePath : Action Desk String := do
  return (← get).notebook.layout.packagePath

/-- The notes are exported. -/
def exportNotes : Action Desk Unit := do
  attempt "Failed to export" Notebook.exportPackage
  print (Display.line ("Exported to " ++ (← packagePath)))

/-- What a merge did, in words. -/
def mergeReport (report : Sync.Report) : String :=
  Display.line
      ("Imported " ++ count report.imported ++ " new, " ++ count report.updated ++ " updated, " ++
        count report.conflicts ++ " conflicted, " ++ count report.trashed ++ " trashed") ++
    String.join (report.conflicts.map fun (id, copy) =>
      Display.line ("Conflict on " ++ id ++ ", local copy kept as " ++ copy)) ++
    if report.trashBackups.isEmpty then ""
    else
      Display.line
        ("Backed up " ++ count report.trashBackups ++
          " remotely changed note(s) into the trash")

/-- A package is imported. -/
def importNotes (replaces : Bool) : Action Desk Unit := do
  let mode := if replaces then ImportMode.replace else ImportMode.merge
  match ← attempt "Failed to import" (Notebook.importPackage mode) with
  | some report => print (mergeReport report)
  | none => print (Display.line ("Replaced local notes with " ++ (← packagePath)))

end Desk

namespace Command

/-- What a command does with an open notebook, `none` for a command that opens none. -/
def onDesk? (settings : Settings) : Command → Option (Action Desk Unit)
  | addNote fields content => some (Desk.addNote settings fields content)
  | showNote reference format => some (Desk.showNote reference format)
  | editNote reference fields body? => some (Desk.editNote reference fields body?)
  | listNotes arguments => some (Desk.listNotes .notes arguments)
  | searchNotes arguments => some (Desk.searchNotes .notes arguments)
  | deleteNotes references => some (Desk.deleteNotes references)
  | addTag tag references => some (Desk.addTag tag references)
  | removeTag tag references => some (Desk.removeTag tag references)
  | moveNotes folder references => some (Desk.moveNotes folder references)
  | dismissReminders references => some (Desk.dismissReminders references)
  | listTrash arguments => some (Desk.listNotes .trash arguments)
  | searchTrash arguments => some (Desk.searchNotes .trash arguments)
  | listNames list format => some (Desk.listNames list format)
  | listVirtualFolders format => some (Desk.listVirtualFolders format)
  | showVirtualFolder name format => some (Desk.showVirtualFolder name format)
  | exportNotes => some Desk.exportNotes
  | importNotes replaces => some (Desk.importNotes replaces)
  | showSettings | useProfile _ | listProfiles | showProfile => none

/-- What a command does. -/
def run (surroundings : Surroundings) (settings : Settings) (command : Command) :
    Action Session Unit :=
  match command with
  | showSettings => Session.showSettings settings
  | useProfile name => Session.useProfile surroundings name
  | listProfiles => Session.listProfiles surroundings
  | showProfile => Session.showProfile surroundings
  | _ =>
      match command.onDesk? settings with
      | some action => Session.withNotebook settings action
      | none => return ()

end Command

namespace Invocation

/-- The name of the profile to be used. -/
def profileName (invocation : Invocation) (surroundings : Surroundings) :
    Action Session String :=
  match invocation.profile?.or surroundings.profile? with
  | some name => return name
  | none => Session.currentProfileOrDefault surroundings

/-- The settings of an invocation. -/
def settings (invocation : Invocation) (surroundings : Surroundings) :
    Action Session Settings := do
  Session.settingsOf surroundings (← invocation.profileName surroundings)

end Invocation

/-- How the running of a command line ends. -/
inductive Outcome where
  | done
  /-- The command line names no command. -/
  | noCommand
  /-- The arguments do not give a command to run. -/
  | stopped (reason : Usage.Stop)
  | failed (failure : Failure)
  deriving DecidableEq, Repr

namespace Session

/-- A command line is run. -/
def run (surroundings : Surroundings) (arguments : List String) (session : Session) :
    Outcome × Session :=
  match Invocation.ofArguments arguments with
  | .error reason => (.stopped reason, session)
  | .ok invocation =>
      match invocation.command? with
      | none => (.noCommand, session)
      | some command =>
          let action := do command.run surroundings (← invocation.settings surroundings)
          match action session with
          | .ok _ session => (.done, session)
          | .error failure session => (.failed failure, session)

end Session

end Notekeeper
