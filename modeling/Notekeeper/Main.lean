import Notekeeper.Command.Help
import Notekeeper.Command.Run
import Std.Time.Zoned

/-!
# The program

The program takes the folders that a command may need from the real disk, runs the command on them,
and writes what the command changed. A command is run with all that it needs from outside laid down
beforehand. When it turns out to need more, such as a fresh token, a line from the user or an edit,
that is fetched and the command is run again from the beginning with the same clock and tokens, so
that it comes to the same point.
-/

namespace Notekeeper.Program

/-! ### The disk -/

/-- The real path of a place. -/
def realPath (place : Place) : String :=
  "/" ++ Text.join "/" place

/-- What is on the real disk at a place and below it, put on a disk. -/
partial def loadBelow (place : Place) (disk : Disk) : IO Disk := do
  let file := System.mkFilePath [realPath place]
  if ← file.isDir then
    let mut disk := disk.putFolder place
    for entry in ← file.readDir do
      disk ← loadBelow (place ++ [entry.fileName]) disk
    return disk
  else if ← file.pathExists then
    return disk.putFile place (← IO.FS.readBinFile file)
  else return disk

/-- What is on the real disk at a path and below it, with the folders that the path leads through,
put on a disk. -/
def load (path : String) (disk : Disk) : IO Disk := do
  let mut place := disk.startOf path
  let mut disk := disk
  for name in Path.names path do
    if name = ".." then place := place.dropLast
    else if !Path.isIdle name then place := place ++ [name]
    if place != [] then
      if ← (System.mkFilePath [realPath place]).isDir then disk := disk.putFolder place
  if place = [] then return disk else loadBelow place disk

/-- A disk with nothing on it but the folder of the program. -/
def blankDisk : IO Disk := do
  let folder ← IO.currentDir
  let here := (Path.names folder.toString).filter (!Path.isIdle ·)
  let disk := { Disk.empty with here := here }
  return (List.range here.length).foldl
    (fun disk above => disk.putFolder (here.take (above + 1))) disk

/-- What a command changed is written to the real disk. -/
def commit (before after : Disk) : IO Unit :=
  after.entries.toList.forM fun (place, entry) => do
    if before.entries[place]? ≠ some entry then
      match entry with
      | .folder => IO.FS.createDirAll (realPath place)
      | .file octets => IO.FS.writeBinFile (realPath place) octets

/-! ### What comes from outside -/

/-- A fresh token. -/
def randomToken : IO String := do
  let octets ← IO.getRandomBytes 32
  let digit (value : Nat) : Char := (Nat.digitChar value).toUpper
  return String.ofList
    (octets.toList.flatMap fun octet => [digit (octet.toNat / 16), digit (octet.toNat % 16)])

/-- The local time. -/
def present : IO Moment := do
  let time ← Std.Time.PlainDateTime.now
  return ⟨⟨time.date.year.toInt, time.date.month.toNat, time.date.day.toNat⟩,
    time.time.hour.toNat, time.time.minute.toNat, time.time.second.toNat⟩

/-- The folder that a variable names, or one below the home of the user. -/
def folderFrom (key below : String) : IO String := do
  match ← IO.getEnv key with
  | some folder => return folder
  | none => return Path.join ((← IO.getEnv "HOME").getD ".") below

/-- The surroundings. -/
def surroundings : IO Surroundings := do
  return ⟨← folderFrom "XDG_CONFIG_HOME" ".config", ← folderFrom "XDG_DATA_HOME" ".local/share",
    ← IO.getEnv "WOOL_PROFILE"⟩

/-- The user is asked to edit a text in a file; `none` if there is nobody to do so. -/
def askForEdit (text : String) : IO (Option Edit) := do
  let (handle, file) ← IO.FS.createTempFile
  handle.putStr text
  handle.flush
  IO.eprintln ("Edit " ++ file.toString ++ ", save it and press Enter")
  let answer ← (← IO.getStdin).getLine
  let left ← IO.FS.readFile file
  IO.FS.removeFile file
  return if answer.isEmpty then none else some (.replace left)

/-- What the user is told about a text that is no TOML. The reader here gives no more of a reason. -/
def complaints : Complaints where
  header := fun _ => "The header is not valid TOML"
  profile := fun _ => "The profile is not valid TOML"

/-! ### Running a command -/

/-- What a command is given beforehand. -/
structure Script where
  tokens : Array String
  moment : Moment
  typed : List String := []
  edits : List Edit := []

/-- The session for a script. -/
def Script.session (script : Script) (disk : Disk) : Session where
  console := { complaints := complaints, typed := script.typed, edits := script.edits }
  disk := disk
  supply := ⟨fun number => script.tokens.getD number "", fun _ => script.moment, 0, 0⟩

/-- A command line is run until it needs nothing more. The first characters that it prints, so many
as are given, have been shown already. -/
partial def perform (surroundings : Surroundings) (arguments : List String) (disk : Disk)
    (script : Script) (known : Nat) : IO (Outcome × Session) := do
  let (outcome, session) := Session.run surroundings arguments (script.session disk)
  if script.tokens.size < session.supply.tokensTaken then
    let mut tokens := script.tokens
    for _ in [0:session.supply.tokensTaken] do
      tokens := tokens.push (← randomToken)
    perform surroundings arguments disk { script with tokens := tokens } known
  else
    let output ← IO.getStdout
    output.putStr (String.ofList (session.console.printed.toList.drop known))
    output.flush
    let known := session.console.printed.length
    if script.typed.length < session.console.asked then
      let answer ← (← IO.getStdin).getLine
      perform surroundings arguments disk { script with typed := script.typed ++ [answer] } known
    else if script.edits.length < session.console.shown.length then
      match ← askForEdit (session.console.shown.getLastD "") with
      | some edit =>
          perform surroundings arguments disk { script with edits := script.edits ++ [edit] } known
      | none => return (outcome, session)
    else return (outcome, session)

/-- The paths that a command may need: the settings, and the folders of the notebook. -/
def rootsOf (surroundings : Surroundings) (arguments : List String) (session : Session) :
    List String :=
  match Invocation.ofArguments arguments with
  | .error _ => []
  | .ok invocation =>
      match invocation.settings surroundings session with
      | .ok settings _ => [settings.home, settings.backups, settings.exchange]
      | .error _ _ => []

/-- The end of a command is reported. The result is the exit code. -/
def report (outcome : Outcome) : IO UInt32 := do
  match outcome with
  | .done => return 0
  | .noCommand | .stopped .help =>
      IO.print Invocation.help
      return 0
  | .stopped .version =>
      IO.println (Invocation.program ++ " " ++ Invocation.version)
      return 0
  | .stopped reason =>
      IO.eprintln ("error: " ++ reason.message)
      return 2
  | .failed failure =>
      IO.eprintln ("Error: " ++ failure.message)
      return 1

end Notekeeper.Program

open Notekeeper Program in
/-- The program. -/
def main (arguments : List String) : IO UInt32 := do
  let surroundings ← Program.surroundings
  let script : Script := { tokens := #[], moment := ← present }
  let settings ← load surroundings.settingsFolder (← blankDisk)
  let folders := rootsOf surroundings arguments (script.session settings)
  let disk ← folders.foldlM (fun disk folder => load folder disk) settings
  let (outcome, session) ← perform surroundings arguments disk script 0
  commit disk session.disk
  report outcome
