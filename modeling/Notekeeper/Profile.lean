import Notekeeper.Json
import Notekeeper.Notebook.Layout
import Notekeeper.Text.Blank
import Notekeeper.Toml.Document

/-!
# Profiles

A profile names the folders of a notebook and the tags that new notes get. It lives in a file of its
own; what it leaves open is filled in from the folders for settings and data that the surroundings
give (`Settings`).
-/

namespace Notekeeper

/-- What the surroundings give. -/
structure Surroundings where
  /-- The folder for settings. -/
  config : String
  /-- The folder for data. -/
  data : String
  /-- The name of a profile to be used where the command line gives none. -/
  profile? : Option String := none
  deriving DecidableEq, Repr

/-- What the file of a profile gives. -/
structure Profile where
  home? : Option String := none
  backups? : Option String := none
  exchange? : Option String := none
  defaultTags : List String := []
  deriving DecidableEq, Repr

namespace Profile

/-- The name of the profile that is used when none has been chosen. -/
def defaultName : String := "default"

/-- The profile that the text of a file gives. -/
def ofText? (text : String) : Option Profile := do
  let entries ← Toml.readDocument text
  return {
    home? := ← entries.optionalText? "db_dir"
    backups? := ← entries.optionalText? "backup_dir"
    exchange? := ← entries.optionalText? "exchange_dir"
    defaultTags := ← entries.texts? "default_tags" }

/-- The text of the file of a new profile. -/
def newText : String := "default_tags = []\n"

/-- The ending of the files of profiles. -/
def ending : String := ".toml"

/-- The name of the profile that a file of this name gives; `none` for other files. A name that is
nothing but the ending has no ending. -/
def ofFileName? (file : String) : Option String :=
  let chars := file.toList
  let size := chars.length - ending.length
  if ending.toList.isSuffixOf chars ∧ size ≠ 0 then some (String.ofList (chars.take size))
  else none

end Profile

namespace Surroundings

/-- The folder of the settings of this program. -/
def settingsFolder (surroundings : Surroundings) : String :=
  Path.join surroundings.config "wool"

/-- The file that names the profile in use. -/
def currentPath (surroundings : Surroundings) : String :=
  Path.join surroundings.settingsFolder "current"

/-- The folder of the files of profiles. -/
def profilesFolder (surroundings : Surroundings) : String :=
  Path.join surroundings.settingsFolder "profiles"

/-- The file of a profile. -/
def profilePath (surroundings : Surroundings) (name : String) : String :=
  Path.join surroundings.profilesFolder (name ++ Profile.ending)

/-- The usual home of the notebook of a profile. -/
def usualHome (surroundings : Surroundings) (name : String) : String :=
  Path.join (Path.join (Path.join surroundings.data "wool") "profiles") name

end Surroundings

/-- The settings a command works with. -/
structure Settings where
  profile : String
  profilePath : String
  /-- Whether the profile has a file. -/
  hasProfile : Bool
  home : String
  backups : String
  exchange : String
  defaultTags : List String
  deriving DecidableEq, Repr

namespace Settings

/-- The settings of a profile of a name, with or without a file. -/
def ofProfile (surroundings : Surroundings) (name : String) (profile? : Option Profile) :
    Settings :=
  let profile := profile?.getD {}
  let home := profile.home?.getD (surroundings.usualHome name)
  { profile := name
    profilePath := surroundings.profilePath name
    hasProfile := profile?.isSome
    home := home
    backups := profile.backups?.getD (Path.join home "backup")
    exchange := profile.exchange?.getD (Path.join home "exchange")
    defaultTags := profile.defaultTags }

/-- The layout of the notebook. -/
def layout (settings : Settings) : Layout where
  home := settings.home
  backups := settings.backups
  exchange := settings.exchange

/-- The settings in JSON. -/
def json (settings : Settings) : Json :=
  .object
    [("profile_name", .text settings.profile), ("profile_path", .text settings.profilePath),
      ("profile_exists", .boolean settings.hasProfile), ("db_dir", .text settings.home),
      ("backup_dir", .text settings.backups), ("exchange_dir", .text settings.exchange),
      ("default_tags", .ofTexts settings.defaultTags)]

end Settings

end Notekeeper
