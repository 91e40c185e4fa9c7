import Notekeeper.Query.Evaluation

/-!
# Virtual folders

A virtual folder is a saved search. The note named `configName` defines them, one on each line of
the form keyword, name and query with a separator between them; its other lines are free text. A
store without such a note is given one with an explanation and an example.
-/

namespace Notekeeper

/-- The virtual folders by their names, with their queries. -/
abbrev VirtualFolders := Std.ExtTreeMap String String

namespace VirtualFolders

/-- The name of the note that defines virtual folders. -/
def configName : String := "_wool_config"

/-- The word that begins the line of a virtual folder. -/
def keyword : List Char := "virtualfolder".toList

/-- What stands between the parts of such a line. -/
def separator : List Char := "====".toList

/-- The body of the configuration note that a store is given. -/
def defaultBody : String :=
"
**wool configuration**

Lines this note doesn't recognise are ignored.

**Virtual folders**
A virtual folder is a saved search, evaluated whenever the folder is opened.
Define one per line as `virtualfolder`, the folder name and the query,
separated by `====` and with nothing before `virtualfolder`. Example:

virtualfolder====Work reports====(folder:(work)) and (\"report\")

**Search queries**
fulltext: folder: tag: select what the following search string is matched
against. Plain text is a fulltext search over name, body, id and dates.
( ) \" ' enclose a search string or a nested query.
and, or join exactly two enclosed queries: ((a) and (b)) or (c)
Control words are lower case; matching is case-insensitive.

"

/-- The name and the query that a line defines. -/
def definition? (line : List Char) : Option (String × String) := do
  let (first, rest) ← Text.cut? separator line
  let (name, query) ← Text.cut? separator rest
  guard (first = keyword)
  return (String.ofList name, String.ofList query)

/-- The virtual folders that a text defines. Of two definitions of a name the later one counts. -/
def ofText (body : String) : VirtualFolders :=
  ((Text.split '\n' body.toList).filterMap definition?).foldl
    (fun folders (name, query) => folders.insert name query) ∅

/-- The configuration note of a store; of several the one of the lowest version. -/
def configNote? (store : Store) : Option Note :=
  store.sortedNotes.reverse.find? fun note => note.name == configName

/-- The configuration note that a store without one is given. -/
def defaultNote (supply : Supply) : Note :=
  { Note.blank supply with name := configName, body := defaultBody }

/-- The virtual folders of a store, with the store and the supply after a configuration note has
been added where there was none. -/
def ofStore (store : Store) (supply : Supply) : VirtualFolders × Store × Supply :=
  match configNote? store with
  | some note => (ofText note.body, store, supply)
  | none => (ofText defaultBody, store.add (defaultNote supply), supply.afterBlank)

/-- What a virtual folder holds of a store, `none` if there is no such folder. -/
def evaluate? (folders : VirtualFolders) (name : String) (store : Store) :
    Option Query.Found :=
  (Std.ExtTreeMap.get? folders name).map fun query => Query.search store query

end VirtualFolders

end Notekeeper
