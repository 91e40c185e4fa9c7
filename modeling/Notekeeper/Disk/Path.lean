import Notekeeper.Text.Lines

/-!
# Paths

A path is a text of names with slashes between them. An empty name and a single dot stay in the
folder they are met in, two dots lead back to the folder above, every other name leads into what
bears it. Where a path leads depends on the folders that exist, so that is told by a disk; here are
the rules that concern the text of a path alone.
-/

namespace Notekeeper

/-- The names from the root of the disk to a file or folder. -/
abbrev Place := List String

namespace Path

/-- The most octets a name may have. -/
def longestName : Nat := 255

/-- The most octets a path may have. -/
def longestPath : Nat := 4095

/-- Whether a text can be a path at all. -/
def isValid (path : String) : Bool :=
  path != "" && !path.toList.contains '\x00' && decide (path.utf8ByteSize ≤ longestPath)

/-- The names in a path, those included that lead nowhere. -/
def names (path : String) : List String :=
  Text.splitAt '/' path

/-- Whether a path begins at the root. -/
def isAbsolute (path : String) : Bool :=
  path.startsWith "/"

/-- Whether a name stays in the folder it is met in. -/
def isIdle (name : String) : Bool :=
  name == "" || name == "."

/-- The path of a name inside a folder. A name that begins with a slash is a path of its own. -/
def join (folder name : String) : String :=
  if isAbsolute name then name
  else if folder.isEmpty ∨ folder.endsWith "/" then folder ++ name
  else folder ++ "/" ++ name

/-- The path of the folder in which the last name of a path is met, without idle names at its end.
It is empty for a path of one name. -/
def parent (path : String) : String :=
  let above := (((names path).reverse.dropWhile isIdle).drop 1).dropWhile isIdle
  Text.join "/" above.reverse

end Path

end Notekeeper
