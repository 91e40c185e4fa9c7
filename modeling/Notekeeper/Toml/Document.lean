import Notekeeper.Toml.Quoting
import Notekeeper.Toml.Scalar

/-!
# TOML documents

A document is read line by line (`readDocument`). A line is empty, opens a table, or gives a key its
value; comments may end any line. A value may run over several lines if it is an array or a string
that allows it. A document that is wrong anywhere is refused as a whole.

Collections may be nested `depthLimit` deep, and a dotted key has at most as many names.
-/

namespace Notekeeper.Toml

/-- Blanks inside a line. -/
def isSpace (char : Char) : Bool :=
  char == ' ' || char == '\t'

/-- A text without the blanks it begins with. -/
def skipSpaces (text : List Char) : List Char :=
  text.dropWhile isSpace

/-- What follows the end of a line. -/
def lineEnd? : List Char → Option (List Char)
  | [] => some []
  | '\n' :: rest => some rest
  | '\r' :: '\n' :: rest => some rest
  | _ => none

/-- A text without the comment it begins with. -/
def skipComment : List Char → List Char
  | '#' :: rest => rest.dropWhile isPlain
  | text => text

/-- What follows a line of which nothing but blanks and a comment is left. -/
def closeLine? (text : List Char) : Option (List Char) :=
  lineEnd? (skipComment (skipSpaces text))

/-- A text without the blanks, line ends and comments it begins with. -/
def skipGaps (inComment : Bool) : List Char → List Char
  | [] => []
  | '\r' :: '\n' :: rest => skipGaps false rest
  | char :: rest =>
      if char = '\n' then skipGaps false rest
      else if inComment then if isPlain char then skipGaps true rest else char :: rest
      else if isSpace char then skipGaps false rest
      else if char = '#' then skipGaps true rest
      else char :: rest

/-- The greatest depth of nested collections, and the greatest number of names in a dotted key. -/
def depthLimit : Nat := 79

/-- The characters of names without quotation marks. -/
def isNameChar (char : Char) : Bool :=
  char.isAlphanum || char == '_' || char == '-'

/-- A name. -/
def readName : Reader String
  | '"' :: rest => (readBasic rest).map fun (chars, rest) => (String.ofList chars, rest)
  | '\'' :: rest => (readLiteral rest).map fun (chars, rest) => (String.ofList chars, rest)
  | text =>
      match text.takeWhile isNameChar with
      | [] => none
      | chars => some (String.ofList chars, text.drop chars.length)

/-- Names with points between them. -/
def readNames (text : List Char) : Option (List String × List Char) := do
  let (name, rest) ← readName (skipSpaces text)
  match skipSpaces rest with
  | '.' :: rest =>
      if rest.length < text.length then
        let (names, rest) ← readNames rest
        return (name :: names, rest)
      else none
  | rest => return ([name], rest)
  termination_by text.length

/-- A key as the names before its last, and its last name. -/
def readKey : Reader (List String × String) := fun text => do
  let (names, rest) ← readNames text
  let last ← names.getLast?
  if names.length ≤ depthLimit then return ((names.dropLast, last), rest) else none

/-- A key with its value. -/
def readPair (readValue : Reader Value) : Reader ((List String × String) × Value) := fun text => do
  let (key, rest) ← readKey text
  let (_, rest) ← readWord "=" rest
  let (value, rest) ← readValue (skipSpaces rest)
  return ((key, value), skipSpaces rest)

/-- The items of an array, behind the opening bracket. -/
def readItems (readValue : Reader Value) (text : List Char) :
    Option (List Value × List Char) :=
  match skipGaps false text with
  | ']' :: rest => some ([], rest)
  | start => do
      let (value, rest) ← readValue start
      match skipGaps false rest with
      | ']' :: rest => return ([value], rest)
      | ',' :: rest =>
          if rest.length < text.length then
            let (values, rest) ← readItems readValue rest
            return (value :: values, rest)
          else none
      | _ => none
  termination_by text.length

/-- The pairs of a table in braces, behind the opening brace; it must not be empty. -/
def readPairs (readValue : Reader Value) (text : List Char) :
    Option (List ((List String × String) × Value) × List Char) := do
  let (pair, rest) ← readPair readValue text
  match rest with
  | '\x7d' :: rest => return ([pair], rest)
  | ',' :: rest =>
      if rest.length < text.length then
        let (pairs, rest) ← readPairs readValue rest
        return (pair :: pairs, rest)
      else none
  | _ => none
  termination_by text.length

/-- The table of some pairs. -/
def tableOf? (pairs : List ((List String × String) × Value)) : Option Value :=
  (pairs.foldlM
    (fun entries pair => assign pair.1.1 pair.1.2 pair.2 .stated entries) ([] : Entries)).map
      (.table .inline)

/-- A table in braces, behind the opening brace. -/
def readInline (readValue : Reader Value) : Reader Value := fun text =>
  match skipSpaces text with
  | '\x7d' :: rest => some (.table .inline [], rest)
  | start => do
      let (pairs, rest) ← readPairs readValue start
      return (← tableOf? pairs, rest)

/-- A string or a scalar. -/
def readAtom : Reader Value := fun text =>
  match readText text with
  | some (chars, rest) => some (.text (String.ofList chars), rest)
  | none => readScalar text

/-- A value in which collections are nested up to a depth. -/
def readValue : Nat → Reader Value
  | 0 => readAtom
  | depth + 1 => fun text =>
      match text with
      | '[' :: rest => do
          let (values, rest) ← readItems (readValue depth) rest
          return (.array values, rest)
      | '\x7b' :: rest => readInline (readValue depth) rest
      | _ => readAtom text

/-- What a line says. -/
inductive Line where
  | empty
  /-- The header of a table, as the path to it and its key. -/
  | table (path : List String) (key : String)
  /-- The header of one more table of a series. -/
  | series (path : List String) (key : String)
  | pair (path : List String) (key : String) (value : Value)
  deriving Repr

/-- A line, with its end. A value that runs over several lines belongs to the line it begins on. -/
def readLine : Reader Line := fun text =>
  match skipSpaces text with
  | '[' :: '[' :: rest => do
      let ((path, key), rest) ← readKey rest
      let (_, rest) ← readWord "]]" rest
      return (.series path key, ← closeLine? rest)
  | '[' :: rest => do
      let ((path, key), rest) ← readKey rest
      let (_, rest) ← readWord "]" rest
      return (.table path key, ← closeLine? rest)
  | start =>
      match closeLine? start with
      | some rest => some (.empty, rest)
      | none => do
          let (((path, key), value), rest) ← readPair (readValue depthLimit) start
          return (.pair path key value, ← closeLine? rest)

/-- A document of which some lines have been read. -/
structure Document where
  entries : Entries := []
  /-- The path of the table whose header was last. -/
  current : List String := []
  deriving Repr

/-- One more line. -/
def Document.add? (document : Document) : Line → Option Document
  | .empty => some document
  | .table path key => do
      return ⟨← openTable path key .stated document.entries, path ++ [key]⟩
  | .series path key => do
      return ⟨← openSeries path key .stated document.entries, path ++ [key]⟩
  | .pair path key value => do
      let change := alter .implied document.current (assign path key value)
      return { document with entries := ← change .stated document.entries }

/-- All lines of a text. -/
def readLines (document : Document) (text : List Char) : Option Document :=
  if text.isEmpty then some document
  else do
    let (line, rest) ← readLine text
    let document ← document.add? line
    if rest.length < text.length then readLines document rest else none
  termination_by text.length

/-- The entries of a document. A byte-order mark at its beginning does not count. -/
def readDocument (text : String) : Option Entries :=
  let chars :=
    match text.toList with
    | '\uFEFF' :: rest => rest
    | chars => chars
  (readLines {} chars).map Document.entries

end Notekeeper.Toml
