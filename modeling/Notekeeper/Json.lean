import Notekeeper.Number.Decimal

/-!
# JSON

Values of JSON and their text on indented lines, two blanks for each level. Objects keep the order
of their members. Empty arrays and objects stay on one line.
-/

namespace Notekeeper

/-- A value. -/
inductive Json where
  | text (content : String)
  | boolean (value : Bool)
  | integer (number : Int)
  | array (items : List Json)
  | object (members : List (String × Json))

namespace Json

/-- A control as its code in four hexadecimal digits. -/
def controlEscape (char : Char) : List Char :=
  "\\u00".toList ++ (if char.toNat < 16 then ['0'] else []) ++ Nat.toDigits 16 char.toNat

/-- A character inside quotation marks. -/
def escaped (char : Char) : List Char :=
  if char = '"' then ['\\', '"']
  else if char = '\\' then ['\\', '\\']
  else if char = '\x08' then ['\\', 'b']
  else if char = '\x0c' then ['\\', 'f']
  else if char = '\n' then ['\\', 'n']
  else if char = '\r' then ['\\', 'r']
  else if char = '\t' then ['\\', 't']
  else if char.toNat < 32 then controlEscape char
  else [char]

/-- A text in quotation marks. -/
def quoted (content : String) : String :=
  String.ofList ('"' :: content.toList.flatMap escaped ++ ['"'])

/-- The beginning of a line at a level. -/
def indentation (level : Nat) : String :=
  String.ofList (List.replicate (2 * level) ' ')

/-- The items of a collection at a level, each on lines of its own one level deeper. -/
def enclosed (opening closing : String) (level : Nat) (items : List String) : String :=
  if items.isEmpty then opening ++ closing
  else
    opening ++ "\n" ++ indentation (level + 1) ++
      (",\n" ++ indentation (level + 1)).intercalate items ++ "\n" ++ indentation level ++ closing

mutual

/-- The text of a value that stands at a level. -/
def renderAt (level : Nat) : Json → String
  | text content => quoted content
  | boolean value => if value then "true" else "false"
  | integer number => Decimal.write number
  | array items => enclosed "[" "]" level (renderItems (level + 1) items)
  | object members => enclosed "\x7b" "\x7d" level (renderMembers (level + 1) members)

/-- The texts of the items of an array. -/
def renderItems (level : Nat) : List Json → List String
  | [] => []
  | item :: items => renderAt level item :: renderItems level items

/-- The texts of the members of an object. -/
def renderMembers (level : Nat) : List (String × Json) → List String
  | [] => []
  | (key, value) :: members =>
      (quoted key ++ ": " ++ renderAt level value) :: renderMembers level members

end

/-- The text of a value. -/
def render (value : Json) : String :=
  renderAt 0 value

/-- A list of texts. -/
def ofTexts (texts : List String) : Json :=
  array (texts.map text)

end Json

end Notekeeper
