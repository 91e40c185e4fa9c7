/-!
# TOML values

The values of a TOML document. A table remembers how it was written, since that decides what may
still be added to it: `Value.alter` follows a path of keys from a table and makes the tables that
are missing on the way.
-/

namespace Notekeeper.Toml

/-- How a table was written. -/
inductive Origin where
  /-- Under a header of its own. -/
  | stated
  /-- On the way of a header to a deeper table. -/
  | implied
  /-- On the way of a dotted key. -/
  | dotted
  /-- In braces, which complete it. -/
  | inline
  deriving DecidableEq, Repr

/-- A value of a document. -/
inductive Value where
  | text (content : String)
  | integer (number : Int)
  /-- A floating-point number, as it is written. -/
  | float (written : String)
  | boolean (value : Bool)
  /-- A date, a time or both, as they are written. -/
  | moment (written : String)
  | array (items : List Value)
  | table (origin : Origin) (entries : List (String × Value))
  /-- The tables of a header in double brackets, in order. -/
  | series (tables : List (List (String × Value)))
  deriving Repr

/-- The entries of a table in the order in which they were written. -/
abbrev Entries := List (String × Value)

namespace Entries

/-- The value of a key. -/
def get? (entries : Entries) (key : String) : Option Value :=
  (entries.find? fun entry => entry.1 == key).map Prod.snd

/-- The entries with another value for a key that they have. -/
def replace (entries : Entries) (key : String) (value : Value) : Entries :=
  entries.map fun entry => if entry.1 == key then (key, value) else entry

/-- The entries with the value of a key put in, at the end if the key is new. -/
def put (entries : Entries) (key : String) (value : Value) : Entries :=
  if (entries.get? key).isSome then entries.replace key value else entries ++ [(key, value)]

/-- The entries with a new key; `none` if they have it already. -/
def add? (entries : Entries) (key : String) (value : Value) : Option Entries :=
  if (entries.get? key).isSome then none else some (entries ++ [(key, value)])

end Entries

/-- A change of a table, given how the table was written; `none` if it is not allowed. -/
abbrev Change := Origin → Entries → Option Entries

/-- A change inside the value of a key on a path. A missing table is made, in the way of the path;
of a series the last table is meant. A table in braces is closed, and a dotted key does not lead
into a table that has its own header. -/
def enter (made : Origin) (key : String) (change : Change) (entries : Entries) :
    Option Entries :=
  match entries.get? key with
  | none => (change made []).map fun inner => entries.put key (.table made inner)
  | some (.table origin inner) =>
      if origin = .inline ∨ (made = .dotted ∧ origin = .stated) then none
      else (change origin inner).map fun changed => entries.put key (.table origin changed)
  | some (.series tables) =>
      match tables.getLast? with
      | some last =>
          (change .stated last).map fun changed =>
            entries.put key (.series (tables.dropLast ++ [changed]))
      | none => none
  | some _ => none

/-- A change of the table that a path leads to. -/
def alter (made : Origin) : List String → Change → Change
  | [], change => change
  | key :: path, change => fun _ entries => enter made key (alter made path change) entries

/-- A key with a value is put into the table that a dotted path leads to. Only tables that dotted
keys have made can be extended by dotted keys. -/
def assign (path : List String) (key : String) (value : Value) : Change :=
  alter .dotted path fun origin entries =>
    if (origin == .dotted) == path.isEmpty then none else entries.add? key value

/-- The table of a header is opened: it is new, or was implied by a deeper header. -/
def openTable (path : List String) (key : String) : Change :=
  alter .implied path fun _ entries =>
    match entries.get? key with
    | none => some (entries.put key (.table .stated []))
    | some (.table .implied inner) => some (entries.put key (.table .stated inner))
    | some _ => none

/-- One more table is added to the series of a header in double brackets. -/
def openSeries (path : List String) (key : String) : Change :=
  alter .implied path fun _ entries =>
    match entries.get? key with
    | none => some (entries.put key (.series [[]]))
    | some (.series tables) => some (entries.put key (.series (tables ++ [[]])))
    | some _ => none

/-- The text of a key, empty without the key; `none` for a value that is no text. -/
def Entries.textOrEmpty? (entries : Entries) (key : String) : Option String :=
  match entries.get? key with
  | none => some ""
  | some (.text content) => some content
  | some _ => none

/-- The text of a key, if the key is there; `none` for a value that is no text. -/
def Entries.optionalText? (entries : Entries) (key : String) : Option (Option String) :=
  match entries.get? key with
  | none => some none
  | some (.text content) => some (some content)
  | some _ => none

/-- The content of a text. -/
def Value.text? : Value → Option String
  | .text content => some content
  | _ => none

/-- The list of texts of a key, empty without the key; `none` for any other value. -/
def Entries.texts? (entries : Entries) (key : String) : Option (List String) :=
  match entries.get? key with
  | none => some []
  | some (.array items) => items.mapM Value.text?
  | some _ => none

end Notekeeper.Toml
