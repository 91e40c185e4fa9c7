import Notekeeper.Store.Listing

/-!
# Selecting notes by folder and tag, and by the beginning of an id

What a user asks a store for outside of queries: the notes of a folder, of a tag or of both, the
highest version first, and the note whose id begins with some characters.
-/

namespace Notekeeper

/-- Why some characters do not tell which note is meant. -/
inductive ReferenceFault where
  | unknown (reference : String)
  /-- Several ids begin with them. -/
  | ambiguous (reference : String)
  deriving DecidableEq, Repr

/-- The sentence a fault is reported with. -/
def ReferenceFault.message : ReferenceFault → String
  | unknown reference => (Fault.notFound reference).message
  | ambiguous reference => "Ambiguous note id: " ++ reference

namespace Store

/-- The id that is meant: the characters themselves if they are an id, else the only id that begins
with them in upper case. No characters mean no note. -/
def resolve (store : Store) (reference : String) : Except ReferenceFault String :=
  if store.contains reference then .ok reference
  else
    let beginning := (Text.uppercase reference).toList
    match store.ids.filter fun id => beginning.isPrefixOf id.toList with
    | [id] => if reference.isEmpty then .error (.unknown reference) else .ok id
    | [] => .error (.unknown reference)
    | _ :: _ :: _ => .error (.ambiguous reference)

/-- The ids that are meant by several references. -/
def resolveAll (store : Store) : List String → Except ReferenceFault (List String)
  | [] => .ok []
  | reference :: references => do
      let id ← store.resolve reference
      let ids ← store.resolveAll references
      return id :: ids

/-- The notes of some ids, at most as many as a limit allows. -/
def fetch (store : Store) (limit? : Option Nat) (ids : List String) : List Note :=
  let notes := ids.filterMap store.get?
  match limit? with
  | some limit => notes.take limit
  | none => notes

/-- The notes of a folder and of a tag, as far as they are given, highest version first. -/
def listNotes (store : Store) (folder? tag? : Option String) (limit? : Option Nat) :
    Except Fault (List Note) :=
  let ids :=
    match folder? with
    | some folder => store.inFolder folder
    | none => store.ids
  let narrowed :=
    match tag? with
    | some tag =>
        let tagged : TextSet := Std.ExtTreeSet.ofList (store.withTag tag)
        ids.filter tagged.contains
    | none => ids
  (store.sortIds narrowed).map (store.fetch limit?)

end Store

end Notekeeper
