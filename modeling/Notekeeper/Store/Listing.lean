import Notekeeper.Store.Basic
import Notekeeper.Text.Case
import Notekeeper.Text.Lines
import Notekeeper.Text.Word

/-!
# What a store lists

The folders, tags and context markers in use, and the notes selected by a folder, a tag or a text.
Selections compare lower-cased texts and list the highest version first.

A context marker is a word after an at sign. It does not count inside what looks like a mail
address: after a word character, or before a dot and another word character.
-/

namespace Notekeeper

namespace ContextMarker

/-- An at sign with the word that runs on from it, between the character before the sign, if any, and
the text behind the word. -/
structure Candidate where
  before : Option Char
  word : List Char
  after : List Char

/-- Whether a text goes on like the domain of a mail address. -/
def continuesDomain : List Char → Bool
  | '.' :: char :: _ => Text.isWordChar char
  | _ => false

/-- Whether a candidate is a marker, and no part of a mail address. -/
def Candidate.isMarker (candidate : Candidate) : Bool :=
  !candidate.before.any Text.isWordChar && !continuesDomain candidate.after

/-- What a marker is called: its at sign and its word, lower-cased. -/
def Candidate.name (candidate : Candidate) : String :=
  String.ofList (Text.lower ('@' :: candidate.word))

/-- The candidates of a text that stands behind a character, if any. A word runs on as far as it can,
and the next candidate is looked for behind it. -/
def candidates (before : Option Char) : List Char → List Candidate
  | [] => []
  | char :: rest =>
      let word := rest.takeWhile Text.isMarkerChar
      let after := rest.dropWhile Text.isMarkerChar
      if char = '@' ∧ word ≠ [] then
        ⟨before, word, after⟩ :: candidates word.getLast? after
      else
        candidates (some char) rest
termination_by text => text.length
decreasing_by
  · exact Nat.lt_succ_of_le (List.dropWhile_suffix _).length_le
  · exact Nat.lt_succ_self _

/-- The markers of a text, lower-cased, from left to right. -/
def list (text : String) : List String :=
  ((candidates none text.toList).filter Candidate.isMarker).map Candidate.name

end ContextMarker

namespace Note

/-- The texts of a note that a full-text search looks into. -/
def searchedTexts (note : Note) : List String :=
  [note.name, note.body, note.id, note.due, note.created, note.changed]

/-- Whether a note is in a folder, given lower-cased. -/
def isInFolder (folder : String) (note : Note) : Bool :=
  Text.lowercase note.folder == folder

/-- Whether a note carries a tag, given lower-cased. -/
def carriesTag (tag : String) (note : Note) : Bool :=
  note.tags.toList.any fun carried => Text.lowercase carried == tag

/-- Whether a note holds a text, given lower-cased. -/
def holdsText (text : String) (note : Note) : Bool :=
  note.searchedTexts.any fun searched =>
    Text.occursIn text.toList (Text.lower searched.toList)

end Note

namespace Store

/-- A set of texts from a list, in order and without the empty text. -/
def namesOf (texts : List String) : List String :=
  (Std.ExtTreeSet.ofList (texts.filter fun text => !text.isEmpty) : TextSet).toList

/-- The folders in use. -/
def folders (store : Store) : List String :=
  namesOf (store.all.map Note.folder)

/-- The tags in use. -/
def tags (store : Store) : List String :=
  namesOf (store.all.flatMap fun note => note.tags.toList)

/-- The context markers in use. -/
def contexts (store : Store) : List String :=
  (Std.ExtTreeSet.ofList (store.all.flatMap fun note => ContextMarker.list note.body) :
    TextSet).toList

/-- The ids of the notes that satisfy a condition, highest version first. -/
def select (store : Store) (condition : Note → Bool) : List String :=
  store.sortedIds.filter fun id => (store.get? id).any condition

/-- The ids of the notes in a folder. -/
def inFolder (store : Store) (folder : String) : List String :=
  store.select (Note.isInFolder (Text.lowercase folder))

/-- The ids of the notes that carry a tag. -/
def withTag (store : Store) (tag : String) : List String :=
  store.select (Note.carriesTag (Text.lowercase tag))

/-- The ids of the notes that hold a text. -/
def withText (store : Store) (text : String) : List String :=
  store.select (Note.holdsText (Text.lowercase text))

end Store

end Notekeeper
