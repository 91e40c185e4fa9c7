import Notekeeper.Query.Arena
import Notekeeper.Store.Listing

/-!
# Evaluating a query

A query tree selects notes of a store. A text selects by the aspect that the nearest prefix above it
names, full text without one; operators intersect and unite what their operands select; groups and
prefixes select what their content does. Places that were never filled and groups that were never
closed select nothing.

The result lists ids by version, highest first, and the texts that were matched with the full text,
for marking them where notes are shown.
-/

namespace Notekeeper.Query

/-- What a query finds. -/
structure Found where
  /-- The ids of the notes, highest version first. -/
  ids : List String := []
  /-- The texts to mark, from left to right. -/
  highlights : List String := []
  deriving DecidableEq, Repr

/-- Ids without repetition, highest version first. -/
def ranked (store : Store) (ids : List String) : Except Fault (List String) :=
  store.sortIds (Std.ExtTreeSet.ofList ids : TextSet).toList

/-- What a text selects by an aspect. -/
def selectText (store : Store) (aspect : Aspect) (text : String) : Found :=
  match aspect with
  | .fulltext => ⟨store.withText text, [text]⟩
  | .folder => ⟨store.inFolder text, []⟩
  | .tag => ⟨store.withTag text, []⟩

/-- The ids an operator selects from those of its operands. -/
def Operator.select : Operator → List String → List String → List String
  | .and, left, right => left.filter fun id => right.contains id
  | .or, left, right => left ++ right

/-- The aspect that texts below a node are matched with. -/
def Kind.aspectBelow (kind : Kind) (aspect : Aspect) : Aspect :=
  match kind with
  | .root => .fulltext
  | .aspect chosen => chosen
  | _ => aspect

/-- What a node selects, given what its children select. -/
def Kind.select (store : Store) (aspect : Aspect) (kind : Kind)
    (children : List (Except Fault Found)) : Except Fault Found :=
  match kind, children with
  | .text string, _ => .ok (selectText store aspect string)
  | .root, child :: _ => do
      let found ← child
      return { found with ids := ← ranked store found.ids }
  | .operator joiner, left :: right :: _ => do
      let left ← left
      let right ← right
      let ids ← ranked store (joiner.select left.ids right.ids)
      return ⟨ids, left.highlights ++ right.highlights⟩
  | .aspect _, child :: _ => child
  | .closedGroup _, child :: _ => child
  | _, _ => .ok {}

mutual

/-- What a tree selects when the nearest prefix above it names an aspect. -/
def Tree.select (store : Store) (aspect : Aspect) : Tree → Except Fault Found
  | .node kind children =>
      kind.select store aspect (selectEach store (kind.aspectBelow aspect) children)

/-- What each of some trees selects. -/
def Tree.selectEach (store : Store) (aspect : Aspect) : List Tree → List (Except Fault Found)
  | [] => []
  | tree :: trees => tree.select store aspect :: selectEach store aspect trees

end

/-- What a query finds in a store; a query that is rejected finds nothing. -/
def search (store : Store) (query : String) : Found :=
  match build (tokenize query) with
  | .ok arena =>
      match arena.toTree.select store .fulltext with
      | .ok found => found
      | .error _ => {}
  | .error _ => {}

end Notekeeper.Query
