import Notekeeper.Proofs.Query.Building
import Notekeeper.Proofs.Store.Change
import Notekeeper.Proofs.Store.Ranking
import Notekeeper.Proofs.Supply
import Notekeeper.Query.Evaluation

/-!
# Queries as conditions on notes

A query tree is a condition on a note (`Tree.holds`), and evaluating it in a keyed store is one
filter: it never fails, lists exactly the notes of which the tree is true, each once and in the order
of all listings, and marks the full texts that were looked for (`Tree.select_lists`). This holds of
whatever tree `build` makes of a query, well-formed or not (`select_of_build`).
-/

namespace Notekeeper.Query

mutual

/-- What is true of a tree as soon as it is true of the trees below its top is true of every tree. -/
@[induction_eliminator]
theorem Tree.induction {motive : Tree → Prop}
    (node : ∀ kind children, (∀ child ∈ children, motive child) → motive (.node kind children)) :
    (tree : Tree) → motive tree
  | .node kind children => node kind children (Tree.induction_each node children)

/-- What is true of a tree as soon as it is true of the trees below its top is true of some trees. -/
theorem Tree.induction_each {motive : Tree → Prop}
    (node : ∀ kind children, (∀ child ∈ children, motive child) → motive (.node kind children)) :
    (trees : List Tree) → ∀ child ∈ trees, motive child
  | [] => by simp
  | tree :: trees =>
      List.forall_mem_cons.2 ⟨Tree.induction node tree, Tree.induction_each node trees⟩

end

/-! ## The meaning of a tree -/

/-- Whether a text is found in a note by an aspect. -/
def Aspect.finds (aspect : Aspect) (text : String) (note : Note) : Bool :=
  match aspect with
  | .fulltext => note.holdsText (Text.lowercase text)
  | .folder => note.isInFolder (Text.lowercase text)
  | .tag => note.carriesTag (Text.lowercase text)

/-- The truth of an operator from that of its operands. -/
def Operator.holds : Operator → Bool → Bool → Bool
  | .and, left, right => left && right
  | .or, left, right => left || right

/-- Whether a node is true of a note, given which of its children are. -/
def Kind.holds (note : Note) (aspect : Aspect) (kind : Kind) (children : List Bool) : Bool :=
  match kind, children with
  | .text string, _ => aspect.finds string note
  | .operator joiner, left :: right :: _ => joiner.holds left right
  | .root, child :: _ => child
  | .aspect _, child :: _ => child
  | .closedGroup _, child :: _ => child
  | _, _ => false

/-- The texts to mark for a node, given those for its children. -/
def Kind.marks (aspect : Aspect) (kind : Kind) (children : List (List String)) : List String :=
  match kind, children with
  | .text string, _ => if aspect = .fulltext then [string] else []
  | .operator _, left :: right :: _ => left ++ right
  | .root, child :: _ => child
  | .aspect _, child :: _ => child
  | .closedGroup _, child :: _ => child
  | _, _ => []

mutual

/-- Whether a tree is true of a note when the nearest prefix above it names an aspect. -/
def Tree.holds (note : Note) (aspect : Aspect) : Tree → Bool
  | .node kind children => kind.holds note aspect (holdsEach note (kind.aspectBelow aspect) children)

/-- Which of some trees are true of a note. -/
def Tree.holdsEach (note : Note) (aspect : Aspect) : List Tree → List Bool
  | [] => []
  | tree :: trees => tree.holds note aspect :: holdsEach note aspect trees

end

mutual

/-- The texts that a tree looks for in the full text, from left to right, as far as they decide. -/
def Tree.marks (aspect : Aspect) : Tree → List String
  | .node kind children => kind.marks aspect (marksEach (kind.aspectBelow aspect) children)

/-- The texts that each of some trees looks for in the full text. -/
def Tree.marksEach (aspect : Aspect) : List Tree → List (List String)
  | [] => []
  | tree :: trees => tree.marks aspect :: marksEach aspect trees

end

/-! ## Evaluation -/

/-- What is found are the notes that satisfy a condition, each once and in the order of listings,
with some texts to mark. -/
structure Found.Lists (found : Found) (store : Store) (condition : Note → Bool)
    (marks : List String) : Prop where
  mem : ∀ id, id ∈ found.ids ↔ ∃ note, store.get? id = some note ∧ condition note = true
  order : found.ids.Pairwise store.Precedes
  highlights : found.highlights = marks

variable {store : Store}

/-- Finding nothing lists the notes that satisfy an impossible condition. -/
theorem lists_nothing : Found.Lists {} store (fun _ => false) [] where
  mem := by simp
  order := .nil
  highlights := rfl

/-- Ids of notes are put in the order of listings, each once. -/
theorem ranked_meets {ids : List String} (h : ∀ id ∈ ids, ∃ note, store.get? id = some note) :
    ∃ sorted, ranked store ids = .ok sorted ∧ (∀ id, id ∈ sorted ↔ id ∈ ids) ∧
      sorted.Pairwise store.Precedes := by
  have hmem (id : String) : id ∈ (Std.ExtTreeSet.ofList ids : TextSet).toList ↔ id ∈ ids := by
    rw [Std.ExtTreeSet.mem_toList, Std.ExtTreeSet.mem_ofList, List.contains_iff_mem]
  have hsorted : (Std.ExtTreeSet.ofList ids : TextSet).toList.Pairwise (· < ·) :=
    Std.ExtTreeSet.ordered_toList.imp fun hlt => compare_lt_iff.1 hlt
  obtain ⟨sorted, hsort, hids, horder⟩ :=
    Store.sort_ids_meets (fun id hid => h id ((hmem id).1 hid)) hsorted
  exact ⟨sorted, hsort, fun id => (hids id).trans (hmem id), horder⟩

/-- A text finds the notes in which it is found by the aspect. -/
theorem select_text_lists (hkeyed : store.Keyed) (aspect : Aspect) (text : String) :
    (selectText store aspect text).Lists store (aspect.finds text)
      (if aspect = .fulltext then [text] else []) := by
  cases aspect <;> exact ⟨fun id => hkeyed.mem_select, hkeyed.pairwise_select _, rfl⟩

/-- An operator selects the notes of which it is true. -/
theorem Operator.select_lists (joiner : Operator) {left right : Found}
    {condition other : Note → Bool} {marks more : List String}
    (hleft : left.Lists store condition marks) (hright : right.Lists store other more) :
    ∃ ids, ranked store (joiner.select left.ids right.ids) = .ok ids ∧
      Found.Lists ⟨ids, left.highlights ++ right.highlights⟩ store
        (fun note => joiner.holds (condition note) (other note)) (marks ++ more) := by
  have hmem (id : String) : id ∈ joiner.select left.ids right.ids ↔
      ∃ note, store.get? id = some note ∧ joiner.holds (condition note) (other note) = true := by
    cases joiner with
    | and =>
        simp only [Operator.select, List.mem_filter, List.contains_iff_mem, hleft.mem, hright.mem,
          Operator.holds, Bool.and_eq_true]
        constructor
        · rintro ⟨⟨note, hfound, hholds⟩, same, hsame, hother⟩
          obtain rfl := Option.some.inj (hfound.symm.trans hsame)
          exact ⟨note, hfound, hholds, hother⟩
        · rintro ⟨note, hfound, hholds, hother⟩
          exact ⟨⟨note, hfound, hholds⟩, note, hfound, hother⟩
    | or =>
        simp only [Operator.select, List.mem_append, hleft.mem, hright.mem, Operator.holds,
          Bool.or_eq_true]
        constructor
        · rintro (⟨note, hfound, hholds⟩ | ⟨note, hfound, hother⟩)
          · exact ⟨note, hfound, .inl hholds⟩
          · exact ⟨note, hfound, .inr hother⟩
        · rintro ⟨note, hfound, hholds | hother⟩
          · exact .inl ⟨note, hfound, hholds⟩
          · exact .inr ⟨note, hfound, hother⟩
  have hknown (id : String) (h : id ∈ joiner.select left.ids right.ids) :
      ∃ note, store.get? id = some note := by
    obtain ⟨note, hfound, -⟩ := (hmem id).1 h
    exact ⟨note, hfound⟩
  obtain ⟨ids, hranked, hids, horder⟩ := ranked_meets hknown
  exact ⟨ids, hranked, fun id => (hids id).trans (hmem id), horder,
    congrArg₂ _ hleft.highlights hright.highlights⟩

/-- Evaluating a tree in a keyed store finds the notes of which the tree is true. -/
theorem Tree.select_lists (hkeyed : store.Keyed) (tree : Tree) (aspect : Aspect) :
    ∃ found, tree.select store aspect = .ok found ∧
      found.Lists store (fun note => tree.holds note aspect) (tree.marks aspect) := by
  induction tree generalizing aspect with
  | node kind children ih =>
      match kind, children with
      | .empty, _ | .openGroup _, _ | .root, [] | .aspect _, [] | .closedGroup _, []
      | .operator _, [] | .operator _, [_] => exact ⟨{}, rfl, lists_nothing⟩
      | .text string, _ => exact ⟨_, rfl, select_text_lists hkeyed aspect string⟩
      | .closedGroup _, child :: _ => exact ih child List.mem_cons_self aspect
      | .aspect chosen, child :: _ => exact ih child List.mem_cons_self chosen
      | .root, child :: others =>
          obtain ⟨found, hselect, hlists⟩ := ih child List.mem_cons_self .fulltext
          have hknown (id : String) (h : id ∈ found.ids) : ∃ note, store.get? id = some note := by
            obtain ⟨note, hfound, -⟩ := (hlists.mem id).1 h
            exact ⟨note, hfound⟩
          obtain ⟨ids, hranked, hids, horder⟩ := ranked_meets hknown
          refine ⟨{ found with ids := ids }, ?_, fun id => (hids id).trans (hlists.mem id), horder,
            hlists.highlights⟩
          simp only [select, selectEach, Kind.select, Kind.aspectBelow, hselect, bind, Except.bind,
            hranked]
          rfl
      | .operator joiner, left :: right :: others =>
          obtain ⟨found, hselect, hlists⟩ := ih left List.mem_cons_self aspect
          obtain ⟨other, hother, hmore⟩ := ih right (by simp) aspect
          obtain ⟨ids, hranked, hjoined⟩ := joiner.select_lists hlists hmore
          refine ⟨_, ?_, hjoined⟩
          simp only [select, selectEach, Kind.select, Kind.aspectBelow, hselect, hother, bind,
            Except.bind, hranked]
          rfl

/-- Evaluating an accepted query from its root lists exactly the notes of which its tree is true,
whatever became of its groups. -/
theorem select_of_build {tokens : List Token} {arena : Arena} (hbuild : build tokens = .ok arena)
    (hkeyed : store.Keyed) :
    arena.Shows 0 arena.toTree ∧
      ∃ found, arena.toTree.select store .fulltext = .ok found ∧
        (∀ id, id ∈ found.ids ↔
          ∃ note, store.get? id = some note ∧ arena.toTree.holds note .fulltext = true) ∧
        found.ids.Nodup ∧ found.ids.Pairwise store.Precedes ∧
        found.highlights = arena.toTree.marks .fulltext := by
  obtain ⟨found, hselect, hlists⟩ := arena.toTree.select_lists hkeyed .fulltext
  exact ⟨shows_of_build hbuild, found, hselect, hlists.mem, Store.nodup_of_precedes hlists.order,
    hlists.order, hlists.highlights⟩

/-- A store with a note in a folder of its own and one in the default folder. -/
def twoNotes : Store :=
  (({} : Store).add { Note.blank .tally with id := "i", folder := "work", body := "pears" }).add
    { Note.blank .tally with id := "j", body := "plums" }

/-- The notes of the sample lie under their ids. -/
theorem two_notes_keyed : twoNotes.Keyed :=
  ((Store.keyed_of_empty rfl).add _).add _

/-- The tree of a group that became another group when it was closed. -/
def reopenedGroup : Arena :=
  ⟨#[⟨.root, none, [1]⟩, ⟨.closedGroup '"', some 0, [2, 3]⟩, ⟨.text "pears", some 1, []⟩,
    ⟨.text "plums", some 1, []⟩]⟩

/-- A group that is opened a second time after its end still counts by its first content. -/
theorem select_of_build_reopened :
    build (tokenize "(pears)\"plums\"") = .ok reopenedGroup ∧ twoNotes.Keyed ∧
      reopenedGroup.toTree.marks .fulltext = ["pears"] ∧
      reopenedGroup.Shows 0 reopenedGroup.toTree ∧
      ∃ found, reopenedGroup.toTree.select twoNotes .fulltext = .ok found ∧
        (∀ id, id ∈ found.ids ↔
          ∃ note, twoNotes.get? id = some note ∧
            reopenedGroup.toTree.holds note .fulltext = true) ∧
        found.ids.Nodup ∧ found.ids.Pairwise twoNotes.Precedes ∧
        found.highlights = reopenedGroup.toTree.marks .fulltext := by
  have hbuild : build (tokenize "(pears)\"plums\"") = .ok reopenedGroup := by decide +kernel
  exact ⟨hbuild, two_notes_keyed, by decide +kernel, select_of_build hbuild two_notes_keyed⟩

end Notekeeper.Query
