import Notekeeper.Proofs.Query.Expression
import Notekeeper.Proofs.Query.Shape
import Notekeeper.Proofs.Text.Pieces

/-!
# Stretches of a query

A `Stretch` is a piece of a query in which every group that is opened is closed: blanks, operators,
prefixes and groups in any order, and a text without quotation marks at the end. It need not make
sense; the well-formed queries are among the stretches (`Expression.chars_to_stretch`). It is read as
its tokens wherever it stands (`Stretch.run_chars`), and these are built into the tree that is told by
going through it once (`Stretch.extend`, `Stretch.read_tokens`). Searching for a stretch finds the
notes of which its tree is true (`Stretch.search_lists`).
-/

namespace Notekeeper.Query

/-- A text without quotation marks, which goes on to the next closing parenthesis: it does not begin
like anything else. -/
structure Bare where
  first : Char
  more : List Char
  enclosed : ')' ∉ first :: more
  not_blank : first ≠ ' ' ∧ first ≠ '\t'
  not_opening : closingMark? first = none
  not_keyword : keyword? (first :: more) = none

mutual

/-- A quoted text, or a stretch in parentheses. -/
inductive Group where
  | quoted (phrase : Phrase)
  | parenthesized (inner : Stretch)

/-- A piece of a query in which every group that is opened is closed. -/
inductive Stretch where
  | done
  | bare (text : Bare)
  | blank (rest : Stretch)
  | joiner (joiner : Operator) (rest : Stretch)
  | marker (chosen : Aspect) (rest : Stretch)
  | group (first : Group) (rest : Stretch)

end

/-- Some blanks before a stretch. -/
def Stretch.blanks (rest : Stretch) : Nat → Stretch
  | 0 => rest
  | count + 1 => .blank (rest.blanks count)

mutual

/-- The characters of a group. -/
def Group.chars : Group → List Char
  | .quoted phrase => phrase.quote.mark :: (phrase.text.toList ++ [phrase.quote.mark])
  | .parenthesized inner => '(' :: (inner.chars ++ [')'])

/-- The characters of a stretch. -/
def Stretch.chars : Stretch → List Char
  | .done => []
  | .bare text => text.first :: text.more
  | .blank rest => ' ' :: rest.chars
  | .joiner joiner rest => joiner.word.toList ++ rest.chars
  | .marker chosen rest => chosen.marker.toList ++ rest.chars
  | .group first rest => first.chars ++ rest.chars

end

/-- A stretch as it is written. -/
def Stretch.print (stretch : Stretch) : String :=
  String.ofList stretch.chars

mutual

/-- The tokens of a group. -/
def Group.tokens : Group → List Token
  | .quoted phrase =>
      [.opening phrase.quote.mark, .text phrase.text, .closing phrase.quote.mark]
  | .parenthesized inner => .opening '(' :: (inner.tokens ++ [.closing ')'])

/-- The tokens of a stretch. -/
def Stretch.tokens : Stretch → List Token
  | .done => []
  | .bare text => [.text (String.ofList (text.first :: text.more))]
  | .blank rest => rest.tokens
  | .joiner joiner rest => .operator joiner :: rest.tokens
  | .marker chosen rest => .aspect chosen :: rest.tokens
  | .group first rest => first.tokens ++ rest.tokens

end

/-! ## Well-formed queries -/

mutual

/-- An operand of a well-formed query as a group. -/
def Atom.toGroup : Atom → Group
  | .quoted phrase => .quoted phrase
  | .group inner => .parenthesized inner.toStretch
  | .governed chosen blanks inner =>
      .parenthesized (.marker chosen ((Stretch.group inner.toGroup .done).blanks blanks))

/-- A well-formed query as a stretch. -/
def Expression.toStretch : Expression → Stretch
  | .atom atom => .group atom.toGroup .done
  | .joined left joiner right =>
      .group left.toGroup (.blank (.joiner joiner (.blank right.toStretch)))

end

/-- The characters of some blanks before a stretch. -/
theorem Stretch.chars_blanks (rest : Stretch) (count : Nat) :
    (rest.blanks count).chars = List.replicate count ' ' ++ rest.chars := by
  induction count with
  | zero => rfl
  | succ count ih => rw [blanks, chars, ih, List.replicate_succ, List.cons_append]

mutual

/-- An operand is written like the group that it is. -/
theorem Atom.chars_to_group : (atom : Atom) → atom.toGroup.chars = atom.chars
  | .quoted _ => rfl
  | .group inner => by
      rw [Atom.toGroup, Group.chars, inner.chars_to_stretch, Atom.chars]
  | .governed chosen blanks inner => by
      simp only [Atom.toGroup, Group.chars, Stretch.chars, Stretch.chars_blanks,
        inner.chars_to_group, Atom.chars, List.append_assoc, List.append_nil]

/-- A well-formed query is written like the stretch that it is. -/
theorem Expression.chars_to_stretch : (query : Expression) → query.toStretch.chars = query.chars
  | .atom atom => by
      rw [Expression.toStretch, Stretch.chars, atom.chars_to_group, Stretch.chars, List.append_nil,
        Expression.chars]
  | .joined left joiner right => by
      simp only [Expression.toStretch, Stretch.chars, left.chars_to_group, right.chars_to_stretch,
        Expression.chars]

end

/-! ## Reading the characters -/

/-- What follows ends the text that is being read: the query, or the parenthesis around it. What is
awaited before it, its characters and its tokens. -/
inductive Ends : List Char → List Char → List Token → Prop where
  | query : Ends [] [] []
  | parenthesis (awaiting rest : List Char) :
      Ends (')' :: awaiting) (')' :: rest) (.closing ')' :: (between awaiting).run rest)

namespace Ends

variable {awaiting rest : List Char} {tail : List Token}

/-- No quotation mark is awaited. -/
theorem enclosed (h : Ends awaiting rest tail) : Enclosed awaiting := by
  cases h with
  | query => exact nofun
  | parenthesis awaiting _ => exact enclosed_cons awaiting

/-- The text that has been read is a token, and the tokens of the end follow. -/
theorem run (h : Ends awaiting rest tail) (reading : Option (List Char)) :
    (⟨awaiting, reading, 0⟩ : Scanner).run rest = Scanner.pending ⟨awaiting, reading, 0⟩ ++ tail := by
  cases h with
  | query => exact (List.append_nil _).symm
  | parenthesis => simp [Scanner.run, Scanner.next, between]

/-- A keyword does not reach beyond the end of a text. -/
theorem keyword_append (h : Ends awaiting rest tail) {text : List Char} (hnone : keyword? text = none) :
    keyword? (text ++ rest) = none := by
  cases h with
  | query => rwa [List.append_nil]
  | parenthesis _ rest =>
      rw [keyword?, List.find?_eq_none] at hnone ⊢
      intro entry hentry hbegins
      rw [List.isPrefixOf_iff_prefix] at hbegins
      apply hnone entry hentry
      rw [List.isPrefixOf_iff_prefix]
      have hword : ')' ∉ entry.1 := by
        have hall : ∀ entry ∈ keywords, ')' ∉ entry.1 := by decide
        exact hall entry hentry
      -- A keyword that is longer than the text would take in the parenthesis.
      rcases Text.prefix_append_cases hbegins with hbegins | ⟨more, heq, hmore⟩
      · exact hbegins
      · rcases List.prefix_cons_iff.1 hmore with rfl | ⟨last, rfl, -⟩
        · rw [heq, List.append_nil]
        · exact absurd (heq ▸ List.mem_append_right _ List.mem_cons_self) hword

end Ends

/-- A text without quotation marks is read up to the end. -/
theorem Bare.run_chars {awaiting rest : List Char} {tail : List Token} (h : Ends awaiting rest tail)
    (text : Bare) :
    (between awaiting).run (text.first :: (text.more ++ rest)) =
      .text (String.ofList (text.first :: text.more)) :: tail := by
  obtain ⟨first, more, henclosed, hblank, hopening, hkeyword⟩ := text
  have hother (char : Char) (hmem : char ∈ first :: more) : awaiting.head? ≠ some char :=
    h.enclosed.ne fun heq => henclosed (heq ▸ hmem)
  have hnone := h.keyword_append hkeyword
  -- The first character begins the text, since nothing else begins here; the others are collected.
  have hbegun : (between awaiting).run (first :: (more ++ rest)) =
      (⟨awaiting, some [first], 0⟩ : Scanner).run (more ++ rest) := by
    rw [List.cons_append] at hnone
    simp [Scanner.run, Scanner.next, between, hother first List.mem_cons_self, hblank, hnone, hopening]
  rw [hbegun, run_collected fun char hmem => hother char (List.mem_cons_of_mem _ hmem), h.run,
    pending_of_ne_nil (by simp)]
  simp

mutual

/-- The characters of a group are read as its tokens. -/
theorem Group.run_chars {awaiting : List Char} (h : Enclosed awaiting) (rest : List Char) :
    (group : Group) → (between awaiting).run (group.chars ++ rest) =
      group.tokens ++ (between awaiting).run rest
  | .quoted phrase => by
      have hphrase := run_phrase h phrase rest
      simpa [Group.chars, Group.tokens] using hphrase
  | .parenthesized inner => by
      have hinner := inner.run_chars (.parenthesis awaiting rest)
      simp only [Group.chars, Group.tokens, List.cons_append, List.append_assoc, List.nil_append,
        run_parenthesis h, hinner]

/-- The characters of a stretch are read as its tokens, wherever it ends. -/
theorem Stretch.run_chars {awaiting rest : List Char} {tail : List Token}
    (h : Ends awaiting rest tail) : (stretch : Stretch) →
    (between awaiting).run (stretch.chars ++ rest) = stretch.tokens ++ tail
  | .done => h.run none
  | .bare text => text.run_chars h
  | .blank stretch => (run_blank h.enclosed).trans (stretch.run_chars h)
  | .joiner joiner stretch => by
      rw [Stretch.chars, Stretch.tokens, List.append_assoc, run_joiner h.enclosed,
        stretch.run_chars h, List.cons_append]
  | .marker chosen stretch => by
      rw [Stretch.chars, Stretch.tokens, List.append_assoc, run_marker h.enclosed,
        stretch.run_chars h, List.cons_append]
  | .group first stretch => by
      rw [Stretch.chars, Stretch.tokens, List.append_assoc, first.run_chars h.enclosed,
        stretch.run_chars h, List.append_assoc]

end

/-- A stretch that is written out is read as its tokens. -/
theorem Stretch.tokenize_print (stretch : Stretch) : tokenize stretch.print = stretch.tokens := by
  have hread := stretch.run_chars .query
  rw [List.append_nil, List.append_nil] at hread
  rw [tokenize, print, String.toList_ofList]
  exact hread

/-! ## Building the tree -/

namespace Outline

/-- The tree of a subtree and the levels above it, without the root. -/
def gather (inner : Tree) : List Level → Tree
  | [] => inner
  | level :: levels => gather (level.around inner) levels

/-- The whole tree is the gathered one under the root. -/
theorem whole_eq (outline : Outline) :
    outline.whole = .node .root [gather outline.focus outline.levels] := by
  obtain ⟨focus, levels⟩ := outline
  induction levels generalizing focus with
  | nil => rfl
  | cons level levels ih => exact ih (level.around focus)

/-- No group is open where neither the current node nor a level is an open group. -/
theorem opened_eq_nil_iff {outline : Outline} : outline.opened = [] ↔
    outline.focus.kind.openMark? = none ∧ ∀ level ∈ outline.levels, level.kind.openMark? = none := by
  rw [opened, List.append_eq_nil_iff, List.filterMap_eq_nil_iff]
  cases outline.focus.kind.openMark? <;> simp

/-- Another current node that is no open group opens none. -/
theorem opened_settled {focus : Tree} {levels : List Level} (h : (Outline.mk focus levels).opened = [])
    {kind : Kind} (hkind : kind.openMark? = none) (children : List Tree) :
    (Outline.mk (.node kind children) levels).opened = [] :=
  opened_eq_nil_iff.2 ⟨hkind, (opened_eq_nil_iff.1 h).2⟩

/-- One more level that is no open group opens none. -/
theorem opened_deeper {focus : Tree} {levels : List Level} (h : (Outline.mk focus levels).opened = [])
    {level : Level} (hlevel : level.kind.openMark? = none) :
    (Outline.mk (.node .empty []) (level :: levels)).opened = [] :=
  opened_eq_nil_iff.2 ⟨rfl, List.forall_mem_cons.2 ⟨hlevel, (opened_eq_nil_iff.1 h).2⟩⟩

/-- What is above the nearest open group is gathered in it when it is closed. -/
theorem close_gather {focus : Tree} {inner : List Level} (h : (Outline.mk focus inner).opened = [])
    (mark : Char) (children : List Tree) (levels : List Level) :
    close focus (inner ++ ⟨.openGroup mark, children⟩ :: levels) =
      some ⟨.node (.closedGroup mark) (children ++ [gather focus inner]), levels⟩ := by
  induction inner generalizing focus with
  | nil =>
      obtain ⟨kind, below⟩ := focus
      have hother (same : Char) : kind ≠ .openGroup same := by
        rintro rfl
        cases h
      exact (close_cons hother below _ levels).trans (close_open mark _ levels)
  | cons level inner ih =>
      obtain ⟨kind, below⟩ := focus
      have hnone : kind.openMark? = none := (opened_eq_nil_iff.1 h).1
      have hother (same : Char) : kind ≠ .openGroup same := by
        rintro rfl
        cases hnone
      rw [opened_around hnone] at h
      exact (close_cons hother below level _).trans (ih h)

/-- A closing mark closes the nearest open group, with what is above it gathered. -/
theorem read_closing {focus : Tree} {inner : List Level} (h : (Outline.mk focus inner).opened = [])
    (mark partner : Char) (children : List Tree) (levels : List Level) :
    (Outline.mk focus (inner ++ ⟨.openGroup mark, children⟩ :: levels)).read [.closing partner] =
      some ⟨.node (.closedGroup mark) (children ++ [gather focus inner]), levels⟩ := by
  have hclose := close_gather h mark children levels
  have hstep : (Outline.mk focus (inner ++ ⟨.openGroup mark, children⟩ :: levels)).step
      (.closing partner) = _ := hclose
  exact read_cons hstep []

end Outline

/-- The mark that opens a group. -/
def Group.mark : Group → Char
  | .quoted phrase => phrase.quote.mark
  | .parenthesized _ => '('

mutual

/-- The tree of what stands in a group. -/
def Group.inside : Group → Tree
  | .quoted phrase => .node (.text phrase.text) []
  | .parenthesized inner =>
      let filled := inner.extend .start
      Outline.gather filled.focus filled.levels

/-- The outline behind a stretch. A group comes after the children that the current node has
already. -/
def Stretch.extend : Stretch → Outline → Outline
  | .done, outline => outline
  | .bare text, outline =>
      ⟨.node (.text (String.ofList (text.first :: text.more))) outline.focus.children,
        outline.levels⟩
  | .blank rest, outline => rest.extend outline
  | .joiner joiner rest, outline =>
      rest.extend ⟨.node .empty [], ⟨.operator joiner, [outline.focus]⟩ :: outline.levels⟩
  | .marker chosen rest, outline => rest.extend (outline.descend (.aspect chosen))
  | .group first rest, outline =>
      rest.extend ⟨.node (.closedGroup first.mark) (outline.focus.children ++ [first.inside]),
        outline.levels⟩

end

/-- The tree of a group in an empty place. -/
def Group.tree (group : Group) : Tree :=
  .node (.closedGroup group.mark) [group.inside]

/-- The tree of a stretch that is a whole query. -/
def Stretch.tree (stretch : Stretch) : Tree :=
  (stretch.extend .start).whole

/-- What is above the levels in which a stretch stands does not matter to it. -/
theorem Stretch.extend_append (focus : Tree) (inner levels : List Level) : (stretch : Stretch) →
    stretch.extend ⟨focus, inner ++ levels⟩ =
      ⟨(stretch.extend ⟨focus, inner⟩).focus, (stretch.extend ⟨focus, inner⟩).levels ++ levels⟩
  | .done | .bare _ => rfl
  | .blank rest => rest.extend_append focus inner levels
  | .joiner word rest => rest.extend_append _ (⟨.operator word, [focus]⟩ :: inner) levels
  | .marker chosen rest => rest.extend_append _ (⟨.aspect chosen, focus.children⟩ :: inner) levels
  | .group _ rest => rest.extend_append _ inner levels

/-- A stretch leaves no group open. -/
theorem Stretch.opened_extend {focus : Tree} {levels : List Level}
    (h : (Outline.mk focus levels).opened = []) : (stretch : Stretch) →
    (stretch.extend ⟨focus, levels⟩).opened = []
  | .done => h
  | .bare _ => Outline.opened_settled h rfl _
  | .blank rest => rest.opened_extend h
  | .joiner _ rest => rest.opened_extend (Outline.opened_deeper h rfl)
  | .marker _ rest => rest.opened_extend (Outline.opened_deeper h rfl)
  | .group _ rest => rest.opened_extend (Outline.opened_settled h rfl _)

mutual

/-- The tokens of a group are built in as one more child of the current node. -/
theorem Group.read_tokens (outline : Outline) : (group : Group) →
    outline.read group.tokens =
      some ⟨.node (.closedGroup group.mark) (outline.focus.children ++ [group.inside]),
        outline.levels⟩
  | .quoted phrase => by
      have hsettled : (Outline.mk (.node (.text phrase.text) []) []).opened = [] := rfl
      exact Outline.read_closing hsettled phrase.quote.mark phrase.quote.mark outline.focus.children
        outline.levels
  | .parenthesized inner => by
      have hopening : outline.step (.opening '(') = some (outline.descend (.openGroup '(')) := rfl
      have hinner := inner.read_tokens (outline.descend (.openGroup '('))
      -- Inside the group the stretch is built in as from the start, above the levels outside it.
      have hframe := inner.extend_append (.node .empty []) []
        (⟨.openGroup '(', outline.focus.children⟩ :: outline.levels)
      have hsettled : Outline.start.opened = [] := rfl
      have hclosing := Outline.read_closing (inner.opened_extend hsettled) '(' ')'
        outline.focus.children outline.levels
      rw [Group.tokens, Outline.read_cons hopening, Outline.read_append, hinner, Option.bind_some]
      exact (congrArg (fun reached => reached.read [.closing ')']) hframe).trans hclosing

/-- The tokens of a stretch are built in. -/
theorem Stretch.read_tokens (outline : Outline) : (stretch : Stretch) →
    outline.read stretch.tokens = some (stretch.extend outline)
  | .done | .bare _ => rfl
  | .blank rest => rest.read_tokens outline
  | .joiner joiner rest => rest.read_tokens _
  | .marker chosen rest => rest.read_tokens _
  | .group first rest => by
      rw [Stretch.tokens, Outline.read_append, first.read_tokens outline, Option.bind_some,
        rest.read_tokens, Stretch.extend]

end

/-! ## Searching -/

variable {store : Store}

/-- Whether an id is found can be computed from the note under it. -/
theorem Found.Lists.mem_iff_any {found : Found} {condition : Note → Bool} {marks : List String}
    (h : found.Lists store condition marks) (id : String) :
    id ∈ found.ids ↔ (store.get? id).any condition = true := by
  rw [h.mem, Option.any_eq_true]

/-- What is found in one order of listings and by one condition is found in one way. -/
theorem Found.Lists.eq {found other : Found} {condition same : Note → Bool} {marks : List String}
    (h : found.Lists store condition marks) (hother : other.Lists store same marks)
    (hsame : ∀ note, condition note = same note) : found = other := by
  obtain rfl : condition = same := funext hsame
  obtain ⟨ids, highlights⟩ := found
  obtain ⟨others, more⟩ := other
  obtain rfl : ids = others :=
    Store.eq_of_precedes h.order hother.order fun id => (h.mem id).trans (hother.mem id).symm
  obtain rfl : highlights = more := h.highlights.trans hother.highlights.symm
  rfl

/-- Searching for a written stretch finds the notes of which its tree is true. -/
theorem Stretch.search_lists (hkeyed : store.Keyed) (stretch : Stretch)
    (hdepth : stretch.tree.depth ≤ maxDepth) :
    (search store stretch.print).Lists store (fun note => stretch.tree.holds note .fulltext)
      (stretch.tree.marks .fulltext) := by
  have hread := stretch.read_tokens .start
  rw [← stretch.tokenize_print] at hread
  obtain ⟨arena, htree, -, hbuild⟩ := build_of_read hread
  have hshallow : ¬ maxDepth < (stretch.extend .start).whole.depth := Nat.not_lt.2 hdepth
  rw [if_neg hshallow] at hbuild
  obtain ⟨found, hselect, hlists⟩ := arena.toTree.select_lists hkeyed .fulltext
  have hsearch : search store stretch.print = found := by
    simp only [search, hbuild, hselect]
  have harena : arena.toTree = stretch.tree := htree
  rw [harena] at hlists
  exact hsearch ▸ hlists

end Notekeeper.Query
