import Notekeeper.Proofs.Query.Evaluation

/-!
# Well-formed queries

A well-formed query is an `Expression`: quoted texts, groups and prefixes in parentheses, joined by
operators. It says of a note what its grammar suggests (`Expression.holds`). Written out and searched
for, it finds exactly the notes of which it says so (`search_print`), since it is read as its tokens
(`Expression.run_chars`), and these are built into its tree (`Expression.read_tokens`).
-/

namespace Notekeeper.Query

/-- The two quotation marks. -/
inductive Quote where
  | single
  | double
  deriving DecidableEq, Repr

/-- The character a quotation mark is. -/
def Quote.mark : Quote → Char
  | single => '\''
  | double => '"'

/-- A text between quotation marks, which do not stand in it. -/
structure Phrase where
  quote : Quote
  text : String
  nonempty : text ≠ ""
  enclosed : quote.mark ∉ text.toList

mutual

/-- An operand of a query. -/
inductive Atom where
  /-- A text to search for. -/
  | quoted (phrase : Phrase)
  /-- A query in parentheses. -/
  | group (inner : Expression)
  /-- A prefix and what it governs, with some blanks between them, in parentheses. -/
  | governed (chosen : Aspect) (blanks : Nat) (inner : Atom)

/-- A query: one operand, or an operand joined to the rest of the query. -/
inductive Expression where
  | atom (atom : Atom)
  | joined (left : Atom) (joiner : Operator) (right : Expression)

end

/-! ## What a query says and how it is written -/

mutual

/-- Whether an operand is true of a note when the nearest prefix around it names an aspect. -/
def Atom.holds (note : Note) (aspect : Aspect) : Atom → Bool
  | .quoted phrase => aspect.finds phrase.text note
  | .group inner => inner.holds note aspect
  | .governed chosen _ inner => inner.holds note chosen

/-- Whether a query is true of a note when the nearest prefix around it names an aspect. -/
def Expression.holds (note : Note) (aspect : Aspect) : Expression → Bool
  | .atom atom => atom.holds note aspect
  | .joined left joiner right => joiner.holds (left.holds note aspect) (right.holds note aspect)

end

mutual

/-- The characters of an operand. -/
def Atom.chars : Atom → List Char
  | .quoted phrase => phrase.quote.mark :: (phrase.text.toList ++ [phrase.quote.mark])
  | .group inner => '(' :: (inner.chars ++ [')'])
  | .governed chosen blanks inner =>
      '(' :: (chosen.marker.toList ++ (List.replicate blanks ' ' ++ (inner.chars ++ [')'])))

/-- The characters of a query, with single spaces around the operators. -/
def Expression.chars : Expression → List Char
  | .atom atom => atom.chars
  | .joined left joiner right => left.chars ++ ' ' :: (joiner.word.toList ++ ' ' :: right.chars)

end

/-- A query as it is written. -/
def Expression.print (query : Expression) : String :=
  String.ofList query.chars

mutual

/-- The tokens of an operand. -/
def Atom.tokens : Atom → List Token
  | .quoted phrase =>
      [.opening phrase.quote.mark, .text phrase.text, .closing phrase.quote.mark]
  | .group inner => .opening '(' :: (inner.tokens ++ [.closing ')'])
  | .governed chosen _ inner => .opening '(' :: .aspect chosen :: (inner.tokens ++ [.closing ')'])

/-- The tokens of a query. -/
def Expression.tokens : Expression → List Token
  | .atom atom => atom.tokens
  | .joined left joiner right => left.tokens ++ .operator joiner :: right.tokens

end

mutual

/-- The tree of an operand. -/
def Atom.tree : Atom → Tree
  | .quoted phrase => .node (.closedGroup phrase.quote.mark) [.node (.text phrase.text) []]
  | .group inner => .node (.closedGroup '(') [inner.tree]
  | .governed chosen _ inner => .node (.closedGroup '(') [.node (.aspect chosen) [inner.tree]]

/-- The tree of a query. -/
def Expression.tree : Expression → Tree
  | .atom atom => atom.tree
  | .joined left joiner right => .node (.operator joiner) [left.tree, right.tree]

end

/-- The tree of a query under the root. -/
def Expression.whole (query : Expression) : Tree :=
  .node .root [query.tree]

mutual

/-- The tree of an operand says what the operand says. -/
theorem Atom.holds_tree (note : Note) (aspect : Aspect) : (atom : Atom) →
    atom.tree.holds note aspect = atom.holds note aspect
  | .quoted _ => rfl
  | .group inner => inner.holds_tree note aspect
  | .governed chosen _ inner => inner.holds_tree note chosen

/-- The tree of a query says what the query says. -/
theorem Expression.holds_tree (note : Note) (aspect : Aspect) : (query : Expression) →
    query.tree.holds note aspect = query.holds note aspect
  | .atom atom => atom.holds_tree note aspect
  | .joined left joiner right => by
      have hleft := left.holds_tree note aspect
      have hright := right.holds_tree note aspect
      simp only [Expression.tree, Expression.holds, Tree.holds, Tree.holdsEach, Kind.aspectBelow,
        Kind.holds, hleft, hright]

end

/-! ## Reading the characters -/

/-- A closing parenthesis is awaited next, if anything. -/
def Enclosed (awaiting : List Char) : Prop :=
  ∀ mark, awaiting.head? = some mark → mark = ')'

/-- Inside parentheses a closing parenthesis is awaited. -/
theorem enclosed_cons (awaiting : List Char) : Enclosed (')' :: awaiting) := by
  intro mark h
  exact (Option.some.inj h).symm

/-- No other character than a closing parenthesis is awaited. -/
theorem Enclosed.ne {awaiting : List Char} (h : Enclosed awaiting) {char : Char} (hchar : char ≠ ')') :
    awaiting.head? ≠ some char :=
  fun heq => hchar (h char heq)

/-- The reader where no text has begun. -/
def between (awaiting : List Char) : Scanner := ⟨awaiting, none, 0⟩

section

variable {awaiting rest : List Char}

/-- The characters of a keyword that is recognised already are passed over. -/
theorem run_passing (word : List Char) :
    (⟨awaiting, none, word.length⟩ : Scanner).run (word ++ rest) = (between awaiting).run rest := by
  induction word with
  | nil => rfl
  | cons char word ih =>
      rw [← ih]
      simp [Scanner.run, Scanner.next]

/-- A blank between two tokens is skipped. -/
theorem run_blank (h : Enclosed awaiting) :
    (between awaiting).run (' ' :: rest) = (between awaiting).run rest := by
  have hawaited : awaiting.head? ≠ some ' ' := h.ne (by decide)
  simp [Scanner.run, Scanner.next, between, hawaited]

/-- Blanks between two tokens are skipped. -/
theorem run_blanks (h : Enclosed awaiting) (blanks : Nat) :
    (between awaiting).run (List.replicate blanks ' ' ++ rest) = (between awaiting).run rest := by
  induction blanks with
  | zero => rfl
  | succ blanks ih => rw [List.replicate_succ, List.cons_append, run_blank h, ih]

/-- A keyword is read as its token. -/
theorem run_keyword (h : Enclosed awaiting) {char : Char} {word : List Char} {token : Token}
    (hchar : char ≠ ')') (hblank : char ≠ ' ' ∧ char ≠ '\t')
    (hkeyword : keyword? (char :: word ++ rest) = some (char :: word, token)) :
    (between awaiting).run (char :: word ++ rest) = token :: (between awaiting).run rest := by
  have hpassed : (⟨awaiting, none, word.length⟩ : Scanner).run (word ++ rest) = _ := run_passing word
  rw [List.cons_append] at hkeyword ⊢
  rw [← hpassed]
  simp [Scanner.run, Scanner.next, between, h.ne hchar, hblank.1, hblank.2, hkeyword]

/-- An operator is read between two operands. -/
theorem run_joiner (h : Enclosed awaiting) (joiner : Operator) :
    (between awaiting).run (joiner.word.toList ++ rest) =
      .operator joiner :: (between awaiting).run rest := by
  have hkeyword : keyword? (joiner.word.toList ++ rest) =
      some (joiner.word.toList, .operator joiner) := by
    cases joiner <;> simp [keyword?, keywords, Operator.word]
  cases joiner <;> exact run_keyword h (by decide) (by decide) hkeyword

/-- A prefix is read where no text has begun. -/
theorem run_marker (h : Enclosed awaiting) (chosen : Aspect) :
    (between awaiting).run (chosen.marker.toList ++ rest) =
      .aspect chosen :: (between awaiting).run rest := by
  have hkeyword : keyword? (chosen.marker.toList ++ rest) =
      some (chosen.marker.toList, .aspect chosen) := by
    cases chosen <;> simp [keyword?, keywords, Aspect.marker]
  cases chosen <;> exact run_keyword h (by decide) (by decide) hkeyword

/-- An opening parenthesis is read where no text has begun. -/
theorem run_parenthesis (h : Enclosed awaiting) :
    (between awaiting).run ('(' :: rest) = .opening '(' :: (between (')' :: awaiting)).run rest := by
  have hawaited : awaiting.head? ≠ some '(' := h.ne (by decide)
  simp [Scanner.run, Scanner.next, between, hawaited, keyword?, keywords, closingMark?]

/-- The closing parenthesis that is awaited ends a group. -/
theorem run_closing :
    (between (')' :: awaiting)).run (')' :: rest) = .closing ')' :: (between awaiting).run rest := by
  simp [Scanner.run, Scanner.next, between, Scanner.pending]

/-- Characters that are not awaited are collected. -/
theorem run_collected {text : List Char} (h : ∀ char ∈ text, awaiting.head? ≠ some char)
    (read : List Char) :
    (⟨awaiting, some read, 0⟩ : Scanner).run (text ++ rest) =
      (⟨awaiting, some (text.reverse ++ read), 0⟩ : Scanner).run rest := by
  induction text generalizing read with
  | nil => rfl
  | cons char text ih =>
      rw [List.forall_mem_cons] at h
      have hnext := ih h.2 (char :: read)
      rw [List.reverse_cons, List.append_assoc, List.singleton_append, ← hnext]
      simp [Scanner.run, Scanner.next, h.1]

/-- A text is collected up to its quotation mark. -/
theorem run_text {mark : Char} {text : List Char} (h : mark ∉ text) (read : List Char) :
    (⟨mark :: awaiting, some read, 0⟩ : Scanner).run (text ++ mark :: rest) =
      Scanner.pending ⟨awaiting, some (text.reverse ++ read), 0⟩ ++
        .closing mark :: (between awaiting).run rest := by
  have hother (char : Char) (hmem : char ∈ text) : (mark :: awaiting).head? ≠ some char :=
    fun heq => h (Option.some.inj heq ▸ hmem)
  rw [run_collected hother]
  simp [Scanner.run, Scanner.next, between, Scanner.pending]

/-- A text of which something has been read is a token. -/
theorem pending_of_ne_nil {read : List Char} (h : read ≠ []) :
    Scanner.pending ⟨awaiting, some read, 0⟩ = [.text (String.ofList read.reverse)] := by
  cases read with
  | nil => exact absurd rfl h
  | cons char read => rfl

/-- A quoted text is read as a group with the text in it. -/
theorem run_phrase (h : Enclosed awaiting) (phrase : Phrase) (rest : List Char) :
    (between awaiting).run (phrase.quote.mark :: (phrase.text.toList ++ phrase.quote.mark :: rest)) =
      [.opening phrase.quote.mark, .text phrase.text, .closing phrase.quote.mark] ++
        (between awaiting).run rest := by
  obtain ⟨quote, text, hnonempty, henclosed⟩ := phrase
  have hopening : (between awaiting).run (quote.mark :: (text.toList ++ quote.mark :: rest)) =
      .opening quote.mark :: (⟨quote.mark :: awaiting, some [], 0⟩ : Scanner).run
        (text.toList ++ quote.mark :: rest) := by
    have hawaited : awaiting.head? ≠ some quote.mark := h.ne (by cases quote <;> decide)
    cases quote <;>
      simp_all [Scanner.run, Scanner.next, between, Quote.mark, keyword?, keywords, closingMark?]
  have hpending : Scanner.pending ⟨awaiting, some (text.toList.reverse ++ []), 0⟩ = [.text text] := by
    have hread : text.toList.reverse ++ [] ≠ [] := by simp [hnonempty]
    rw [pending_of_ne_nil hread]
    simp
  rw [hopening, run_text henclosed, hpending]
  rfl

end

mutual

/-- The characters of an operand are read as its tokens. -/
theorem Atom.run_chars {awaiting : List Char} (h : Enclosed awaiting) (rest : List Char) :
    (atom : Atom) → (between awaiting).run (atom.chars ++ rest) =
      atom.tokens ++ (between awaiting).run rest
  | .quoted phrase => by
      have hphrase := run_phrase h phrase rest
      simpa [Atom.chars, Atom.tokens] using hphrase
  | .group inner => by
      have hinner := inner.run_chars (enclosed_cons awaiting) (')' :: rest)
      simp only [Atom.chars, Atom.tokens, List.cons_append, List.append_assoc, List.nil_append,
        run_parenthesis h, hinner, run_closing]
  | .governed chosen blanks inner => by
      have hinner := inner.run_chars (enclosed_cons awaiting) (')' :: rest)
      simp only [Atom.chars, Atom.tokens, List.cons_append, List.append_assoc, List.nil_append,
        run_parenthesis h, run_marker (enclosed_cons awaiting), run_blanks (enclosed_cons awaiting),
        hinner, run_closing]

/-- The characters of a query are read as its tokens. -/
theorem Expression.run_chars {awaiting : List Char} (h : Enclosed awaiting) (rest : List Char) :
    (query : Expression) → (between awaiting).run (query.chars ++ rest) =
      query.tokens ++ (between awaiting).run rest
  | .atom atom => atom.run_chars h rest
  | .joined left joiner right => by
      have hleft := left.run_chars h (' ' :: (joiner.word.toList ++ ' ' :: (right.chars ++ rest)))
      have hright := right.run_chars h rest
      simp only [Expression.chars, Expression.tokens, List.cons_append, List.append_assoc, hleft,
        run_blank h, run_joiner h, hright]

end

/-- A query that is written out is read as its tokens. -/
theorem tokenize_print (query : Expression) : tokenize query.print = query.tokens := by
  have hnothing : Enclosed [] := nofun
  have hread := query.run_chars hnothing []
  rw [List.append_nil] at hread
  rw [tokenize, Expression.print, String.toList_ofList]
  exact hread.trans (List.append_nil _)

/-! ## Building the tree -/

/-- The tree of an operand is no open group. -/
theorem Atom.tree_kind (atom : Atom) :
    ∃ mark children, atom.tree = .node (.closedGroup mark) children := by
  cases atom <;> exact ⟨_, _, rfl⟩

/-- A closing mark behind the tree of a query closes the group around it. -/
theorem Expression.close_tree (query : Expression) (level : Level) (levels : List Level) :
    Outline.close query.tree (level :: levels) = Outline.close (level.around query.tree) levels := by
  cases query with
  | atom atom =>
      obtain ⟨mark, children, htree⟩ := atom.tree_kind
      rw [Expression.tree, htree]
      exact Outline.close_cons (by simp) children level levels
  | joined left joiner right => exact Outline.close_cons (by simp) _ level levels

/-- A mark opens a group in an empty place. -/
theorem step_opening (mark : Char) (levels : List Level) :
    (Outline.mk (.node .empty []) levels).step (.opening mark) =
      some ⟨.node .empty [], ⟨.openGroup mark, []⟩ :: levels⟩ :=
  rfl

mutual

/-- The tokens of an operand fill an empty place with its tree. -/
theorem Atom.read_tokens (levels : List Level) : (atom : Atom) →
    (Outline.mk (.node .empty []) levels).read atom.tokens = some ⟨atom.tree, levels⟩
  | .quoted phrase => by
      have hfilling : (Outline.mk (.node .empty []) (⟨.openGroup phrase.quote.mark, []⟩ :: levels)).step
          (.text phrase.text) =
            some ⟨.node (.text phrase.text) [], ⟨.openGroup phrase.quote.mark, []⟩ :: levels⟩ := rfl
      have hclosing : (Outline.mk (.node (.text phrase.text) [])
          (⟨.openGroup phrase.quote.mark, []⟩ :: levels)).step (.closing phrase.quote.mark) =
            some ⟨(Atom.quoted phrase).tree, levels⟩ :=
        (Outline.close_cons (by simp) [] _ levels).trans (Outline.close_open _ _ levels)
      rw [Atom.tokens, Outline.read_cons (step_opening _ levels), Outline.read_cons hfilling,
        Outline.read_cons hclosing]
      rfl
  | .group inner => by
      obtain ⟨reached, hread, -, hclose⟩ := inner.read_tokens (⟨.openGroup '(', []⟩ :: levels)
      have hclosing : reached.step (.closing ')') = some ⟨(Atom.group inner).tree, levels⟩ := by
        rw [hclose, inner.close_tree]
        exact Outline.close_open '(' [inner.tree] levels
      rw [Atom.tokens, Outline.read_cons (step_opening '(' levels), Outline.read_append, hread,
        Option.bind_some, Outline.read_cons hclosing]
      rfl
  | .governed chosen blanks inner => by
      have hread := inner.read_tokens (⟨.aspect chosen, []⟩ :: ⟨.openGroup '(', []⟩ :: levels)
      have hmarker : (Outline.mk (.node .empty []) (⟨.openGroup '(', []⟩ :: levels)).step
          (.aspect chosen) =
            some ⟨.node .empty [], ⟨.aspect chosen, []⟩ :: ⟨.openGroup '(', []⟩ :: levels⟩ := rfl
      have hclosing : (Outline.mk inner.tree
          (⟨.aspect chosen, []⟩ :: ⟨.openGroup '(', []⟩ :: levels)).step (.closing ')') =
            some ⟨(Atom.governed chosen blanks inner).tree, levels⟩ := by
        obtain ⟨mark, children, htree⟩ := inner.tree_kind
        rw [Outline.step, Atom.tree, htree, Outline.close_cons (by simp)]
        exact (Outline.close_cons (by simp) _ _ levels).trans (Outline.close_open '(' _ levels)
      rw [Atom.tokens, Outline.read_cons (step_opening '(' levels), Outline.read_cons hmarker,
        Outline.read_append, hread, Option.bind_some, Outline.read_cons hclosing]
      rfl

/-- The tokens of a query fill an empty place with its tree, of which the last operand is current
then. -/
theorem Expression.read_tokens (levels : List Level) : (query : Expression) →
    ∃ reached, (Outline.mk (.node .empty []) levels).read query.tokens = some reached ∧
      reached.whole = Outline.enclose query.tree levels ∧
      ∀ mark, reached.step (.closing mark) = Outline.close query.tree levels
  | .atom atom => ⟨_, atom.read_tokens levels, rfl, fun _ => rfl⟩
  | .joined left joiner right => by
      obtain ⟨reached, hread, hwhole, hclose⟩ :=
        right.read_tokens (⟨.operator joiner, [left.tree]⟩ :: levels)
      refine ⟨reached, ?_, hwhole, fun mark => (hclose mark).trans (right.close_tree _ levels)⟩
      rw [Expression.tokens, Outline.read_append, left.read_tokens levels]
      exact hread

end

/-! ## Searching -/

/-- A written query has its tree, under the root, in the array. -/
theorem grow_print (query : Expression) :
    ∃ growth, grow (tokenize query.print) = .ok growth ∧ growth.1.toTree = query.whole := by
  obtain ⟨reached, hread, hwhole, -⟩ := query.read_tokens []
  rw [tokenize_print]
  obtain ⟨growth, hgrow, hfollows⟩ := grow_of_read hread
  exact ⟨growth, hgrow, hfollows.whole.1.trans hwhole⟩

/-- A written query is accepted unless its tree is too deep. -/
theorem build_print (query : Expression) :
    ∃ arena : Arena, arena.toTree = query.whole ∧
      build (tokenize query.print) =
        if maxDepth < query.whole.depth then .error .tooDeep else .ok arena := by
  obtain ⟨reached, hread, hwhole, -⟩ := query.read_tokens []
  obtain ⟨arena, htree, -, hbuild⟩ := build_of_read hread
  have hwhole : reached.whole = query.whole := hwhole
  rw [hwhole] at htree hbuild
  exact ⟨arena, htree, by rw [tokenize_print, hbuild]⟩

/-- A written query finds exactly the notes of which it is true, each once and in the order of
listings; one whose tree is too deep finds nothing. -/
theorem search_print {store : Store} (hkeyed : store.Keyed) (query : Expression) :
    (∃ growth, grow (tokenize query.print) = .ok growth ∧ growth.1.toTree = query.whole) ∧
      (query.whole.depth ≤ maxDepth →
        (∀ id, id ∈ (search store query.print).ids ↔
          ∃ note, store.get? id = some note ∧ query.holds note .fulltext = true) ∧
        (search store query.print).ids.Pairwise store.Precedes) ∧
      (maxDepth < query.whole.depth →
        (search store query.print).ids = [] ∧ (search store query.print).highlights = []) := by
  obtain ⟨arena, htree, hbuild⟩ := build_print query
  refine ⟨grow_print query, fun hdepth => ?_, fun hdepth => ?_⟩
  · rw [if_neg (Nat.not_lt.2 hdepth)] at hbuild
    obtain ⟨found, hselect, hlists⟩ := arena.toTree.select_lists hkeyed .fulltext
    have hsearch : search store query.print = found := by
      simp only [search, hbuild, hselect]
    have hholds (note : Note) : arena.toTree.holds note .fulltext = query.holds note .fulltext := by
      rw [htree]
      exact query.holds_tree note .fulltext
    simp only [hholds] at hlists
    rw [hsearch]
    exact ⟨hlists.mem, hlists.order⟩
  · rw [if_pos hdepth] at hbuild
    have hsearch : search store query.print = {} := by
      simp only [search, hbuild]
    exact ⟨congrArg Found.ids hsearch, congrArg Found.highlights hsearch⟩

/-- A query with a prefix for its first operand only and a chain of two operators. -/
def mixedQuery : Expression :=
  .joined (.governed .folder 0 (.quoted ⟨.double, "work", by simp, by simp [Quote.mark]⟩)) .and
    (.joined (.quoted ⟨.single, "pears", by simp, by simp [Quote.mark]⟩) .or
      (.atom (.quoted ⟨.double, "plums", by simp, by simp [Quote.mark]⟩)))

example : mixedQuery.print = "(folder:\"work\") and 'pears' or \"plums\"" := by decide +kernel

/-- The query of the sample finds what it says in a store with two notes. -/
theorem search_print_mixed :
    twoNotes.Keyed ∧ mixedQuery.whole.depth ≤ maxDepth ∧
      (∃ growth, grow (tokenize mixedQuery.print) = .ok growth ∧
        growth.1.toTree = mixedQuery.whole) ∧
      (mixedQuery.whole.depth ≤ maxDepth →
        (∀ id, id ∈ (search twoNotes mixedQuery.print).ids ↔
          ∃ note, twoNotes.get? id = some note ∧ mixedQuery.holds note .fulltext = true) ∧
        (search twoNotes mixedQuery.print).ids.Pairwise twoNotes.Precedes) ∧
      (maxDepth < mixedQuery.whole.depth →
        (search twoNotes mixedQuery.print).ids = [] ∧
          (search twoNotes mixedQuery.print).highlights = []) :=
  ⟨two_notes_keyed, by decide +kernel, search_print two_notes_keyed mixedQuery⟩

end Notekeeper.Query
