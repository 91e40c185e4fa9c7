import Mathlib.Data.List.Chain
import Notekeeper.Proofs.Query.Nesting

/-!
# The tokens spell out the query

The reader of a query loses nothing but the spaces and tabs between tokens: the query is the tokens
written one after another, with blanks between them where no text is being read (`Spells`). A text
is never empty and never follows another one, and a closing mark is the partner of the opening mark
that was left unpaired last (`tokenize_spells`).
-/

namespace Notekeeper.Query

/-! ## What is written for a token -/

/-- The characters a token stands for in a query. -/
def Token.written : Token → List Char
  | text string => string.toList
  | opening mark => [mark]
  | closing mark => [mark]
  | operator joiner => joiner.word.toList
  | aspect chosen => chosen.marker.toList

/-- No text is being read behind this token, so that blanks there are outside of every text. -/
def Token.Rests : Token → Prop
  | text _ => False
  | opening mark => mark = '('
  | closing _ => True
  | operator _ => True
  | aspect _ => True

/-- The tokens are written one after another in these characters, with nothing but spaces and tabs
around them, and those only where no text is being read. `before` is the token in front of the
characters, if there is one. -/
inductive Spells : Option Token → List Token → List Char → Prop where
  | done (before : Option Token) : Spells before [] []
  | blank {before : Option Token} {tokens : List Token} {rest : List Char} {char : Char}
      (blank : char = ' ' ∨ char = '\t') (rests : ∀ token ∈ before, token.Rests)
      (later : Spells before tokens rest) : Spells before tokens (char :: rest)
  | token {before : Option Token} {token : Token} {tokens : List Token} {rest : List Char}
      (later : Spells (some token) tokens rest) :
      Spells before (token :: tokens) (token.written ++ rest)

/-- A keyword is written for its token, and is not empty. -/
theorem written_of_keyword {text word : List Char} {token : Token}
    (h : keyword? text = some (word, token)) :
    token.written = word ∧ word ≠ [] ∧ token.Rests := by
  rcases (keyword_cases h).2 with ⟨joiner, rfl, rfl⟩ | ⟨chosen, rfl, rfl⟩
  · exact ⟨rfl, by cases joiner <;> decide, trivial⟩
  · exact ⟨rfl, by cases chosen <;> decide, trivial⟩

/-- Behind a keyword the text goes on after the characters that are passed over. -/
theorem append_drop_of_keyword {char : Char} {rest word : List Char} {token : Token}
    (h : keyword? (char :: rest) = some (word, token)) :
    word ++ rest.drop (word.length - 1) = char :: rest := by
  obtain ⟨-, hword, -⟩ := written_of_keyword h
  obtain ⟨first, others, rfl⟩ := List.exists_cons_of_ne_nil hword
  obtain ⟨behind, hbehind⟩ := (keyword_cases h).1
  obtain ⟨rfl, rfl⟩ := List.cons.inj hbehind
  simp

namespace Scanner

/-- The reader stands behind this token: it passes over the end of a keyword only where no text has
begun, and no text has begun only where the token allows for blanks. -/
structure Behind (scanner : Scanner) (before : Option Token) : Prop where
  passing : scanner.passing ≠ 0 → scanner.reading = none
  rests : scanner.reading = none → ∀ token ∈ before, token.Rests

/-- Within a text the reader may stand behind any token. -/
theorem behind_of_reading (awaiting read : List Char) (before : Option Token) :
    Behind ⟨awaiting, some read, 0⟩ before where
  passing h := absurd rfl h
  rests h := absurd h (Option.some_ne_none read)

/-- A text that has been read spells itself. -/
theorem spells_pending (scanner : Scanner) {before : Option Token} {tokens : List Token}
    {rest : List Char} (h : ∀ before, Spells before tokens rest) :
    Spells before (scanner.pending ++ tokens) (scanner.held ++ rest) := by
  rcases scanner.pending_cases with ⟨hheld, hpending⟩ | ⟨-, hpending⟩
  · rw [hheld, hpending]
    exact h before
  · rw [hpending]
    have htext : Spells before (.text (String.ofList scanner.held) :: tokens)
        (Token.written (.text (String.ofList scanner.held)) ++ rest) := .token (h _)
    rwa [Token.written, String.toList_ofList] at htext

/-- The tokens of one character spell out what was held and is to be read before it, if the later
ones do so behind it. -/
theorem Advances.spells {char : Char} {rest : List Char} {scanner after : Scanner}
    {tokens later : List Token} {before : Option Token}
    (h : scanner.Advances char rest tokens after) (hbehind : scanner.Behind before)
    (hlater : ∀ last, after.Behind last →
      Spells last later (after.held ++ rest.drop after.passing)) :
    Spells before (tokens ++ later) (scanner.held ++ (char :: rest).drop scanner.passing) := by
  cases h with
  | passed awaiting reading count =>
      obtain rfl : reading = none := hbehind.passing (Nat.succ_ne_zero count)
      exact hlater before ⟨fun _ => rfl, hbehind.rests⟩
  | closed awaiting reading =>
      rw [List.append_assoc]
      refine spells_pending _ fun last => ?_
      exact .token (hlater (some (.closing char)) ⟨fun _ => rfl, fun _ => by simp [Token.Rests]⟩)
  | collected awaiting read =>
      simpa [held] using hlater before (behind_of_reading _ _ _)
  | skipped awaiting other blank =>
      exact .blank blank (hbehind.rests rfl) (hlater before hbehind)
  | @recognised awaiting word token other dense keyword =>
      obtain ⟨hwritten, -, hrests⟩ := written_of_keyword keyword
      have hspells :
          Spells before (token :: later) (token.written ++ rest.drop (word.length - 1)) :=
        .token (hlater (some token) ⟨fun _ => rfl, fun _ => by simpa using hrests⟩)
      rwa [hwritten, append_drop_of_keyword keyword] at hspells
  | @opened awaiting mark other dense keyword partners =>
      -- Behind an opening quotation mark a text has begun, of which no character has been read.
      have hspells := hlater (some (.opening char))
        ⟨fun h => absurd rfl h, fun h => by simpa [Token.Rests] using h⟩
      have hheld : held ⟨mark :: awaiting, if char = '(' then none else some [], 0⟩ = [] := by
        unfold held
        split <;> rfl
      rw [hheld] at hspells
      exact .token hspells
  | begun awaiting =>
      simpa [held] using hlater before (behind_of_reading _ _ _)

/-- The tokens of the rest of a query spell it out, together with what is held of a text. -/
theorem spells_run {scanner : Scanner} {before : Option Token} (h : scanner.Behind before)
    (chars : List Char) :
    Spells before (scanner.run chars) (scanner.held ++ chars.drop scanner.passing) := by
  induction chars generalizing scanner before with
  | nil =>
      have hpending : Spells before (scanner.pending ++ []) (scanner.held ++ []) :=
        scanner.spells_pending .done
      simpa [run] using hpending
  | cons char rest ih => exact (scanner.advances_next char rest).spells h fun _ => ih

end Scanner

/-! ## The texts among the tokens -/

/-- No text among the tokens is empty, and none follows another one. -/
structure Parted (tokens : List Token) : Prop where
  filled : ∀ string, .text string ∈ tokens → string ≠ ""
  apart : ∀ first second, ¬ [.text first, .text second] <:+: tokens

namespace Parted

theorem nil : Parted [] where
  filled _ hmem := nomatch hmem
  apart _ _ hinfix := nomatch List.infix_nil.1 hinfix

/-- A token other than a text is put before any tokens. -/
theorem cons {token : Token} {tokens : List Token} (hother : ∀ string, token ≠ .text string)
    (h : Parted tokens) : Parted (token :: tokens) where
  filled string hmem := by
    rcases List.mem_cons.1 hmem with heq | hmem
    · exact absurd heq.symm (hother string)
    · exact h.filled string hmem
  apart first second hinfix := by
    rcases List.infix_cons_iff.1 hinfix with hprefix | hinfix
    · exact hother first (List.cons_prefix_cons.1 hprefix).1.symm
    · exact h.apart first second hinfix

/-- A text is put before tokens that do not begin with one. -/
theorem cons_text {text : String} {tokens : List Token} (hfilled : text ≠ "")
    (hhead : ∀ string, tokens.head? ≠ some (.text string)) (h : Parted tokens) :
    Parted (.text text :: tokens) where
  filled string hmem := by
    rcases List.mem_cons.1 hmem with heq | hmem
    · exact Token.text.inj heq ▸ hfilled
    · exact h.filled string hmem
  apart first second hinfix := by
    rcases List.infix_cons_iff.1 hinfix with hprefix | hinfix
    · obtain ⟨others, rfl⟩ := (List.cons_prefix_cons.1 hprefix).2
      exact hhead second rfl
    · exact h.apart first second hinfix

end Parted

namespace Scanner

/-- The text that is being read is put before tokens that do not begin with one. -/
theorem parted_pending (scanner : Scanner) {tokens : List Token}
    (hhead : ∀ string, tokens.head? ≠ some (.text string)) (h : Parted tokens) :
    Parted (scanner.pending ++ tokens) := by
  rcases scanner.pending_cases with ⟨-, hpending⟩ | ⟨hheld, hpending⟩
  · rw [hpending]
    exact h
  · rw [hpending]
    exact .cons_text (fun hempty => hheld (String.ofList_eq_empty_iff.1 hempty)) hhead h

/-- The tokens of one character keep the texts apart. -/
theorem Advances.parted {char : Char} {rest : List Char} {scanner after : Scanner}
    {tokens later : List Token} (h : scanner.Advances char rest tokens after)
    (hlater : Parted later) : Parted (tokens ++ later) := by
  cases h with
  | passed | collected | skipped | begun => exact hlater
  | closed awaiting reading =>
      rw [List.append_assoc]
      exact parted_pending _ (fun _ => by simp) (.cons (fun _ => by simp) hlater)
  | recognised awaiting other dense keyword =>
      rcases (keyword_cases keyword).2 with ⟨joiner, -, rfl⟩ | ⟨chosen, -, rfl⟩
      · exact .cons (fun _ => by simp) hlater
      · exact .cons (fun _ => by simp) hlater
  | opened => exact .cons (fun _ => by simp) hlater

/-- The texts of a query are not empty and stand apart. -/
theorem parted_run (scanner : Scanner) (chars : List Char) : Parted (scanner.run chars) := by
  induction chars generalizing scanner with
  | nil =>
      have hpending := scanner.parted_pending (fun _ => by simp) .nil
      rwa [List.append_nil] at hpending
  | cons char rest ih => exact (scanner.advances_next char rest).parted (ih _)

end Scanner

/-! ## The opening marks left unpaired -/

/-- What a token does to the opening marks that are not paired yet, the latest one first: a closing
mark takes the latest one for its own. -/
def Token.pair (opened : List Char) : Token → List Char
  | opening mark => mark :: opened
  | closing _ => opened.tail
  | text _ => opened
  | operator _ => opened
  | aspect _ => opened

/-- The opening marks that are not paired among the tokens, the latest one first. -/
def unpaired (tokens : List Token) : List Char :=
  tokens.foldl Token.pair []

/-- The marks that are not paired are still those whose partners are awaited. -/
theorem Token.Shifts.partners {awaiting after opened : List Char} {token : Token}
    (h : token.Shifts awaiting after) (hpartners : opened.map closingMark? = awaiting.map some) :
    (token.pair opened).map closingMark? = after.map some := by
  cases h with
  | text | aspect | operator => exact hpartners
  | opening _ hmark => exact congrArg₂ List.cons hmark hpartners
  | closing =>
      rw [Token.pair, List.map_tail, hpartners]
      rfl

/-- A closing mark is the partner of the latest mark that is not paired. -/
theorem Follow.partner {before later : List (Token × List Char)}
    {awaiting awaited opened : List Char} {mark : Char}
    (h : Follow awaiting (before ++ (.closing mark, awaited) :: later))
    (hpartners : opened.map closingMark? = awaiting.map some) :
    ∃ opener outer, (before.map Prod.fst).foldl Token.pair opened = opener :: outer ∧
      closingMark? opener = some mark := by
  induction before generalizing awaiting opened with
  | nil =>
      cases h with
      | cons shifts _ =>
          cases shifts
          obtain ⟨opener, outer, rfl, hopener, -⟩ := List.map_eq_cons_iff.1 hpartners
          exact ⟨opener, outer, rfl, hopener⟩
  | cons entry before ih =>
      cases h with
      | cons shifts later => exact ih later (shifts.partners hpartners)

/-- A query is its tokens written one after another, with nothing left out but spaces and tabs where
no text is being read. Its texts are not empty, no text follows another one, and every closing mark
is the partner of the latest opening mark before it that is not paired. -/
theorem tokenize_spells (query : String) :
    Spells none (tokenize query) query.toList ∧
    (∀ string, .text string ∈ tokenize query → string ≠ "") ∧
    (∀ first second, ¬ [.text first, .text second] <:+: tokenize query) ∧
    ∀ before mark after, tokenize query = before ++ .closing mark :: after →
      ∃ opener outer, unpaired before = opener :: outer ∧ closingMark? opener = some mark := by
  have hstart : Scanner.start.Behind none := ⟨fun _ => rfl, fun _ _ h => nomatch h⟩
  have hparted := Scanner.start.parted_run query.toList
  refine ⟨Scanner.spells_run hstart query.toList, hparted.filled, hparted.apart, ?_⟩
  intro before mark after htokens
  have hmap : (Scanner.start.trace query.toList).map Prod.fst = before ++ .closing mark :: after :=
    (Scanner.start.map_trace query.toList).trans htokens
  obtain ⟨earlier, later, htrace, rfl, hlater⟩ := List.map_eq_append_iff.1 hmap
  obtain ⟨⟨token, awaited⟩, later, rfl, rfl, -⟩ := List.map_eq_cons_iff.1 hlater
  have hfollow := Scanner.start.follow_trace query.toList
  rw [htrace] at hfollow
  exact hfollow.partner rfl

end Notekeeper.Query
