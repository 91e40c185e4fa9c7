import Notekeeper.Query.Token

/-!
# The reader of a query, character by character

`Scanner.Advances` lists what the reader does with a character in each of its states: the tokens
that the character completes, and the state behind it. `Scanner.advances_next` says that this is what
it does, so that what the reader keeps is shown by cases.
-/

namespace Notekeeper.Query

/-- A keyword begins the text, and is the word of an operator or a prefix. -/
theorem keyword_cases {text word : List Char} {token : Token}
    (h : keyword? text = some (word, token)) :
    word <+: text ∧
      ((∃ joiner, word = joiner.word.toList ∧ token = .operator joiner) ∨
        ∃ chosen, word = chosen.marker.toList ∧ token = .aspect chosen) := by
  unfold keyword? at h
  have hbegins := List.find?_some h
  refine ⟨List.isPrefixOf_iff_prefix.1 hbegins, ?_⟩
  have hmem := List.mem_of_find?_eq_some h
  simp only [keywords, List.mem_cons, Prod.mk.injEq, List.not_mem_nil, or_false] at hmem
  rcases hmem with ⟨rfl, rfl⟩ | ⟨rfl, rfl⟩ | ⟨rfl, rfl⟩ | ⟨rfl, rfl⟩ | ⟨rfl, rfl⟩
  · exact .inl ⟨.and, rfl, rfl⟩
  · exact .inl ⟨.or, rfl, rfl⟩
  · exact .inr ⟨.fulltext, rfl, rfl⟩
  · exact .inr ⟨.folder, rfl, rfl⟩
  · exact .inr ⟨.tag, rfl, rfl⟩

namespace Scanner

/-- The characters of the text that is being read, in their order. -/
def held (scanner : Scanner) : List Char :=
  (scanner.reading.getD []).reverse

/-- The text read so far is one token, or none if it is empty. -/
theorem pending_cases (scanner : Scanner) :
    (scanner.held = [] ∧ scanner.pending = []) ∨
      (scanner.held ≠ [] ∧ scanner.pending = [.text (String.ofList scanner.held)]) := by
  obtain ⟨awaiting, - | - | ⟨char, read⟩, passing⟩ := scanner
  · exact .inl ⟨rfl, rfl⟩
  · exact .inl ⟨rfl, rfl⟩
  · exact .inr ⟨by simp [held], rfl⟩

/-- What the reader does with a character in front of the rest of the query, from one state to
another. -/
inductive Advances (char : Char) (rest : List Char) : Scanner → List Token → Scanner → Prop where
  /-- The character belongs to a keyword. -/
  | passed (awaiting : List Char) (reading : Option (List Char)) (count : Nat) :
      Advances char rest ⟨awaiting, reading, count + 1⟩ [] ⟨awaiting, reading, count⟩
  /-- The character closes the innermost group, and the text in it. -/
  | closed (awaiting : List Char) (reading : Option (List Char)) :
      Advances char rest ⟨char :: awaiting, reading, 0⟩
        (pending ⟨char :: awaiting, reading, 0⟩ ++ [.closing char]) ⟨awaiting, none, 0⟩
  /-- The character goes into the text. -/
  | collected (awaiting read : List Char) (other : awaiting.head? ≠ some char) :
      Advances char rest ⟨awaiting, some read, 0⟩ [] ⟨awaiting, some (char :: read), 0⟩
  /-- The character is a blank between tokens. -/
  | skipped (awaiting : List Char) (other : awaiting.head? ≠ some char)
      (blank : char = ' ' ∨ char = '\t') :
      Advances char rest ⟨awaiting, none, 0⟩ [] ⟨awaiting, none, 0⟩
  /-- The character begins a keyword, to which the next ones belong. -/
  | recognised (awaiting : List Char) {word : List Char} {token : Token}
      (other : awaiting.head? ≠ some char) (dense : ¬ (char = ' ' ∨ char = '\t'))
      (keyword : keyword? (char :: rest) = some (word, token)) :
      Advances char rest ⟨awaiting, none, 0⟩ [token] ⟨awaiting, none, word.length - 1⟩
  /-- The character opens a group, and a text if it is a quotation mark. -/
  | opened (awaiting : List Char) {mark : Char} (other : awaiting.head? ≠ some char)
      (dense : ¬ (char = ' ' ∨ char = '\t')) (keyword : keyword? (char :: rest) = none)
      (partners : closingMark? char = some mark) :
      Advances char rest ⟨awaiting, none, 0⟩ [.opening char]
        ⟨mark :: awaiting, if char = '(' then none else some [], 0⟩
  /-- The character begins a text. -/
  | begun (awaiting : List Char) (other : awaiting.head? ≠ some char)
      (dense : ¬ (char = ' ' ∨ char = '\t')) (keyword : keyword? (char :: rest) = none)
      (partners : closingMark? char = none) :
      Advances char rest ⟨awaiting, none, 0⟩ [] ⟨awaiting, some [char], 0⟩

/-- The reader does what is listed. -/
theorem advances_next (scanner : Scanner) (char : Char) (rest : List Char) :
    scanner.Advances char rest (scanner.next char rest).1 (scanner.next char rest).2 := by
  obtain ⟨awaiting, reading, passing⟩ := scanner
  -- The cases come in the order in which the reader asks.
  cases passing with
  | succ count => exact .passed awaiting reading count
  | zero =>
      by_cases hawaited : awaiting.head? = some char
      · obtain ⟨outer, rfl⟩ := List.head?_eq_some_iff.1 hawaited
        simpa [next] using Advances.closed outer reading
      · cases reading with
        | some read => simpa [next, hawaited] using Advances.collected awaiting read hawaited
        | none =>
            by_cases hblank : char = ' ' ∨ char = '\t'
            · simpa [next, hawaited, hblank] using Advances.skipped awaiting hawaited hblank
            · cases hkeyword : keyword? (char :: rest) with
              | some entry =>
                  simpa [next, hawaited, hblank, hkeyword] using
                    Advances.recognised awaiting hawaited hblank hkeyword
              | none =>
                  cases hpartners : closingMark? char with
                  | some mark =>
                      simpa [next, hawaited, hblank, hkeyword, hpartners] using
                        Advances.opened awaiting hawaited hblank hkeyword hpartners
                  | none =>
                      simpa [next, hawaited, hblank, hkeyword, hpartners] using
                        Advances.begun awaiting hawaited hblank hkeyword hpartners

end Scanner

end Notekeeper.Query
