import Mathlib
import Notekeeper.Toml.Quoting

/-!
# Reading a quoted text

`read_write_text` says that a text is read back from the string it is written as, in whichever of
the four forms that is, and that reading stops at the end of the string. `write_text_no_feed` says
that the string has no line feed unless the text has one.

Marks in a row are what makes the forms with three marks delicate: a reader looks at up to five of
them at once. The inductions over a text therefore carry the marks that were written right before
it, of which there are never more than two.
-/

namespace Notekeeper.Toml

/-! ## Escapes -/

/-- The code of a control character has four digits, from which the character is read. -/
theorem code_escape_hexadecimal {char : Char} (h : needsEscape char = true) :
    (hexadecimal char.toNat).length = 4 ∧ '\n' ∉ hexadecimal char.toNat ∧
      codeEscape? (hexadecimal char.toNat) = some char := by
  have hall : ∀ code : Fin 128, (hexadecimal code.val).length = 4 ∧
      '\n' ∉ hexadecimal code.val ∧
        codeEscape? (hexadecimal code.val) = some (Char.ofNat code.val) := by
    decide +kernel
  have hlow : char.toNat < 128 := by
    simp only [needsEscape, Bool.or_eq_true, Bool.and_eq_true, decide_eq_true_eq, beq_iff_eq] at h
    omega
  simpa [Char.ofNat_toNat] using hall ⟨char.toNat, hlow⟩

/-- A character that needs no escape is plain, but for the line feed. -/
theorem plain_of_not_needs_escape {char : Char} (h : needsEscape char = false)
    (hfeed : char ≠ '\n') : isPlain char = true := by
  by_cases htab : char = '\t'
  · simp [isPlain, htab]
  · simp [needsEscape, htab, hfeed] at h
    simp [isPlain, h]

/-- A plain character breaks no line. -/
theorem no_break_of_plain {char : Char} (h : isPlain char = true) : char ≠ '\n' ∧ char ≠ '\r' := by
  constructor <;> (rintro rfl; simp [isPlain] at h)

/-- The ways in which a character other than the quotation mark is written. -/
inductive Escaped (isMultiline : Bool) (char : Char) : List Char → Prop
  | plain (hplain : isPlain char = true) (hne : char ≠ '\\') : Escaped isMultiline char [char]
  | feed (hmultiline : isMultiline = true) (hfeed : char = '\n') : Escaped isMultiline char [char]
  | letter {letter : Char} (hletter : letter ∈ ['b', 't', 'n', 'f', 'r', '\\'])
      (hescape : letterEscape? letter = some char) : Escaped isMultiline char ['\\', letter]
  | code {a b c d : Char} (hfeed : '\n' ∉ [a, b, c, d])
      (hescape : codeEscape? [a, b, c, d] = some char) :
      Escaped isMultiline char ['\\', 'u', a, b, c, d]

/-- Every character is written in one of these ways. -/
theorem escaped_escape (isMultiline : Bool) (char : Char) :
    Escaped isMultiline char ((escape? isMultiline char).getD [char]) := by
  unfold escape?
  split_ifs with hback htab hfeed hmultiline hform hreturn hslash hcontrol
  · exact .letter (by decide) (by simp [letterEscape?, hback])
  · exact .letter (by decide) (by simp [letterEscape?, htab])
  · exact .feed hmultiline hfeed
  · exact .letter (by decide) (by simp [letterEscape?, hfeed])
  · exact .letter (by decide) (by simp [letterEscape?, hform])
  · exact .letter (by decide) (by simp [letterEscape?, hreturn])
  · exact .letter (by decide) (by simp [letterEscape?, hslash])
  · obtain ⟨hlength, hdigits, hcode⟩ := code_escape_hexadecimal hcontrol
    obtain ⟨a, b, c, d, heq⟩ := List.length_eq_four.1 hlength
    rw [heq] at hdigits hcode ⊢
    exact .code hdigits hcode
  · exact .plain (plain_of_not_needs_escape (by simpa using hcontrol) hfeed) hslash

namespace Escaped

variable {isMultiline : Bool} {char : Char} {written : List Char}

/-- What is written for a character begins with a backslash or is the character, which then is no
carriage return. -/
theorem head_eq (h : Escaped isMultiline char written) {rest : List Char} :
    ∀ first ∈ (written ++ rest).head?, first = '\\' ∨ first = char ∧ first ≠ '\r' := by
  intro first hfirst
  cases h with
  | plain hplain =>
      obtain rfl : char = first := by simpa using hfirst
      exact .inr ⟨rfl, (no_break_of_plain hplain).2⟩
  | feed _ hfeed =>
      obtain rfl : char = first := by simpa using hfirst
      exact .inr ⟨rfl, by simp [hfeed]⟩
  | letter | code => exact .inl (by simpa [eq_comm] using hfirst)

/-- Only a line feed is written with one. -/
theorem no_feed (h : Escaped isMultiline char written) (hchar : char ≠ '\n') :
    '\n' ∉ written := by
  cases h with
  | plain | feed => simpa using hchar.symm
  | @letter letter hletter =>
      have hne : letter ≠ '\n' := by
        rintro rfl
        simp at hletter
      simpa using hne.symm
  | code hfeed => simpa using hfeed

/-- A character is read from what is written for it between single quotation marks. -/
theorem read_basic (h : Escaped false char written) (hmark : char ≠ '"') (rest : List Char) :
    readBasic (written ++ rest) = andThen char (readBasic rest) := by
  cases h with
  | plain hplain hne => simp [readBasic, hplain, hne]
  | feed hmultiline => cases hmultiline
  | @letter letter hletter hescape =>
      have hne : letter ≠ 'u' ∧ letter ≠ 'U' := by
        constructor <;> (rintro rfl; simp at hletter)
      simp [readBasic, hne, hescape]
  | code hfeed hescape => simp [readBasic, hescape]

/-- A character is read from what is written for it between three quotation marks. -/
theorem read_multiline (h : Escaped true char written) (hmark : char ≠ '"') (rest : List Char) :
    readMultilineBasic .text (written ++ rest) =
      andThen char (readMultilineBasic .text rest) := by
  cases h with
  | plain hplain hne => simp [readMultilineBasic, no_break_of_plain hplain, hmark, hplain, hne]
  | feed hmultiline hfeed => simp [readMultilineBasic, hfeed]
  | @letter letter hletter hescape =>
      -- The letter is none that opens a code or takes a line end away.
      have hother : ∀ other ∈ ['u', 'U', '\r', '\n', ' ', '\t'],
          other ∉ ['b', 't', 'n', 'f', 'r', '\\'] := by
        simp
      have hne : ∀ other ∈ ['u', 'U', '\r', '\n', ' ', '\t'], letter ≠ other :=
        fun other hmem heq => hother other hmem (heq ▸ hletter)
      simp only [List.forall_mem_cons, List.not_mem_nil, false_implies, implies_true, and_true] at hne
      simp [readMultilineBasic, hne, hescape]
  | code hfeed hescape => simp [readMultilineBasic, hescape]

end Escaped

/-- A text without line feeds is written with escapes without line feeds. -/
theorem write_escaped_no_feed (isMultiline : Bool) (marks : Nat) {text : List Char}
    (h : '\n' ∉ text) : '\n' ∉ writeEscaped isMultiline marks text := by
  induction text generalizing marks with
  | nil => simp [writeEscaped]
  | cons char text ih =>
      obtain ⟨hchar, htext⟩ : '\n' ≠ char ∧ '\n' ∉ text := by simpa using h
      have hescape := (escaped_escape isMultiline char).no_feed hchar.symm
      unfold writeEscaped
      split_ifs
      · simpa using ih 0 htext
      · simpa using ih (marks + 1) htext
      · simpa using ih 0 htext
      · simpa using ih (marks + 1) htext
      · simpa using ⟨hescape, ih 0 htext⟩

/-! ## Quotation marks -/

/-- A text is read from its escapes between single quotation marks. -/
theorem read_basic_write_escaped (marks : Nat) (text rest : List Char) :
    readBasic (writeEscaped false marks text ++ '"' :: rest) = some (text, rest) := by
  induction text generalizing marks with
  | nil => simp [writeEscaped, readBasic]
  | cons char text ih =>
      by_cases hmark : char = '"'
      · simp [writeEscaped, hmark, readBasic, letterEscape?, ih, andThen]
      · rw [writeEscaped, if_neg hmark, List.append_assoc,
          (escaped_escape false char).read_basic hmark, ih]
        rfl

/-- A text that goes on with another character than a mark, or is at its end. -/
def NotBefore (mark : Char) (rest : List Char) : Prop :=
  ∀ char ∈ rest.head?, char ≠ mark

theorem NotBefore.ne_cons {mark : Char} {rest : List Char} (h : NotBefore mark rest)
    (more : List Char) : rest ≠ mark :: more := by
  rintro rfl
  exact h mark rfl rfl

/-- Up to two quotation marks in a row belong to the string. -/
theorem read_multiline_basic_marks {marks : Nat} (hmarks : marks ≤ 2) {text chars rest : List Char}
    (htext : NotBefore '"' text) (hread : readMultilineBasic .text text = some (chars, rest)) :
    readMultilineBasic .text (List.replicate marks '"' ++ text) =
      some (List.replicate marks '"' ++ chars, rest) := by
  cases text with
  | nil => simp [readMultilineBasic] at hread
  | cons char text =>
      have hmark : char ≠ '"' := htext char rfl
      interval_cases marks
      · exact hread
      · simp [readMultilineBasic, hmark, hread, isPlain, andThen]
      · simp [readMultilineBasic, hmark, hread, isPlain, andThen, List.replicate]

/-- Up to two quotation marks right before the three that end the string belong to it. -/
theorem read_multiline_basic_closing {marks : Nat} (hmarks : marks ≤ 2) {rest : List Char}
    (hrest : NotBefore '"' rest) :
    readMultilineBasic .text (List.replicate marks '"' ++ '"' :: '"' :: '"' :: rest) =
      some (List.replicate marks '"', rest) := by
  have hne := hrest.ne_cons
  interval_cases marks <;> simp [readMultilineBasic, List.replicate, hne]

/-- A text is read from its escapes between three quotation marks; the marks that were written right
before belong to it. -/
theorem read_multiline_basic_write_escaped {marks : Nat} (hmarks : marks ≤ 2) (text : List Char)
    {rest : List Char} (hrest : NotBefore '"' rest) :
    readMultilineBasic .text
        (List.replicate marks '"' ++ (writeEscaped true marks text ++ '"' :: '"' :: '"' :: rest)) =
      some (List.replicate marks '"' ++ text, rest) := by
  induction text generalizing marks with
  | nil => simpa [writeEscaped] using read_multiline_basic_closing hmarks hrest
  | cons char text ih =>
      have hnext : readMultilineBasic .text (writeEscaped true 0 text ++ '"' :: '"' :: '"' :: rest) =
          some (text, rest) := by
        simpa using @ih 0 (by omega)
      by_cases hmark : char = '"'
      · subst hmark
        by_cases hfull : marks = 2
        · -- The third mark in a row is escaped.
          rw [writeEscaped, if_pos rfl, if_pos (by simp [hfull])]
          refine read_multiline_basic_marks hmarks (by simp [NotBefore]) ?_
          simp [readMultilineBasic, letterEscape?, andThen, hnext]
        · rw [writeEscaped, if_pos rfl, if_neg (by simp; omega)]
          simpa [List.replicate_succ', List.append_assoc] using @ih (marks + 1) (by omega)
      · have hescaped := escaped_escape true char
        rw [writeEscaped, if_neg hmark, List.append_assoc]
        refine read_multiline_basic_marks hmarks (fun first hfirst => ?_) ?_
        · rcases hescaped.head_eq first hfirst with rfl | ⟨rfl, -⟩
          · simp
          · exact hmark
        · rw [hescaped.read_multiline hmark, hnext]
          rfl

/-! ## Apostrophes -/

/-- A text of plain characters without apostrophes is read as it stands between single ones. -/
theorem read_literal_plain {text : List Char} (hplain : ∀ char ∈ text, isPlain char = true)
    (hmark : '\'' ∉ text) (rest : List Char) :
    readLiteral (text ++ '\'' :: rest) = some (text, rest) := by
  induction text with
  | nil => simp [readLiteral]
  | cons char text ih =>
      obtain ⟨hchar, htext⟩ := List.forall_mem_cons.1 hplain
      obtain ⟨hne, hrest⟩ : '\'' ≠ char ∧ '\'' ∉ text := by simpa using hmark
      simp [readLiteral, hne.symm, hchar, ih htext hrest, andThen]

/-- Up to two apostrophes in a row belong to the string. -/
theorem read_multiline_literal_marks {marks : Nat} (hmarks : marks ≤ 2)
    {text chars rest : List Char} (htext : NotBefore '\'' text)
    (hread : readMultilineLiteral text = some (chars, rest)) :
    readMultilineLiteral (List.replicate marks '\'' ++ text) =
      some (List.replicate marks '\'' ++ chars, rest) := by
  cases text with
  | nil => simp [readMultilineLiteral] at hread
  | cons char text =>
      have hmark : char ≠ '\'' := htext char rfl
      interval_cases marks
      · exact hread
      · simp [readMultilineLiteral, hmark, hread, isPlain, andThen]
      · simp [readMultilineLiteral, hmark, hread, isPlain, andThen, List.replicate]

/-- Up to two apostrophes right before the three that end the string belong to it. -/
theorem read_multiline_literal_closing {marks : Nat} (hmarks : marks ≤ 2) {rest : List Char}
    (hrest : NotBefore '\'' rest) :
    readMultilineLiteral (List.replicate marks '\'' ++ '\'' :: '\'' :: '\'' :: rest) =
      some (List.replicate marks '\'', rest) := by
  have hne := hrest.ne_cons
  interval_cases marks <;> simp [readMultilineLiteral, List.replicate, hne]

/-- A block is as long as the marks before the text at least. -/
theorem le_longest_run (mark : Char) (before : Nat) (text : List Char) :
    before ≤ longestRun mark before text := by
  induction text generalizing before with
  | nil => exact Nat.le_refl before
  | cons char text ih =>
      unfold longestRun
      split
      · exact Nat.le_trans (Nat.le_succ before) (ih (before + 1))
      · exact Nat.le_max_left _ _

/-- A text without more than two apostrophes in a row is read as it stands between three of them;
the apostrophes that were written right before belong to it. -/
theorem read_multiline_literal_plain {marks : Nat} (hmarks : marks ≤ 2) {text rest : List Char}
    (hescape : ∀ char ∈ text, needsEscape char = false) (hrun : longestRun '\'' marks text ≤ 2)
    (hrest : NotBefore '\'' rest) :
    readMultilineLiteral (List.replicate marks '\'' ++ (text ++ '\'' :: '\'' :: '\'' :: rest)) =
      some (List.replicate marks '\'' ++ text, rest) := by
  induction text generalizing marks with
  | nil => simpa using read_multiline_literal_closing hmarks hrest
  | cons char text ih =>
      obtain ⟨hchar, htext⟩ := List.forall_mem_cons.1 hescape
      by_cases hmark : char = '\''
      · subst hmark
        have hmore : longestRun '\'' (marks + 1) text ≤ 2 := by simpa [longestRun] using hrun
        have hle := le_longest_run '\'' (marks + 1) text
        simpa [List.replicate_succ', List.append_assoc] using
          @ih (marks + 1) (by omega) htext hmore
      · have hmore : longestRun '\'' 0 text ≤ 2 := by
          simp [longestRun, hmark] at hrun
          exact hrun.2
        have hnext : readMultilineLiteral (text ++ '\'' :: '\'' :: '\'' :: rest) =
            some (text, rest) := by
          simpa using @ih 0 (by omega) htext hmore
        refine read_multiline_literal_marks hmarks (fun first hfirst => ?_) ?_
        · obtain rfl : char = first := by simpa using hfirst
          exact hmark
        · by_cases hfeed : char = '\n'
          · simp [readMultilineLiteral, hfeed, hnext, andThen]
          · have hplain := plain_of_not_needs_escape hchar hfeed
            simp [readMultilineLiteral, hmark, no_break_of_plain hplain, hplain, hnext, andThen]

/-! ## Forms -/

/-- The first character that is written with escapes is a backslash or the first of the text; it is
no carriage return, and a quotation mark only between three of them. -/
theorem head_write_escaped (isMultiline : Bool) (char : Char) (text : List Char) {rest : List Char} :
    ∀ first ∈ (writeEscaped isMultiline 0 (char :: text) ++ rest).head?,
      first = '\\' ∨ first = char ∧ first ≠ '\r' ∧ (first = '"' → isMultiline = true) := by
  intro first hfirst
  by_cases hmark : char = '"'
  · subst hmark
    cases isMultiline with
    | false => exact .inl (by simpa [writeEscaped, eq_comm] using hfirst)
    | true =>
        obtain rfl : '"' = first := by simpa [writeEscaped] using hfirst
        simp
  · rw [writeEscaped, if_neg hmark, List.append_assoc] at hfirst
    rcases (escaped_escape isMultiline char).head_eq first hfirst with rfl | ⟨rfl, hreturn⟩
    · exact .inl rfl
    · exact .inr ⟨rfl, hreturn, fun heq => absurd heq hmark⟩

/-- A text that does not begin with a line break keeps all its characters. -/
theorem drop_line_break_eq {text : List Char} (hfeed : NotBefore '\n' text)
    (hreturn : NotBefore '\r' text) : dropLineBreak text = text := by
  cases text with
  | nil => rfl
  | cons char text =>
      have hne : char ≠ '\n' ∧ char ≠ '\r' := ⟨hfeed char rfl, hreturn char rfl⟩
      simp [dropLineBreak, hne]

/-- A string over several lines loses the line break that it begins with. -/
theorem drop_line_break_opening {text written : List Char}
    (h : '\n' ∉ text → NotBefore '\n' written ∧ NotBefore '\r' written) :
    dropLineBreak ((if '\n' ∈ text then ['\n'] else []) ++ written) = written := by
  by_cases hfeed : '\n' ∈ text
  · simp [hfeed, dropLineBreak]
  · simpa [hfeed] using drop_line_break_eq (h hfeed).1 (h hfeed).2

/-- What is between single marks does not begin with two more of them. -/
theorem ne_two_marks {mark : Char} {rest : List Char}
    (h : NotBefore mark rest ∨ ∃ more, rest = mark :: more ∧ NotBefore mark more)
    (text : List Char) : rest ≠ mark :: mark :: text := by
  rintro rfl
  rcases h with h | ⟨more, heq, h⟩
  · exact h.ne_cons _ rfl
  · exact h.ne_cons _ (List.tail_eq_of_cons_eq heq).symm

/-! ### Single marks -/

section

variable {text rest : List Char}

/-- A text is read back from between quotation marks. -/
theorem read_write_basic (hrest : NotBefore '"' rest) :
    readText (writeIn .basic text ++ rest) = some (text, rest) := by
  have hwritten : writeIn .basic text ++ rest =
      '"' :: (writeEscaped false 0 text ++ '"' :: rest) := by
    simp [writeIn, Quoting.delimiter, Quoting.isMultiline, Quoting.hasEscapes]
  have hne : ∀ more, writeEscaped false 0 text ++ '"' :: rest ≠ '"' :: '"' :: more := by
    refine ne_two_marks ?_
    cases text with
    | nil => exact .inr ⟨rest, rfl, hrest⟩
    | cons char text =>
        left
        intro first hfirst
        rcases head_write_escaped false char text first hfirst with rfl | ⟨-, -, hmultiline⟩
        · simp
        · intro heq
          exact absurd (hmultiline heq) (by simp)
  rw [hwritten]
  -- With `hne` the two marks in front are not taken for a part of three.
  simpa [readText] using read_basic_write_escaped 0 text rest

/-- A text is read back from between apostrophes, if it may stand there. -/
theorem read_write_literal (hplain : Quoting.literal.holdsPlainly text = true)
    (hrest : NotBefore '\'' rest) :
    readText (writeIn .literal text ++ rest) = some (text, rest) := by
  obtain ⟨hescape, hmark, hfeed⟩ : (∀ char ∈ text, needsEscape char = false) ∧
      '\'' ∉ text ∧ '\n' ∉ text := by
    simpa [Quoting.holdsPlainly] using hplain
  have hchars : ∀ char ∈ text, isPlain char = true := by
    intro char hmem
    exact plain_of_not_needs_escape (hescape char hmem) fun heq => hfeed (heq ▸ hmem)
  have hwritten : writeIn .literal text ++ rest = '\'' :: (text ++ '\'' :: rest) := by
    simp [writeIn, Quoting.delimiter, Quoting.isMultiline, Quoting.hasEscapes]
  have hne : ∀ more, text ++ '\'' :: rest ≠ '\'' :: '\'' :: more := by
    refine ne_two_marks ?_
    cases text with
    | nil => exact .inr ⟨rest, rfl, hrest⟩
    | cons char text =>
        left
        rintro first hfirst rfl
        obtain rfl : char = '\'' := by simpa using hfirst
        simp at hmark
  rw [hwritten]
  simpa [readText] using read_literal_plain hchars hmark rest

/-! ### Three marks -/

/-- A text is read back from between three quotation marks. -/
theorem read_write_multiline_basic (hrest : NotBefore '"' rest) :
    readText (writeIn .multilineBasic text ++ rest) = some (text, rest) := by
  have hopening : dropLineBreak ((if '\n' ∈ text then ['\n'] else []) ++
      (writeEscaped true 0 text ++ '"' :: '"' :: '"' :: rest)) =
        writeEscaped true 0 text ++ '"' :: '"' :: '"' :: rest := by
    refine drop_line_break_opening fun hfeed => ?_
    cases text with
    | nil => simp [writeEscaped, NotBefore]
    | cons char text =>
        have hhead := @head_write_escaped true char text ('"' :: '"' :: '"' :: rest)
        constructor <;> intro first hfirst
        · rcases hhead first hfirst with rfl | ⟨rfl, -⟩
          · simp
          · rintro rfl
            simp at hfeed
        · rcases hhead first hfirst with rfl | ⟨rfl, hreturn, -⟩
          · simp
          · exact hreturn
  have hread := @read_multiline_basic_write_escaped 0 (by omega) text rest hrest
  simpa [writeIn, Quoting.delimiter, Quoting.isMultiline, Quoting.hasEscapes, readText, hopening]
    using hread

/-- A text is read back from between three apostrophes, if it may stand there. -/
theorem read_write_multiline_literal (hplain : Quoting.multilineLiteral.holdsPlainly text = true)
    (hrest : NotBefore '\'' rest) :
    readText (writeIn .multilineLiteral text ++ rest) = some (text, rest) := by
  obtain ⟨hescape, hrun⟩ : (∀ char ∈ text, needsEscape char = false) ∧
      longestRun '\'' 0 text ≤ 2 := by
    simpa [Quoting.holdsPlainly] using hplain
  have hopening : dropLineBreak ((if '\n' ∈ text then ['\n'] else []) ++
      (text ++ '\'' :: '\'' :: '\'' :: rest)) = text ++ '\'' :: '\'' :: '\'' :: rest := by
    refine drop_line_break_opening fun hfeed => ?_
    cases text with
    | nil => simp [NotBefore]
    | cons char text =>
        have hne : char ≠ '\n' := fun heq => hfeed (heq ▸ List.mem_cons_self)
        have hchar := plain_of_not_needs_escape (hescape char List.mem_cons_self) hne
        simpa [NotBefore] using no_break_of_plain hchar
  have hread := @read_multiline_literal_plain 0 (by omega) text rest hescape hrun hrest
  simpa [writeIn, Quoting.delimiter, Quoting.isMultiline, Quoting.hasEscapes, readText, hopening]
    using hread

end

/-! ### The form that is chosen -/

/-- A form without escapes is chosen only for a text that it holds plainly. -/
theorem holds_plainly_choose {text : List Char} (h : (Quoting.choose text).hasEscapes = false) :
    (Quoting.choose text).holdsPlainly text = true := by
  unfold Quoting.choose at h ⊢
  split at h
  next quoting hfind => simpa using List.find?_some hfind
  next =>
      split at h <;> cases h

/-- A text is read back from what is written for it, up to the end of the string. -/
theorem read_write_text (text : String) {rest : List Char} (hmark : NotBefore '"' rest)
    (hapostrophe : NotBefore '\'' rest) :
    readText (writeText text ++ rest) = some (text.toList, rest) := by
  have hplain := @holds_plainly_choose text.toList
  unfold writeText
  cases hform : Quoting.choose text.toList with
  | basic => exact read_write_basic hmark
  | literal =>
      rw [hform] at hplain
      exact read_write_literal (hplain rfl) hapostrophe
  | multilineBasic => exact read_write_multiline_basic hmark
  | multilineLiteral =>
      rw [hform] at hplain
      exact read_write_multiline_literal (hplain rfl) hapostrophe

/-- A string begins with one of the two marks. -/
theorem head_write_text (text : String) :
    ∃ mark ∈ ['"', '\''], ∃ more, writeText text = mark :: more := by
  unfold writeText writeIn
  cases Quoting.choose text.toList with
  | basic | multilineBasic => exact ⟨'"', by simp, _, rfl⟩
  | literal | multilineLiteral => exact ⟨'\'', by simp, _, rfl⟩

/-- A string ends with one of the two marks. -/
theorem last_write_text (text : String) :
    ∃ mark ∈ ['"', '\''], (writeText text).getLast? = some mark := by
  unfold writeText writeIn
  rw [List.getLast?_append]
  cases Quoting.choose text.toList with
  | basic | multilineBasic => exact ⟨'"', by simp, rfl⟩
  | literal | multilineLiteral => exact ⟨'\'', by simp, rfl⟩

/-- A text without line feeds is written on a single line. -/
theorem write_text_no_feed {text : String} (h : '\n' ∉ text.toList) : '\n' ∉ writeText text := by
  have hdelimiter : ∀ quoting : Quoting, '\n' ∉ quoting.delimiter := by
    intro quoting
    cases quoting <;> simp [Quoting.delimiter]
  have hescaped := write_escaped_no_feed (Quoting.choose text.toList).isMultiline 0 h
  simp only [writeText, writeIn, List.mem_append, not_or]
  refine ⟨⟨⟨hdelimiter _, ?_⟩, ?_⟩, hdelimiter _⟩
  · simp [h]
  · split
    · exact hescaped
    · exact h

end Notekeeper.Toml
