import Notekeeper.Text.Lines

/-!
# Splitting and joining

How `split`, `lines` and `firstWord` act on texts that are put together from parts. Read
`lines_append_line_feed` first: a text in front of a line feed is read on its own, whatever
follows. `lines_join` says that joining lines and reading them again gives the same lines.
-/

namespace Notekeeper.Text

/-! ## Pieces -/

/-- A text always has a piece. -/
theorem split_ne_nil (separator : Char) (text : List Char) : split separator text ≠ [] := by
  induction text with
  | nil => simp [split]
  | cons char rest ih =>
      by_cases hsep : char = separator
      · simp [split, hsep]
      · cases hs : split separator rest with
        | nil => exact absurd hs ih
        | cons piece pieces => simp [split, hsep, hs]

/-- The pieces on both sides of a separator are those of either side alone. -/
theorem split_append_separator (separator : Char) (front rest : List Char) :
    split separator (front ++ separator :: rest) =
      split separator front ++ split separator rest := by
  induction front with
  | nil => simp [split]
  | cons char front ih =>
      by_cases hsep : char = separator
      · simp [split, hsep, ih]
      · cases hs : split separator front with
        | nil => exact absurd hs (split_ne_nil separator front)
        | cons piece pieces => simp [split, hsep, ih, hs]

/-- A text without the separator is its only piece. -/
theorem split_of_not_mem {separator : Char} {text : List Char} (h : separator ∉ text) :
    split separator text = [text] := by
  induction text with
  | nil => rfl
  | cons char rest ih =>
      simp only [List.mem_cons, not_or] at h
      simp [split, Ne.symm h.1, ih h.2]

/-- No piece has the separator in it. -/
theorem not_mem_of_mem_split {separator : Char} {text piece : List Char}
    (h : piece ∈ split separator text) : separator ∉ piece := by
  induction text generalizing piece with
  | nil =>
      simp only [split, List.mem_singleton] at h
      simp [h]
  | cons char rest ih =>
      by_cases hsep : char = separator
      · simp only [split, if_pos hsep, List.mem_cons] at h
        rcases h with rfl | h
        · simp
        · exact ih h
      · cases hs : split separator rest with
        | nil => exact absurd hs (split_ne_nil separator rest)
        | cons first pieces =>
            simp only [split, if_neg hsep, hs, List.mem_cons] at h
            rcases h with rfl | h
            · have hfirst := @ih first (by simp [hs])
              simp [Ne.symm hsep, hfirst]
            · exact ih (by simp [hs, h])

/-- A text put behind another lengthens its last piece, if it has no separator. -/
theorem split_append_of_not_mem {separator : Char} {rest : List Char} (front : List Char)
    (h : separator ∉ rest) :
    ∃ pieces last, split separator front = pieces ++ [last] ∧
      split separator (front ++ rest) = pieces ++ [last ++ rest] := by
  induction front with
  | nil => exact ⟨[], [], rfl, by simpa using split_of_not_mem h⟩
  | cons char front ih =>
      obtain ⟨pieces, last, hfront, hall⟩ := ih
      by_cases hsep : char = separator
      · exact ⟨[] :: pieces, last, by simp [split, hsep, hfront], by simp [split, hsep, hall]⟩
      · cases pieces with
        | nil =>
            exact ⟨[], char :: last, by simp [split, hsep, hfront], by simp [split, hsep, hall]⟩
        | cons piece pieces =>
            exact ⟨(char :: piece) :: pieces, last, by simp [split, hsep, hfront],
              by simp [split, hsep, hall]⟩

/-! ## Lines -/

/-- A line without carriage returns loses nothing. -/
theorem drop_return_of_not_mem {line : List Char} (h : '\r' ∉ line) : dropReturn line = line :=
  if_neg fun hlast => h (List.mem_of_getLast? hlast)

/-- Pieces in front of others were all ended by a line feed. -/
theorem lines_of_pieces_append (front : List (List Char)) {rest : List (List Char)}
    (h : rest ≠ []) :
    linesOfPieces (front ++ rest) = front.map dropReturn ++ linesOfPieces rest := by
  induction front with
  | nil => rfl
  | cons piece front ih =>
      cases hs : front ++ rest with
      | nil => simp at hs; exact absurd hs.2 h
      | cons next others => simp [linesOfPieces, hs, ← ih]

/-- The lines of a text that a line feed follows. -/
def linesBefore (text : String) : List String :=
  (split '\n' text.toList).map fun line => String.ofList (dropReturn line)

/-- A text in front of a line feed is read on its own. -/
theorem lines_append_line_feed (front rest : String) :
    lines (front ++ "\n" ++ rest) = linesBefore front ++ lines rest := by
  have hsplit : split '\n' (front ++ "\n" ++ rest).toList =
      split '\n' front.toList ++ split '\n' rest.toList := by
    have hline : ("\n" : String).toList = ['\n'] := rfl
    simpa [hline] using split_append_separator '\n' front.toList rest.toList
  unfold lines linesBefore
  rw [hsplit, lines_of_pieces_append _ (split_ne_nil _ _)]
  simp

/-- A text without line feeds that does not end in a carriage return is one line before a line
feed. -/
theorem lines_before_single {text : String} (hfeed : '\n' ∉ text.toList)
    (hreturn : dropReturn text.toList = text.toList) : linesBefore text = [text] := by
  simp [linesBefore, split_of_not_mem hfeed, hreturn]

/-- A text that stays on one line in front of a line feed: it has no line feed, and no carriage return
at its end. -/
def Unbroken (text : String) : Prop :=
  '\n' ∉ text.toList ∧ text.toList.getLast? ≠ some '\r'

instance (text : String) : Decidable (Unbroken text) :=
  inferInstanceAs (Decidable ('\n' ∉ text.toList ∧ text.toList.getLast? ≠ some '\r'))

/-- A text without line breaks stays on one line. -/
theorem unbroken_of_not_mem {text : String} (h : '\n' ∉ text.toList ∧ '\r' ∉ text.toList) :
    Unbroken text :=
  ⟨h.1, fun hlast => h.2 (List.mem_of_getLast? hlast)⟩

/-- A text that stays on one line is read as this line. -/
theorem lines_before_unbroken {text : String} (h : Unbroken text) : linesBefore text = [text] :=
  lines_before_single h.1 (if_neg h.2)

/-- Texts without line feeds that do not end in carriage returns are one line each. -/
theorem lines_before_singles {parts : List String}
    (hfeed : ∀ part ∈ parts, '\n' ∉ part.toList)
    (hreturn : ∀ part ∈ parts, dropReturn part.toList = part.toList) :
    parts.flatMap linesBefore = parts := by
  induction parts with
  | nil => rfl
  | cons part parts ih =>
      have hpart := lines_before_single (hfeed part (by simp)) (hreturn part (by simp))
      have hrest := ih (fun other hmem => hfeed other (by simp [hmem]))
        (fun other hmem => hreturn other (by simp [hmem]))
      simp [hpart, hrest]

/-- A join of at least two parts begins with the first and the separator. -/
theorem join_cons {separator first : String} {rest : List String} (h : rest ≠ []) :
    join separator (first :: rest) = first ++ separator ++ join separator rest := by
  simp [join, String.intercalate_cons_of_ne_nil h]

/-- A join of parts ends with one of them. -/
theorem join_ends {separator : String} {parts : List String} (hne : parts ≠ []) :
    ∃ front, ∃ last ∈ parts, (join separator parts).toList = front ++ last.toList := by
  induction parts with
  | nil => exact absurd rfl hne
  | cons part parts ih =>
      cases parts with
      | nil => exact ⟨[], part, by simp, by simp [join]⟩
      | cons next parts =>
          obtain ⟨front, last, hlast, heq⟩ := ih (by simp)
          refine ⟨part.toList ++ separator.toList ++ front, last, List.mem_cons_of_mem _ hlast, ?_⟩
          rw [join_cons (by simp)]
          simp [heq]

/-- Joined parts in front of a line feed are read one after the other. -/
theorem lines_join_append {parts : List String} (h : parts ≠ []) (rest : String) :
    lines (join "\n" parts ++ "\n" ++ rest) = parts.flatMap linesBefore ++ lines rest := by
  induction parts with
  | nil => exact absurd rfl h
  | cons part parts ih =>
      cases parts with
      | nil => simp [join, lines_append_line_feed]
      | cons next parts =>
          have hrest := ih (by simp)
          rw [join_cons (by simp)]
          simp only [String.append_assoc] at hrest ⊢
          rw [← String.append_assoc, lines_append_line_feed, hrest]
          simp

/-- Joined parts that stay on one line each are read in front of others as they are. -/
theorem lines_join_front {front rest : List String} (hfront : ∀ part ∈ front, Unbroken part)
    (hrest : rest ≠ []) : lines (join "\n" (front ++ rest)) = front ++ lines (join "\n" rest) := by
  induction front with
  | nil => rfl
  | cons part front ih =>
      rw [List.cons_append, join_cons (by simp [hrest]), lines_append_line_feed,
        lines_before_unbroken (hfront part (by simp)),
        ih fun other hmem => hfront other (by simp [hmem])]
      rfl

/-- A text without line feeds that is not empty is its only line. -/
theorem lines_of_not_mem {text : String} (hfeed : '\n' ∉ text.toList) (hne : text ≠ "") :
    lines text = [text] := by
  have hlist : text.toList ≠ [] := by simpa using hne
  simp [lines, split_of_not_mem hfeed, linesOfPieces, hlist]

/-- Lines that are joined and read again are the same, if no line has a line feed or ends in a
carriage return and the last is not empty. -/
theorem lines_join {parts : List String} {last : String}
    (hfeed : ∀ part ∈ parts, '\n' ∉ part.toList)
    (hreturn : ∀ part ∈ parts, dropReturn part.toList = part.toList)
    (hlast : '\n' ∉ last.toList) (hne : last ≠ "") :
    lines (join "\n" (parts ++ [last])) = parts ++ [last] := by
  cases parts with
  | nil => simpa [join] using lines_of_not_mem hlast hne
  | cons part parts =>
      have hjoin : join "\n" (part :: parts ++ [last]) =
          join "\n" (part :: parts) ++ "\n" ++ last :=
        String.intercalate_append_of_ne_nil (by simp) (by simp)
      rw [hjoin, lines_join_append (by simp), lines_before_singles hfeed hreturn,
        lines_of_not_mem hlast hne]

/-- Cutting at a separator and joining again gives the text. -/
theorem intercalate_split (separator : Char) (text : List Char) :
    [separator].intercalate (split separator text) = text := by
  induction text with
  | nil => rfl
  | cons char rest ih =>
      by_cases hsep : char = separator
      · cases hs : split separator rest with
        | nil => exact absurd hs (split_ne_nil separator rest)
        | cons piece pieces =>
            simp only [split, if_pos hsep]
            rw [hs] at ih ⊢
            simp [List.intercalate, List.intersperse] at ih ⊢
            simp [hsep, ih]
      · cases hs : split separator rest with
        | nil => exact absurd hs (split_ne_nil separator rest)
        | cons piece pieces =>
            rw [hs] at ih
            cases pieces <;> simp_all [split, List.intercalate, List.intersperse]

/-- `intercalate_split` on strings. -/
theorem join_split_at (separator : Char) (text : String) :
    join (String.singleton separator) (splitAt separator text) = text := by
  apply String.toList_injective
  have hpieces : ((split separator text.toList).map String.ofList).map String.toList =
      split separator text.toList := by simp
  simp [join, splitAt, String.toList_intercalate, hpieces, intercalate_split]

/-! ## Words -/

/-- A line of a word without spaces, a space and a value is read as that word and that value. -/
theorem first_word_append {word : List Char} (h : ' ' ∉ word) (value : List Char) :
    cut? [' '] (word ++ ' ' :: value) = some (word, value) := by
  induction word with
  | nil => simp [cut?]
  | cons char word ih =>
      simp only [List.mem_cons, not_or] at h
      have hpre : [' '].isPrefixOf (char :: (word ++ ' ' :: value)) = false := by
        simp [List.isPrefixOf, h.1]
      simp [cut?, hpre, ih h.2]

/-- Cutting at the first space gives the first piece between spaces. -/
theorem split_space (text : List Char) :
    split ' ' text =
      match cut? [' '] text with
      | some (word, rest) => word :: split ' ' rest
      | none => [text] := by
  induction text with
  | nil => rfl
  | cons char rest ih =>
      by_cases hspace : char = ' '
      · subst hspace
        simp [split, cut?, List.isPrefixOf]
      · have hpre : [' '].isPrefixOf (char :: rest) = false := by
          simp [List.isPrefixOf, Ne.symm hspace]
        cases hcut : cut? [' '] rest with
        | none => simp [split, cut?, hspace, hpre, hcut, ih]
        | some parts => simp [split, cut?, hspace, hpre, hcut, ih]

/-- A text without spaces cannot be cut at one. -/
theorem cut_of_not_mem {text : List Char} (h : ' ' ∉ text) : cut? [' '] text = none := by
  induction text with
  | nil => rfl
  | cons char rest ih =>
      simp only [List.mem_cons, not_or] at h
      have hpre : [' '].isPrefixOf (char :: rest) = false := by simp [List.isPrefixOf, h.1]
      simp [cut?, hpre, ih h.2]

end Notekeeper.Text
