import Notekeeper.Proofs.Text.Lines

/-!
# Pieces and parts of a text

Cutting a join of pieces gives the pieces again (`split_at_join`), and every piece of a text stands
in it between separators (`exists_append_of_mem_split`). `prefix_join` says what the beginnings of
joined lines are, and `lines_join_begun` how such a beginning is read: the last line counts as far as
it has got, and an empty one not at all.
-/

namespace Notekeeper.Text

/-! ## Cutting what was joined -/

/-- Pieces without the separator are cut apart where they were put together. -/
theorem split_intercalate {separator : Char} {pieces : List (List Char)} (hne : pieces ≠ [])
    (h : ∀ piece ∈ pieces, separator ∉ piece) :
    split separator ([separator].intercalate pieces) = pieces := by
  induction pieces with
  | nil => exact absurd rfl hne
  | cons piece pieces ih =>
      have hpiece := h piece (by simp)
      cases pieces with
      | nil => simpa using split_of_not_mem hpiece
      | cons next pieces =>
          have hrest := ih (by simp) fun other hmem => h other (List.mem_cons_of_mem _ hmem)
          rw [List.intercalate_cons_cons, List.append_assoc, List.singleton_append,
            split_append_separator, split_of_not_mem hpiece, hrest]
          rfl

/-- Joined pieces are the first one and, behind a separator, the others. -/
theorem exists_append_of_intercalate (separator : Char) (piece : List Char)
    (pieces : List (List Char)) :
    ∃ rest, [separator].intercalate (piece :: pieces) = piece ++ rest ∧
      (∀ char ∈ rest.head?, char = separator) ∧ rest.tail = [separator].intercalate pieces := by
  cases pieces with
  | nil => exact ⟨[], by simp, by simp, rfl⟩
  | cons next pieces =>
      exact ⟨separator :: [separator].intercalate (next :: pieces),
        by simp [List.intercalate_cons_cons], by simp, rfl⟩

/-- `split_intercalate` on strings. -/
theorem split_at_join {separator : Char} {parts : List String} (hne : parts ≠ [])
    (h : ∀ part ∈ parts, separator ∉ part.toList) :
    splitAt separator (join (String.singleton separator) parts) = parts := by
  have hpieces : split separator ([separator].intercalate (parts.map String.toList)) =
      parts.map String.toList := by
    apply split_intercalate (by simpa using hne)
    intro piece hmem
    obtain ⟨part, hpart, rfl⟩ := List.mem_map.1 hmem
    exact h part hpart
  simp [splitAt, join, String.toList_intercalate, hpieces]

/-- What is in a join is in the separator or in a part. -/
theorem mem_join {separator : String} {parts : List String} {char : Char}
    (h : char ∈ (join separator parts).toList) :
    char ∈ separator.toList ∨ ∃ part ∈ parts, char ∈ part.toList := by
  induction parts with
  | nil => simp [join] at h
  | cons part parts ih =>
      cases parts with
      | nil => exact .inr ⟨part, by simp, by simpa [join] using h⟩
      | cons next parts =>
          rw [join_cons (by simp), String.toList_append, String.toList_append, List.append_assoc,
            List.mem_append, List.mem_append] at h
          rcases h with hpart | hseparator | hrest
          · exact .inr ⟨part, by simp, hpart⟩
          · exact .inl hseparator
          · rcases ih hrest with hseparator | hlater
            · exact .inl hseparator
            · obtain ⟨other, hmem, hchar⟩ := hlater
              exact .inr ⟨other, List.mem_cons_of_mem _ hmem, hchar⟩

/-- A piece stands in its text, and a separator follows it unless it is the last. -/
theorem exists_append_of_mem_split {separator : Char} {text piece : List Char}
    (h : piece ∈ split separator text) :
    ∃ front rest, text = front ++ piece ++ rest ∧
      (rest = [] ∨ ∃ more, rest = separator :: more) := by
  induction text generalizing piece with
  | nil =>
      obtain rfl : piece = [] := by simpa [split] using h
      exact ⟨[], [], rfl, .inl rfl⟩
  | cons char text ih =>
      by_cases hsep : char = separator
      · simp only [split, if_pos hsep, List.mem_cons] at h
        rcases h with rfl | h
        · exact ⟨[], char :: text, rfl, .inr ⟨text, by rw [hsep]⟩⟩
        · obtain ⟨front, rest, heq, hrest⟩ := ih h
          exact ⟨char :: front, rest, by simp [heq], hrest⟩
      · cases hs : split separator text with
        | nil => exact absurd hs (split_ne_nil separator text)
        | cons first pieces =>
            simp only [split, if_neg hsep, hs, List.mem_cons] at h
            rcases h with rfl | h
            · -- The first piece begins the text, so the front before it is empty.
              obtain ⟨more, hmore⟩ : ∃ more, text = first ++ more ∧
                  (more = [] ∨ ∃ rest, more = separator :: rest) := by
                have hjoined := intercalate_split separator text
                rw [hs] at hjoined
                cases pieces with
                | nil => exact ⟨[], by simpa using hjoined.symm, .inl rfl⟩
                | cons next pieces =>
                    rw [List.intercalate_cons_cons, List.append_assoc] at hjoined
                    exact ⟨_, hjoined.symm, .inr ⟨_, rfl⟩⟩
              exact ⟨[], more, by simp [hmore.1], hmore.2⟩
            · have hpiece : piece ∈ split separator text := by simp [hs, h]
              obtain ⟨front, rest, heq, hrest⟩ := ih hpiece
              exact ⟨char :: front, rest, by simp [heq], hrest⟩

/-- Lines that a line feed follows have no line feed, and are as many as the pieces. -/
theorem lines_before_feed (text : String) :
    (∀ line ∈ linesBefore text, '\n' ∉ line.toList) ∧
      (linesBefore text).length = (splitAt '\n' text).length := by
  refine ⟨fun line hmem => ?_, by simp [linesBefore, splitAt]⟩
  obtain ⟨piece, hpiece, rfl⟩ := List.mem_map.1 hmem
  have hfeed := not_mem_of_mem_split hpiece
  rw [String.toList_ofList, dropReturn]
  split
  · exact fun hchar => hfeed ((List.dropLast_subset piece hchar))
  · exact hfeed

/-- Lines are beginnings of the pieces between line feeds. -/
theorem prefix_of_mem_lines_of_pieces {pieces : List (List Char)} {line : List Char}
    (h : line ∈ linesOfPieces pieces) : ∃ piece ∈ pieces, line <+: piece := by
  fun_induction linesOfPieces pieces with
  | case1 => cases h
  | case2 last hempty => cases h
  | case3 last hne =>
      obtain rfl := List.mem_singleton.1 h
      exact ⟨line, by simp, List.prefix_rfl⟩
  | case4 piece next rest ih =>
      rcases List.mem_cons.1 h with rfl | h
      · refine ⟨piece, by simp, ?_⟩
        unfold dropReturn
        split
        · exact List.dropLast_prefix piece
        · exact List.prefix_rfl
      · obtain ⟨other, hmem, hbegins⟩ := ih h
        exact ⟨other, List.mem_cons_of_mem _ hmem, hbegins⟩

/-- No line of a text without carriage returns has a line break. -/
theorem no_break_of_mem_lines {text line : String} (hreturn : '\r' ∉ text.toList)
    (h : line ∈ lines text) : '\n' ∉ line.toList ∧ '\r' ∉ line.toList := by
  obtain ⟨chars, hchars, rfl⟩ := List.mem_map.1 h
  obtain ⟨piece, hpiece, hbegins⟩ := prefix_of_mem_lines_of_pieces hchars
  obtain ⟨front, rest, htext, -⟩ := exists_append_of_mem_split hpiece
  rw [String.toList_ofList]
  refine ⟨fun hchar => not_mem_of_mem_split hpiece (hbegins.subset hchar), fun hchar => hreturn ?_⟩
  simp [htext, hbegins.subset hchar]

/-! ## Beginnings -/

/-- A beginning of a text that is put together from two is a beginning of the first, or the first
and a beginning of the second. -/
theorem prefix_append_cases {text front rest : List Char} (h : text <+: front ++ rest) :
    text <+: front ∨ ∃ more, text = front ++ more ∧ more <+: rest := by
  rcases Nat.le_total text.length front.length with hle | hle
  · exact .inl (List.prefix_of_prefix_length_le h (List.prefix_append _ _) hle)
  · obtain ⟨more, rfl⟩ := List.prefix_of_prefix_length_le (List.prefix_append front rest) h hle
    exact .inr ⟨more, rfl, (List.prefix_append_right_inj front).1 h⟩

/-- A beginning of joined parts consists of some of the parts and a beginning of the next. -/
theorem prefix_join {parts : List String} (hne : parts ≠ []) {text : String}
    (h : text.toList <+: (join "\n" parts).toList) :
    ∃ front part rest begun, parts = front ++ part :: rest ∧ begun.toList <+: part.toList ∧
      text = join "\n" (front ++ [begun]) := by
  induction parts generalizing text with
  | nil => exact absurd rfl hne
  | cons part parts ih =>
      cases parts with
      | nil => exact ⟨[], part, [], text, rfl, by simpa [join] using h, by simp [join]⟩
      | cons next parts =>
          have hline : ("\n" : String).toList = ['\n'] := rfl
          rw [join_cons (by simp), String.append_assoc, String.toList_append] at h
          rcases prefix_append_cases h with hfirst | ⟨more, htext, hmore⟩
          · exact ⟨[], part, next :: parts, text, rfl, hfirst, by simp [join]⟩
          · cases more with
            | nil =>
                refine ⟨[], part, next :: parts, part, rfl, List.prefix_rfl, ?_⟩
                exact String.toList_injective (by simpa [join] using htext)
            | cons char more =>
                rw [String.toList_append, hline, List.singleton_append,
                  List.cons_prefix_cons] at hmore
                obtain ⟨rfl, hmore⟩ := hmore
                obtain ⟨front, last, rest, begun, hparts, hbegun, heq⟩ :=
                  @ih (by simp) (String.ofList more) (by simpa using hmore)
                refine ⟨part :: front, last, rest, begun, by rw [hparts]; rfl, hbegun, ?_⟩
                apply String.toList_injective
                rw [List.cons_append, join_cons (by simp), ← heq, htext]
                simp [hline]

/-- Of joined lines the last is read as far as it has got. -/
theorem lines_join_begun {parts : List String} {begun : String}
    (hfeed : ∀ part ∈ parts, '\n' ∉ part.toList)
    (hreturn : ∀ part ∈ parts, dropReturn part.toList = part.toList)
    (hbegun : '\n' ∉ begun.toList) :
    lines (join "\n" (parts ++ [begun])) = parts ++ if begun = "" then [] else [begun] := by
  by_cases hempty : begun = ""
  · subst hempty
    cases parts with
    | nil => rfl
    | cons part parts =>
        have hjoin : join "\n" (part :: parts ++ [""]) =
            join "\n" (part :: parts) ++ "\n" ++ "" :=
          String.intercalate_append_of_ne_nil (by simp) (by simp)
        rw [hjoin, lines_join_append (by simp), lines_before_singles hfeed hreturn]
        rfl
  · rw [if_neg hempty, lines_join hfeed hreturn hbegun hempty]

/-- A text without carriage returns that does not end with a line feed is the join of its lines. -/
theorem join_lines {text : String} (hreturn : '\r' ∉ text.toList)
    (hlast : text.toList.getLast? ≠ some '\n') : join "\n" (lines text) = text := by
  have hjoined : join "\n" (splitAt '\n' text) = text := join_split_at '\n' text
  have hpart : ∀ part ∈ splitAt '\n' text,
      '\n' ∉ part.toList ∧ dropReturn part.toList = part.toList := by
    intro part hmem
    obtain ⟨piece, hpiece, rfl⟩ := List.mem_map.1 hmem
    obtain ⟨front, rest, heq, -⟩ := exists_append_of_mem_split hpiece
    rw [String.toList_ofList]
    refine ⟨not_mem_of_mem_split hpiece, drop_return_of_not_mem fun hchar => hreturn ?_⟩
    simp [heq, hchar]
  have hne : splitAt '\n' text ≠ [] := by simpa [splitAt] using split_ne_nil '\n' text.toList
  obtain ⟨parts, last, hparts⟩ : ∃ parts last, splitAt '\n' text = parts ++ [last] :=
    ⟨_, _, (List.dropLast_concat_getLast hne).symm⟩
  rw [hparts] at hjoined hpart
  have hread := @lines_join_begun parts last
    (fun part hmem => (hpart part (by simp [hmem])).1)
    (fun part hmem => (hpart part (by simp [hmem])).2) (hpart last (by simp)).1
  rw [hjoined] at hread
  by_cases hempty : last = ""
  · -- An empty last part would be there because the text is empty or ends with a line feed.
    subst hempty
    cases parts with
    | nil => simpa [hread, join] using hjoined
    | cons part parts =>
        have hends : join "\n" (part :: parts ++ [""]) = join "\n" (part :: parts) ++ "\n" ++ "" :=
          String.intercalate_append_of_ne_nil (by simp) (by simp)
        rw [← hjoined, hends] at hlast
        simp at hlast
  · rw [hread, if_neg hempty, hjoined]

/-- The first line of a text begins it. -/
theorem first_line_begins {text first : String} {others : List String}
    (h : lines text = first :: others) : first.toList <+: text.toList := by
  have hdrop (piece : List Char) : dropReturn piece <+: piece := by
    unfold dropReturn
    split
    · exact List.dropLast_prefix piece
    · exact List.prefix_rfl
  unfold lines at h
  cases hpieces : split '\n' text.toList with
  | nil => exact absurd hpieces (split_ne_nil _ _)
  | cons piece pieces =>
      obtain ⟨rest, hjoin, -⟩ := exists_append_of_intercalate '\n' piece pieces
      have hpiece : piece <+: text.toList := by
        rw [← intercalate_split '\n' text.toList, hpieces, hjoin]
        exact List.prefix_append _ _
      rw [hpieces] at h
      cases pieces with
      | nil =>
          by_cases hempty : piece = []
          · simp [linesOfPieces, hempty] at h
          · obtain ⟨rfl, -⟩ : String.ofList piece = first ∧ [] = others := by
              simpa [linesOfPieces, hempty] using h
            simpa using hpiece
      | cons next pieces =>
          obtain ⟨rfl, -⟩ := List.cons.inj h
          simpa using (hdrop piece).trans hpiece

/-- Joined lines from the beginning of a text begin as the text does, or with a line feed. -/
theorem head_join_lines {text : String} {front : List String} (h : front <+: lines text) :
    ∀ char ∈ (join "\n" front).toList.head?, char = '\n' ∨ char ∈ text.toList.head? := by
  obtain ⟨behind, hlines⟩ := h
  cases front with
  | nil => simp [join]
  | cons first others =>
      obtain ⟨rest, hjoin, hrest, -⟩ :=
        exists_append_of_intercalate '\n' first.toList (others.map String.toList)
      have hlist : (join "\n" (first :: others)).toList = first.toList ++ rest := by
        rw [← hjoin, join, String.toList_intercalate]
        rfl
      obtain ⟨more, htext⟩ := first_line_begins hlines.symm
      rw [hlist, ← htext]
      cases first.toList with
      | nil => exact fun char hchar => .inl (hrest char hchar)
      | cons char chars => exact fun other hother => .inr hother

/-! ## Words -/

/-- A text that is cut at its first space is put together from the word before it, the space and the
rest. -/
theorem cut_eq_some {text word rest : List Char} (h : cut? [' '] text = some (word, rest)) :
    text = word ++ ' ' :: rest ∧ ' ' ∉ word := by
  induction text generalizing word rest with
  | nil => simp [cut?] at h
  | cons char text ih =>
      by_cases hspace : char = ' '
      · subst hspace
        obtain ⟨rfl, rfl⟩ : [] = word ∧ text = rest := by
          simpa [cut?, List.isPrefixOf] using h
        simp
      · have hpre : [' '].isPrefixOf (char :: text) = false := by
          simp [List.isPrefixOf, Ne.symm hspace]
        simp only [cut?, hpre, Bool.false_eq_true, if_false, Option.map_eq_some_iff,
          Prod.mk.injEq] at h
        obtain ⟨⟨front, back⟩, hcut, rfl, rfl⟩ := h
        obtain ⟨rfl, hfront⟩ := ih hcut
        simp [Ne.symm hspace, hfront]

/-- A first word has no space and begins its text. -/
theorem first_word_begins (text : String) :
    ' ' ∉ (firstWord text).1.toList ∧ (firstWord text).1.toList <+: text.toList := by
  unfold firstWord
  cases hcut : cut? [' '] text.toList with
  | none =>
      have hpieces := split_space text.toList
      rw [hcut] at hpieces
      have hmem : text.toList ∈ split ' ' text.toList := by simp [hpieces]
      exact ⟨not_mem_of_mem_split hmem, List.prefix_rfl⟩
  | some parts =>
      obtain ⟨heq, hword⟩ := cut_eq_some hcut
      rw [heq]
      simp [hword]

end Notekeeper.Text
