import Notekeeper.Text.Blank

/-!
# Texts on a single line

A text is on a single line when `singleLine` leaves it as it is: it has no line break, and neither
its first nor its last character is blank. `single_line_iff` says so, and gives a way to show it of
texts that are put together.
-/

namespace Notekeeper.Text

/-- Leading blanks stay out of sight of a trim. -/
theorem trim_cons_of_blank {char : Char} (h : isBlank char = true) (text : List Char) :
    trim (char :: text) = trim text := by
  simp [trim, trimStart, h]

/-- Dropping from the front leaves a text whose first character is not blank. -/
theorem trim_start_eq_self_iff {text : List Char} :
    trimStart text = text ↔ ∀ char ∈ text.head?, isBlank char = false := by
  cases text with
  | nil => simp [trimStart]
  | cons char rest =>
      cases hblank : isBlank char with
      | false => simp [trimStart, hblank]
      | true =>
          have hlength := (List.dropWhile_suffix isBlank (l := rest)).length_le
          constructor
          · intro h
            have := congrArg List.length h
            simp [trimStart, hblank] at this
            omega
          · intro h
            simpa [hblank] using h char

/-- Dropping from the end leaves a text whose last character is not blank. -/
theorem trim_end_eq_self_iff {text : List Char} :
    trimEnd text = text ↔ ∀ char ∈ text.getLast?, isBlank char = false := by
  have h := @trim_start_eq_self_iff text.reverse
  rw [List.head?_reverse] at h
  rw [← h]
  unfold trimEnd trimStart
  constructor
  · intro h
    simpa using congrArg List.reverse h
  · intro h
    rw [h, List.reverse_reverse]

/-- A trim that changes nothing is known from the characters at both ends. -/
theorem trim_eq_self_iff {text : List Char} :
    trim text = text ↔
      (∀ char ∈ text.head?, isBlank char = false) ∧
        ∀ char ∈ text.getLast?, isBlank char = false := by
  rw [← trim_start_eq_self_iff, ← trim_end_eq_self_iff]
  constructor
  · intro h
    have hstart : trimStart text = text := by
      have hlength : (trimEnd (trimStart text)).length ≤ (trimStart text).length := by
        simpa [trimEnd] using
          (List.dropWhile_suffix isBlank (l := (trimStart text).reverse)).length_le
      have hsuffix : trimStart text <:+ text := List.dropWhile_suffix isBlank
      rw [show trimEnd (trimStart text) = text from h] at hlength
      exact hsuffix.eq_of_length_le hlength
    exact ⟨hstart, by simpa [trim, hstart] using h⟩
  · rintro ⟨hstart, hend⟩
    simp [trim, hstart, hend]

/-- A character that is not blank outlasts a trim. -/
theorem mem_trim {char : Char} {text : List Char} (hmem : char ∈ text)
    (hblank : isBlank char = false) : char ∈ trim text := by
  have hdrop {chars : List Char} (hmem : char ∈ chars) : char ∈ chars.dropWhile isBlank := by
    rw [← List.takeWhile_append_dropWhile (p := isBlank) (l := chars), List.mem_append] at hmem
    refine hmem.resolve_left fun htake => ?_
    have hall := List.all_eq_true.1 List.all_takeWhile char htake
    simp [hblank] at hall
  exact List.mem_reverse.2 (hdrop (List.mem_reverse.2 (hdrop hmem)))

/-- A text that was brought on a single line has no line break. -/
theorem single_line_no_break (text : String) :
    '\n' ∉ (singleLine text).toList ∧ '\r' ∉ (singleLine text).toList := by
  have hmem : ∀ char ∈ (singleLine text).toList, char ≠ '\n' ∧ char ≠ '\r' := by
    intro char hchar
    simp only [singleLine, String.toList_ofList] at hchar
    have hkept := (List.dropWhile_suffix isBlank).subset
      (List.mem_reverse.1 ((List.dropWhile_suffix isBlank).subset (List.mem_reverse.1 hchar)))
    simpa using (List.mem_filter.1 hkept).2
  exact ⟨fun hfeed => (hmem _ hfeed).1 rfl, fun hreturn => (hmem _ hreturn).2 rfl⟩

/-- A text is on a single line if it has no line break and no blank at either end. -/
theorem single_line_iff {text : String} :
    singleLine text = text ↔
      '\n' ∉ text.toList ∧ '\r' ∉ text.toList ∧
        (∀ char ∈ text.toList.head?, isBlank char = false) ∧
          ∀ char ∈ text.toList.getLast?, isBlank char = false := by
  have hfilter (hbreaks : '\n' ∉ text.toList ∧ '\r' ∉ text.toList) :
      (text.toList.filter fun char => char != '\n' && char != '\r') = text.toList := by
    apply List.filter_eq_self.2
    intro char hchar
    have hfeed : char ≠ '\n' := fun heq => hbreaks.1 (heq ▸ hchar)
    have hreturn : char ≠ '\r' := fun heq => hbreaks.2 (heq ▸ hchar)
    simp [hfeed, hreturn]
  constructor
  · intro h
    have hlist : trim (text.toList.filter fun char => char != '\n' && char != '\r') =
        text.toList := by
      simpa [singleLine] using congrArg String.toList h
    have hbreaks : '\n' ∉ text.toList ∧ '\r' ∉ text.toList := by
      simpa [h] using single_line_no_break text
    rw [hfilter hbreaks] at hlist
    exact ⟨hbreaks.1, hbreaks.2, trim_eq_self_iff.1 hlist⟩
  · rintro ⟨hfeed, hreturn, hends⟩
    simp [singleLine, hfilter ⟨hfeed, hreturn⟩, trim_eq_self_iff.2 hends]

/-- A text without blank characters is on a single line. -/
theorem single_line_of_no_blank {text : String} (h : ∀ char ∈ text.toList, isBlank char = false) :
    singleLine text = text :=
  single_line_iff.2 ⟨fun hfeed => absurd (h _ hfeed) (by decide),
    fun hreturn => absurd (h _ hreturn) (by decide),
    fun char hchar => h char (List.mem_of_head? hchar),
    fun char hchar => h char (List.mem_of_getLast? hchar)⟩

/-- A text on a single line is its own trim. -/
theorem trim_of_single_line {text : String} (h : singleLine text = text) :
    trim text.toList = text.toList :=
  trim_eq_self_iff.2 (single_line_iff.1 h).2.2

/-- A text that was brought on a single line has no blank at either end. -/
theorem trim_trim (text : List Char) : trim (trim text) = trim text := by
  refine trim_eq_self_iff.2 ⟨fun char hchar => ?_, fun char hchar => ?_⟩
  · -- What is left of the front is a beginning of the text without its leading blanks.
    have hbegins : trim text <+: trimStart text := by
      have hsuffix := List.dropWhile_suffix isBlank (l := (trimStart text).reverse)
      exact List.reverse_suffix.1 (by simpa [trim, trimEnd] using hsuffix)
    have hhead := List.head?_dropWhile_not isBlank text
    cases htrim : trim text with
    | nil => simp [htrim] at hchar
    | cons first rest =>
        obtain ⟨more, hmore⟩ := hbegins
        rw [htrim] at hmore hchar
        obtain rfl : first = char := by simpa using hchar
        rw [← show trimStart text = text.dropWhile isBlank from rfl, ← hmore] at hhead
        simpa using hhead
  · have hlast := List.head?_dropWhile_not isBlank (trimStart text).reverse
    simp only [trim, trimEnd, List.getLast?_reverse] at hchar
    rw [Option.mem_def.1 hchar] at hlast
    exact hlast

/-- A text that was brought on a single line is on a single line. -/
theorem single_line_single_line (text : String) : singleLine (singleLine text) = singleLine text := by
  obtain ⟨hfeed, hreturn⟩ := single_line_no_break text
  refine single_line_iff.2 ⟨hfeed, hreturn, ?_⟩
  exact trim_eq_self_iff.1 (by simpa [singleLine] using trim_trim _)

/-- Bringing a text on a single line only takes characters away. -/
theorem single_line_sublist (text : String) : (singleLine text).toList.Sublist text.toList := by
  have htrim (chars : List Char) : (trim chars).Sublist chars := by
    have hend := (List.dropWhile_suffix isBlank (l := (trimStart chars).reverse)).sublist.reverse
    have hstart : (trimStart chars).Sublist chars := (List.dropWhile_suffix isBlank).sublist
    exact List.Sublist.trans (by simpa [trim, trimEnd] using hend) hstart
  simpa [singleLine] using (htrim _).trans List.filter_sublist

/-! ## Line feeds around a text -/

/-- A text without the line feeds around it does not end with one. -/
theorem trim_line_feeds_last (text : String) :
    (trimLineFeeds text).toList.getLast? ≠ some '\n' := by
  have hlast := List.head?_dropWhile_not (· == '\n') (text.toList.dropWhile (· == '\n')).reverse
  intro heq
  simp only [trimLineFeeds, String.toList_ofList, List.getLast?_reverse] at heq
  simp [heq] at hlast

/-- Dropping the line feeds around a text only takes characters away. -/
theorem trim_line_feeds_sublist (text : String) :
    (trimLineFeeds text).toList.Sublist text.toList := by
  have hstart := (List.dropWhile_suffix (· == '\n') (l := text.toList)).sublist
  have hend := (List.dropWhile_suffix (· == '\n')
    (l := (text.toList.dropWhile (· == '\n')).reverse)).sublist.reverse
  simpa [trimLineFeeds] using List.Sublist.trans (by simpa using hend) hstart

end Notekeeper.Text
