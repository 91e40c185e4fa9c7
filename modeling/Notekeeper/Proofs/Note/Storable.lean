import Notekeeper.Note.Record
import Notekeeper.Proofs.Number.Decimal
import Notekeeper.Proofs.Text.Blank
import Notekeeper.Proofs.Text.Lines

/-!
# Notes that a file can hold

`Note.Storable` lists what a note needs so that its record keeps all of it: values that fit on one
line, words without spaces, and a body that does not end its own frame. The rest says how single
lines of a record are read back as entries, and tags as the set that was written.
-/

namespace Notekeeper

/-- What a note needs so that its record keeps all of it. -/
structure Note.Storable (note : Note) : Prop where
  id_ne : note.id ≠ ""
  name_ne : note.name ≠ ""
  folder_ne : note.folder ≠ ""
  id_word : ' ' ∉ note.id.toList
  token_word : ' ' ∉ note.shareToken.toList
  delimiter_word : ' ' ∉ note.delimiter.toList
  lines : ∀ text ∈ [note.id, note.name, note.folder, note.created, note.changed, note.due,
    note.shareToken, note.delimiter], Text.singleLine text = text
  tags : ∀ tag ∈ note.tags.toList, tag ≠ "" ∧ Text.singleLine tag = tag ∧ ',' ∉ tag.toList
  /-- No line of the body ends in a carriage return. -/
  body_return : ∀ line ∈ Text.splitAt '\n' note.body, line.toList.getLast? ≠ some '\r'
  /-- No line of the body begins with the two words of the line that ends it. -/
  body_frame : ∀ line ∈ Text.splitAt '\n' note.body,
    (Text.splitAt ' ' line).take 2 ≠ [Record.bodyClosing, note.delimiter]
  version_range : Decimal.InRange note.version
  export_version_range : Decimal.InRange note.exportVersion

/-- Whether a file can hold a note is decided by looking at its fields. -/
instance (note : Note) : Decidable note.Storable :=
  decidable_of_iff
    (note.id ≠ "" ∧ note.name ≠ "" ∧ note.folder ≠ "" ∧ ' ' ∉ note.id.toList ∧
      ' ' ∉ note.shareToken.toList ∧ ' ' ∉ note.delimiter.toList ∧
      (∀ text ∈ [note.id, note.name, note.folder, note.created, note.changed, note.due,
        note.shareToken, note.delimiter], Text.singleLine text = text) ∧
      (∀ tag ∈ note.tags.toList, tag ≠ "" ∧ Text.singleLine tag = tag ∧ ',' ∉ tag.toList) ∧
      (∀ line ∈ Text.splitAt '\n' note.body, line.toList.getLast? ≠ some '\r') ∧
      (∀ line ∈ Text.splitAt '\n' note.body,
        (Text.splitAt ' ' line).take 2 ≠ [Record.bodyClosing, note.delimiter]) ∧
      Decimal.InRange note.version ∧ Decimal.InRange note.exportVersion)
    ⟨fun ⟨h1, h2, h3, h4, h5, h6, h7, h8, h9, h10, h11, h12⟩ =>
      ⟨h1, h2, h3, h4, h5, h6, h7, h8, h9, h10, h11, h12⟩,
    fun ⟨h1, h2, h3, h4, h5, h6, h7, h8, h9, h10, h11, h12⟩ =>
      ⟨h1, h2, h3, h4, h5, h6, h7, h8, h9, h10, h11, h12⟩⟩

namespace Record

/-! ## Entries -/

/-- The first word of a text without spaces is the text. -/
theorem first_word_of_not_mem {text : String} (h : ' ' ∉ text.toList) :
    (Text.firstWord text).1 = text := by
  simp [Text.firstWord, Text.cut_of_not_mem h]

/-- The characters of a line of a keyword and a value. -/
theorem line_toList (word value : String) :
    (line word value).toList = word.toList ++ ' ' :: value.toList := by
  have hspace : (" " : String).toList = [' '] := rfl
  simp [line, hspace]

/-- A line of a keyword and a value is read as the keyword and the value. -/
theorem Entry.of_line {word : String} (h : ' ' ∉ word.toList) (value : String) :
    Entry.ofLine (line word value) = ⟨word, some (Text.firstWord value).1, value⟩ := by
  simp [Entry.ofLine, Text.firstWord, line_toList, Text.first_word_append h]

/-- A value without spaces is the word of its line. -/
theorem Entry.word_of_line {word value : String} (h : ' ' ∉ word.toList)
    (hvalue : ' ' ∉ value.toList) : (Entry.ofLine (line word value)).word = value := by
  simp [Entry.of_line h, Entry.word, first_word_of_not_mem hvalue]

/-- A line whose first two words are given ones is read as an entry with these words. -/
theorem Entry.closes_body_iff {text delimiter : String} :
    (Entry.ofLine text).closesBody delimiter = true ↔
      (Text.splitAt ' ' text).take 2 = [bodyClosing, delimiter] := by
  have hlist : String.ofList text.toList = text := String.ofList_toList
  unfold Entry.closesBody Entry.ofLine Text.firstWord Text.splitAt
  rw [Text.split_space]
  cases hfirst : Text.cut? [' '] text.toList with
  | none => simp
  | some parts =>
      obtain ⟨word, rest⟩ := parts
      dsimp only
      rw [Text.split_space rest]
      cases hsecond : Text.cut? [' '] rest with
      | none => simp [hsecond]
      | some parts => simp [hsecond]

/-! ## Tags -/

/-- The characters of joined tags begin with the first tag. -/
theorem write_tags_toList (first : String) (tags : List String) :
    (Text.join ", " (first :: tags)).toList =
      first.toList ++ tags.flatMap fun tag => ',' :: ' ' :: tag.toList := by
  induction tags generalizing first with
  | nil => simp [Text.join]
  | cons next tags ih =>
      have hcomma : (", " : String).toList = [',', ' '] := rfl
      rw [Text.join_cons (by simp)]
      simp [ih next, hcomma]

/-- Tags that are joined and cut at the commas are trimmed to themselves. -/
theorem split_write_tags {first : String} {tags : List String}
    (h : ∀ tag ∈ first :: tags, Text.singleLine tag = tag ∧ ',' ∉ tag.toList) :
    (Text.splitAt ',' (Text.join ", " (first :: tags))).map Text.trimmed = first :: tags := by
  have hpieces (first : List Char) (tags : List String) (hfirst : ',' ∉ first)
      (h : ∀ tag ∈ tags, ',' ∉ tag.toList) :
      Text.split ',' (first ++ tags.flatMap fun tag => ',' :: ' ' :: tag.toList) =
        first :: tags.map fun tag => ' ' :: tag.toList := by
    induction tags generalizing first with
    | nil => simpa using Text.split_of_not_mem hfirst
    | cons next tags ih =>
        have hnext : ',' ∉ ' ' :: next.toList := by simp [h next]
        have hrest := ih (' ' :: next.toList) hnext fun tag hmem => h tag (by simp [hmem])
        simp only [List.flatMap_cons, List.cons_append] at hrest ⊢
        rw [Text.split_append_separator, Text.split_of_not_mem hfirst, hrest]
        simp
  have htrim : ∀ tag ∈ first :: tags, Text.trim tag.toList = tag.toList :=
    fun tag hmem => Text.trim_of_single_line (h tag hmem).1
  have hblank : Text.isBlank ' ' = true := rfl
  unfold Text.splitAt
  rw [write_tags_toList, hpieces first.toList tags (h first (by simp)).2
    fun tag hmem => (h tag (by simp [hmem])).2]
  simp only [List.map_cons, List.map_map, List.cons.injEq]
  refine ⟨by simp [Text.trimmed, htrim first (by simp)], ?_⟩
  conv => rhs; rw [← List.map_id tags]
  apply List.map_congr_left
  intro tag hmem
  simp [Text.trimmed, Text.trim_cons_of_blank hblank, htrim tag (by simp [hmem])]

/-- Tags that were written are the parts between the commas, trimmed, in their order. -/
theorem filter_split_write_tags {tags : TextSet}
    (h : ∀ tag ∈ tags.toList, tag ≠ "" ∧ Text.singleLine tag = tag ∧ ',' ∉ tag.toList) :
    ((Text.splitAt ',' (writeTags tags)).map Text.trimmed).filter (fun tag => !tag.isEmpty) =
      tags.toList := by
  unfold writeTags
  cases htags : tags.toList with
  | nil => rfl
  | cons first rest =>
      rw [htags] at h
      rw [split_write_tags fun tag hmem => (h tag hmem).2, List.filter_eq_self]
      intro tag hmem
      simp [(h tag hmem).1]

/-- A set is made of its elements. -/
theorem of_list_to_list (tags : TextSet) : Std.ExtTreeSet.ofList tags.toList compare = tags := by
  apply Std.ExtTreeSet.ext_mem
  intro tag
  simp [Std.ExtTreeSet.mem_ofList]

/-- Tags are read as the set that was written. -/
theorem read_write_tags {tags : TextSet}
    (h : ∀ tag ∈ tags.toList, tag ≠ "" ∧ Text.singleLine tag = tag ∧ ',' ∉ tag.toList) :
    readTags (writeTags tags) = tags := by
  unfold readTags
  rw [filter_split_write_tags h, of_list_to_list]

/-- Written tags are on a single line. -/
theorem single_line_write_tags {tags : TextSet}
    (h : ∀ tag ∈ tags.toList, tag ≠ "" ∧ Text.singleLine tag = tag ∧ ',' ∉ tag.toList) :
    Text.singleLine (writeTags tags) = writeTags tags := by
  unfold writeTags
  cases htags : tags.toList with
  | nil => rfl
  | cons first rest =>
      rw [htags] at h
      have hline := fun tag hmem => Text.single_line_iff.1 (h tag hmem).2.1
      have hmem (char : Char) (hchar : char ∈ (Text.join ", " (first :: rest)).toList) :
          char = ',' ∨ char = ' ' ∨ ∃ tag ∈ first :: rest, char ∈ tag.toList := by
        rw [write_tags_toList, List.mem_append, List.mem_flatMap] at hchar
        rcases hchar with hchar | ⟨tag, htag, hchar⟩
        · exact .inr (.inr ⟨first, by simp, hchar⟩)
        · rcases List.mem_cons.1 hchar with hchar | hchar
          · exact .inl hchar
          · rcases List.mem_cons.1 hchar with hchar | hchar
            · exact .inr (.inl hchar)
            · exact .inr (.inr ⟨tag, by simp [htag], hchar⟩)
      refine Text.single_line_iff.2 ⟨?_, ?_, ?_, ?_⟩
      · intro hfeed
        rcases hmem _ hfeed with heq | heq | ⟨tag, htag, hchar⟩
        · exact absurd heq (by decide)
        · exact absurd heq (by decide)
        · exact (hline tag htag).1 hchar
      · intro hreturn
        rcases hmem _ hreturn with heq | heq | ⟨tag, htag, hchar⟩
        · exact absurd heq (by decide)
        · exact absurd heq (by decide)
        · exact (hline tag htag).2.1 hchar
      · have hfirst : first.toList ≠ [] := by simpa using (h first (by simp)).1
        rw [write_tags_toList, List.head?_append, List.head?_eq_some_head hfirst]
        simpa [List.head?_eq_some_head hfirst] using (hline first (by simp)).2.2.1
      · obtain ⟨front, last, hlast, heq⟩ :=
          @Text.join_ends ", " _ (List.cons_ne_nil first rest)
        have hne : last.toList ≠ [] := by simpa using (h last hlast).1
        rw [heq, List.getLast?_append, List.getLast?_eq_some_getLast hne]
        simpa [List.getLast?_eq_some_getLast hne] using (hline last hlast).2.2.2

end Record

end Notekeeper
