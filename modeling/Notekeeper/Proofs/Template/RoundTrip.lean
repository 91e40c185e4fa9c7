import Notekeeper.Proofs.DueDate
import Notekeeper.Proofs.Note.Resubmission
import Notekeeper.Proofs.Text.Pieces
import Notekeeper.Proofs.Toml.Document
import Notekeeper.Template

/-!
# A template that is left as it is

A note that is opened for editing and saved without a change keeps its values
(`Template.apply_parse_render_of_note`). Under it stands `Template.parse_render`: a template is read
back from its text. The header is a document of pairs, one on each line, and no such line can pass
for the delimiter, since every one has an equals sign; so the first delimiter is the one that was
written, and whatever the body holds is body again.
-/

namespace Notekeeper.Template

/-! ## The header -/

/-- The pairs of the header. -/
def pairs (template : Template) : List Toml.Pair :=
  [⟨"name", .text template.name, Toml.writeText template.name⟩,
    ⟨"folder", .text template.folder, Toml.writeText template.folder⟩,
    ⟨"tags", .array (template.tags.map .text), writeTexts template.tags⟩,
    ⟨"due", .text template.due, Toml.writeText template.due⟩,
    ⟨"format", .text template.format, Toml.writeText template.format⟩]

/-- The lines of the header. -/
def headerLines (template : Template) : List String :=
  template.pairs.map fun pair => String.ofList pair.line

/-- The header is its lines. -/
theorem header_eq (template : Template) :
    template.header = Text.join "\n" template.headerLines ++ "\n" := by
  apply String.toList_injective
  simp [header, headerLine, headerLines, pairs, Toml.Pair.line, Text.join]

/-- The pairs can be read, and no two have the same key. -/
theorem readable_pairs (template : Template) :
    (∀ pair ∈ template.pairs, pair.Readable) ∧ (template.pairs.map Toml.Pair.key).Nodup := by
  have hbare : ∀ key ∈ ["name", "folder", "tags", "due", "format"], Toml.IsBare key := by
    simp [Toml.IsBare, Toml.isNameChar]
  refine ⟨?_, by simp [pairs]⟩
  simp only [pairs, List.forall_mem_cons, List.not_mem_nil, false_implies, implies_true, and_true]
  exact ⟨.of_text (hbare "name" (by simp)) _, .of_text (hbare "folder" (by simp)) _,
    .of_texts (hbare "tags" (by simp)) _, .of_text (hbare "due" (by simp)) _,
    .of_text (hbare "format" (by simp)) _⟩

/-- The values of a template are read back from its header. -/
theorem of_header_lines (template : Template) :
    ofHeader? (Text.join "\n" template.headerLines) = some { template with body := "" } := by
  obtain ⟨hread, hkeys⟩ := template.readable_pairs
  have hjoin : Text.join "\n" template.headerLines =
      String.ofList (['\n'].intercalate (template.pairs.map Toml.Pair.line)) := by
    apply String.toList_injective
    simp [headerLines, Text.join, String.toList_intercalate, Function.comp_def]
  have htexts (texts : List String) :
      (texts.map Toml.Value.text).mapM Toml.Value.text? = some texts := by
    induction texts with
    | nil => rfl
    | cons text texts ih => simp [Toml.Value.text?, ih]
  rw [ofHeader?, hjoin, Toml.read_document_pairs hread hkeys]
  simp [pairs, Toml.Pair.entry, Toml.Entries.textOrEmpty?, Toml.Entries.texts?,
    Toml.Entries.get?, htexts]

/-- A list of texts without line feeds is written on a single line. -/
theorem write_texts_no_feed {texts : List String} (h : ∀ text ∈ texts, '\n' ∉ text.toList) :
    '\n' ∉ writeTexts texts := by
  have hjoin : [',', ' '].intercalate (texts.map Toml.writeText) =
      (Text.join ", " (texts.map fun text => String.ofList (Toml.writeText text))).toList := by
    simp [Text.join, String.toList_intercalate, Function.comp_def]
  intro hfeed
  have hinside : '\n' ∈ [',', ' '].intercalate (texts.map Toml.writeText) := by
    simpa [writeTexts] using hfeed
  rw [hjoin] at hinside
  rcases Text.mem_join hinside with hseparator | ⟨part, hpart, hchar⟩
  · simp at hseparator
  · obtain ⟨text, hmem, rfl⟩ := List.mem_map.1 hpart
    exact Toml.write_text_no_feed (h text hmem) (by simpa using hchar)

/-! ## The text -/

/-- What a template needs to be read back: its texts stay on one line each, due date and format are
understood, and the body is its lines. -/
structure Editable (template : Template) : Prop where
  name : '\n' ∉ template.name.toList
  folder : '\n' ∉ template.folder.toList
  tags : ∀ tag ∈ template.tags, '\n' ∉ tag.toList
  due_line : '\n' ∉ template.due.toList
  due : ∃ stated, DueDate.ofText template.due = .ok stated
  format : template.format ∈ formatWords
  body_return : '\r' ∉ template.body.toList
  body_last : template.body.toList.getLast? ≠ some '\n'

namespace Editable

variable {template : Template}

/-- A value in the header is written without line feeds, and not up to a carriage return. -/
theorem written (h : template.Editable) : ∀ pair ∈ template.pairs,
    '\n' ∉ pair.written ∧ ∃ last ∈ ['"', '\'', ']'], pair.written.getLast? = some last := by
  have htext {text : String} (hfeed : '\n' ∉ text.toList) : '\n' ∉ Toml.writeText text ∧
      ∃ last ∈ ['"', '\'', ']'], (Toml.writeText text).getLast? = some last := by
    obtain ⟨mark, hmark, hlast⟩ := Toml.last_write_text text
    exact ⟨Toml.write_text_no_feed hfeed, mark, List.mem_append_left [']'] hmark, hlast⟩
  have hformat : '\n' ∉ template.format.toList := by
    have hwords : ∀ word ∈ formatWords, '\n' ∉ word.toList := by
      simp [formatWords, BodyFormat.inputWord]
    exact hwords _ h.format
  have hbracket : (writeTexts template.tags).getLast? = some ']' := by
    rw [writeTexts, List.getLast?_append]
    rfl
  simp only [pairs, List.forall_mem_cons, List.not_mem_nil, false_implies, implies_true, and_true]
  exact ⟨htext h.name, htext h.folder, ⟨write_texts_no_feed h.tags, ']', by simp, hbracket⟩,
    htext h.due_line, htext hformat⟩

/-- A line of the header stays on its line and is not the delimiter. -/
theorem header_line (h : template.Editable) :
    ∀ line ∈ template.headerLines, Text.Unbroken line ∧ isDelimiter line = false := by
  intro line hmem
  obtain ⟨pair, hpair, rfl⟩ := List.mem_map.1 hmem
  obtain ⟨hfeed, last, hlast, hends⟩ := h.written pair hpair
  have hbare := (template.readable_pairs.1 pair hpair).bare
  have hkey : '\n' ∉ pair.key.toList := fun hchar =>
    absurd (hbare.2 _ hchar) (by simp [Toml.isNameChar])
  have hequals : '=' ∈ Text.trim pair.line := Text.mem_trim (by simp [Toml.Pair.line]) rfl
  refine ⟨⟨by simp [Toml.Pair.line, hkey, hfeed], ?_⟩, ?_⟩
  · have hline : pair.line = (pair.key.toList ++ [' ', '=', ' ']) ++ pair.written := by
      simp [Toml.Pair.line]
    rw [String.toList_ofList, hline, List.getLast?_append, hends]
    rintro heq
    obtain rfl : last = '\r' := Option.some.inj heq
    simp at hlast
  · simp only [isDelimiter, Text.trimmed, String.toList_ofList, beq_eq_false_iff_ne]
    intro heq
    have hmark : Text.trim pair.line = ['+', '+', '+'] := by
      simpa [delimiter] using congrArg String.toList heq
    simp [hmark] at hequals

/-- The lines of the text are those of the header, the delimiter and those of the body. -/
theorem lines_render (h : template.Editable) :
    Text.lines template.render =
      template.headerLines ++ delimiter :: Text.lines template.body := by
  have hparts : ∀ part ∈ template.headerLines ++ [delimiter], Text.Unbroken part := by
    intro part hmem
    rcases List.mem_append.1 hmem with hmem | hmem
    · exact (h.header_line part hmem).1
    · obtain rfl := List.mem_singleton.1 hmem
      decide
  have hjoin : Text.join "\n" (template.headerLines ++ [delimiter]) =
      Text.join "\n" template.headerLines ++ "\n" ++ delimiter :=
    String.intercalate_append_of_ne_nil (by simp [headerLines, pairs]) (by simp)
  rw [render, header_eq, ← hjoin, Text.lines_join_append (by simp),
    Text.lines_before_singles (fun part hmem => (hparts part hmem).1)
      fun part hmem => if_neg (hparts part hmem).2]
  simp

/-- A template is read back from its text. -/
theorem parse_render (h : template.Editable) (complaint : String → String) :
    parse complaint template.render = .ok template := by
  have htake : (template.headerLines ++ delimiter :: Text.lines template.body).takeWhile
      (fun line => !isDelimiter line) = template.headerLines := by
    have hdelimiter : isDelimiter delimiter = true := rfl
    rw [List.takeWhile_append_of_pos fun line hmem => by simp [(h.header_line line hmem).2]]
    simp [hdelimiter]
  have hbody : Text.join "\n" (Text.lines template.body) = template.body :=
    Text.join_lines h.body_return h.body_last
  obtain ⟨stated, hstated⟩ := h.due
  simp [parse, h.lines_render, htake, template.of_header_lines, hbody, check, hstated, h.format]

end Editable

end Template

/-! ## Notes -/

/-- Tags with only a comma between them are entered as the set that they are. -/
theorem NoteInput.read_tags_join {tags : TextSet}
    (h : ∀ tag ∈ tags.toList, tag ≠ "" ∧ Text.singleLine tag = tag ∧ ',' ∉ tag.toList) :
    readTags (Text.join "," tags.toList) = tags := by
  have hset := Record.of_list_to_list tags
  by_cases hnil : tags.toList = []
  · rw [hnil] at hset ⊢
    exact hset
  · have hdrop : dropLastComma (Text.join "," tags.toList).toList =
        (Text.join "," tags.toList).toList := by
      -- The last tag ends the text, and no tag ends with a space.
      obtain ⟨front, last, hlast, heq⟩ := @Text.join_ends "," _ hnil
      obtain ⟨hne, hline, -⟩ := h last hlast
      have hends := (Text.single_line_iff.1 hline).2.2.2
      refine if_neg fun hcomma => ?_
      obtain ⟨rest, hrest⟩ := List.isPrefixOf_iff_prefix.1 hcomma
      have hspace : last.toList.getLast? = some ' ' := by
        have hall : (front ++ last.toList).getLast? = some ' ' := by
          rw [← heq, ← List.head?_reverse, ← hrest]
          rfl
        rwa [List.getLast?_append_of_ne_nil front (by simpa using hne)] at hall
      exact absurd (hends ' ' hspace) (by decide)
    have hpieces : Text.splitAt ',' (Text.join "," tags.toList) = tags.toList :=
      Text.split_at_join hnil fun tag hmem => (h tag hmem).2.2
    have hentered : (Text.split ',' (Text.join "," tags.toList).toList).map
        (fun tag => Text.singleLine (String.ofList tag)) = tags.toList := by
      calc
        _ = (Text.splitAt ',' (Text.join "," tags.toList)).map Text.singleLine := by
          rw [Text.splitAt, List.map_map]
          rfl
        _ = tags.toList.map id := by
          rw [hpieces]
          exact List.map_congr_left fun tag hmem => (h tag hmem).2.1
        _ = tags.toList := List.map_id _
    have hfilter : tags.toList.filter (fun tag => !tag.isEmpty) = tags.toList :=
      List.filter_eq_self.2 fun tag hmem => by simp [(h tag hmem).1]
    rw [readTags, hdrop, hentered, hfilter, hset]

namespace Template

section

variable {note : Note} (hname : Text.singleLine note.name = note.name)
  (hfolder : Text.singleLine note.folder = note.folder)
  (htags : ∀ tag ∈ note.tags, tag ≠ "" ∧ Text.singleLine tag = tag ∧ ',' ∉ tag.toList)
  (hdue : DueDate.Stored note.due) (hbody : '\r' ∉ note.body.toList)
include hname hfolder htags hdue hbody

/-- The template of a note whose values are single lines has its tags and can be read back. -/
theorem editable_of_note :
    (ofInput (.ofNote note)).tags = note.tags.toList ∧ (ofInput (.ofNote note)).Editable := by
  have hkept : (ofInput (.ofNote note)).tags = note.tags.toList :=
    Record.filter_split_write_tags fun tag hmem => htags tag (Std.ExtTreeSet.mem_toList.1 hmem)
  refine ⟨hkept, ?_⟩
  constructor
  case name => exact (Text.single_line_iff.1 hname).1
  case folder => exact (Text.single_line_iff.1 hfolder).1
  case tags =>
    rw [hkept]
    intro tag hmem
    exact (Text.single_line_iff.1 (htags tag (Std.ExtTreeSet.mem_toList.1 hmem)).2.1).1
  case due_line =>
    rcases hdue with hnone | ⟨moment, -, hmoment⟩
    · simp [ofInput, NoteInput.ofNote, hnone]
    · have hline := (Text.single_line_iff.1 moment.single_line_timestamp).1
      simpa [ofInput, NoteInput.ofNote, hmoment] using hline
  case due =>
    obtain ⟨stated, hstated, -⟩ := DueDate.of_text_stored hdue
    exact ⟨stated, hstated⟩
  case format =>
    cases hformat : note.format <;> simp [ofInput, NoteInput.ofNote, hformat, formatWords]
  case body_return =>
    exact fun hreturn => hbody ((Text.trim_line_feeds_sublist note.body).subset hreturn)
  case body_last => exact Text.trim_line_feeds_last note.body

/-- A note whose values are single lines, whose due date is a timestamp and whose body has no carriage
return is edited without a change: its template is read back from its text, and gives the values of
the note again, the body without the line feeds around it. -/
theorem apply_parse_render_of_note (complaint : String → String) (today : Date) :
    ∃ template input, parse complaint (ofInput (.ofNote note)).render = .ok template ∧
      template.applyTo (.ofNote note) today = .ok input ∧
        input.name = note.name ∧ input.folder = note.folder ∧
          NoteInput.readTags input.tags = note.tags ∧ input.due = note.due ∧
            input.format = note.format.inputWord ∧ input.shareToken = note.shareToken ∧
              input.body = Text.trimLineFeeds note.body := by
  obtain ⟨hkept, heditable⟩ := editable_of_note hname hfolder htags hdue hbody
  obtain ⟨stated, hstated, htimestamp⟩ := DueDate.of_text_stored hdue
  have hset : NoteInput.readTags (Text.join "," (ofInput (.ofNote note)).tags) = note.tags := by
    rw [hkept]
    exact NoteInput.read_tags_join fun tag hmem => htags tag (Std.ExtTreeSet.mem_toList.1 hmem)
  have happly : (ofInput (.ofNote note)).applyTo (.ofNote note) today =
      .ok { NoteInput.ofNote note with
        tags := Text.join "," (ofInput (.ofNote note)).tags
        due := stated.timestamp today
        body := Text.trimLineFeeds note.body } := by
    have hdate : DueDate.ofText (ofInput (.ofNote note)).due = .ok stated := hstated
    rw [applyTo, hdate]
    rfl
  exact ⟨_, _, heditable.parse_render complaint, happly, rfl, rfl, hset, htimestamp today, rfl, rfl, rfl⟩

end

/-- A note for an example, with delimiters, comments and the syntax of headers in its texts. -/
def intricate : Note :=
  { Note.blank (Supply.strokes 'A') with
    name := "+++ \"it's\" \\ # ]"
    folder := "name = '''"
    tags := Std.ExtTreeSet.ofList ["+++", "a] # \"b\""]
    body := "\n\n+++\nname = \"other\"\n# no comment\n\n+++\n tail \n\n"
    due := "2024-02-29 23:59:60"
    format := .plain }

/-- A note whose texts look like a template is edited without a change. -/
theorem apply_parse_render_of_intricate :
    ∃ template input, parse id (ofInput (.ofNote intricate)).render = .ok template ∧
      template.applyTo (.ofNote intricate) ⟨2025, 1, 31⟩ = .ok input ∧
        input.name = intricate.name ∧ input.folder = intricate.folder ∧
          NoteInput.readTags input.tags = intricate.tags ∧ input.due = "2024-02-29 23:59:60" ∧
            input.format = "plaintext" ∧ input.shareToken = intricate.shareToken ∧
              input.body = "+++\nname = \"other\"\n# no comment\n\n+++\n tail " := by
  have htags : ∀ tag ∈ intricate.tags.toList,
      tag ≠ "" ∧ Text.singleLine tag = tag ∧ ',' ∉ tag.toList := by decide +kernel
  have hplain : Moment.IsPlain ⟨⟨2024, 2, 29⟩, 23, 59, 60⟩ := by
    constructor <;> decide
  have hbody : Text.trimLineFeeds intricate.body =
      "+++\nname = \"other\"\n# no comment\n\n+++\n tail " := by decide
  rw [← hbody]
  exact apply_parse_render_of_note (by decide) (by decide)
    (fun tag hmem => htags tag (Std.ExtTreeSet.mem_toList.2 hmem))
    (.inr ⟨_, hplain, by decide +kernel⟩) (by decide) id ⟨2025, 1, 31⟩

end Template

end Notekeeper
