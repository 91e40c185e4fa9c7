import Notekeeper.Proofs.Note.Record
import Notekeeper.Proofs.Supply
import Notekeeper.Store.Text

/-!
# Reading the text of a store

`Store.read_text_of` says what a text written by `Store.textOf` does to the store that reads it: the
clocks of the header are taken over, and the notes are put in one after the other. A record is
scanned line by line; `Block.run_file_lines` follows the scanner from the opening line to the one
before the last, on which the record is complete.
-/

namespace Notekeeper

/-- The record of an enclosed note tells its id. -/
theorem Record.told_id_written {note : Note} (h : note.Enclosed) :
    toldId (written note) = some note.id := by
  have hne : note.id.isEmpty = false := by simpa using h.id_ne
  simp [toldId, written, Key.write, h.id_line, first_word_of_not_mem h.id_word, hne]

namespace Block

/-- Lines none of which closes the record. -/
def run? (block : Block) (lines : List String) : Option Block :=
  lines.foldlM
    (fun block line => if (block.step line).2 then none else some (block.step line).1) block

/-- Lines are scanned in stretches. -/
theorem run_append (block : Block) (front rest : List String) :
    block.run? (front ++ rest) = (block.run? front).bind fun block => block.run? rest := by
  simp [run?, List.foldlM_append]

variable {note : Note}

/-- A line of a key is kept, once the id is known if the key is that of the id. -/
theorem step_field (block : Block) {key : Record.Key} (hbody : block.openBody = none)
    (hid : key = .id → block.id.isSome = true) (value : String) :
    block.step (Record.line key.word value) =
      ({ block with lines := Record.line key.word value :: block.lines }, false) := by
  have hkey : key.word ≠ Record.bodyOpening ∧ key.word ≠ Record.closing := by
    cases key <;> decide
  cases hknown : block.id with
  | none =>
      have hother : key.word ≠ Record.Key.id.word := by
        intro hword
        have hsame := Record.Key.of_word key
        rw [hword, Record.Key.of_word, Option.some.injEq] at hsame
        have hsome := hid hsame.symm
        rw [hknown] at hsome
        cases hsome
      simp [step, hbody, hknown, Record.Entry.of_line (Record.Key.word_no_space key), hkey.1, hother]
  | some id =>
      simp [step, hbody, hknown, Record.Entry.of_line (Record.Key.word_no_space key), hkey.1,
        hkey.2]

/-- The first line of the id tells it, if it has a word. -/
theorem step_id (block : Block) (hbody : block.openBody = none) (hid : block.id = none)
    (value : String) :
    block.step (Record.line Record.Key.id.word value) =
      ({ block with
          lines := Record.line Record.Key.id.word value :: block.lines
          id := (some (Text.firstWord value).1).filter fun word => !word.isEmpty }, false) := by
  simp [step, hbody, hid, Record.Entry.of_line (Record.Key.word_no_space .id)]

/-- Lines of keys are kept, once the id is known if it is among the keys. -/
theorem run_fields (keys : List Record.Key) (values : Record.Key → Option String) (block : Block)
    (hbody : block.openBody = none) (hid : .id ∈ keys → block.id.isSome = true) :
    block.run? (Record.fieldLines keys values) =
      some
        { block with lines := (Record.fieldLines keys values).reverse ++ block.lines } := by
  induction keys generalizing block with
  | nil => rfl
  | cons key keys ih =>
      cases hvalue : values key with
      | none =>
          have hlines : Record.fieldLines (key :: keys) values = Record.fieldLines keys values := by
            simp [Record.fieldLines, hvalue]
          rw [hlines]
          exact ih block hbody fun hmem => hid (List.mem_cons_of_mem _ hmem)
      | some value =>
          have hlines : Record.fieldLines (key :: keys) values =
              Record.line key.word value :: Record.fieldLines keys values := by
            simp [Record.fieldLines, hvalue]
          have hstep := block.step_field hbody
            (fun heq : key = .id => hid (by simp [heq])) value
          have hrest := ih { block with lines := Record.line key.word value :: block.lines } hbody
            fun hmem => hid (List.mem_cons_of_mem _ hmem)
          unfold run? at hrest ⊢
          rw [hlines]
          simp only [List.foldlM_cons, hstep]
          simpa using hrest

/-- The lines of the keys of a record are kept and tell its id, or none. -/
theorem run_all_fields (values : Record.Key → Option String) :
    opened.run? (Record.fieldLines Record.Key.all values) =
      some ⟨(Record.fieldLines Record.Key.all values).reverse ++ [Record.opening],
        Record.toldId values, none, false⟩ := by
  have hothers : Record.Key.id ∉ Record.Key.all.tail := by decide
  have hrest (block : Block) (hbody : block.openBody = none) :=
    run_fields Record.Key.all.tail values block hbody fun hmem => absurd hmem hothers
  cases hvalue : values .id with
  | none =>
      have hlines : Record.fieldLines Record.Key.all values =
          Record.fieldLines Record.Key.all.tail values := by
        simp [Record.fieldLines, Record.Key.all, hvalue]
      rw [hlines, hrest opened rfl]
      simp [Record.toldId, hvalue, opened]
  | some value =>
      have hlines : Record.fieldLines Record.Key.all values =
          Record.line Record.Key.id.word value :: Record.fieldLines Record.Key.all.tail values := by
        simp [Record.fieldLines, Record.Key.all, hvalue]
      rw [hlines, ← List.singleton_append, run_append]
      have hfirst : opened.run? [Record.line Record.Key.id.word value] =
          some ⟨[Record.line Record.Key.id.word value, Record.opening], Record.toldId values, none,
            false⟩ := by
        have hstep := step_id opened rfl rfl value
        simp only [run?, List.foldlM_cons, List.foldlM_nil, hstep]
        simp [opened, Record.toldId, hvalue]
      rw [hfirst, Option.bind_some, hrest _ rfl]
      simp

/-- Lines of a body are kept. -/
theorem run_body (lines : List String) (block : Block) (delimiter : String)
    (hbody : block.openBody = some delimiter)
    (hframe : ∀ text ∈ lines, (Record.Entry.ofLine text).closesBody delimiter = false) :
    block.run? lines = some { block with lines := lines.reverse ++ block.lines } := by
  induction lines generalizing block with
  | nil => rfl
  | cons text lines ih =>
      have hstep : block.step text = ({ block with lines := text :: block.lines }, false) := by
        simp [step, hbody, hframe text]
      have hrest := ih { block with lines := text :: block.lines } hbody
        fun other hmem => hframe other (by simp [hmem])
      unfold run? at hrest ⊢
      simp only [List.foldlM_cons, hstep]
      simpa using hrest

/-- The lines of a record between its first and its last one. -/
def innerLines (note : Note) : List String :=
  Record.Key.all.map (fun key => Record.line key.word (key.write note)) ++
    [Record.line Record.bodyOpening note.delimiter] ++ Text.splitAt '\n' note.body ++
    [Record.line Record.bodyClosing note.delimiter]

/-- The lines of a record begin with the opening line and end with the closing one. -/
theorem file_lines_eq (note : Note) :
    note.fileLines =
      Record.opening :: innerLines note ++ [Record.line Record.closing note.id] := by
  simp [Note.fileLines, innerLines]

/-- The lines of the keys and the line before the body are kept; they give the id, as far as it is
told, and the delimiter. -/
theorem run_head_lines (h : note.Enclosed) (values : Record.Key → Option String) :
    opened.run? (Record.fieldLines Record.Key.all values ++
        [Record.line Record.bodyOpening note.delimiter]) =
      some ⟨Record.line Record.bodyOpening note.delimiter ::
          ((Record.fieldLines Record.Key.all values).reverse ++ [Record.opening]),
        Record.toldId values, some note.delimiter, false⟩ := by
  have hword : (Record.Entry.ofLine (Record.line Record.bodyOpening note.delimiter)).word =
      note.delimiter := Record.Entry.word_of_line (by decide) h.delimiter_word
  have hkey : (Record.Entry.ofLine (Record.line Record.bodyOpening note.delimiter)).key =
      Record.bodyOpening := by
    rw [Record.Entry.of_line (by decide)]
  have hother : Record.bodyOpening ≠ Record.Key.id.word := by decide
  rw [run_append, run_all_fields, Option.bind_some]
  cases hid : Record.toldId values <;> simp [run?, step, hkey, hword, hother]

/-- The lines of a record between its first and its last one are kept as they are read, whatever the
lines of its keys are. -/
theorem run_framed (h : note.Enclosed) (values : Record.Key → Option String) :
    opened.run? (Record.fieldLines Record.Key.all values ++
        [Record.line Record.bodyOpening note.delimiter] ++ Text.linesBefore note.body ++
        [Record.line Record.bodyClosing note.delimiter]) =
      some ⟨Record.line Record.bodyClosing note.delimiter :: ((Text.linesBefore note.body).reverse ++
          Record.line Record.bodyOpening note.delimiter ::
            ((Record.fieldLines Record.Key.all values).reverse ++ [Record.opening])),
        Record.toldId values, none, true⟩ := by
  have hbody (block : Block) (hbody : block.openBody = some note.delimiter) :=
    run_body (Text.linesBefore note.body) block note.delimiter hbody h.frame
  have hcloses :
      (Record.Entry.ofLine (Record.line Record.bodyClosing note.delimiter)).closesBody
        note.delimiter = true := by
    rw [Record.Entry.of_line (by decide)]
    simp [Record.Entry.closesBody, Record.first_word_of_not_mem h.delimiter_word]
  have hclosing (block : Block) (hbody : block.openBody = some note.delimiter) :
      block.run? [Record.line Record.bodyClosing note.delimiter] =
        some { block with
          lines := Record.line Record.bodyClosing note.delimiter :: block.lines
          openBody := none
          bodyClosed := true } := by
    simp [run?, step, hbody, hcloses]
  rw [run_append, run_append, run_head_lines h, Option.bind_some, hbody, Option.bind_some, hclosing]
  all_goals rfl

/-- The inner lines of the record of a storable note are kept, and give its id. -/
theorem run_inner_lines (h : note.Storable) :
    opened.run? (innerLines note) =
      some ⟨(innerLines note).reverse ++ [Record.opening], some note.id, none, true⟩ := by
  have hinner := run_framed h.enclosed (Record.written note)
  rw [h.lines_before_body, Record.field_lines_written, Record.told_id_written h.enclosed] at hinner
  rw [innerLines, hinner]
  simp

/-- The closing line completes the record. -/
theorem step_closing (h : note.Enclosed) (block : Block) (hid : block.id = some note.id)
    (hbody : block.openBody = none) :
    block.step (Record.line Record.closing note.id) =
      ({ block with lines := Record.line Record.closing note.id :: block.lines }, true) := by
  have hkey : Record.closing ≠ Record.bodyOpening := by decide
  simp [step, hbody, hid, Record.Entry.of_line (show ' ' ∉ Record.closing.toList by decide), hkey,
    Record.first_word_of_not_mem h.id_word]

end Block

/-- The clocks of a header are taken over. -/
def Store.withClocks (store : Store) (exportClock importClock : Int) : Store :=
  { store with exportClock := exportClock, importClock := importClock }

namespace Loading

variable {note : Note}

/-- While a record is open, lines that do not close it go to it. -/
theorem foldl_of_run (lines : List String) (loading : Loading) (block final : Block)
    (hblock : loading.block = some block) (h : block.run? lines = some final) :
    lines.foldl step loading = { loading with block := some final } := by
  induction lines generalizing loading block with
  | nil =>
      obtain rfl : block = final := by simpa [Block.run?] using h
      simp [← hblock]
  | cons line lines ih =>
      simp only [Block.run?, List.foldlM_cons, Option.bind_eq_bind,
        Option.bind_eq_some_iff] at h
      obtain ⟨next, hstep, hrest⟩ := h
      cases hflag : block.step line with
      | mk after flag =>
          cases flag with
          | true => simp [hflag] at hstep
          | false =>
              obtain rfl : after = next := by simpa [hflag] using hstep
              have hload : loading.step line = { loading with block := some after } := by
                simp [step, hblock, hflag]
              rw [List.foldl_cons, hload,
                ih { loading with block := some after } after rfl hrest]

/-- An empty line between records is passed over. -/
theorem step_empty (loading : Loading) (h : loading.block = none) : loading.step "" = loading := by
  have hwords : ("" : String) ≠ Store.exportClockWord ∧ ("" : String) ≠ Store.importClockWord ∧
      ("" : String) ≠ Record.opening := by decide
  have hentry : Record.Entry.ofLine "" = ⟨"", none, ""⟩ := rfl
  simp [step, h, between, hentry, hwords]

/-- The opening line of a record opens it. -/
theorem step_opening (loading : Loading) (h : loading.block = none) :
    loading.step Record.opening = { loading with block := some Block.opened } := by
  have hwords : Record.opening ≠ Store.exportClockWord ∧
      Record.opening ≠ Store.importClockWord := by decide
  have hentry : Record.Entry.ofLine Record.opening = ⟨Record.opening, none, ""⟩ := by decide
  simp [step, h, between, hentry, hwords]

/-- Lines before the first record open none and change no note. -/
theorem foldl_between (lines : List String) (hne : ∀ line ∈ lines, line ≠ Record.opening)
    (loading : Loading) (hblock : loading.block = none) :
    (lines.foldl step loading).block = none ∧
      (lines.foldl step loading).store.notes = loading.store.notes ∧
      (lines.foldl step loading).ids = loading.ids := by
  induction lines generalizing loading with
  | nil => exact ⟨hblock, rfl, rfl⟩
  | cons line lines ih =>
      have hline : (loading.step line).block = none ∧
          (loading.step line).store.notes = loading.store.notes ∧
            (loading.step line).ids = loading.ids := by
        simp only [step, hblock, between, if_neg (hne line (by simp))]
        split
        · exact ⟨rfl, rfl, rfl⟩
        · split
          · exact ⟨rfl, rfl, rfl⟩
          · exact ⟨hblock, rfl, rfl⟩
      obtain ⟨hlast, hnotes, hids⟩ :=
        ih (fun other hmem => hne other (by simp [hmem])) (loading.step line) hline.1
      exact ⟨hlast, hnotes.trans hline.2.1, hids.trans hline.2.2⟩

/-- A line puts a note in, sets the clocks of the header or leaves the store as it is. -/
theorem step_cases (loading : Loading) (line : String) :
    ((loading.step line).store = loading.store ∨
      (∃ exportClock importClock,
        (loading.step line).store = loading.store.withClocks exportClock importClock) ∨
      ∃ note, (loading.step line).store = loading.store.restore note) ∧
    loading.supply.LeadsTo (loading.step line).supply := by
  unfold step
  split
  · unfold between
    dsimp only
    split
    · exact ⟨.inr (.inl ⟨_, loading.store.importClock, rfl⟩), .refl _⟩
    · split
      · exact ⟨.inr (.inl ⟨loading.store.exportClock, _, rfl⟩), .refl _⟩
      · split <;> exact ⟨.inl rfl, .refl _⟩
  · split
    · exact ⟨.inl rfl, .refl _⟩
    · have hblank := (loading.supply.leads_to_drop 1).trans loading.supply.leads_to_blank
      unfold restore
      dsimp only
      split
      next note _ => exact ⟨.inr (.inr ⟨note, rfl⟩), hblank⟩
      next => exact ⟨.inl rfl, hblank⟩

/-- The lines of the record of an enclosed note are one record, whatever the lines of its keys are, as
long as they tell its id. -/
theorem foldl_scanned_with (h : note.Enclosed) {values : Record.Key → Option String}
    (hid : Record.toldId values = some note.id) (loading : Loading)
    (hblock : loading.block = none) :
    (note.scannedWith values).foldl step loading =
      loading.restore ⟨(note.scannedWith values).reverse, some note.id, none, true⟩ := by
  have hlines : note.scannedWith values = Record.opening ::
      (Record.fieldLines Record.Key.all values ++
        [Record.line Record.bodyOpening note.delimiter] ++ Text.linesBefore note.body ++
        [Record.line Record.bodyClosing note.delimiter]) ++
      [Record.line Record.closing note.id] := by
    simp [Note.scannedWith, h.delimiter_line, h.id_line]
  have hinner := foldl_of_run _ { loading with block := some Block.opened } Block.opened _ rfl
    (Block.run_framed h values)
  rw [hlines, List.cons_append, List.foldl_cons, step_opening loading hblock, List.foldl_append,
    hinner]
  simp only [List.foldl_cons, List.foldl_nil, step]
  rw [Block.step_closing h _ hid rfl]
  simp [restore, hid]

/-- The lines of the record of an enclosed note are one record. -/
theorem foldl_scanned_lines (h : note.Enclosed) (loading : Loading)
    (hblock : loading.block = none) :
    note.scannedLines.foldl step loading =
      loading.restore ⟨note.scannedLines.reverse, some note.id, none, true⟩ := by
  rw [← note.scanned_with_written]
  exact foldl_scanned_with h (Record.told_id_written h) loading hblock

/-- The lines of the record of a storable note put it into the store. -/
theorem foldl_file_lines (h : note.Storable) (loading : Loading) (hblock : loading.block = none) :
    note.fileLines.foldl step loading =
      { loading with
        store := loading.store.restore note
        supply := loading.supply.afterBlank
        ids := note.id :: loading.ids } := by
  have hread := foldl_scanned_lines h.enclosed loading hblock
  rw [h.scanned_lines] at hread
  rw [hread]
  simp only [restore, Block.text, List.reverse_reverse, Note.of_record_lines h, hblock]

end Loading

namespace Store

/-- A join of texts with nothing between them begins with the first. -/
theorem intercalate_empty_cons (first : String) (rest : List String) :
    ("" : String).intercalate (first :: rest) = first ++ ("" : String).intercalate rest := by
  cases rest with
  | nil => simp
  | cons next rest => simp [String.intercalate_cons_of_ne_nil]

/-- A record and the two line feeds after it are read in front of what follows, if the values of its
keys stay on their lines. -/
theorem lines_record_with (note : Note) {values : Record.Key → Option String}
    (hvalues : ∀ key value, values key = some value → Text.Unbroken value) (rest : String) :
    Text.lines (note.recordWith values ++ "\n\n" ++ rest) =
      [""] ++ note.scannedWith values ++ ["", ""] ++ Text.lines rest := by
  have hne : note.recordLinesWith values ≠ [] := by simp [Note.recordLinesWith]
  have hempty : Text.linesBefore "" = [""] := rfl
  have hfeeds : ("\n\n" : String) = "\n" ++ "\n" := rfl
  have htwo : note.recordWith values ++ "\n\n" ++ rest =
      Text.join "\n" (note.recordLinesWith values) ++ "\n" ++ ("" ++ "\n" ++ rest) := by
    rw [hfeeds]
    simp only [Note.recordWith, String.append_assoc, String.empty_append]
  rw [htwo, Text.lines_join_append hne, Text.lines_append_line_feed, note.lines_before_with hvalues,
    hempty]
  simp

/-- The lines of records that follow each other, in front of what follows them. -/
theorem lines_records (notes : List Note) (rest : String) :
    Text.lines (("" : String).intercalate (notes.map fun note => note.record ++ "\n\n") ++ rest) =
      (notes.flatMap fun note => [""] ++ note.scannedLines ++ ["", ""]) ++ Text.lines rest := by
  induction notes with
  | nil => simp
  | cons note notes ih =>
      rw [List.map_cons, intercalate_empty_cons, String.append_assoc, ← note.record_with_written,
        lines_record_with note note.written_unbroken, ih, note.scanned_with_written,
        List.flatMap_cons, List.append_assoc _ _ (Text.lines rest)]

/-- The header is two lines in front of what follows it. -/
theorem lines_header (store : Store) (rest : String) :
    Text.lines (store.header ++ rest) =
      [Record.line exportClockWord (Decimal.write store.exportClock),
        Record.line importClockWord (Decimal.write store.importClock)] ++ Text.lines rest := by
  have hline {word : String} (clock : Int)
      (hword : '\n' ∉ word.toList ∧ '\r' ∉ word.toList) :
      Text.linesBefore (Record.line word (Decimal.write clock)) =
        [Record.line word (Decimal.write clock)] := by
    have hbreak := Record.line_no_break hword (Record.write_no_break clock)
    exact Text.lines_before_single hbreak.1 (Text.drop_return_of_not_mem hbreak.2)
  have hheader : store.header ++ rest =
      Record.line exportClockWord (Decimal.write store.exportClock) ++ "\n" ++
        (Record.line importClockWord (Decimal.write store.importClock) ++ "\n" ++ rest) := by
    simp [header, String.append_assoc]
  rw [hheader, Text.lines_append_line_feed, Text.lines_append_line_feed, hline _ (by decide),
    hline _ (by decide)]
  rfl

/-- The lines of the text of some notes. -/
theorem lines_text_of (store : Store) (notes : List Note) :
    Text.lines (store.textOf notes) =
      [Record.line exportClockWord (Decimal.write store.exportClock),
        Record.line importClockWord (Decimal.write store.importClock)] ++
        notes.flatMap fun note => [""] ++ note.scannedLines ++ ["", ""] := by
  have hrecords := lines_records notes ""
  have hnone : Text.lines "" = [] := rfl
  rw [String.append_empty, hnone, List.append_nil] at hrecords
  rw [textOf, lines_header, hrecords]

/-- The lines of the header set the clocks. -/
theorem foldl_header (store : Store) (hexport : Decimal.InRange store.exportClock)
    (himport : Decimal.InRange store.importClock) (loading : Loading)
    (hblock : loading.block = none) :
    [Record.line exportClockWord (Decimal.write store.exportClock),
        Record.line importClockWord (Decimal.write store.importClock)].foldl Loading.step loading =
      { loading with store := loading.store.withClocks store.exportClock store.importClock } := by
  have hfirst : loading.step (Record.line exportClockWord (Decimal.write store.exportClock)) =
      { loading with store := { loading.store with exportClock := store.exportClock } } := by
    have hentry := Record.Entry.of_line (show ' ' ∉ exportClockWord.toList by decide)
      (Decimal.write store.exportClock)
    simp [Loading.step, hblock, Loading.between, hentry,
      Record.first_word_of_not_mem (Record.write_no_space _), Decimal.read_write hexport]
  have hsecond (loading : Loading) (hblock : loading.block = none) :
      loading.step (Record.line importClockWord (Decimal.write store.importClock)) =
        { loading with store := { loading.store with importClock := store.importClock } } := by
    have hentry := Record.Entry.of_line (show ' ' ∉ importClockWord.toList by decide)
      (Decimal.write store.importClock)
    have hword : importClockWord ≠ exportClockWord := by decide
    simp [Loading.step, hblock, Loading.between, hentry, hword,
      Record.first_word_of_not_mem (Record.write_no_space _), Decimal.read_write himport]
  rw [List.foldl_cons, hfirst, List.foldl_cons, hsecond, List.foldl_nil]
  · rfl
  · exact hblock

/-- What follows the header puts the notes in, one after the other. -/
theorem foldl_records {notes : List Note} (h : ∀ note ∈ notes, note.Storable) (loading : Loading)
    (hblock : loading.block = none) :
    (notes.flatMap fun note => [""] ++ note.scannedLines ++ ["", ""]).foldl Loading.step loading =
      { loading with
        store := notes.foldl restore loading.store
        supply := notes.foldl (fun supply _ => supply.afterBlank) loading.supply
        ids := (notes.map Note.id).reverse ++ loading.ids } := by
  induction notes generalizing loading with
  | nil => rfl
  | cons note notes ih =>
      have hnote := Loading.foldl_file_lines (h note (by simp)) loading hblock
      have hrest := ih (fun other hmem => h other (by simp [hmem]))
        { loading with
          store := loading.store.restore note
          supply := loading.supply.afterBlank
          ids := note.id :: loading.ids } hblock
      have hempty (loading : Loading) (hblock : loading.block = none) :
          [""].foldl Loading.step loading = loading :=
        Loading.step_empty loading hblock
      have htwo (loading : Loading) (hblock : loading.block = none) :
          ["", ""].foldl Loading.step loading = loading := by
        rw [List.foldl_cons, Loading.step_empty loading hblock, hempty loading hblock]
      have hafter := htwo
        { loading with
          store := loading.store.restore note
          supply := loading.supply.afterBlank
          ids := note.id :: loading.ids } hblock
      rw [List.flatMap_cons, List.foldl_append, List.foldl_append, List.foldl_append,
        hempty loading hblock, (h note (by simp)).scanned_lines, hnote, hafter, hrest]
      simp

/-- The text of storable notes gives the store that reads it the clocks of its header and the notes,
and tells their ids. -/
theorem read_text_of (store : Store) {notes : List Note} (h : ∀ note ∈ notes, note.Storable)
    (hexport : Decimal.InRange store.exportClock) (himport : Decimal.InRange store.importClock)
    (reader : Store) (supply : Supply) :
    reader.read supply (store.textOf notes) =
      (notes.foldl restore (reader.withClocks store.exportClock store.importClock),
        notes.foldl (fun supply _ => supply.afterBlank) supply, notes.map Note.id) := by
  unfold read
  rw [lines_text_of, List.foldl_append, foldl_header store hexport himport _ rfl,
    foldl_records h _ rfl]
  simp

/-- An empty text changes nothing. -/
theorem read_empty (store : Store) (supply : Supply) : store.read supply "" = (store, supply, []) :=
  rfl

/-- Reading any text whatever keeps what putting notes in and setting the clocks of the header
keep, and leads on in the supply. -/
theorem read_keeps (kept : Store → Prop)
    (hrestore : ∀ store note, kept store → kept (store.restore note))
    (hclocks : ∀ store exportClock importClock, kept store →
      kept (store.withClocks exportClock importClock))
    (store : Store) (h : kept store) (supply : Supply) (text : String) :
    kept (store.read supply text).1 ∧ supply.LeadsTo (store.read supply text).2.1 := by
  have hfold (lines : List String) (loading : Loading) (h : kept loading.store) :
      kept (lines.foldl Loading.step loading).store ∧
        loading.supply.LeadsTo (lines.foldl Loading.step loading).supply := by
    induction lines generalizing loading with
    | nil => exact ⟨h, .refl _⟩
    | cons line lines ih =>
        obtain ⟨hstore, hsupply⟩ := loading.step_cases line
        have hkept : kept (loading.step line).store := by
          rcases hstore with heq | ⟨exportClock, importClock, heq⟩ | ⟨note, heq⟩
          · rw [heq]
            exact h
          · rw [heq]
            exact hclocks _ _ _ h
          · rw [heq]
            exact hrestore _ _ h
        exact ⟨(ih _ hkept).1, hsupply.trans (ih _ hkept).2⟩
  exact hfold _ _ h

/-- Reading leads on in the supply. -/
theorem read_leads_to (store : Store) (supply : Supply) (text : String) :
    supply.LeadsTo (store.read supply text).2.1 :=
  (read_keeps (fun _ => True) (fun _ _ _ => trivial) (fun _ _ _ _ => trivial) store trivial supply
    text).2

end Store

end Notekeeper
