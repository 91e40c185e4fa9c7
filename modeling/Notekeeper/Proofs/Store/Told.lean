import Notekeeper.Proofs.Note.Identity
import Notekeeper.Proofs.Store.Change

/-!
# The ids that a text tells

Reading a text puts notes in under ids that the text tells, whatever store reads it (`Store.told`,
`Store.has_read`). The text of notes that are enclosed tells no other ids than theirs
(`Store.mem_told_text_of`), even if their values do not survive in it: no line inside a record opens
another one, and a record is read under the id of its note or not at all.
-/

namespace Notekeeper

namespace Loading

/-- What two loadings have in common that have read the same lines into different stores. -/
structure Abreast (loading other : Loading) : Prop where
  block : other.block = loading.block
  ids : other.ids = loading.ids

variable {loading other : Loading}

/-- Loadings go abreast over the end of a record. -/
theorem Abreast.restore (h : loading.Abreast other) (block : Block) :
    (loading.restore block).Abreast (other.restore block) := by
  have hid := Note.of_record_id (Note.blank loading.supply) (Note.blank other.supply) block.text
  unfold Loading.restore
  cases hread : Note.ofRecord? (Note.blank loading.supply) block.text with
  | none =>
      rw [hread] at hid
      rw [Option.map_eq_none_iff.1 hid.symm]
      exact ⟨rfl, h.ids⟩
  | some note =>
      rw [hread] at hid
      obtain ⟨others, hothers, hsame⟩ := Option.map_eq_some_iff.1 hid.symm
      rw [hothers]
      exact ⟨rfl, congrArg₂ List.cons hsame h.ids⟩

/-- Loadings go abreast. -/
theorem Abreast.step (h : loading.Abreast other) (line : String) :
    (loading.step line).Abreast (other.step line) := by
  unfold Loading.step
  rw [h.block]
  split
  · unfold between
    dsimp only
    split
    · exact ⟨h.block, h.ids⟩
    · split
      · exact ⟨h.block, h.ids⟩
      · split
        · exact ⟨rfl, h.ids⟩
        · exact h
  · split
    · exact ⟨rfl, h.ids⟩
    · exact h.restore _

/-- Loadings go abreast from line to line. -/
theorem Abreast.foldl (h : loading.Abreast other) (lines : List String) :
    (lines.foldl Loading.step loading).Abreast (lines.foldl Loading.step other) := by
  induction lines generalizing loading other with
  | nil => exact h
  | cons line lines ih => exact ih (h.step line)

/-- A record sets no clock of the header. -/
theorem restore_import_clock (loading : Loading) (block : Block) :
    (loading.restore block).store.importClock = loading.store.importClock := by
  unfold restore
  dsimp only
  split <;> rfl

/-- Loadings that go abreast learn the same import clock. -/
theorem Abreast.import_clock_step (h : loading.Abreast other)
    (hclock : other.store.importClock = loading.store.importClock) (line : String) :
    (other.step line).store.importClock = (loading.step line).store.importClock := by
  unfold Loading.step
  rw [h.block]
  split
  · unfold between
    dsimp only
    split
    · exact hclock
    · split
      · rw [hclock]
      · split <;> exact hclock
  · split
    · exact hclock
    · rw [restore_import_clock, restore_import_clock, hclock]

/-- Loadings that go abreast learn the same import clock from line to line. -/
theorem Abreast.import_clock_foldl (h : loading.Abreast other)
    (hclock : other.store.importClock = loading.store.importClock) (lines : List String) :
    (lines.foldl Loading.step other).store.importClock =
      (lines.foldl Loading.step loading).store.importClock := by
  induction lines generalizing loading other with
  | nil => exact hclock
  | cons line lines ih => exact ih (h.step line) (h.import_clock_step hclock line)

/-- A line puts a note in exactly under the id that it adds to those that have been read. -/
theorem has_step {reader : Store}
    (h : ∀ id, loading.store.Has id ↔ reader.Has id ∨ id ∈ loading.ids) (line id : String) :
    (loading.step line).store.Has id ↔ reader.Has id ∨ id ∈ (loading.step line).ids := by
  unfold Loading.step
  split
  · unfold between
    dsimp only
    split
    · exact h id
    · split
      · exact h id
      · split <;> exact h id
  · split
    · exact h id
    · unfold restore
      dsimp only
      split
      next note _ =>
        dsimp only
        rw [Store.has_restore, h, List.mem_cons, eq_comm]
        tauto
      next => exact h id

variable {note : Note}

/-- A record that tells an id is read under it, or not at all, whatever its other lines are. -/
theorem id_of_scanned {values : Record.Key → Option String}
    (hvalues : ∀ key value, values key = some value → Text.Unbroken value) {id : String}
    (hid : Record.toldId values = some id) {blank read : Note} {block : Block}
    (hblock : block.lines = (note.scannedWith values).reverse)
    (hread : Note.ofRecord? blank block.text = some read) : read.id = id := by
  obtain ⟨hword, hne⟩ := Option.filter_eq_some_iff.1 hid
  obtain ⟨value, hvalue, hword⟩ := Option.map_eq_some_iff.1 hword
  have hlines : note.scannedWith values =
      [Record.opening, Record.line Record.Key.id.word value] ++ (note.scannedWith values).drop 2 := by
    simp [Note.scannedWith, Record.fieldLines, Record.Key.all, hvalue]
  have hrest : (note.scannedWith values).drop 2 ≠ [] := by
    simp [Note.scannedWith, Record.fieldLines, Record.Key.all, hvalue]
  have hfront : ∀ part ∈ [Record.opening, Record.line Record.Key.id.word value],
      Text.Unbroken part := by
    simp only [List.mem_cons, List.not_mem_nil, or_false, forall_eq_or_imp, forall_eq]
    exact ⟨by decide, Record.line_unbroken (by decide) (hvalues .id value hvalue)⟩
  have htext : Text.lines block.text = Record.opening :: Record.line Record.Key.id.word value ::
      Text.lines (Text.join "\n" ((note.scannedWith values).drop 2)) := by
    rw [Block.text, hblock, List.reverse_reverse, hlines, Text.lines_join_front hfront hrest]
    rfl
  exact Note.id_of_record (by simpa using hne) hword htext hread

/-- The record of an enclosed note tells the id of the note, or none. -/
theorem ids_scanned_lines (h : note.Enclosed) (loading : Loading) (hblock : loading.block = none) :
    (note.scannedLines.foldl Loading.step loading).block = none ∧
      ∀ id ∈ (note.scannedLines.foldl Loading.step loading).ids,
        id = note.id ∨ id ∈ loading.ids := by
  rw [foldl_scanned_lines h loading hblock]
  unfold restore
  dsimp only
  split
  next read hread =>
    refine ⟨rfl, fun id hmem => (List.mem_cons.1 hmem).imp_left fun heq => heq.trans ?_⟩
    exact id_of_scanned note.written_unbroken (Record.told_id_written h)
      (by rw [note.scanned_with_written]) hread
  next => exact ⟨rfl, fun id hmem => .inr hmem⟩

/-- The records of enclosed notes tell no ids but theirs. -/
theorem ids_records {notes : List Note} (h : ∀ note ∈ notes, note.Enclosed) (loading : Loading)
    (hblock : loading.block = none) :
    ∀ id ∈ ((notes.flatMap fun note => [""] ++ note.scannedLines ++ ["", ""]).foldl Loading.step
      loading).ids, (∃ note ∈ notes, note.id = id) ∨ id ∈ loading.ids := by
  induction notes generalizing loading with
  | nil => exact fun id hmem => .inr hmem
  | cons note notes ih =>
      intro id hmem
      have hnote := ids_scanned_lines (h note (by simp)) loading hblock
      simp only [List.flatMap_cons, List.foldl_append, List.foldl_cons, List.foldl_nil,
        step_empty loading hblock, step_empty _ hnote.1] at hmem
      rcases ih (fun other hother => h other (by simp [hother])) _ hnote.1 id hmem with
        ⟨other, hother, hid⟩ | hbefore
      · exact .inl ⟨other, by simp [hother], hid⟩
      · exact (hnote.2 id hbefore).imp_left fun heq => ⟨note, by simp, heq.symm⟩

end Loading

namespace Store

/-- The ids of the notes that a text tells. -/
def told (text : String) : List String :=
  (({} : Store).read .tally text).2.2

variable {store : Store} {notes : List Note}

/-- Any store that reads a text reads the ids that it tells. -/
theorem ids_read (store : Store) (supply : Supply) (text : String) :
    (store.read supply text).2.2 = told text := by
  have hstart : Loading.Abreast ⟨{}, .tally, none, []⟩ ⟨store, supply, none, []⟩ := ⟨rfl, rfl⟩
  exact congrArg List.reverse (hstart.foldl (Text.lines text)).ids

/-- The import clock that a store reads depends on the text alone. -/
theorem import_clock_read (store : Store) (supply other : Supply) (text : String) :
    (store.read supply text).1.importClock = (store.read other text).1.importClock := by
  have hstart : Loading.Abreast ⟨store, other, none, []⟩ ⟨store, supply, none, []⟩ := ⟨rfl, rfl⟩
  exact hstart.import_clock_foldl rfl (Text.lines text)

/-- A store that has read a text has what it had and what the text tells. -/
theorem has_read (store : Store) (supply : Supply) (text id : String) :
    (store.read supply text).1.Has id ↔ store.Has id ∨ id ∈ told text := by
  have hfold (lines : List String) (loading : Loading)
      (h : ∀ id, loading.store.Has id ↔ store.Has id ∨ id ∈ loading.ids) (id : String) :
      (lines.foldl Loading.step loading).store.Has id ↔
        store.Has id ∨ id ∈ (lines.foldl Loading.step loading).ids := by
    induction lines generalizing loading with
    | nil => exact h id
    | cons line lines ih => exact ih (loading.step line) (loading.has_step h line)
  rw [← ids_read store supply text]
  refine (hfold (Text.lines text) ⟨store, supply, none, []⟩ (by simp) id).trans ?_
  simp [read]

/-- The text of enclosed notes tells no ids but theirs. -/
theorem mem_told_text_of (h : ∀ note ∈ notes, note.Enclosed) {id : String}
    (hmem : id ∈ told (store.textOf notes)) : ∃ note ∈ notes, note.id = id := by
  have hheader : ∀ line ∈ [Record.line exportClockWord (Decimal.write store.exportClock),
      Record.line importClockWord (Decimal.write store.importClock)], line ≠ Record.opening := by
    simp only [List.mem_cons, List.not_mem_nil, or_false, forall_eq_or_imp, forall_eq]
    constructor <;>
    · intro heq
      have hspace : ' ' ∈ Record.opening.toList := by simp [← heq, Record.line_toList]
      exact absurd hspace (by decide)
  obtain ⟨hblock, -, hids⟩ :=
    Loading.foldl_between _ hheader ⟨{}, .tally, none, []⟩ rfl
  unfold told read at hmem
  rw [lines_text_of, List.foldl_append] at hmem
  rcases Loading.ids_records h _ hblock id (List.mem_reverse.1 hmem) with hfound | hbefore
  · exact hfound
  · rw [hids] at hbefore
    exact absurd hbefore List.not_mem_nil

/-- Whatever else becomes of them in a file, the notes of a store are kept apart there. -/
def Enclosed (store : Store) : Prop :=
  ∀ note ∈ store.all, note.Enclosed

instance (store : Store) : Decidable store.Enclosed :=
  inferInstanceAs (Decidable (∀ note ∈ store.all, note.Enclosed))

/-- The text of a store tells no ids but those of its notes. -/
theorem Enclosed.has_of_told (h : store.Enclosed) (hkeyed : store.Keyed) {id : String}
    (hmem : id ∈ told store.text) : store.Has id := by
  obtain ⟨note, hnote, rfl⟩ := mem_told_text_of h hmem
  obtain ⟨key, hfound⟩ := Store.mem_all.1 hnote
  rw [hkeyed key note hfound]
  exact has_of_get hfound

/-- The text of the touched notes of a store tells no ids but those of its notes. -/
theorem Enclosed.has_of_touched (h : store.Enclosed) (hkeyed : store.Keyed) {id : String}
    (hmem : id ∈ told store.touchedText) : store.Has id := by
  have htouched : ∀ note ∈ store.touchedNotes, ∃ key, store.get? key = some note := by
    intro note hnote
    obtain ⟨key, -, hfound⟩ := List.mem_filterMap.1 hnote
    exact ⟨key, hfound⟩
  obtain ⟨note, hnote, rfl⟩ := mem_told_text_of (fun note hnote =>
    (htouched note hnote).elim fun key hfound => h note (Store.mem_all.2 ⟨key, hfound⟩)) hmem
  obtain ⟨key, hfound⟩ := htouched note hnote
  rw [hkeyed key note hfound]
  exact has_of_get hfound

end Store

end Notekeeper
