import Notekeeper.Proofs.Store.Prefix
import Notekeeper.Proofs.Store.Told

/-!
# Damaged records

A record may have lost lines of its keys, or have other values on them (`Note.recordWith`).
`Store.damage_contained_iff` says when it harms no other record of a text: exactly if it still tells
its own id. Then the scanner closes it on its own last line, whatever else is wrong with it
(`Store.contained_of_told`). Without its id it stays open and swallows the next record: if anything
is read of the two, it has the delimiter of the damaged one (`Store.next_taken`).
-/

namespace Notekeeper

namespace Record

/-! ## The delimiter of a record -/

variable {reader later : Reader}

/-- Lines of keys do not begin the body. -/
theorem Reader.run_fields (keys : List Key) (values : Key → Option String)
    (hbody : reader.body = .awaited) (hrun : reader.run? (fieldLines keys values) = some later) :
    later.body = .awaited := by
  induction keys generalizing reader with
  | nil =>
      obtain rfl : reader = later := by simpa [Reader.run?, fieldLines] using hrun
      exact hbody
  | cons key keys ih =>
      cases hvalue : values key with
      | none =>
          have hlines : fieldLines (key :: keys) values = fieldLines keys values := by
            simp [fieldLines, hvalue]
          rw [hlines] at hrun
          exact ih hbody hrun
      | some value =>
          have hlines : fieldLines (key :: keys) values =
              line key.word value :: fieldLines keys values := by
            simp [fieldLines, hvalue]
          rw [hlines] at hrun
          simp only [Reader.run?, List.foldlM_cons, Option.bind_eq_bind,
            Option.bind_eq_some_iff] at hrun
          obtain ⟨middle, hstep, hrest⟩ := hrun
          have hkey : (Entry.ofLine (line key.word value)).key = key.word := by
            rw [Entry.of_line (Key.word_no_space key)]
          have hmiddle : middle.body = .awaited := by
            simp only [Reader.step?, hbody, Reader.field?, hkey, Key.of_word] at hstep
            split at hstep
            · obtain rfl := Option.some.inj hstep
              exact hbody
            · obtain ⟨read, -, rfl⟩ := Option.map_eq_some_iff.1 hstep
              rfl
          exact ih hmiddle hrest

/-- Once the body has begun, a line leaves the delimiter. -/
theorem Reader.step_begun (hbody : reader.body ≠ .awaited) {text : String}
    (hstep : reader.step? text = some later) :
    later.body ≠ .awaited ∧ later.note.delimiter = reader.note.delimiter := by
  cases Reader.advances_of_step hstep with
  | collected | closed => exact ⟨by simp, rfl⟩
  | opened hawaited => exact absurd hawaited hbody
  | given key note _ _ _ _ hread => exact ⟨hbody, (Key.read_frame hread).2.1⟩
  | passed => exact ⟨hbody, rfl⟩

/-- Once the body has begun, the delimiter stays to the end. -/
theorem Reader.run_begun (lines : List String) {reader : Reader} (hbody : reader.body ≠ .awaited)
    (hrun : reader.run? lines = some later) : later.note.delimiter = reader.note.delimiter := by
  induction lines generalizing reader with
  | nil =>
      obtain rfl : reader = later := by simpa [Reader.run?] using hrun
      rfl
  | cons text lines ih =>
      simp only [Reader.run?, List.foldlM_cons, Option.bind_eq_bind, Option.bind_eq_some_iff] at hrun
      obtain ⟨middle, hstep, hrest⟩ := hrun
      obtain ⟨hmiddle, hdelimiter⟩ := Reader.step_begun hbody hstep
      exact (ih hmiddle hrest).trans hdelimiter

end Record

namespace Note

variable {note : Note} {values : Record.Key → Option String}

/-- A text that begins with the lines of a record up to its body is read with the delimiter of that
record, if it is read at all. -/
theorem delimiter_of_head (h : note.Enclosed) {blank read : Note} {text : String}
    {rest : List String}
    (hlines : Text.lines text = [Record.opening] ++ Record.fieldLines Record.Key.all values ++
      [Record.line Record.bodyOpening note.delimiter] ++ rest)
    (hread : ofRecord? blank text = some read) : read.delimiter = note.delimiter := by
  obtain ⟨reader, hrun, hfinish⟩ := Option.bind_eq_some_iff.1 hread
  have hopening : (Record.Reader.mk blank [] .awaited).run? [Record.opening] =
      some (Record.Reader.mk blank [] .awaited) := rfl
  rw [hlines] at hrun
  simp only [Record.Reader.run_append, hopening, Option.bind_some, Option.bind_assoc,
    Option.bind_eq_some_iff] at hrun
  obtain ⟨told, hfields, begun, hbegin, hrest⟩ := hrun
  have htold := Record.Reader.run_fields _ _ rfl hfields
  have hbegun : begun.body ≠ .awaited ∧ begun.note.delimiter = note.delimiter := by
    have hkey : (Record.Entry.ofLine (Record.line Record.bodyOpening note.delimiter)).key =
        Record.bodyOpening := by
      rw [Record.Entry.of_line (by decide)]
    have hdelimiter : (Record.Entry.ofLine (Record.line Record.bodyOpening note.delimiter)).word =
        note.delimiter := Record.Entry.word_of_line (by decide) h.delimiter_word
    have hword : Record.Key.ofWord? Record.bodyOpening = none := by decide
    simp only [Record.Reader.run?, List.foldlM_cons, List.foldlM_nil, Record.Reader.step?, htold,
      Record.Reader.field?, hkey, hword, hdelimiter] at hbegin
    obtain rfl : _ = begun := by simpa using hbegin
    exact ⟨by simp, rfl⟩
  rw [← (Record.Reader.finish_eq_some hfinish).2, Record.Reader.run_begun rest hbegun.1 hrest,
    hbegun.2]

end Note

namespace Block

/-! ## Records that are left open -/

/-- A line after the body goes to the record, and closes it only if it has the keyword for that. -/
theorem step_after_body (block : Block) (hbody : block.openBody = none)
    (hclosed : block.bodyClosed = true) (line : String) :
    (∃ id, (block.step line).1 = ⟨line :: block.lines, id, none, true⟩) ∧
      ((Record.Entry.ofLine line).key ≠ Record.closing → (block.step line).2 = false) := by
  unfold step
  simp only [hbody, hclosed]
  cases block.id with
  | none =>
      dsimp only
      split
      · exact ⟨⟨_, rfl⟩, fun _ => rfl⟩
      · rw [if_neg (by simp)]
        exact ⟨⟨_, rfl⟩, fun _ => rfl⟩
  | some id =>
      dsimp only
      rw [if_neg (by simp)]
      exact ⟨⟨_, rfl⟩, fun hkey => by simp [hkey]⟩

/-- Lines after the body without the keyword that closes a record go to the record. -/
theorem run_after_body (lines : List String)
    (hlines : ∀ line ∈ lines, (Record.Entry.ofLine line).key ≠ Record.closing) (block : Block)
    (hbody : block.openBody = none) (hclosed : block.bodyClosed = true) :
    ∃ id, block.run? lines = some ⟨lines.reverse ++ block.lines, id, none, true⟩ := by
  induction lines generalizing block with
  | nil => exact ⟨block.id, by simp [run?, ← hbody, ← hclosed]⟩
  | cons line lines ih =>
      obtain ⟨⟨id, hafter⟩, hopen⟩ := block.step_after_body hbody hclosed line
      obtain ⟨last, hrest⟩ := ih (fun other hmem => hlines other (by simp [hmem]))
        ⟨line :: block.lines, id, none, true⟩ rfl rfl
      refine ⟨last, ?_⟩
      unfold run? at hrest ⊢
      simp only [List.foldlM_cons, hopen (hlines line (by simp)), hafter]
      simpa using hrest

end Block

namespace Loading

variable {note : Note} {values : Record.Key → Option String}

/-- A record that does not tell its id is not closed by its last line. -/
theorem foldl_left_open (h : note.Enclosed) (hid : Record.toldId values ≠ some note.id)
    (loading : Loading) (hblock : loading.block = none) :
    (note.scannedWith values).foldl step loading =
      { loading with
        block := some ⟨(note.scannedWith values).reverse, Record.toldId values, none, true⟩ } := by
  have hlines : note.scannedWith values = Record.opening ::
      (Record.fieldLines Record.Key.all values ++
        [Record.line Record.bodyOpening note.delimiter] ++ Text.linesBefore note.body ++
        [Record.line Record.bodyClosing note.delimiter]) ++
      [Record.line Record.closing note.id] := by
    simp [Note.scannedWith, h.delimiter_line, h.id_line]
  have hinner := foldl_of_run _ { loading with block := some Block.opened } Block.opened _ rfl
    (Block.run_framed h values)
  have hlast (block : Block) (hid : block.id ≠ some note.id) (hbody : block.openBody = none)
      (hclosed : block.bodyClosed = true) :
      block.step (Record.line Record.closing note.id) =
        ({ block with lines := Record.line Record.closing note.id :: block.lines }, false) := by
    have hkeys : Record.closing ≠ Record.Key.id.word ∧ Record.closing ≠ Record.bodyOpening := by
      decide
    cases hknown : block.id with
    | none =>
        simp [Block.step, hbody, hknown, hkeys.1, hkeys.2, Record.Entry.of_line (show ' ' ∉
          Record.closing.toList by decide)]
    | some id =>
        have hne : note.id ≠ id := by
          rintro rfl
          exact hid hknown
        simp [Block.step, hbody, hknown, hkeys.2, hne, Record.Entry.of_line (show ' ' ∉
          Record.closing.toList by decide), Record.first_word_of_not_mem h.id_word]
  rw [hlines, List.cons_append, List.foldl_cons, step_opening loading hblock, List.foldl_append,
    hinner]
  simp only [List.foldl_cons, List.foldl_nil, step]
  rw [hlast _ hid rfl rfl]
  simp

/-- A closed record puts its note in, if it can be read. -/
theorem restore_notes (loading : Loading) (block : Block) :
    (loading.restore block).block = none ∧
      (loading.restore block).store.notes = Store.overlay loading.store.notes
        (Note.ofRecord? (Note.blank loading.supply) block.text).toList := by
  unfold restore
  dsimp only
  cases Note.ofRecord? (Note.blank loading.supply) block.text with
  | none => exact ⟨rfl, rfl⟩
  | some read => exact ⟨rfl, rfl⟩

/-- While a record is open after its body, lines of which only the last can close it put in what is
read of it with these lines, or nothing. -/
theorem foldl_after_body (lines : List String) (last : String)
    (hlines : ∀ line ∈ lines, (Record.Entry.ofLine line).key ≠ Record.closing) (loading : Loading)
    (block : Block) (hblock : loading.block = some block) (hbody : block.openBody = none)
    (hclosed : block.bodyClosed = true) :
    ((lines ++ last :: ["", ""]).foldl step loading).store.notes = loading.store.notes ∨
      ((lines ++ last :: ["", ""]).foldl step loading).store.notes =
        Store.overlay loading.store.notes (Note.ofRecord? (Note.blank loading.supply)
          (Text.join "\n" (block.lines.reverse ++ (lines ++ [last])))).toList := by
  obtain ⟨id, hrun⟩ := block.run_after_body lines hlines hbody hclosed
  obtain ⟨⟨known, hafter⟩, -⟩ :=
    Block.step_after_body ⟨lines.reverse ++ block.lines, id, none, true⟩ rfl rfl last
  rw [List.foldl_append, foldl_of_run lines loading block _ hblock hrun, List.foldl_cons]
  cases hstep : Block.step ⟨lines.reverse ++ block.lines, id, none, true⟩ last with
  | mk left flag =>
      obtain rfl := (congrArg Prod.fst hstep).symm.trans hafter
      simp only [step, hstep]
      cases flag with
      | false =>
          obtain ⟨later, hend⟩ := Block.run_after_body ["", ""] (by decide)
            ⟨last :: (lines.reverse ++ block.lines), known, none, true⟩ rfl rfl
          rw [foldl_of_run ["", ""] _ _ _ rfl hend]
          exact .inl rfl
      | true =>
          obtain ⟨hopen, hnotes⟩ := restore_notes
            { loading with block := some ⟨lines.reverse ++ block.lines, id, none, true⟩ }
            ⟨last :: (lines.reverse ++ block.lines), known, none, true⟩
          rw [foldl_empty ["", ""] (by simp) _ hopen, hnotes]
          simp [Block.text]

end Loading

namespace Store

variable {note : Note} {values : Record.Key → Option String} {before after : List Note}

/-- A record between the records of notes. -/
def textAround (before : List Note) (record : String) (after : List Note) : String :=
  recordsOf before ++ (record ++ "\n\n" ++ recordsOf after)

/-- The lines of a record between the records of notes. -/
theorem lines_text_around (hvalues : ∀ key value, values key = some value → Text.Unbroken value) :
    Text.lines (textAround before (note.recordWith values) after) =
      (before.flatMap fun note => [""] ++ note.scannedLines ++ ["", ""]) ++
        ([""] ++ note.scannedWith values ++ ["", ""] ++
          after.flatMap fun note => [""] ++ note.scannedLines ++ ["", ""]) := by
  have hafter := lines_records after ""
  have hnone : Text.lines "" = [] := rfl
  rw [String.append_empty, hnone, List.append_nil] at hafter
  rw [textAround, recordsOf, lines_records, lines_record_with note hvalues, recordsOf, hafter]

/-! ## Records that tell their ids -/

/-- Of a record that tells its id and the records around it what each of them gives is put in. -/
theorem read_around (h : note.Enclosed)
    (hvalues : ∀ key value, values key = some value → Text.Unbroken value)
    (hid : Record.toldId values = some note.id) (hbefore : ∀ other ∈ before, other.Storable)
    (hafter : ∀ other ∈ after, other.Storable) (reader : Store) (supply : Supply) :
    (reader.read supply (textAround before (note.recordWith values) after)).1.notes =
      overlay reader.notes (before ++
        (Note.ofRecord? (Note.blank (before.foldl (fun supply _ => supply.afterBlank) supply))
          (Text.join "\n" (note.scannedWith values))).toList ++ after) := by
  have hempty := Loading.foldl_empty [""] (by simp)
  have htwo := Loading.foldl_empty ["", ""] (by simp)
  unfold read
  rw [lines_text_around hvalues, List.foldl_append, foldl_records hbefore _ rfl, List.foldl_append,
    List.foldl_append, List.foldl_append, hempty, Loading.foldl_scanned_with h hid]
  rotate_left
  · rfl
  · rfl
  obtain ⟨hclosed, hnotes⟩ := Loading.restore_notes
    ⟨before.foldl restore reader, before.foldl (fun supply _ => supply.afterBlank) supply, none,
      (before.map Note.id).reverse ++ []⟩
    ⟨(note.scannedWith values).reverse, some note.id, none, true⟩
  rw [htwo _ hclosed, foldl_records hafter _ hclosed]
  simp only [foldl_restore_notes, hnotes, Block.text, List.reverse_reverse]
  simp only [overlay, List.foldl_append]

/-- What a store has of notes and of another record with an id, when it has read the record among
those of the notes: the notes as they are, and at most one more, which the record gives on its own,
under the id. -/
structure Contained (found : Store) (notes : List Note) (id record : String) : Prop where
  kept : ∀ note ∈ notes, found.get? note.id = some note
  others : ∀ key note, found.get? key = some note →
    (note ∈ notes ∧ note.id = key) ∨
      (key = id ∧ ∃ supply, (({} : Store).read supply (textAround [] record [])).1.get? id = some note)

/-- A damaged record that tells its id harms no other. -/
theorem contained_of_told (h : note.Enclosed)
    (hvalues : ∀ key value, values key = some value → Text.Unbroken value)
    (hid : Record.toldId values = some note.id) (hstorable : ∀ other ∈ before ++ after, other.Storable)
    (hdistinct : ((before ++ note :: after).map Note.id).Nodup) {reader : Store}
    (hfresh : reader.notes = ∅) (supply : Supply) :
    Contained (reader.read supply (textAround before (note.recordWith values) after)).1
      (before ++ after) note.id (note.recordWith values) := by
  have hnotes := read_around h hvalues hid
    (fun other hmem => hstorable other (List.mem_append_left _ hmem))
    (fun other hmem => hstorable other (List.mem_append_right _ hmem)) reader supply
  rw [hfresh] at hnotes
  generalize hlater : before.foldl (fun supply _ => supply.afterBlank) supply = later at hnotes
  -- what the damaged record gives in the text it gives on its own as well
  have halone : (({} : Store).read later (textAround [] (note.recordWith values) [])).1.notes =
      overlay ∅ (Note.ofRecord? (Note.blank later)
        (Text.join "\n" (note.scannedWith values))).toList := by
    simpa using @read_around note values [] [] h hvalues hid (by simp) (by simp) {} later
  have hread : ∀ read ∈ Note.ofRecord? (Note.blank later)
      (Text.join "\n" (note.scannedWith values)), read.id = note.id := by
    intro read hread
    refine @Loading.id_of_scanned note values hvalues note.id hid (Note.blank later) read
      ⟨(note.scannedWith values).reverse, none, none, true⟩ rfl ?_
    rw [Block.text, List.reverse_reverse]
    exact hread
  generalize Note.ofRecord? (Note.blank later) (Text.join "\n" (note.scannedWith values)) = told
    at hnotes halone hread
  have hids : ((before ++ told.toList ++ after).map Note.id).Nodup := by
    cases told with
    | none =>
        refine hdistinct.sublist (List.Sublist.map _ ?_)
        simp
    | some read => simpa [hread read rfl] using hdistinct
  have halone_ids : (told.toList.map Note.id).Nodup := by
    cases told <;> simp
  constructor
  · intro other hmem
    rw [get?, hnotes, get_overlay_empty hids]
    refine ⟨other, ?_, rfl, (hstorable other hmem).with_defaults⟩
    rcases List.mem_append.1 hmem with hmem | hmem <;> simp [hmem]
  · intro key found hfound
    rw [get?, hnotes, get_overlay_empty hids] at hfound
    obtain ⟨other, hmem, rfl, rfl⟩ := hfound
    by_cases hother : other ∈ before ++ after
    · rw [(hstorable other hother).with_defaults]
      exact .inl ⟨hother, rfl⟩
    · have htold : other ∈ told.toList := by
        simp only [List.mem_append, not_or] at hmem hother
        tauto
      have hid := hread other (by simpa using htold)
      refine .inr ⟨hid, later, ?_⟩
      rw [get?, halone, get_overlay_empty halone_ids]
      exact ⟨other, htold, hid, rfl⟩

/-! ## Records that do not tell their ids -/

/-- Only the last line of a record has the keyword that closes it, if no line of its body has. -/
theorem scanned_lines_open (hbody : ∀ line ∈ Text.linesBefore note.body,
    (Record.Entry.ofLine line).key ≠ Record.closing) :
    ∃ front, note.scannedLines = front ++ [Record.line Record.closing (Text.singleLine note.id)] ∧
      ∀ line ∈ front, (Record.Entry.ofLine line).key ≠ Record.closing := by
  have hline {word value : String} (hspace : ' ' ∉ word.toList) (hword : word ≠ Record.closing) :
      (Record.Entry.ofLine (Record.line word value)).key ≠ Record.closing := by
    rw [Record.Entry.of_line hspace]
    exact hword
  refine ⟨[Record.opening] ++
    Record.Key.all.map (fun key => Record.line key.word (key.write note)) ++
    [Record.line Record.bodyOpening (Text.singleLine note.delimiter)] ++
    Text.linesBefore note.body ++
    [Record.line Record.bodyClosing (Text.singleLine note.delimiter)], by simp [Note.scannedLines],
    fun line hmem => ?_⟩
  simp only [List.mem_append, List.mem_singleton, List.mem_map] at hmem
  rcases hmem with (((rfl | ⟨key, -, rfl⟩) | rfl) | hmem) | rfl
  · decide
  · exact hline (Record.Key.word_no_space key) (by cases key <;> decide)
  · exact hline (by decide) (by decide)
  · exact hbody line hmem
  · exact hline (by decide) (by decide)

/-- Whatever is found of a text that begins with the lines of a record up to its body has the
delimiter of the record. -/
theorem delimiter_of_found (h : note.Enclosed)
    (hvalues : ∀ key value, values key = some value → Text.Unbroken value) {blank found : Note}
    {rest : List String} {id : String}
    (hfound : (overlay ∅ (Note.ofRecord? blank (Text.join "\n"
      (note.scannedWith values ++ rest))).toList)[id]? = some found) :
    found.delimiter = note.delimiter := by
  have hhead : ∀ line ∈ [Record.opening] ++ Record.fieldLines Record.Key.all values ++
      [Record.line Record.bodyOpening note.delimiter], Text.Unbroken line := by
    intro line hmem
    simp only [List.mem_append, List.mem_singleton] at hmem
    have hdelimiter := Text.single_line_no_break note.delimiter
    rw [h.delimiter_line] at hdelimiter
    rcases hmem with (rfl | hmem) | rfl
    · decide
    · exact Note.field_lines_unbroken hvalues line hmem
    · exact Record.line_unbroken (by decide) (Text.unbroken_of_not_mem hdelimiter)
  obtain ⟨tail, htail, hlines⟩ : ∃ tail, tail ≠ [] ∧ note.scannedWith values ++ rest =
      [Record.opening] ++ Record.fieldLines Record.Key.all values ++
        [Record.line Record.bodyOpening note.delimiter] ++ tail :=
    ⟨Text.linesBefore note.body ++
      [Record.line Record.bodyClosing note.delimiter, Record.line Record.closing note.id] ++ rest,
      by simp, by simp [Note.scannedWith, h.delimiter_line, h.id_line]⟩
  cases hread : Note.ofRecord? blank (Text.join "\n" (note.scannedWith values ++ rest)) with
  | none => simp [hread, overlay] at hfound
  | some read =>
      rw [hread, get_overlay_empty (by simp)] at hfound
      obtain ⟨other, hmem, -, rfl⟩ := hfound
      obtain rfl : other = read := by simpa using hmem
      rw [hlines] at hread
      show other.delimiter = note.delimiter
      exact Note.delimiter_of_head h (Text.lines_join_front hhead htail) hread

/-- A record that does not tell its id takes the next one with it, if no line of its body could close
a record: whatever is found has the delimiter of the damaged record. -/
theorem next_taken (h : note.Enclosed)
    (hvalues : ∀ key value, values key = some value → Text.Unbroken value)
    (hid : Record.toldId values ≠ some note.id) {next : Note}
    (hbody : ∀ line ∈ Text.linesBefore next.body,
      (Record.Entry.ofLine line).key ≠ Record.closing)
    {reader : Store} (hfresh : reader.notes = ∅) (supply : Supply) {id : String} {found : Note}
    (hfound : (reader.read supply (textAround [] (note.recordWith values) [next])).1.get? id =
      some found) : found.delimiter = note.delimiter := by
  obtain ⟨front, hnext, hopen⟩ := scanned_lines_open hbody
  have hlines : Text.lines (textAround [] (note.recordWith values) [next]) =
      "" :: (note.scannedWith values ++ ((["", "", ""] ++ front) ++
        Record.line Record.closing (Text.singleLine next.id) :: ["", ""])) := by
    rw [lines_text_around hvalues]
    simp [hnext]
  have hkept : ∀ line ∈ ["", "", ""] ++ front,
      (Record.Entry.ofLine line).key ≠ Record.closing := by
    intro line hmem
    rcases List.mem_append.1 hmem with hmem | hmem
    · obtain rfl : line = "" := by simpa using hmem
      decide
    · exact hopen line hmem
  unfold read get? at hfound
  rw [hlines, List.foldl_cons, Loading.step_empty _ rfl, List.foldl_append,
    Loading.foldl_left_open h hid _ rfl] at hfound
  rcases Loading.foldl_after_body _ (Record.line Record.closing (Text.singleLine next.id)) hkept
    ⟨reader, supply, some ⟨(note.scannedWith values).reverse, Record.toldId values, none, true⟩, []⟩
    _ rfl rfl rfl with hnotes | hnotes
  · rw [hnotes, hfresh] at hfound
    simp at hfound
  · rw [hnotes, hfresh, List.reverse_reverse] at hfound
    exact delimiter_of_found h hvalues hfound

/-- There is a note with another id and another delimiter whose body closes no record. -/
theorem exists_next (id delimiter : String) : ∃ next : Note, next.Storable ∧ next.id ≠ id ∧
    next.delimiter ≠ delimiter ∧ ∀ line ∈ Text.linesBefore next.body,
      (Record.Entry.ofLine line).key ≠ Record.closing := by
  have hsample : ∀ id ∈ ["i", "j"], ∀ delimiter ∈ ["d", "e"],
      ({ short with id := id, delimiter := delimiter, body := "" } : Note).Storable := by
    decide +kernel
  have hother (text first second : String) (hne : first ≠ second) :
      ∃ other ∈ [first, second], other ≠ text := by
    by_cases hfirst : first = text
    · exact ⟨second, by simp, fun heq => hne (hfirst.trans heq.symm)⟩
    · exact ⟨first, by simp, hfirst⟩
  have hempty : ∀ line ∈ Text.linesBefore "", (Record.Entry.ofLine line).key ≠ Record.closing := by
    decide
  obtain ⟨otherId, hid, hidne⟩ := hother id "i" "j" (by decide)
  obtain ⟨other, hdelimiter, hne⟩ := hother delimiter "d" "e" (by decide)
  exact ⟨{ short with id := otherId, delimiter := other, body := "" },
    hsample _ hid _ hdelimiter, hidne, hne, hempty⟩

/-- A damaged record harms no other, wherever it stands, exactly if it tells its own id. -/
theorem damage_contained_iff (h : note.Enclosed)
    (hvalues : ∀ key value, values key = some value → Text.Unbroken value) :
    (∀ (before after : List Note) (reader : Store) (supply : Supply),
      (∀ other ∈ before ++ after, other.Storable) → ((before ++ note :: after).map Note.id).Nodup →
      reader.notes = ∅ →
        Contained (reader.read supply (textAround before (note.recordWith values) after)).1
          (before ++ after) note.id (note.recordWith values)) ↔
      Record.toldId values = some note.id := by
  constructor
  · intro hcontained
    by_contra hid
    obtain ⟨next, hstorable, hne, hdelimiter, hbody⟩ := exists_next note.id note.delimiter
    have hfound := (hcontained [] [next] {} .tally (by simpa using hstorable)
      (by simpa using hne.symm) rfl).kept next (by simp)
    exact hdelimiter (next_taken h hvalues hid hbody rfl .tally hfound)
  · exact fun hid before after reader supply hstorable hdistinct hfresh =>
      contained_of_told h hvalues hid hstorable hdistinct hfresh supply

/-- A note for an example, whose record is damaged. -/
def torn : Note :=
  { short with id := "ii", name := "torn", body := "TASK-END i" }

/-- A note for an example, whose record follows the damaged one. -/
def following : Note :=
  { short with id := "iii", name := "following", body := "", delimiter := "e" }

/-- A damage for an example: no folder is left, and no number as the version. -/
def withoutVersion (key : Record.Key) : Option String :=
  if key = .folder then none else if key = .version then some "x" else Record.written torn key

/-- A damage for an example: no id is left. -/
def withoutId (key : Record.Key) : Option String :=
  if key = .id then none else Record.written torn key

/-- A record without a version harms no other. -/
theorem damage_contained_without_version :
    torn.Enclosed ∧
      (∀ key value, withoutVersion key = some value → Text.Unbroken value) ∧
      Record.toldId withoutVersion = some torn.id ∧
      Contained (({} : Store).read .tally
        (textAround [short] (torn.recordWith withoutVersion) [following])).1
        ([short] ++ [following]) torn.id (torn.recordWith withoutVersion) := by
  have henclosed : torn.Enclosed := by decide +kernel
  have hvalues : ∀ key value, withoutVersion key = some value → Text.Unbroken value := by
    intro key value hvalue
    unfold withoutVersion at hvalue
    split at hvalue
    · cases hvalue
    · split at hvalue
      · obtain rfl := Option.some.inj hvalue
        decide
      · exact torn.written_unbroken key value hvalue
  have hid : Record.toldId withoutVersion = some torn.id := by decide +kernel
  exact ⟨henclosed, hvalues, hid, (damage_contained_iff henclosed hvalues).2 hid [short] [following]
    {} .tally (by decide +kernel) (by decide) rfl⟩

/-- A record that has lost its id takes the next note with it. -/
theorem missing_id_takes_next :
    torn.Storable ∧ (∀ other ∈ [] ++ [following], other.Storable) ∧
      (([] ++ torn :: [following]).map Note.id).Nodup ∧
      (∀ key value, withoutId key = some value → Text.Unbroken value) ∧
      ¬ Contained (({} : Store).read .tally
        (textAround [] (torn.recordWith withoutId) [following])).1
        ([] ++ [following]) torn.id (torn.recordWith withoutId) := by
  have hstorable : torn.Storable := by decide +kernel
  have hvalues : ∀ key value, withoutId key = some value → Text.Unbroken value := by
    intro key value hvalue
    unfold withoutId at hvalue
    split at hvalue
    · cases hvalue
    · exact torn.written_unbroken key value hvalue
  refine ⟨hstorable, by decide +kernel, by decide, hvalues, fun hcontained => ?_⟩
  have hid : Record.toldId withoutId ≠ some torn.id := by decide
  have hfound := hcontained.kept following (by simp)
  have hdelimiter := next_taken hstorable.enclosed hvalues hid
    (by decide : ∀ line ∈ Text.linesBefore following.body,
      (Record.Entry.ofLine line).key ≠ Record.closing) rfl .tally hfound
  exact absurd hdelimiter (by decide)

end Store

end Notekeeper
