import Notekeeper.Proofs.Note.Storable

/-!
# Reading a record

`of_record_lines` says that a storable note is read back from the lines of its record. The lines are
read in three stretches: `run_keys` takes the fields from theirs, `run_body` collects the body, and
the closing line changes nothing. What stood in the blank note at first is replaced throughout.
-/

namespace Notekeeper

/-- The lines of the record of a note, from the opening to the closing one. -/
def Note.fileLines (note : Note) : List String :=
  [Record.opening] ++
    Record.Key.all.map (fun key => Record.line key.word (key.write note)) ++
    [Record.line Record.bodyOpening note.delimiter] ++ Text.splitAt '\n' note.body ++
    [Record.line Record.bodyClosing note.delimiter, Record.line Record.closing note.id]

namespace Record

/-- The value of a key is taken over from a note to another. -/
def Key.copy (key : Key) (source target : Note) : Note :=
  match key with
  | id => { target with id := source.id }
  | name => { target with name := source.name }
  | folder => { target with folder := source.folder }
  | version => { target with version := source.version }
  | exportVersion => { target with exportVersion := source.exportVersion }
  | created => { target with created := source.created }
  | changed => { target with changed := source.changed }
  | due => { target with due := source.due }
  | dismissed => { target with reminderDismissed := source.reminderDismissed }
  | format => { target with format := source.format }
  | shareToken => { target with shareToken := source.shareToken }
  | tags => { target with tags := source.tags }

/-- The word of a key has no space. -/
theorem Key.word_no_space (key : Key) : ' ' ∉ key.word.toList := by
  cases key <;> decide

/-- A key is known from its word. -/
theorem Key.of_word (key : Key) : Key.ofWord? key.word = some key := by
  cases key <;> decide

/-- The lines of some keys with the values that are given for them; a key without a value has no
line. -/
def fieldLines (keys : List Key) (values : Key → Option String) : List String :=
  keys.filterMap fun key => (values key).map (line key.word)

/-- The id that values of keys tell: the first word of the value of its key, unless it is empty. -/
def toldId (values : Key → Option String) : Option String :=
  ((values .id).map fun value => (Text.firstWord value).1).filter fun word => !word.isEmpty

/-- The values that a record gives its keys. -/
def written (note : Note) (key : Key) : Option String :=
  some (key.write note)

/-- The lines of the keys of the record of a note. -/
theorem field_lines_written (note : Note) (keys : List Key) :
    fieldLines keys (written note) = keys.map fun key => line key.word (key.write note) := by
  simp [fieldLines, written]

/-- A numeral has no space. -/
theorem write_no_space (number : Int) : ' ' ∉ (Decimal.write number).toList := by
  have hdigits : ' ' ∉ Decimal.digits number.natAbs := fun h =>
    absurd (Decimal.is_digit_of_mem_digits h) (by decide)
  unfold Decimal.write
  split <;> simp [hdigits]

/-- A numeral has no line break. -/
theorem write_no_break (number : Int) :
    '\n' ∉ (Decimal.write number).toList ∧ '\r' ∉ (Decimal.write number).toList := by
  have hfeed : '\n' ∉ Decimal.digits number.natAbs := fun h =>
    absurd (Decimal.is_digit_of_mem_digits h) (by decide)
  have hreturn : '\r' ∉ Decimal.digits number.natAbs := fun h =>
    absurd (Decimal.is_digit_of_mem_digits h) (by decide)
  unfold Decimal.write
  split <;> simp [hfeed, hreturn]

/-- The value of a key has no line break. -/
theorem Key.write_no_break (key : Key) (note : Note) :
    '\n' ∉ (key.write note).toList ∧ '\r' ∉ (key.write note).toList := by
  cases key with
  | version | exportVersion => exact Record.write_no_break _
  | dismissed =>
      simp only [Key.write]
      split <;> decide
  | format => cases hformat : note.format <;> simp [Key.write, hformat, BodyFormat.word]
  | _ => exact Text.single_line_no_break _

/-- A line of a word and a value without line breaks has no line break. -/
theorem line_no_break {word value : String} (hword : '\n' ∉ word.toList ∧ '\r' ∉ word.toList)
    (hvalue : '\n' ∉ value.toList ∧ '\r' ∉ value.toList) :
    '\n' ∉ (line word value).toList ∧ '\r' ∉ (line word value).toList := by
  simp [line_toList, hword, hvalue]

/-- A line of a word and a value stays on one line if the value does. -/
theorem line_unbroken {word value : String} (hword : '\n' ∉ word.toList)
    (hvalue : Text.Unbroken value) : Text.Unbroken (line word value) := by
  obtain ⟨hfeed, hreturn⟩ := hvalue
  refine ⟨by simp [line_toList, hword, hfeed], ?_⟩
  rw [line_toList, List.getLast?_append]
  cases hlast : value.toList.getLast? with
  | none => simp [List.getLast?_cons, hlast]
  | some char =>
      rw [hlast] at hreturn
      simpa [List.getLast?_cons, hlast] using hreturn

end Record

section

variable {note : Note}

/-- A name that is not empty needs no default. -/
theorem Note.Storable.name_or_default (h : note.Storable) : note.nameOrDefault = note.name := by
  simp [Note.nameOrDefault, h.name_ne]

/-- A folder that is not empty needs no default. -/
theorem Note.Storable.folder_or_default (h : note.Storable) :
    note.folderOrDefault = note.folder := by
  simp [Note.folderOrDefault, h.folder_ne]

/-- A storable note has no default to be given. -/
theorem Note.Storable.with_defaults (h : note.Storable) : note.withDefaults = note := by
  simp [Note.withDefaults, h.name_or_default, h.folder_or_default]

/-- The id of a storable note is on a single line. -/
theorem Note.Storable.id_line (h : note.Storable) : Text.singleLine note.id = note.id :=
  h.lines _ (by simp)

/-- The delimiter of a storable note is on a single line. -/
theorem Note.Storable.delimiter_line (h : note.Storable) :
    Text.singleLine note.delimiter = note.delimiter :=
  h.lines _ (by simp)

end

namespace Record

variable {note : Note}

/-- The value on the line of a key is that of the note. -/
theorem Key.read_write (h : note.Storable) (key : Key) (target : Note) :
    key.read? (Entry.ofLine (line key.word (key.write note))) target =
      some (key.copy note target) := by
  have hline : ∀ text ∈ [note.id, note.name, note.folder, note.created, note.changed, note.due,
      note.shareToken, note.delimiter], Text.singleLine text = text := h.lines
  simp only [List.mem_cons, List.not_mem_nil, or_false, forall_eq_or_imp, forall_eq] at hline
  obtain ⟨hid, hname, hfolder, hcreated, hchanged, hdue, htoken, -⟩ := hline
  have hspace := Key.word_no_space key
  cases key with
  | id =>
      simp [Key.read?, Key.write, Key.copy, hid, Entry.word_of_line hspace h.id_word]
  | name => simp [Key.read?, Key.write, Key.copy, Entry.of_line hspace, h.name_or_default, hname]
  | folder =>
      simp [Key.read?, Key.write, Key.copy, Entry.of_line hspace, h.folder_or_default, hfolder]
  | version =>
      simp [Key.read?, Key.write, Key.copy, Entry.word_of_line hspace (write_no_space _),
        Decimal.read_write h.version_range]
  | exportVersion =>
      simp [Key.read?, Key.write, Key.copy, Entry.word_of_line hspace (write_no_space _),
        Decimal.read_write h.export_version_range]
  | created => simp [Key.read?, Key.write, Key.copy, Entry.of_line hspace, hcreated]
  | changed => simp [Key.read?, Key.write, Key.copy, Entry.of_line hspace, hchanged]
  | due => simp [Key.read?, Key.write, Key.copy, Entry.of_line hspace, hdue]
  | dismissed =>
      cases hdismissed : note.reminderDismissed with
      | false =>
          have hword := @Entry.word_of_line _ "False" hspace (by decide)
          simp [Key.read?, Key.write, Key.copy, hdismissed, hword]
      | true =>
          have hword := @Entry.word_of_line _ "True" hspace (by decide)
          simp [Key.read?, Key.write, Key.copy, hdismissed, hword]
  | format =>
      have hformat (format : BodyFormat) : ' ' ∉ format.word.toList ∧
          BodyFormat.ofWord? format.word = some format := by
        cases format <;> decide
      simp [Key.read?, Key.write, Key.copy, Entry.word_of_line hspace (hformat note.format).1,
        (hformat note.format).2]
  | shareToken =>
      simp [Key.read?, Key.write, Key.copy, htoken, Entry.word_of_line hspace h.token_word]
  | tags =>
      simp [Key.read?, Key.write, Key.copy, Entry.of_line hspace, single_line_write_tags h.tags,
        read_write_tags h.tags]

/-- A line with a key that has not been met yet gives the note the value of the key. -/
theorem Reader.step_key (h : note.Storable) (reader : Reader) (key : Key)
    (hbody : reader.body = .awaited) (hseen : key ∉ reader.seen) :
    reader.step? (line key.word (key.write note)) =
      some { reader with note := key.copy note reader.note, seen := key :: reader.seen } := by
  have hword : key = .id → (Entry.ofLine (line key.word (key.write note))).word ≠ "" := by
    rintro rfl
    have heq : Key.write .id note = note.id := h.id_line
    rw [heq, Entry.word_of_line (Key.word_no_space _) h.id_word]
    exact h.id_ne
  have hkey : (Entry.ofLine (line key.word (key.write note))).key = key.word := by
    rw [Entry.of_line (Key.word_no_space key)]
  have hskip : ¬(key ∈ reader.seen ∨
      key = .id ∧ (Entry.ofLine (line key.word (key.write note))).word.isEmpty = true) := by
    rintro (hmem | ⟨hid, hempty⟩)
    · exact hseen hmem
    · exact hword hid (by simpa using hempty)
  simp only [Reader.step?, hbody, Reader.field?, hkey, Key.of_word, if_neg hskip,
    Key.read_write h, Option.map_some]

/-- Lines with different keys give the note the values of all of them. -/
theorem Reader.run_keys (h : note.Storable) (keys : List Key) (hkeys : keys.Nodup)
    (reader : Reader) (hbody : reader.body = .awaited)
    (hseen : ∀ key ∈ keys, key ∉ reader.seen) :
    reader.run? (keys.map fun key => line key.word (key.write note)) =
      some
        { reader with
          note := keys.foldl (fun target key => key.copy note target) reader.note
          seen := keys.reverse ++ reader.seen } := by
  induction keys generalizing reader with
  | nil => rfl
  | cons key keys ih =>
      obtain ⟨hkey, hkeys⟩ := List.nodup_cons.1 hkeys
      have hstep := reader.step_key h key hbody (hseen key (by simp))
      have hrest := ih hkeys
        { reader with note := key.copy note reader.note, seen := key :: reader.seen } hbody
        (by
          intro other hmem
          simp only [List.mem_cons, not_or]
          exact ⟨fun heq => hkey (heq ▸ hmem), hseen other (by simp [hmem])⟩)
      unfold Reader.run? at hrest ⊢
      simp only [List.map_cons, List.foldlM_cons, hstep]
      simpa using hrest

/-- Lines of a body are collected. -/
theorem Reader.run_body (lines : List String) (reader : Reader) (collected : List String)
    (hbody : reader.body = .open collected)
    (hframe : ∀ text ∈ lines, (Entry.ofLine text).closesBody reader.note.delimiter = false) :
    reader.run? lines = some { reader with body := .open (lines.reverse ++ collected) } := by
  induction lines generalizing reader collected with
  | nil => simp [Reader.run?, ← hbody]
  | cons text lines ih =>
      have hstep : reader.step? text = some { reader with body := .open (text :: collected) } := by
        simp [Reader.step?, hbody, hframe text]
      have hrest := ih { reader with body := .open (text :: collected) } (text :: collected) rfl
        fun other hmem => hframe other (by simp [hmem])
      unfold Reader.run? at hrest ⊢
      simp only [List.foldlM_cons, hstep]
      simpa using hrest

/-- Lines are read in stretches. -/
theorem Reader.run_append (reader : Reader) (front rest : List String) :
    reader.run? (front ++ rest) = (reader.run? front).bind fun reader => reader.run? rest := by
  simp [Reader.run?, List.foldlM_append]

/-- No line of the body of a storable note ends it. -/
theorem frame_of_storable (h : note.Storable) :
    ∀ text ∈ Text.splitAt '\n' note.body,
      (Entry.ofLine text).closesBody note.delimiter = false := by
  intro text hmem
  have hwords := h.body_frame text hmem
  cases hcloses : (Entry.ofLine text).closesBody note.delimiter with
  | false => rfl
  | true => exact absurd (Entry.closes_body_iff.1 hcloses) hwords

/-- The line that ends the body of a storable note does so. -/
theorem closes_body_of_storable (h : note.Storable) :
    (Entry.ofLine (line bodyClosing note.delimiter)).closesBody note.delimiter = true := by
  rw [Entry.of_line (by decide)]
  simp [Entry.closesBody, first_word_of_not_mem h.delimiter_word]

/-- All lines of the record of a storable note are read, and the note is complete. -/
theorem Reader.run_file_lines (h : note.Storable) (blank : Note) :
    (Reader.mk blank [] .awaited).run? note.fileLines =
      some ⟨note, Key.all.reverse, .closed⟩ := by
  have hopening : (Reader.mk blank [] .awaited).run? [opening] =
      some (Reader.mk blank [] .awaited) := rfl
  have hkeys := (Reader.mk blank [] .awaited).run_keys h Key.all (by decide) rfl (by simp)
  have hcopied : Key.all.foldl (fun target key => key.copy note target) blank =
      { note with body := blank.body, delimiter := blank.delimiter } := by
    simp [Key.all, Key.copy]
  have hdelimiter : (Entry.ofLine (line bodyOpening note.delimiter)).word = note.delimiter :=
    Entry.word_of_line (by decide) h.delimiter_word
  have hbegin : (Reader.mk { note with body := blank.body, delimiter := blank.delimiter }
      (Key.all.reverse ++ []) .awaited).run? [line bodyOpening note.delimiter] =
      some ⟨{ note with body := blank.body }, Key.all.reverse, .open []⟩ := by
    have hkey : (Entry.ofLine (line bodyOpening note.delimiter)).key = bodyOpening := by
      rw [Entry.of_line (by decide)]
    have hword : Key.ofWord? bodyOpening = none := by decide
    simp [Reader.run?, Reader.step?, Reader.field?, hkey, hword, hdelimiter]
  have hbody := Reader.run_body (Text.splitAt '\n' note.body)
    ⟨{ note with body := blank.body }, Key.all.reverse, .open []⟩ [] rfl (frame_of_storable h)
  have hjoin : Text.join "\n" (Text.splitAt '\n' note.body) = note.body :=
    Text.join_split_at '\n' note.body
  have hclosing : Key.ofWord? (Entry.ofLine (line closing note.id)).key = none := by
    rw [Entry.of_line (by decide)]
    exact (by decide : Key.ofWord? closing = none)
  have hopens : (Entry.ofLine (line closing note.id)).key ≠ bodyOpening := by
    rw [Entry.of_line (by decide)]
    exact (by decide : closing ≠ bodyOpening)
  have hend : (Reader.mk { note with body := blank.body } Key.all.reverse
      (.open ((Text.splitAt '\n' note.body).reverse ++ []))).run?
        [line bodyClosing note.delimiter, line closing note.id] =
      some ⟨note, Key.all.reverse, .closed⟩ := by
    simp [Reader.run?, Reader.step?, closes_body_of_storable h, hjoin, Reader.field?, hclosing,
      hopens]
  unfold Note.fileLines
  simp only [Reader.run_append, hopening, hkeys, hcopied, hbegin, hbody, Option.bind_some, hend]

end Record

namespace Note

variable {note : Note}

/-- No line of the record of a storable note has a line feed or ends in a carriage return. -/
theorem Storable.file_lines_single (h : note.Storable) :
    ∀ text ∈ note.fileLines, '\n' ∉ text.toList ∧ Text.dropReturn text.toList = text.toList := by
  have hwhole {text : String} (hbreak : '\n' ∉ text.toList ∧ '\r' ∉ text.toList) :
      '\n' ∉ text.toList ∧ Text.dropReturn text.toList = text.toList :=
    ⟨hbreak.1, Text.drop_return_of_not_mem hbreak.2⟩
  have hid := Text.single_line_no_break note.id
  have hdelimiter := Text.single_line_no_break note.delimiter
  rw [h.id_line] at hid
  rw [h.delimiter_line] at hdelimiter
  intro text hmem
  simp only [fileLines, List.mem_append, List.mem_cons, List.not_mem_nil, or_false,
    List.mem_map] at hmem
  rcases hmem with (((rfl | ⟨key, -, rfl⟩) | rfl) | hbody) | rfl | rfl
  · exact hwhole (by decide)
  · exact hwhole (Record.line_no_break (by cases key <;> decide) (key.write_no_break note))
  · exact hwhole (Record.line_no_break (by decide) hdelimiter)
  · refine ⟨?_, if_neg (h.body_return text hbody)⟩
    obtain ⟨piece, hpiece, rfl⟩ := List.mem_map.1 hbody
    simpa using Text.not_mem_of_mem_split hpiece
  · exact hwhole (Record.line_no_break (by decide) hdelimiter)
  · exact hwhole (Record.line_no_break (by decide) hid)

/-- The lines of a record, joined and read as lines again. -/
theorem Storable.lines_join_file_lines (h : note.Storable) :
    Text.lines (Text.join "\n" note.fileLines) = note.fileLines := by
  have hsplit : note.fileLines =
      ([Record.opening] ++
        Record.Key.all.map (fun key => Record.line key.word (key.write note)) ++
        [Record.line Record.bodyOpening note.delimiter] ++ Text.splitAt '\n' note.body ++
        [Record.line Record.bodyClosing note.delimiter]) ++ [Record.line Record.closing note.id] := by
    simp [fileLines]
  have hsingle := h.file_lines_single
  rw [hsplit] at hsingle ⊢
  apply Text.lines_join
  · exact fun part hmem => (hsingle part (List.mem_append_left _ hmem)).1
  · exact fun part hmem => (hsingle part (List.mem_append_left _ hmem)).2
  · exact (hsingle _ (by simp)).1
  · intro hempty
    have := congrArg String.toList hempty
    simp [Record.line, Record.closing] at this

/-- A storable note is read back from the lines of its record, whatever the blank note is. -/
theorem of_record_lines (h : note.Storable) (blank : Note) :
    ofRecord? blank (Text.join "\n" note.fileLines) = some note := by
  have hseen : Record.Key.id ∈ Record.Key.all.reverse ∧
      Record.Key.name ∈ Record.Key.all.reverse := by decide
  simp [ofRecord?, h.lines_join_file_lines, Record.Reader.run_file_lines h,
    Record.Reader.finish?, hseen]

/-- The lines of the record of any note, from the opening to the closing one, as they are read. -/
def scannedLines (note : Note) : List String :=
  [Record.opening] ++
    Record.Key.all.map (fun key => Record.line key.word (key.write note)) ++
    [Record.line Record.bodyOpening (Text.singleLine note.delimiter)] ++
    Text.linesBefore note.body ++
    [Record.line Record.bodyClosing (Text.singleLine note.delimiter),
      Record.line Record.closing (Text.singleLine note.id)]

/-- The lines of the record of a note with other values on the lines of its keys. -/
def recordLinesWith (note : Note) (values : Record.Key → Option String) : List String :=
  ["", Record.opening] ++ Record.fieldLines Record.Key.all values ++
    [Record.line Record.bodyOpening (Text.singleLine note.delimiter), note.body,
      Record.line Record.bodyClosing (Text.singleLine note.delimiter),
      Record.line Record.closing (Text.singleLine note.id), ""]

/-- The lines of the record of a note with other values on the lines of its keys, from the opening to
the closing one, as they are read. -/
def scannedWith (note : Note) (values : Record.Key → Option String) : List String :=
  [Record.opening] ++ Record.fieldLines Record.Key.all values ++
    [Record.line Record.bodyOpening (Text.singleLine note.delimiter)] ++
    Text.linesBefore note.body ++
    [Record.line Record.bodyClosing (Text.singleLine note.delimiter),
      Record.line Record.closing (Text.singleLine note.id)]

/-- The record of a note with other values on the lines of its keys, or without some of the lines. -/
def recordWith (note : Note) (values : Record.Key → Option String) : String :=
  Text.join "\n" (note.recordLinesWith values)

/-- With its own values on the lines of its keys a record is that of the note. -/
theorem record_with_written (note : Note) :
    note.recordWith (Record.written note) = note.record := by
  rw [recordWith, recordLinesWith, record, recordLines, Record.field_lines_written]

/-- With its own values on the lines of its keys a record is read as that of the note. -/
theorem scanned_with_written (note : Note) :
    note.scannedWith (Record.written note) = note.scannedLines := by
  rw [scannedWith, scannedLines, Record.field_lines_written]

/-- The lines of keys stay on one line each if their values do. -/
theorem field_lines_unbroken {values : Record.Key → Option String}
    (hvalues : ∀ key value, values key = some value → Text.Unbroken value) :
    ∀ line ∈ Record.fieldLines Record.Key.all values, Text.Unbroken line := by
  intro line hmem
  obtain ⟨key, -, hkey⟩ := List.mem_filterMap.1 hmem
  obtain ⟨value, hvalue, rfl⟩ := Option.map_eq_some_iff.1 hkey
  exact Record.line_unbroken (by cases key <;> decide) (hvalues key value hvalue)

/-- The values of the keys of a note stay on their lines. -/
theorem written_unbroken (note : Note) :
    ∀ key value, Record.written note key = some value → Text.Unbroken value := by
  intro key value hvalue
  obtain rfl := Option.some.inj hvalue
  exact Text.unbroken_of_not_mem (key.write_no_break note)

/-- What is read of a record in front of a line feed, if the values of its keys stay on their lines:
an empty line, the lines of the record, and another empty line. -/
theorem lines_before_with (note : Note) {values : Record.Key → Option String}
    (hvalues : ∀ key value, values key = some value → Text.Unbroken value) :
    (note.recordLinesWith values).flatMap Text.linesBefore =
      [""] ++ note.scannedWith values ++ [""] := by
  have hline {word : String} (hword : '\n' ∉ word.toList) (value : String) :
      Text.linesBefore (Record.line word (Text.singleLine value)) =
        [Record.line word (Text.singleLine value)] :=
    Text.lines_before_unbroken (Record.line_unbroken hword
      (Text.unbroken_of_not_mem (Text.single_line_no_break value)))
  have hfields := field_lines_unbroken hvalues
  have hkeys : (Record.fieldLines Record.Key.all values).flatMap Text.linesBefore =
      Record.fieldLines Record.Key.all values :=
    Text.lines_before_singles (fun line hmem => (hfields line hmem).1)
      fun line hmem => if_neg (hfields line hmem).2
  have hopening : Text.linesBefore Record.opening = [Record.opening] :=
    Text.lines_before_unbroken (by decide)
  have hempty : Text.linesBefore "" = [""] := rfl
  simp only [recordLinesWith, scannedWith, List.flatMap_append, List.flatMap_cons, List.flatMap_nil,
    hkeys, hempty, hopening, hline (show '\n' ∉ Record.bodyOpening.toList by decide),
    hline (show '\n' ∉ Record.bodyClosing.toList by decide),
    hline (show '\n' ∉ Record.closing.toList by decide)]
  simp

/-- What is read of a record in front of a line feed: an empty line, the lines of the record, and
another empty line. -/
theorem lines_before_record (note : Note) :
    note.recordLines.flatMap Text.linesBefore = [""] ++ note.scannedLines ++ [""] := by
  have hlines := note.lines_before_with note.written_unbroken
  rw [recordLinesWith, Record.field_lines_written, scanned_with_written] at hlines
  exact hlines

/-- The lines of the body of a storable note are read as they stand in it. -/
theorem Storable.lines_before_body (h : note.Storable) :
    Text.linesBefore note.body = Text.splitAt '\n' note.body := by
  apply List.map_congr_left
  intro piece hpiece
  have hreturn := h.body_return (String.ofList piece) (List.mem_map_of_mem hpiece)
  rw [Text.dropReturn, if_neg (by simpa using hreturn)]

/-- The lines of the record of a storable note are read as they stand in it. -/
theorem Storable.scanned_lines (h : note.Storable) : note.scannedLines = note.fileLines := by
  rw [scannedLines, fileLines, h.lines_before_body, h.delimiter_line, h.id_line]

/-- What keeps a note apart from others in a file, whatever becomes of its values: its id and its
delimiter are words, and no line of its body ends it. -/
structure Enclosed (note : Note) : Prop where
  id_ne : note.id ≠ ""
  id_word : ' ' ∉ note.id.toList
  id_line : Text.singleLine note.id = note.id
  delimiter_word : ' ' ∉ note.delimiter.toList
  delimiter_line : Text.singleLine note.delimiter = note.delimiter
  frame : ∀ line ∈ Text.linesBefore note.body,
    (Record.Entry.ofLine line).closesBody note.delimiter = false

/-- Whether a note is enclosed is decided by looking at its fields. -/
instance (note : Note) : Decidable note.Enclosed :=
  decidable_of_iff
    (note.id ≠ "" ∧ ' ' ∉ note.id.toList ∧ Text.singleLine note.id = note.id ∧
      ' ' ∉ note.delimiter.toList ∧ Text.singleLine note.delimiter = note.delimiter ∧
      ∀ line ∈ Text.linesBefore note.body,
        (Record.Entry.ofLine line).closesBody note.delimiter = false)
    ⟨fun ⟨h1, h2, h3, h4, h5, h6⟩ => ⟨h1, h2, h3, h4, h5, h6⟩,
      fun ⟨h1, h2, h3, h4, h5, h6⟩ => ⟨h1, h2, h3, h4, h5, h6⟩⟩

/-- A storable note is enclosed. -/
theorem Storable.enclosed (h : note.Storable) : note.Enclosed :=
  ⟨h.id_ne, h.id_word, h.id_line, h.delimiter_word, h.delimiter_line, by
    rw [h.lines_before_body]
    exact Record.frame_of_storable h⟩

end Note

end Notekeeper
