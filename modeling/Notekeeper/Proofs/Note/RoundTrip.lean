import Notekeeper.Proofs.Note.Reader
import Notekeeper.Proofs.Supply
import Notekeeper.Proofs.Text.Pieces

/-!
# The round trip of a record

`Note.of_record_iff` says which notes are read back from their records: exactly the storable ones.
That nothing else comes back is shown by following the reader through the record of any note. Each
key gives the note that is read what its line tells (`Reader.run_told`), and a body that ends its own
frame, or has a line that ends in a carriage return, comes back as another body (`Reader.run_frame`).
-/

namespace Notekeeper

namespace Record

/-! ## What single lines tell -/

/-- A text that is the first word of its single line is on a single line and has no space. -/
theorem single_line_of_first_word {text : String}
    (h : (Text.firstWord (Text.singleLine text)).1 = text) :
    Text.singleLine text = text ∧ ' ' ∉ text.toList := by
  obtain ⟨hspace, hbegins⟩ := Text.first_word_begins (Text.singleLine text)
  rw [h] at hspace hbegins
  have hshort := (Text.single_line_sublist text).length_le
  exact ⟨(String.toList_injective (hbegins.eq_of_length_le hshort)).symm, hspace⟩

/-- Tags that were read are words between commas, trimmed. -/
theorem mem_read_tags {text tag : String} (h : tag ∈ readTags text) :
    tag ≠ "" ∧ Text.trim tag.toList = tag.toList ∧ ',' ∉ tag.toList ∧
      ∀ char ∈ tag.toList, char ∈ text.toList := by
  have hmem : tag ∈ ((Text.splitAt ',' text).map Text.trimmed).filter fun tag => !tag.isEmpty := by
    simpa [readTags, Std.ExtTreeSet.mem_ofList] using h
  obtain ⟨hmem, hne⟩ := List.mem_filter.1 hmem
  obtain ⟨part, hpart, rfl⟩ := List.mem_map.1 hmem
  obtain ⟨piece, hpiece, rfl⟩ := List.mem_map.1 hpart
  have hin : ∀ char ∈ (Text.trimmed (String.ofList piece)).toList, char ∈ piece := by
    intro char hchar
    simp only [Text.trimmed, String.toList_ofList] at hchar
    exact (List.dropWhile_suffix Text.isBlank).subset
      (List.mem_reverse.1 ((List.dropWhile_suffix Text.isBlank).subset (List.mem_reverse.1 hchar)))
  obtain ⟨front, rest, heq, -⟩ := Text.exists_append_of_mem_split hpiece
  refine ⟨by simpa using hne, by simpa [Text.trimmed] using Text.trim_trim piece, ?_, ?_⟩
  · exact fun hcomma => Text.not_mem_of_mem_split hpiece (hin _ hcomma)
  · intro char hchar
    rw [heq]
    simp [hin char hchar]

/-- A number that was read is in the range of a clock. -/
theorem in_range_of_read {text : String} {number : Int} (h : Decimal.read? text = some number) :
    Decimal.InRange number := by
  have hrange {value : Int} (hvalue : Decimal.inRange? value = some number) :
      Decimal.InRange number := by
    unfold Decimal.inRange? at hvalue
    split at hvalue
    next hbounds =>
      obtain rfl := Option.some.inj hvalue
      simpa [Decimal.InRange] using hbounds
    next => cases hvalue
  unfold Decimal.read? at h
  split at h <;> (obtain ⟨value, -, hvalue⟩ := Option.bind_eq_some_iff.1 h; exact hrange hvalue)

/-! ## Keys -/

variable {note : Note}

/-- A key that is taken over leaves the values of the others. -/
theorem Key.copy_copy_of_ne {key other : Key} (hne : other ≠ key) (source target into : Note) :
    other.copy (key.copy source target) into = other.copy target into := by
  cases key <;> cases other <;> first | rfl | exact absurd rfl hne

/-- No key gives the body of a note or its delimiter. -/
theorem Key.copy_of_body (key : Key) (source : Note) (delimiter body : String) (target : Note) :
    key.copy { source with delimiter := delimiter, body := body } target =
      key.copy source target := by
  cases key <;> rfl

/-- The line of a key gives any note the same value, and no other value. -/
theorem Key.copy_of_read {key : Key} {target read : Note}
    (h : key.read? (Entry.ofLine (line key.word (key.write note))) target = some read) :
    read = key.copy read target ∧
      ∀ other, key.read? (Entry.ofLine (line key.word (key.write note))) other =
        some (key.copy read other) := by
  cases key with
  | version | exportVersion =>
      simp only [Key.read?, Option.map_eq_some_iff] at h ⊢
      obtain ⟨number, hnumber, rfl⟩ := h
      exact ⟨rfl, fun other => by simp [Key.copy, hnumber]⟩
  | format =>
      have hformat (format : BodyFormat) : ' ' ∉ format.word.toList ∧
          BodyFormat.ofWord? format.word = some format := by
        cases format <;> decide
      have hword := Entry.word_of_line (Key.word_no_space .format) (hformat note.format).1
      simp only [Key.read?, Key.write, hword, (hformat note.format).2, Option.getD_some] at h ⊢
      obtain rfl := Option.some.inj h
      exact ⟨rfl, fun other => rfl⟩
  | _ =>
      simp only [Key.read?, Option.some.injEq] at h ⊢
      subst h
      simp [Key.copy]

/-- Of lines with different keys, each gives the note that is read what it tells; only a line with an
empty id gives nothing. -/
theorem Reader.run_told (keys : List Key) (hkeys : keys.Nodup) {reader later : Reader}
    (hbody : reader.body = .awaited) (hseen : ∀ key ∈ keys, key ∉ reader.seen)
    (hrun : reader.run? (keys.map fun key => line key.word (key.write note)) = some later) :
    later.body = .awaited ∧
      (∀ key ∉ keys, (key ∈ later.seen ↔ key ∈ reader.seen) ∧
        ∀ into, key.copy later.note into = key.copy reader.note into) ∧
      ∀ key ∈ keys, (key = .id → key ∈ later.seen) →
        (key = .id → (Entry.ofLine (line key.word (key.write note))).word ≠ "") ∧
          ∀ target, key.read? (Entry.ofLine (line key.word (key.write note))) target =
            some (key.copy later.note target) := by
  induction keys generalizing reader with
  | nil =>
      obtain rfl : reader = later := by simpa [Reader.run?] using hrun
      exact ⟨hbody, fun _ _ => ⟨Iff.rfl, fun _ => rfl⟩,
        fun _ hmem => absurd hmem List.not_mem_nil⟩
  | cons first keys ih =>
      obtain ⟨hfirst, hkeys⟩ := List.nodup_cons.1 hkeys
      simp only [Reader.run?, List.map_cons, List.foldlM_cons, Option.bind_eq_bind,
        Option.bind_eq_some_iff] at hrun
      obtain ⟨middle, hstep, hrest⟩ := hrun
      have hkey : (Entry.ofLine (line first.word (first.write note))).key = first.word := by
        rw [Entry.of_line (Key.word_no_space first)]
      simp only [Reader.step?, hbody, Reader.field?, hkey, Key.of_word] at hstep
      split at hstep
      next hskip =>
        -- The line is passed over, which happens only to an empty id.
        obtain rfl := Option.some.inj hstep
        obtain ⟨hawaited, hothers, hread⟩ := ih hkeys hbody
          (fun key hmem => hseen key (List.mem_cons_of_mem _ hmem)) hrest
        refine ⟨hawaited, fun key hnot => hothers key fun hmem => hnot (List.mem_cons_of_mem _ hmem),
          fun key hmem hid => ?_⟩
        rcases List.mem_cons.1 hmem with rfl | hmem
        · have hunseen := hseen key (by simp)
          obtain ⟨hisid, -⟩ := hskip.resolve_left hunseen
          exact absurd ((hothers key hfirst).1.1 (hid hisid)) hunseen
        · exact hread key hmem hid
      next hkept =>
        obtain ⟨read, hread, rfl⟩ := Option.map_eq_some_iff.1 hstep
        obtain ⟨hcopy, htold⟩ := Key.copy_of_read hread
        have hunseen : ∀ key ∈ keys, key ∉ first :: reader.seen := by
          intro key hmem
          have hne : key ≠ first := fun heq => hfirst (heq ▸ hmem)
          simp [hne, hseen key (List.mem_cons_of_mem _ hmem)]
        obtain ⟨hawaited, hothers, hread⟩ :=
          @ih hkeys ⟨read, first :: reader.seen, .awaited⟩ rfl hunseen hrest
        refine ⟨hawaited, fun key hnot => ?_, fun key hmem hid => ?_⟩
        · simp only [List.mem_cons, not_or] at hnot
          obtain ⟨hsame, hvalue⟩ := hothers key hnot.2
          refine ⟨by simp [hsame, hnot.1], fun into => ?_⟩
          rw [hvalue]
          exact (congrArg (key.copy · into) hcopy).trans (Key.copy_copy_of_ne hnot.1 read _ into)
        · rcases List.mem_cons.1 hmem with rfl | hmem
          · refine ⟨fun hisid hempty => hkept (.inr ⟨hisid, by simp [hempty]⟩), fun target => ?_⟩
            rw [htold, (hothers key hfirst).2]
          · exact hread key hmem hid

/-! ## Bodies -/

/-- A record whose body is complete keeps it. -/
theorem Reader.run_closed (lines : List String) {reader later : Reader}
    (hbody : reader.body = .closed) (hrun : reader.run? lines = some later) :
    later.note.body = reader.note.body := by
  induction lines generalizing reader with
  | nil =>
      obtain rfl : reader = later := by simpa [Reader.run?] using hrun
      rfl
  | cons text lines ih =>
      simp only [Reader.run?, List.foldlM_cons, Option.bind_eq_bind, Option.bind_eq_some_iff] at hrun
      obtain ⟨middle, hstep, hrest⟩ := hrun
      have hmiddle : middle.body = .closed ∧ middle.note.body = reader.note.body := by
        cases Reader.advances_of_step hstep with
        | collected lines hopen | closed lines hopen => cases hbody.symm.trans hopen
        | opened hawaited => cases hbody.symm.trans hawaited
        | given key note _ _ _ _ hread => exact ⟨hbody, (Key.read_frame hread).1⟩
        | passed => exact ⟨hbody, rfl⟩
      rw [ih hmiddle.1 hrest, hmiddle.2]

/-- A reader finds a note once it has read an id, a name and a body. -/
theorem Reader.finish_eq_some {reader : Reader} {note : Note} (h : reader.finish? = some note) :
    Key.id ∈ reader.seen ∧ reader.note = note := by
  unfold Reader.finish? at h
  split at h
  next hseen => exact ⟨hseen.1, Option.some.inj h⟩
  next => cases h

/-- If the body that is read is the one that was written, none of its lines ended it. -/
theorem Reader.run_frame {body : String} {reader later : Reader} {rest : List String}
    (hbody : reader.body = .open [])
    (hrun : reader.run? (Text.linesBefore body ++ rest) = some later)
    (hsame : later.note.body = body) :
    ∀ text ∈ Text.linesBefore body,
      (Entry.ofLine text).closesBody reader.note.delimiter = false := by
  obtain ⟨hfeed, hlength⟩ := Text.lines_before_feed body
  cases hfind : (Text.linesBefore body).find? fun text =>
      (Entry.ofLine text).closesBody reader.note.delimiter with
  | none => simpa using hfind
  | some closing =>
      obtain ⟨hcloses, front, back, hlines, hfront⟩ := List.find?_eq_some_iff_append.1 hfind
      have hrun' := hrun
      rw [hlines, List.append_assoc, Reader.run_append, reader.run_body front [] hbody
        (by simpa using hfront), Option.bind_some] at hrun'
      simp only [Reader.run?, List.cons_append, List.foldlM_cons, Reader.step?, hcloses, if_true,
        Option.bind_eq_bind, Option.bind_some] at hrun'
      have hshort : body = Text.join "\n" front := by
        rw [← hsame, Reader.run_closed _ rfl hrun']
        simp
      -- The body has as many lines as stood before the line that ended it, and that one as well.
      rw [hlines] at hlength hfeed
      cases front with
      | nil =>
          obtain rfl : body = "" := by simpa [Text.join] using hshort
          obtain ⟨rfl, -⟩ : "" = closing ∧ [] = back := by
            have hempty : Text.linesBefore "" = [""] := rfl
            simpa [hempty] using hlines
          simp [Entry.closesBody, Entry.ofLine, Text.firstWord, Text.cut?, bodyClosing] at hcloses
      | cons first front =>
          have hpieces : Text.splitAt '\n' body = first :: front := by
            rw [hshort]
            exact Text.split_at_join (by simp) fun text hmem =>
              hfeed text (List.mem_append_left _ hmem)
          rw [hpieces, List.length_append] at hlength
          simp at hlength

end Record

namespace Note

variable {note : Note}

/-! ## Records -/

/-- The lines of the record of any note. -/
theorem lines_of_record (note : Note) : Text.lines note.record = [""] ++ note.scannedLines := by
  -- The record ends with a line feed, after which no line begins.
  obtain ⟨parts, hparts, hsplit⟩ : ∃ parts : List String, parts ≠ [] ∧
      parts ++ [""] = note.recordLines := by
    refine ⟨["", Record.opening] ++
      Record.Key.all.map (fun key => Record.line key.word (key.write note)) ++
      [Record.line Record.bodyOpening (Text.singleLine note.delimiter), note.body,
        Record.line Record.bodyClosing (Text.singleLine note.delimiter),
        Record.line Record.closing (Text.singleLine note.id)], by simp, by simp [recordLines]⟩
  have hrecord : note.record = Text.join "\n" parts ++ "\n" ++ "" := by
    rw [record, ← hsplit]
    exact String.intercalate_append_of_ne_nil hparts (by simp)
  have hlines := note.lines_before_record
  have hnone : Text.lines "" = [] := rfl
  have hempty : Text.linesBefore "" = [""] := rfl
  rw [← hsplit, List.flatMap_append, List.flatMap_singleton, hempty] at hlines
  rw [hrecord, Text.lines_join_append hparts, hnone, List.append_nil]
  exact List.append_cancel_right hlines

/-- A storable note is read back from its record, whatever the blank note is. -/
theorem Storable.of_record (h : note.Storable) (blank : Note) :
    ofRecord? blank note.record = some note := by
  have hempty : (Record.Reader.mk blank [] .awaited).run? [""] =
      some (Record.Reader.mk blank [] .awaited) := rfl
  have hseen : Record.Key.id ∈ Record.Key.all.reverse ∧
      Record.Key.name ∈ Record.Key.all.reverse := by decide
  rw [ofRecord?, lines_of_record, h.scanned_lines, Record.Reader.run_append, hempty,
    Option.bind_some, Record.Reader.run_file_lines h, Option.bind_some, Record.Reader.finish?, if_pos ⟨hseen.1, hseen.2, rfl⟩]

/-- A record that is read with the body that was written: no line of the body ended it, the line
before it gave the delimiter as far as it is a word, and the rest is what the lines of the keys
told. -/
theorem run_record {blank : Note} {reader : Record.Reader}
    (hrun : (Record.Reader.mk blank [] .awaited).run? (Text.lines note.record) = some reader)
    (hbody : reader.note.body = note.body) :
    (∀ text ∈ Text.linesBefore note.body, (Record.Entry.ofLine text).closesBody
      (Text.firstWord (Text.singleLine note.delimiter)).1 = false) ∧
      ∃ told, (Record.Reader.mk blank [] .awaited).run?
          (Record.Key.all.map fun key => Record.line key.word (key.write note)) = some told ∧
        reader.seen = told.seen ∧
        reader.note =
          { told.note with
            delimiter := (Text.firstWord (Text.singleLine note.delimiter)).1
            body := Text.join "\n" (Text.linesBefore note.body) } := by
  have hkey {word : String} (hword : ' ' ∉ word.toList) (value : String) :
      (Record.Entry.ofLine (Record.line word value)).key = word ∧
        (Record.Entry.ofLine (Record.line word value)).word? = some (Text.firstWord value).1 := by
    rw [Record.Entry.of_line hword]
    exact ⟨rfl, rfl⟩
  have hnokey : Record.Key.ofWord? Record.bodyOpening = none ∧
      Record.Key.ofWord? Record.closing = none ∧ Record.closing ≠ Record.bodyOpening := by decide
  have hstart : (Record.Reader.mk blank [] .awaited).run? ["", Record.opening] =
      some (Record.Reader.mk blank [] .awaited) := rfl
  have hlines : [""] ++ note.scannedLines = ["", Record.opening] ++
      Record.Key.all.map (fun key => Record.line key.word (key.write note)) ++
      [Record.line Record.bodyOpening (Text.singleLine note.delimiter)] ++
      (Text.linesBefore note.body ++
        [Record.line Record.bodyClosing (Text.singleLine note.delimiter),
          Record.line Record.closing (Text.singleLine note.id)]) := by simp [scannedLines]
  rw [lines_of_record, hlines, Record.Reader.run_append, Record.Reader.run_append,
    Record.Reader.run_append, hstart, Option.bind_some] at hrun
  obtain ⟨opened, hopened, hrun⟩ := Option.bind_eq_some_iff.1 hrun
  obtain ⟨told, htold, hopened⟩ := Option.bind_eq_some_iff.1 hopened
  have hawaited := (Record.Reader.run_told Record.Key.all (by decide) rfl (by simp) htold).1
  obtain ⟨hopening, hdelimiter⟩ :=
    hkey (show ' ' ∉ Record.bodyOpening.toList by decide) (Text.singleLine note.delimiter)
  simp only [Record.Reader.run?, List.foldlM_cons, List.foldlM_nil, Record.Reader.step?, hawaited,
    Record.Reader.field?, hopening, hnokey.1, Record.Entry.word, hdelimiter, and_self, if_true,
    Option.getD_some, Option.bind_eq_bind, Option.bind_some, Option.pure_def,
    Option.some.injEq] at hopened
  have hframe := Record.Reader.run_frame (congrArg Record.Reader.body hopened.symm) hrun hbody
  -- No line of the body ended it, so the rest of the run is known.
  obtain ⟨hends, hended⟩ :=
    hkey (show ' ' ∉ Record.bodyClosing.toList by decide) (Text.singleLine note.delimiter)
  obtain ⟨hcloses, -⟩ :=
    hkey (show ' ' ∉ Record.closing.toList by decide) (Text.singleLine note.id)
  rw [Record.Reader.run_append, Record.Reader.run_body _ _ [] (congrArg _ hopened.symm) hframe,
    Option.bind_some] at hrun
  subst hopened
  dsimp only at hframe
  refine ⟨hframe, told, htold, ?_⟩
  simp [Record.Reader.run?, Record.Reader.step?, Record.Reader.field?, Record.Entry.closesBody,
    hends, hended, hcloses, hnokey] at hrun
  subst hrun
  exact ⟨rfl, rfl⟩

/-- A note that is read back from its record: every line of its record tells the value of its key,
and the lines of the body are those that were written. -/
theorem told_of_record {blank : Note} (h : ofRecord? blank note.record = some note) :
    (Text.firstWord (Text.singleLine note.delimiter)).1 = note.delimiter ∧
      (∀ text ∈ Text.linesBefore note.body,
        (Record.Entry.ofLine text).closesBody note.delimiter = false) ∧
      Text.join "\n" (Text.linesBefore note.body) = note.body ∧
      (Record.Entry.ofLine (Record.line Record.Key.id.word (Record.Key.id.write note))).word ≠ "" ∧
      ∀ key : Record.Key,
        key.read? (Record.Entry.ofLine (Record.line key.word (key.write note))) note =
          some (key.copy note note) := by
  obtain ⟨reader, hrun, hfinish⟩ := Option.bind_eq_some_iff.1 h
  obtain ⟨hid, hnote⟩ := Record.Reader.finish_eq_some hfinish
  obtain ⟨hframe, told, htold, hseen, hread⟩ := run_record hrun (congrArg Note.body hnote)
  rw [hseen] at hid
  rw [hnote] at hread
  have hdelimiter := congrArg Note.delimiter hread
  have hbody := congrArg Note.body hread
  dsimp only at hdelimiter hbody
  have hcopy (key : Record.Key) : key.copy told.note note = key.copy note note := by
    have hsame := congrArg (key.copy · note) hread
    exact ((hsame.trans (Record.Key.copy_of_body key _ _ _ _)).symm)
  have hall (key : Record.Key) : key ∈ Record.Key.all := by cases key <;> decide
  have hvalue (key : Record.Key) :=
    (Record.Reader.run_told Record.Key.all (by decide) rfl (by simp) htold).2.2 key (hall key)
      fun hisid => by rwa [hisid]
  refine ⟨hdelimiter.symm, ?_, hbody.symm, ?_, fun key => ?_⟩
  · rw [← hdelimiter] at hframe
    exact hframe
  · exact (hvalue .id).1 rfl
  · rw [(hvalue key).2 note, hcopy]

/-- A body whose lines are those before a line feed has no line that loses a carriage return. -/
theorem lines_before_of_join {body : String} (h : Text.join "\n" (Text.linesBefore body) = body) :
    Text.linesBefore body = Text.splitAt '\n' body := by
  obtain ⟨hfeed, hlength⟩ := Text.lines_before_feed body
  have hne : Text.linesBefore body ≠ [] := by
    simpa [Text.linesBefore] using Text.split_ne_nil '\n' body.toList
  have hsplit := Text.split_at_join hne hfeed
  rw [show String.singleton '\n' = "\n" from rfl, h] at hsplit
  exact hsplit.symm

/-- A note that is read back from its record is storable. -/
theorem storable_of_record {blank : Note} (h : ofRecord? blank note.record = some note) :
    note.Storable := by
  obtain ⟨hdelimiter, hframe, hbody, hempty, htold⟩ := told_of_record h
  have hentry (key : Record.Key) (value : String) :=
    Record.Entry.of_line (Record.Key.word_no_space key) value
  simp only [hentry] at hempty htold
  have hfield {value : Type} (field : Note → value) (key : Record.Key) :=
    congrArg (Option.map field) (htold key)
  have hid : (Text.firstWord (Text.singleLine note.id)).1 = note.id := by
    simpa [Record.Key.read?, Record.Key.write, Record.Key.copy, Record.Entry.word] using
      hfield Note.id .id
  have hname : Text.singleLine note.nameOrDefault = note.name := by
    simpa [Record.Key.read?, Record.Key.write, Record.Key.copy] using hfield Note.name .name
  have hfolder : Text.singleLine note.folderOrDefault = note.folder := by
    simpa [Record.Key.read?, Record.Key.write, Record.Key.copy] using hfield Note.folder .folder
  have hcreated : Text.singleLine note.created = note.created := by
    simpa [Record.Key.read?, Record.Key.write, Record.Key.copy] using hfield Note.created .created
  have hchanged : Text.singleLine note.changed = note.changed := by
    simpa [Record.Key.read?, Record.Key.write, Record.Key.copy] using hfield Note.changed .changed
  have hdue : Text.singleLine note.due = note.due := by
    simpa [Record.Key.read?, Record.Key.write, Record.Key.copy] using hfield Note.due .due
  have htoken : (Text.firstWord (Text.singleLine note.shareToken)).1 = note.shareToken := by
    simpa [Record.Key.read?, Record.Key.write, Record.Key.copy, Record.Entry.word] using
      hfield Note.shareToken .shareToken
  have htags : Record.readTags (Text.singleLine (Record.writeTags note.tags)) = note.tags := by
    simpa [Record.Key.read?, Record.Key.write, Record.Key.copy] using hfield Note.tags .tags
  have hversion : Decimal.InRange note.version := by
    obtain ⟨number, hread, heq⟩ := Option.map_eq_some_iff.1 (htold .version)
    obtain rfl : number = note.version := congrArg Note.version heq
    exact Record.in_range_of_read hread
  have hexport : Decimal.InRange note.exportVersion := by
    obtain ⟨number, hread, heq⟩ := Option.map_eq_some_iff.1 (htold .exportVersion)
    obtain rfl : number = note.exportVersion := congrArg Note.exportVersion heq
    exact Record.in_range_of_read hread
  obtain ⟨hid_line, hid_word⟩ := Record.single_line_of_first_word hid
  obtain ⟨htoken_line, htoken_word⟩ := Record.single_line_of_first_word htoken
  obtain ⟨hdelimiter_line, hdelimiter_word⟩ := Record.single_line_of_first_word hdelimiter
  have hname_ne : note.name ≠ "" := by
    intro hempty
    rw [nameOrDefault, hempty] at hname
    exact absurd hname (by decide)
  have hfolder_ne : note.folder ≠ "" := by
    intro hempty
    rw [folderOrDefault, hempty] at hfolder
    exact absurd hfolder (by decide)
  have hlines := lines_before_of_join hbody
  exact
    { id_ne := by simpa [Record.Entry.word, Record.Key.write, hid] using hempty
      name_ne := hname_ne
      folder_ne := hfolder_ne
      id_word := hid_word
      token_word := htoken_word
      delimiter_word := hdelimiter_word
      lines := by
        simp only [nameOrDefault, String.isEmpty_iff, hname_ne, if_false] at hname
        simp only [folderOrDefault, String.isEmpty_iff, hfolder_ne, if_false] at hfolder
        simp [hid_line, hname, hfolder, hcreated, hchanged, hdue, htoken_line, hdelimiter_line]
      tags := fun tag hmem => by
        rw [← htags, Std.ExtTreeSet.mem_toList] at hmem
        obtain ⟨hne, htrim, hcomma, hchars⟩ := Record.mem_read_tags hmem
        have hbreaks := Text.single_line_no_break (Record.writeTags note.tags)
        refine ⟨hne, Text.single_line_iff.2 ⟨fun hfeed => hbreaks.1 (hchars _ hfeed),
          fun hreturn => hbreaks.2 (hchars _ hreturn), Text.trim_eq_self_iff.1 htrim⟩, hcomma⟩
      body_return := fun line hmem => by
        obtain ⟨piece, hpiece, rfl⟩ := List.mem_map.1 hmem
        have hsame : String.ofList (Text.dropReturn piece) = String.ofList piece :=
          List.map_inj_left.1 hlines piece hpiece
        rw [String.ofList_inj] at hsame
        rw [String.toList_ofList]
        intro hlast
        have hshort := congrArg List.length hsame
        have hne : piece ≠ [] := by
          rintro rfl
          cases hlast
        have hpos := List.length_pos_iff.2 hne
        simp [Text.dropReturn, hlast] at hshort
        omega
      body_frame := fun line hmem hwords => by
        rw [← hlines] at hmem
        exact absurd (Record.Entry.closes_body_iff.2 hwords) (by simp [hframe line hmem])
      version_range := hversion
      export_version_range := hexport }

/-- A note is read back from its record, whatever the blank note is, exactly if it is storable. -/
theorem of_record_iff (blank : Note) :
    ofRecord? blank note.record = some note ↔ note.Storable :=
  ⟨storable_of_record, fun h => h.of_record blank⟩

/-- A body without a carriage return before a line feed or at its end has none at the end of a
line. -/
theorem body_return_of_no_break {body : String} (hfeed : ¬ ['\r', '\n'] <:+: body.toList)
    (hreturn : body.toList.getLast? ≠ some '\r') :
    ∀ line ∈ Text.splitAt '\n' body, line.toList.getLast? ≠ some '\r' := by
  intro line hmem hlast
  obtain ⟨piece, hpiece, rfl⟩ := List.mem_map.1 hmem
  rw [String.toList_ofList, List.getLast?_eq_some_iff] at hlast
  obtain ⟨start, rfl⟩ := hlast
  obtain ⟨front, rest, hbody, rfl | ⟨more, rfl⟩⟩ := Text.exists_append_of_mem_split hpiece
  · exact hreturn (by simp [hbody])
  · exact hfeed ⟨front ++ start, more, by simp [hbody]⟩

/-- The record of a note is read back as the note, field by field, whatever its versions, its format
and its dismissed reminder, if its texts fit on their lines and its body does not end its own
frame. -/
theorem of_record_record (blank : Note) (hid : note.id ≠ "") (hname : note.name ≠ "")
    (hfolder : note.folder ≠ "")
    (hwords : ∀ word ∈ [note.id, note.shareToken, note.delimiter], ' ' ∉ word.toList)
    (hlines : ∀ text ∈ [note.id, note.name, note.folder, note.created, note.changed, note.due,
      note.shareToken, note.delimiter], Text.singleLine text = text)
    (htags : ∀ tag ∈ note.tags, tag ≠ "" ∧ Text.singleLine tag = tag ∧ ',' ∉ tag.toList)
    (hfeed : ¬ ['\r', '\n'] <:+: note.body.toList)
    (hreturn : note.body.toList.getLast? ≠ some '\r')
    (hframe : ∀ line ∈ Text.splitAt '\n' note.body,
      (Text.splitAt ' ' line).take 2 ≠ [Record.bodyClosing, note.delimiter])
    (hversion : Decimal.InRange note.version) (hexport : Decimal.InRange note.exportVersion) :
    ofRecord? blank note.record = some note := by
  have hstorable : note.Storable :=
    { id_ne := hid
      name_ne := hname
      folder_ne := hfolder
      id_word := hwords _ (by simp)
      token_word := hwords _ (by simp)
      delimiter_word := hwords _ (by simp)
      lines := hlines
      tags := fun tag hmem => htags tag (Std.ExtTreeSet.mem_toList.1 hmem)
      body_return := body_return_of_no_break hfeed hreturn
      body_frame := hframe
      version_range := hversion
      export_version_range := hexport }
  exact hstorable.of_record blank

/-- A note for an example: it has no date and no share token, and its body has lines that stand at
the edges of records. -/
def markers : Note where
  id := "i"
  name := "a  b"
  folder := "inbox"
  tags := Std.ExtTreeSet.ofList ["one", "two words"]
  body := "TASK-END i\nTASK-BODY-END iiii\nTASK-NAME\n\n"
  format := .plain
  created := ""
  changed := ""
  due := ""
  reminderDismissed := true
  shareToken := ""
  version := 9223372036854775807
  exportVersion := -9223372036854775808
  delimiter := "iii"

/-- A note whose body looks like a record is read back. -/
theorem of_record_markers : ofRecord? (blank .tally) markers.record = some markers := by
  have htags : ∀ tag ∈ markers.tags.toList,
      tag ≠ "" ∧ Text.singleLine tag = tag ∧ ',' ∉ tag.toList := by decide +kernel
  exact of_record_record (blank .tally) (by decide) (by decide) (by decide) (by decide) (by decide)
    (fun tag hmem => htags tag (Std.ExtTreeSet.mem_toList.2 hmem)) (by decide) (by decide)
    (by decide +kernel) (by decide) (by decide)

end Note

end Notekeeper
