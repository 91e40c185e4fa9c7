import Notekeeper.Proofs.Store.Change
import Notekeeper.Proofs.Store.Reading
import Notekeeper.Proofs.Text.Pieces

/-!
# Reading the beginning of a text

A file that was not written to its end holds a beginning of the text of a store.
`Store.read_cut_off` says what is read of it: the notes whose closing lines it has reached, and no
other. Most of the work is to show that a line on which the text breaks off closes no record
(`Block.step_begun`): as long as it is not complete it either lacks its second word, or has not got
to the end of the id.
-/

namespace Notekeeper

namespace Record

/-- A line that has been begun up to its second word has the keyword of the whole line. -/
theorem Entry.key_of_begun {begun text word : String} (h : begun.toList <+: text.toList)
    (hword : (Entry.ofLine begun).word? = some word) :
    (Entry.ofLine begun).key = (Entry.ofLine text).key := by
  unfold Entry.ofLine Text.firstWord at hword ⊢
  cases hcut : Text.cut? [' '] begun.toList with
  | none => simp [hcut] at hword
  | some parts =>
      obtain ⟨hbegun, hkey⟩ := Text.cut_eq_some hcut
      obtain ⟨more, hmore⟩ := h
      rw [hbegun, List.append_assoc, List.cons_append] at hmore
      simp [← hmore, Text.first_word_append hkey]

/-- A line of a keyword and a word, begun up to the end of the word, is complete. -/
theorem eq_line_of_begun {begun word value : String} (hword : ' ' ∉ word.toList)
    (h : begun.toList <+: (line word value).toList)
    (hvalue : (Entry.ofLine begun).word? = some value) : begun = line word value := by
  unfold Entry.ofLine Text.firstWord at hvalue
  cases hcut : Text.cut? [' '] begun.toList with
  | none => simp [hcut] at hvalue
  | some parts =>
      obtain ⟨hbegun, hkey⟩ := Text.cut_eq_some hcut
      obtain ⟨more, hmore⟩ := h
      rw [hbegun, List.append_assoc, List.cons_append, line_toList] at hmore
      have hsame := congrArg (Text.cut? [' ']) hmore
      rw [Text.first_word_append hkey, Text.first_word_append hword] at hsame
      obtain ⟨hfirst, hrest⟩ := Prod.mk.inj (Option.some.inj hsame)
      -- What follows the keyword begins with its own first word, which is the whole value.
      have hlong : value.toList <+: parts.2 := by
        have hbegins := (Text.first_word_begins (String.ofList parts.2)).2
        simp only [hcut, Option.some.injEq] at hvalue
        rw [← hvalue]
        simpa [Text.firstWord] using hbegins
      have hshort : parts.2 <+: value.toList := ⟨more, hrest⟩
      have heq := hlong.eq_of_length_le hshort.length_le
      apply String.toList_injective
      rw [line_toList, hbegun, hfirst, heq]

end Record

namespace Block

/-- What a line that closes a record looks like, and where it stands. -/
theorem closes_cases {block : Block} {line : String} (h : (block.step line).2 = true) :
    block.openBody = none ∧ ∃ id, block.id = some id ∧
      (Record.Entry.ofLine line).key = Record.closing ∧
        (Record.Entry.ofLine line).word? = some id := by
  unfold step at h
  dsimp only at h
  split at h
  · split at h <;> cases h
  next hbody =>
    split at h
    · split at h
      · cases h
      · split at h <;> cases h
    next id hid =>
      split at h
      · cases h
      · exact ⟨hbody, id, hid, by simpa using h⟩

/-- An item of two lists in a row stands in the first or in the second. -/
theorem append_cons_cases {item : Type} {front rest first second : List item} {middle : item}
    (h : first ++ second = front ++ middle :: rest) :
    (∃ more, first = front ++ middle :: more) ∨
      ∃ more, front = first ++ more ∧ second = more ++ middle :: rest := by
  rcases List.append_eq_append_iff.1 h with ⟨more, hfront, hsecond⟩ | ⟨more, hfirst, hrest⟩
  · exact .inr ⟨more, hfront, hsecond⟩
  · cases more with
    | nil => exact .inr ⟨[], by simpa using hfirst.symm, by simpa using hrest.symm⟩
    | cons item more =>
        obtain ⟨rfl, -⟩ := List.cons.inj hrest
        exact .inl ⟨more, hfirst⟩

variable {note : Note}

/-- A line of a record that breaks off does not close it, unless it is the whole closing line. -/
theorem step_begun (h : note.Storable) {front rest : List String} {part begun : String}
    {block : Block}
    (hlines : innerLines note ++ [Record.line Record.closing note.id] = front ++ part :: rest)
    (hrun : opened.run? front = some block) (hbegun : begun.toList <+: part.toList)
    (hne : rest = [] → begun ≠ part) : (block.step begun).2 = false := by
  cases hflag : (block.step begun).2 with
  | false => rfl
  | true =>
      obtain ⟨hbody, id, hid, hkey, hword⟩ := closes_cases hflag
      rw [Record.Entry.key_of_begun hbegun hword] at hkey
      have hother {word value : String} (hspace : ' ' ∉ word.toList)
          (hpart : part = Record.line word value) : word = Record.closing := by
        rwa [hpart, Record.Entry.of_line hspace] at hkey
      have hsplit : innerLines note ++ [Record.line Record.closing note.id] =
          (Record.Key.all.map (fun key => Record.line key.word (key.write note)) ++
            [Record.line Record.bodyOpening note.delimiter]) ++
          (Text.splitAt '\n' note.body ++ [Record.line Record.bodyClosing note.delimiter,
            Record.line Record.closing note.id]) := by
        simp [innerLines]
      rw [hsplit] at hlines
      rcases append_cons_cases hlines with ⟨more, hhead⟩ | ⟨inner, rfl, htail⟩
      · -- The lines before the body have other keywords.
        have hmem : part ∈ Record.Key.all.map (fun key => Record.line key.word (key.write note)) ++
            [Record.line Record.bodyOpening note.delimiter] := by simp [hhead]
        rcases List.mem_append.1 hmem with hmem | hmem
        · obtain ⟨key, -, hpart⟩ := List.mem_map.1 hmem
          have hsame := hother (Record.Key.word_no_space key) hpart.symm
          exact absurd hsame (by cases key <;> decide)
        · exact absurd (hother (by decide) (List.mem_singleton.1 hmem)) (by decide)
      · rcases append_cons_cases htail with ⟨more, hinside⟩ | ⟨last, rfl, hlast⟩
        · -- Inside the body nothing closes the record.
          have hframe := Record.frame_of_storable h
          rw [hinside] at hframe
          rw [← Record.field_lines_written, run_append, run_head_lines h.enclosed, Option.bind_some,
            run_body inner _ note.delimiter rfl fun text hmem =>
              hframe text (List.mem_append_left _ hmem)] at hrun
          obtain rfl := Option.some.inj hrun
          cases hbody
        · cases last with
          | nil =>
              obtain ⟨hpart, -⟩ := List.cons.inj hlast
              exact absurd (hother (by decide) hpart.symm) (by decide)
          | cons first last =>
              -- Only the closing line itself is left, and it has to be there to its end.
              obtain ⟨rfl, hlast⟩ := List.cons.inj hlast
              obtain ⟨rfl, rfl, rfl⟩ : last = [] ∧ Record.line Record.closing note.id = part ∧
                  rest = [] := by
                cases last with
                | nil => simpa using hlast
                | cons other last => simp at hlast
              have hinner := run_inner_lines h
              rw [← List.append_assoc] at hrun
              rw [innerLines, hrun] at hinner
              obtain rfl := Option.some.inj hinner
              obtain rfl := Option.some.inj hid
              exact absurd (Record.eq_line_of_begun (by decide) hbegun hword) (hne rfl)

end Block

namespace Note

variable {note : Note}

/-- The record of a note up to the end of its closing line. -/
def closedRecord (note : Note) : String :=
  Text.join "\n" ("" :: note.fileLines)

/-- A line feed ends the record of a storable note after its closing line. -/
theorem Storable.record_eq (h : note.Storable) : note.record = note.closedRecord ++ "\n" := by
  have happend {front back : List String} (hfront : front ≠ []) (hback : back ≠ []) :
      Text.join "\n" (front ++ back) = Text.join "\n" front ++ "\n" ++ Text.join "\n" back :=
    String.intercalate_append_of_ne_nil hfront hback
  have hbody : Text.join "\n" (Text.splitAt '\n' note.body) = note.body :=
    Text.join_split_at '\n' note.body
  have hpieces : Text.splitAt '\n' note.body ≠ [] := by
    simpa [Text.splitAt] using Text.split_ne_nil '\n' note.body.toList
  -- The body stands between lines, where its own lines can stand for it.
  obtain ⟨front, back, hfront, hback, hrecord, hlines⟩ : ∃ front back : List String, front ≠ [] ∧
      back ≠ [] ∧ note.recordLines = front ++ ([note.body] ++ (back ++ [""])) ∧
        "" :: note.fileLines = front ++ (Text.splitAt '\n' note.body ++ back) :=
    ⟨["", Record.opening] ++
        Record.Key.all.map (fun key => Record.line key.word (key.write note)) ++
        [Record.line Record.bodyOpening note.delimiter],
      [Record.line Record.bodyClosing note.delimiter, Record.line Record.closing note.id],
      by simp, by simp, by simp [recordLines, h.delimiter_line, h.id_line], by simp [fileLines]⟩
  have hsingle (text : String) : Text.join "\n" [text] = text := by simp [Text.join]
  rw [record, closedRecord, hrecord, hlines, happend hfront (by simp), happend (by simp) (by simp),
    happend hback (by simp), happend hfront (by simp [hpieces]), happend hpieces hback, hbody,
    hsingle, hsingle]
  simp only [String.append_assoc, String.append_empty]

/-- No line of a closed record has a line feed or ends in a carriage return. -/
theorem Storable.closed_lines_single (h : note.Storable) :
    ∀ text ∈ "" :: note.fileLines,
      '\n' ∉ text.toList ∧ Text.dropReturn text.toList = text.toList := by
  intro text hmem
  rcases List.mem_cons.1 hmem with rfl | hmem
  · exact ⟨by simp, rfl⟩
  · exact h.file_lines_single text hmem

/-- The lines of a closed record in front of a line feed. -/
theorem Storable.lines_closed_record (h : note.Storable) (rest : String) :
    Text.lines (note.closedRecord ++ "\n" ++ rest) = "" :: note.fileLines ++ Text.lines rest := by
  have hsingle := h.closed_lines_single
  rw [closedRecord, Text.lines_join_append (by simp), Text.lines_before_singles
    (fun text hmem => (hsingle text hmem).1) fun text hmem => (hsingle text hmem).2]

end Note

namespace Loading

variable {note : Note}

/-- The opening line, as far as it has got, changes no note. -/
theorem step_opening_begun (loading : Loading) (hblock : loading.block = none) {begun : String}
    (hbegun : begun.toList <+: Record.opening.toList) :
    (loading.step begun).store = loading.store ∧ (loading.step begun).ids = loading.ids := by
  have hspace : ' ' ∉ begun.toList := fun hmem =>
    absurd (hbegun.subset hmem) (by decide)
  have hentry : (Record.Entry.ofLine begun).key = begun := by
    simp [Record.Entry.ofLine, Text.firstWord, Text.cut_of_not_mem hspace]
  have hexport : begun ≠ Store.exportClockWord := by
    rintro rfl
    exact absurd hbegun (by decide)
  have himport : begun ≠ Store.importClockWord := by
    rintro rfl
    exact absurd hbegun (by decide)
  simp only [step, hblock, between, hentry, if_neg hexport, if_neg himport]
  split <;> exact ⟨rfl, rfl⟩

/-- A record that breaks off before the end of its closing line changes no note. -/
theorem foldl_begun (h : note.Storable) (loading : Loading) (hblock : loading.block = none)
    {text : String} (hbegins : text.toList <+: note.closedRecord.toList)
    (hne : text ≠ note.closedRecord) :
    ((Text.lines text).foldl step loading).store = loading.store ∧
      ((Text.lines text).foldl step loading).ids = loading.ids := by
  obtain ⟨front, part, rest, begun, hparts, hbegun, rfl⟩ := Text.prefix_join (by simp) hbegins
  have hsingle := h.closed_lines_single
  rw [hparts] at hsingle
  have hwhole : rest = [] → begun ≠ part := by
    rintro rfl rfl
    exact hne (by rw [Note.closedRecord, hparts])
  have hfeed : '\n' ∉ begun.toList := fun hmem =>
    (hsingle part (by simp)).1 (hbegun.subset hmem)
  rw [Text.lines_join_begun (fun text hmem => (hsingle text (by simp [hmem])).1)
    (fun text hmem => (hsingle text (by simp [hmem])).2) hfeed, List.foldl_append]
  -- It is enough to look at the state before the line on which the text breaks off.
  suffices hbefore : (front.foldl step loading).store = loading.store ∧
      (front.foldl step loading).ids = loading.ids ∧
        (begun ≠ "" → ((front.foldl step loading).step begun).store = loading.store ∧
          ((front.foldl step loading).step begun).ids = loading.ids) by
    by_cases hempty : begun = ""
    · simpa [hempty] using ⟨hbefore.1, hbefore.2.1⟩
    · simpa [hempty] using hbefore.2.2 hempty
  rw [Block.file_lines_eq] at hparts
  cases front with
  | nil =>
      obtain ⟨rfl, -⟩ := List.cons.inj hparts
      refine ⟨rfl, rfl, fun hempty => absurd ?_ hempty⟩
      exact String.toList_injective (List.prefix_nil.1 hbegun)
  | cons first front =>
      obtain ⟨rfl, hrecord⟩ := List.cons.inj hparts
      rw [List.foldl_cons, step_empty loading hblock]
      cases front with
      | nil =>
          obtain ⟨rfl, -⟩ := List.cons.inj hrecord
          exact ⟨rfl, rfl, fun _ => loading.step_opening_begun hblock hbegun⟩
      | cons second front =>
          obtain ⟨rfl, hlines⟩ := List.cons.inj hrecord
          obtain ⟨block, hrun⟩ : ∃ block, Block.opened.run? front = some block := by
            have hinner := Block.run_inner_lines h
            obtain ⟨more, hmore⟩ : front <+: Block.innerLines note := by
              rcases Block.append_cons_cases hlines with ⟨more, hmore⟩ | ⟨more, rfl, hlast⟩
              · exact ⟨part :: more, hmore.symm⟩
              · cases more with
                | nil => simp
                | cons other more => simp at hlast
            rw [← hmore, Block.run_append] at hinner
            obtain ⟨block, hblock, -⟩ := Option.bind_eq_some_iff.1 hinner
            exact ⟨block, hblock⟩
          have hflag := Block.step_begun h hlines hrun hbegun hwhole
          rw [List.foldl_cons, step_opening loading hblock,
            foldl_of_run front { loading with block := some Block.opened } Block.opened block rfl hrun]
          refine ⟨rfl, rfl, fun _ => ?_⟩
          cases hstep : block.step begun with
          | mk after flag =>
              obtain rfl : flag = false := by simpa [hstep] using hflag
              simp [step, hstep]

/-- Empty lines between records are passed over. -/
theorem foldl_empty (lines : List String) (hempty : ∀ line ∈ lines, line = "") (loading : Loading)
    (hblock : loading.block = none) : lines.foldl step loading = loading := by
  induction lines with
  | nil => rfl
  | cons line lines ih =>
      obtain rfl := hempty line (by simp)
      rw [List.foldl_cons, step_empty loading hblock]
      exact ih fun other hmem => hempty other (by simp [hmem])

end Loading

namespace Store

variable {note : Note} {notes : List Note}

/-- The records of notes that follow each other. -/
def recordsOf (notes : List Note) : String :=
  "".intercalate (notes.map fun note => note.record ++ "\n\n")

/-- The text of some notes is the header and their records. -/
theorem text_of_eq (store : Store) (notes : List Note) :
    store.textOf notes = store.header ++ recordsOf notes :=
  rfl

/-- The records of some notes begin with the first, which two empty lines follow. -/
theorem records_of_cons (h : note.Storable) (notes : List Note) :
    recordsOf (note :: notes) = note.closedRecord ++ ("\n\n\n" ++ recordsOf notes) := by
  have hfeeds : ("\n\n\n" : String) = "\n" ++ "\n\n" := rfl
  rw [recordsOf, List.map_cons, intercalate_empty_cons, h.record_eq, hfeeds]
  simp only [recordsOf, String.append_assoc]

/-- What is read of a closed record and the line feeds after it: its note. -/
theorem foldl_closed (h : note.Storable) (loading : Loading) (hblock : loading.block = none)
    {feeds : String} (hfeeds : feeds.toList <+: ("\n\n\n" : String).toList) (rest : String)
    (hrest : rest ≠ "" → feeds = "\n\n\n") :
    (Text.lines (note.closedRecord ++ (feeds ++ rest))).foldl Loading.step loading =
      (Text.lines rest).foldl Loading.step
        { loading with
          store := loading.store.restore note
          supply := loading.supply.afterBlank
          ids := note.id :: loading.ids } := by
  have hcases : feeds = "" ∨ feeds = "\n" ∨ feeds = "\n\n" ∨ feeds = "\n\n\n" := by
    have hinits : ("\n\n\n" : String).toList.inits =
        ["".toList, "\n".toList, "\n\n".toList, "\n\n\n".toList] := rfl
    have hmem := (List.mem_inits _ _).2 hfeeds
    simpa only [hinits, List.mem_cons, List.not_mem_nil, or_false, String.toList_inj] using hmem
  obtain ⟨blanks, hblanks, hlines⟩ : ∃ blanks : List String, (∀ line ∈ blanks, line = "") ∧
      Text.lines (note.closedRecord ++ (feeds ++ rest)) =
        "" :: note.fileLines ++ (blanks ++ Text.lines rest) := by
    have hempty : Text.linesBefore "" = [""] := rfl
    have hfirst (more : String) : Text.lines (note.closedRecord ++ ("\n" ++ more)) =
        "" :: note.fileLines ++ Text.lines more := by
      rw [← String.append_assoc, h.lines_closed_record]
    have hline (more : String) : Text.lines ("\n" ++ more) = "" :: Text.lines more := by
      have hfeed := Text.lines_append_line_feed "" more
      rwa [String.empty_append, hempty] at hfeed
    have hlast (hfew : feeds ≠ "\n\n\n") : rest = "" := by
      by_contra hne
      exact hfew (hrest hne)
    rcases hcases with rfl | rfl | rfl | rfl
    · obtain rfl := hlast (by decide)
      have hjoin : note.closedRecord = "" ++ "\n" ++ Text.join "\n" note.fileLines := by
        rw [Note.closedRecord, Text.join_cons (by simp [Note.fileLines])]
      have hnone : Text.lines "" = [] := rfl
      refine ⟨[], by simp, ?_⟩
      rw [String.append_empty, String.append_empty, hjoin, Text.lines_append_line_feed,
        h.lines_join_file_lines, hempty, hnone]
      simp
    · exact ⟨[], by simp, by rw [hfirst, List.nil_append]⟩
    · have htwo : ("\n\n" : String) = "\n" ++ "\n" := rfl
      exact ⟨[""], by simp, by rw [htwo, String.append_assoc, hfirst, hline]; rfl⟩
    · have hthree : ("\n\n\n" : String) = "\n" ++ ("\n" ++ "\n") := rfl
      refine ⟨["", ""], by simp, ?_⟩
      rw [hthree, String.append_assoc, String.append_assoc, hfirst, hline, hline]
      rfl
  rw [hlines, List.foldl_append, List.foldl_cons, Loading.step_empty loading hblock,
    Loading.foldl_file_lines h loading hblock, List.foldl_append,
    Loading.foldl_empty blanks hblanks]
  exact hblock

/-- What is read of a beginning of some records: the notes whose closing lines it reaches. -/
theorem foldl_cut_off (h : ∀ note ∈ notes, note.Storable) (loading : Loading)
    (hblock : loading.block = none) {text : String}
    (hbegins : text.toList <+: (recordsOf notes).toList) :
    ∃ front rest, notes = front ++ rest ∧
      ((Text.lines text).foldl Loading.step loading).store = front.foldl restore loading.store ∧
      ((Text.lines text).foldl Loading.step loading).ids =
        (front.map Note.id).reverse ++ loading.ids ∧
      ∀ before note after, notes = before ++ note :: after →
        (before.length < front.length ↔
          (recordsOf before ++ note.closedRecord).toList <+: text.toList) := by
  induction notes generalizing loading text with
  | nil =>
      obtain rfl : text = "" := by simpa [recordsOf] using hbegins
      exact ⟨[], [], rfl, rfl, rfl, fun before note after heq => by simp at heq⟩
  | cons first notes ih =>
      have hfirst := h first (by simp)
      have hothers : ∀ note ∈ notes, note.Storable := fun note hmem => h note (by simp [hmem])
      have hempty : recordsOf [] = "" := rfl
      rw [records_of_cons hfirst, String.toList_append, String.toList_append] at hbegins
      -- A text that does not get past the first record closes no other.
      have hfew (hlength : text.toList.length ≤ first.closedRecord.toList.length + 3)
          (before : List Note) (note : Note) :
          ¬ (recordsOf (first :: before) ++ note.closedRecord).toList <+: text.toList := by
        intro hlong
        have hthree : ("\n\n\n" : String).toList.length = 3 := rfl
        have hsome : 0 < note.closedRecord.toList.length := by
          simp [Note.closedRecord, Note.fileLines, Text.join_cons]
        have hle := hlong.length_le
        rw [records_of_cons hfirst] at hle
        simp only [String.toList_append, List.length_append, hthree] at hle
        omega
      by_cases hclosed : first.closedRecord.toList <+: text.toList
      · obtain ⟨more, hmore⟩ := hclosed
        rw [← hmore] at hbegins
        have hafter := (List.prefix_append_right_inj _).1 hbegins
        rcases Text.prefix_append_cases hafter with hfeeds | ⟨others, rfl, hothers_begins⟩
        · -- The text ends before the next record.
          obtain rfl : text = first.closedRecord ++ (String.ofList more ++ "") := by
            apply String.toList_injective
            simp [← hmore]
          have hread := @foldl_closed first hfirst loading hblock (String.ofList more)
            (by rwa [String.toList_ofList]) "" fun hne => absurd rfl hne
          refine ⟨[first], notes, rfl, by rw [hread]; rfl, by rw [hread]; rfl, ?_⟩
          intro before note after heq
          cases before with
          | nil =>
              obtain ⟨rfl, -⟩ := List.cons.inj heq
              simp [hempty]
          | cons other before =>
              obtain ⟨rfl, -⟩ := List.cons.inj heq
              have hthree : ("\n\n\n" : String).toList.length = 3 := rfl
              have hlength := hfeeds.length_le
              refine ⟨fun hlt => by simp at hlt, fun hlong => absurd hlong (hfew ?_ before note)⟩
              simp only [String.toList_append, List.length_append, String.toList_ofList]
              simp
              omega
        · -- The text goes on with the other records.
          obtain rfl : text = first.closedRecord ++ ("\n\n\n" ++ String.ofList others) := by
            apply String.toList_injective
            simp [← hmore]
          have hread := foldl_closed hfirst loading hblock List.prefix_rfl (String.ofList others)
            fun _ => rfl
          obtain ⟨front, rest, rfl, hstore, hids, hreached⟩ := @ih hothers
            { loading with
              store := loading.store.restore first
              supply := loading.supply.afterBlank
              ids := first.id :: loading.ids } hblock
            (String.ofList others) (by simpa using hothers_begins)
          refine ⟨first :: front, rest, rfl, by rw [hread, hstore]; rfl, by rw [hread, hids]; simp, ?_⟩
          intro before note after heq
          cases before with
          | nil =>
              obtain ⟨rfl, -⟩ := List.cons.inj heq
              simp [hempty]
          | cons other before =>
              obtain ⟨rfl, hafter⟩ := List.cons.inj heq
              have hbefore := hreached before note after hafter
              rw [records_of_cons hfirst]
              simp only [String.toList_append, List.append_assoc,
                List.prefix_append_right_inj] at hbefore ⊢
              simpa using hbefore
      · rcases Text.prefix_append_cases hbegins with hbegun | ⟨more, hmore, -⟩
        · have hne : text ≠ first.closedRecord := by
            rintro rfl
            exact hclosed List.prefix_rfl
          obtain ⟨hstore, hids⟩ := Loading.foldl_begun hfirst loading hblock hbegun hne
          refine ⟨[], first :: notes, rfl, hstore, hids, fun before note after heq => ?_⟩
          cases before with
          | nil =>
              obtain ⟨rfl, -⟩ := List.cons.inj heq
              simpa [hempty] using hclosed
          | cons other before =>
              obtain ⟨rfl, -⟩ := List.cons.inj heq
              have hlength := hbegun.length_le
              refine ⟨fun hlt => by simp at hlt, fun hlong => absurd hlong (hfew ?_ before note)⟩
              omega
        · exact absurd ⟨more, hmore.symm⟩ hclosed

/-- A text that breaks off in the header has no note. -/
theorem foldl_header_begun (store : Store) {text : String}
    (hbegins : text.toList <+: store.header.toList) (loading : Loading)
    (hblock : loading.block = none) :
    ((Text.lines text).foldl Loading.step loading).store.notes = loading.store.notes ∧
      ((Text.lines text).foldl Loading.step loading).ids = loading.ids := by
  obtain ⟨parts, hparts, hheader⟩ : ∃ parts : List String,
      parts = [Record.line exportClockWord (Decimal.write store.exportClock),
        Record.line importClockWord (Decimal.write store.importClock), ""] ∧
        store.header = Text.join "\n" parts := by
    refine ⟨_, rfl, ?_⟩
    rw [Text.join_cons (by simp), Text.join_cons (by simp)]
    simp [header, Text.join, String.append_assoc]
  rw [hheader] at hbegins
  obtain ⟨front, part, rest, begun, hsplit, hbegun, rfl⟩ :=
    Text.prefix_join (by simp [hparts]) hbegins
  have hbreak {word : String} (hword : '\n' ∉ word.toList ∧ '\r' ∉ word.toList) (clock : Int) :=
    Record.line_no_break hword (Record.write_no_break clock)
  have hline {word : String} (hword : word.toList.head? ≠ some 'T') (hsome : word ≠ "")
      (value : String) : ¬ Record.opening.toList <+: (Record.line word value).toList := by
    have hopening : Record.opening.toList = 'T' :: "ASK-BEGIN".toList := rfl
    rw [Record.line_toList, hopening]
    cases hchars : word.toList with
    | nil => exact absurd (String.toList_injective hchars) hsome
    | cons first more =>
        rw [List.cons_append, List.cons_prefix_cons]
        rintro ⟨rfl, -⟩
        exact hword (by rw [hchars]; rfl)
  have hopening : ∀ part ∈ parts, ('\n' ∉ part.toList ∧ '\r' ∉ part.toList) ∧
      ¬ Record.opening.toList <+: part.toList := by
    rw [hparts]
    simp only [List.mem_cons, List.not_mem_nil, or_false, forall_eq_or_imp, forall_eq]
    exact ⟨⟨hbreak (by decide) _, hline (by decide) (by decide) _⟩,
      ⟨hbreak (by decide) _, hline (by decide) (by decide) _⟩, by decide⟩
  rw [hsplit] at hopening
  have hpart := hopening part (by simp)
  rw [Text.lines_join_begun (fun text hmem => (hopening text (by simp [hmem])).1.1)
    (fun text hmem => Text.drop_return_of_not_mem (hopening text (by simp [hmem])).1.2)
    fun hfeed => hpart.1.1 (hbegun.subset hfeed)]
  refine (Loading.foldl_between _ (fun line hmem => ?_) loading hblock).2
  rintro rfl
  rcases List.mem_append.1 hmem with hmem | hmem
  · exact (hopening _ (by simp [hmem])).2 List.prefix_rfl
  · split at hmem
    · simp at hmem
    · obtain rfl := List.mem_singleton.1 hmem
      exact hpart.2 hbegun

/-- A beginning of the text of a store that has got to the end of the closing line of a note. -/
def ClosedIn (store : Store) (note : Note) (text : String) : Prop :=
  ∃ before after, store.all = before ++ note :: after ∧
    (store.textOf before ++ note.closedRecord).toList <+: text.toList

variable {store : Store}

/-- What is read of a beginning of the text of a store: the first notes, up to the last whose closing
line it has reached. -/
theorem read_cut_off_eq (hstorable : store.Storable) (reader : Store) (htouched : reader.touched = ∅)
    (supply : Supply) {text : String} (hbegins : text.toList <+: store.text.toList) :
    ∃ front rest, store.all = front ++ rest ∧
      (reader.read supply text).1.notes = overlay reader.notes front ∧
      (reader.read supply text).2.2 = front.map Note.id ∧
      ∀ before note after, store.all = before ++ note :: after →
        (before.length < front.length ↔
          (store.textOf before ++ note.closedRecord).toList <+: text.toList) := by
  rw [Store.text, text_of_eq, String.toList_append] at hbegins
  by_cases hheader : store.header.toList <+: text.toList
  · obtain ⟨more, hmore⟩ := hheader
    obtain rfl : text = store.header ++ String.ofList more := by
      apply String.toList_injective
      simp [← hmore]
    rw [← hmore] at hbegins
    have hrecords := (List.prefix_append_right_inj _).1 hbegins
    obtain ⟨front, rest, hall, hstore, hids, hreached⟩ :=
      @foldl_cut_off store.all hstorable.mem_all
        ⟨reader.withClocks store.exportClock store.importClock, supply, none, []⟩ rfl
        (String.ofList more) (by simpa using hrecords)
    have hread : (reader.read supply (store.header ++ String.ofList more)).1 =
        front.foldl restore (reader.withClocks store.exportClock store.importClock) ∧
        (reader.read supply (store.header ++ String.ofList more)).2.2 = front.map Note.id := by
      unfold read
      rw [lines_header, List.foldl_append,
        foldl_header store hstorable.export_range hstorable.import_range _ rfl]
      exact ⟨hstore, (congrArg List.reverse hids).trans (by simp)⟩
    refine ⟨front, rest, hall, ?_, hread.2, fun before note after heq => ?_⟩
    · rw [hread.1, foldl_restore_eq front
        (reader.withClocks store.exportClock store.importClock) htouched]
      rfl
    · rw [hreached before note after heq, text_of_eq]
      simp only [String.toList_append, List.append_assoc, List.prefix_append_right_inj]
  · have hbegun : text.toList <+: store.header.toList := by
      rcases Text.prefix_append_cases hbegins with hbegun | ⟨more, hmore, -⟩
      · exact hbegun
      · exact absurd ⟨more, hmore.symm⟩ hheader
    obtain ⟨hnotes, hids⟩ := foldl_header_begun store hbegun ⟨reader, supply, none, []⟩ rfl
    refine ⟨[], store.all, rfl, hnotes, congrArg List.reverse hids, fun before note after _ =>
      ⟨fun hlt => by simp at hlt, fun hlong => absurd ?_ hheader⟩⟩
    rw [text_of_eq] at hlong
    simp only [String.toList_append, List.append_assoc] at hlong
    exact (List.prefix_append _ _).trans hlong

/-- The entries of a keyed store are its notes under their ids. -/
theorem Keyed.toList_eq (h : store.Keyed) :
    store.notes.toList = store.all.map fun note => (note.id, note) := by
  rw [all, values_eq_map_toList, List.map_map]
  conv_lhs => rw [← List.map_id store.notes.toList]
  apply List.map_congr_left
  rintro ⟨id, note⟩ hmem
  have hid := h id note (Std.ExtTreeMap.mem_toList_iff_getElem?_eq_some.1 hmem)
  simp [hid]

/-- Notes with different ids that are put into nothing are found under their ids, with their defaults,
and nothing else is. -/
theorem get_overlay_empty (hnodup : (notes.map Note.id).Nodup) {id : String} {found : Note} :
    (overlay ∅ notes)[id]? = some found ↔
      ∃ note ∈ notes, note.id = id ∧ note.withDefaults = found := by
  by_cases hmem : id ∈ notes.map Note.id
  · obtain ⟨note, hnote, rfl⟩ := List.mem_map.1 hmem
    rw [get_overlay_of_mem hnodup hnote, Option.some.injEq]
    refine ⟨fun heq => ⟨note, hnote, rfl, heq⟩, fun ⟨other, hother, hid, heq⟩ => ?_⟩
    rw [← heq, List.inj_on_of_nodup_map hnodup hother hnote hid]
  · rw [get_overlay_of_not_mem hmem]
    refine ⟨fun hsome => by simp at hsome, fun ⟨note, hnote, hid, _⟩ => absurd ?_ hmem⟩
    exact hid ▸ List.mem_map_of_mem hnote

/-- Notes with their defaults and different ids that are put into nothing are found under their ids,
and nothing else is. -/
theorem get_overlay_empty_iff (hnodup : (notes.map Note.id).Nodup)
    (hdefaults : ∀ note ∈ notes, note.withDefaults = note) {id : String} {note : Note} :
    (overlay ∅ notes)[id]? = some note ↔ note ∈ notes ∧ note.id = id := by
  rw [get_overlay_empty hnodup]
  constructor
  · rintro ⟨found, hfound, hid, rfl⟩
    rw [hdefaults found hfound]
    exact ⟨hfound, hid⟩
  · rintro ⟨hnote, hid⟩
    exact ⟨note, hnote, hid, hdefaults note hnote⟩

/-- The first notes of a keyed store, put into nothing, lie in their order. -/
theorem values_overlay_cut_off (hkeyed : store.Keyed)
    (hdefaults : ∀ note ∈ store.all, note.withDefaults = note) {front rest : List Note}
    (hall : store.all = front ++ rest) : (overlay ∅ front).values = front := by
  let before (first second : String × Note) : Prop := compare first.1 second.1 = .lt
  have hsorted (notes : Std.ExtTreeMap String Note) : notes.toList.Pairwise before :=
    Std.ExtTreeMap.ordered_keys_toList
  have hfront : (front.map fun note => (note.id, note)).Pairwise before := by
    have hstore := hsorted store.notes
    rw [hkeyed.toList_eq, hall, List.map_append] at hstore
    exact (List.pairwise_append.1 hstore).1
  have hdistinct : (front.map Note.id).Nodup := by
    have hstore := hkeyed.nodup_all
    rw [hall, List.map_append] at hstore
    exact hstore.of_append_left
  have hnodup {entries : List (String × Note)} (h : entries.Pairwise before) : entries.Nodup := by
    refine List.Pairwise.imp (fun {first second} (hlt : before first second) heq => ?_) h
    subst heq
    simp [before] at hlt
  have hmem (entry : String × Note) : entry ∈ (overlay ∅ front).toList ↔
      entry ∈ front.map fun note => (note.id, note) := by
    obtain ⟨id, note⟩ := entry
    rw [Std.ExtTreeMap.mem_toList_iff_getElem?_eq_some, get_overlay_empty_iff hdistinct
      fun note hnote => hdefaults note (by simp [hall, hnote])]
    constructor
    · rintro ⟨hnote, rfl⟩
      exact List.mem_map_of_mem hnote
    · intro hentry
      obtain ⟨found, hfound, heq⟩ := List.mem_map.1 hentry
      obtain ⟨rfl, rfl⟩ := Prod.mk.inj heq
      exact ⟨hfound, rfl⟩
  -- Both lists are in the order of the ids, so it is enough that they have the same entries.
  have hentries : (overlay ∅ front).toList = front.map fun note => (note.id, note) := by
    refine List.Perm.eq_of_pairwise (fun first second _ _ hlt hgt => ?_) (hsorted _) hfront
      ((List.perm_ext_iff_of_nodup (hnodup (hsorted _)) (hnodup hfront)).2 hmem)
    have hcontra := Std.OrientedCmp.gt_of_lt hlt
    rw [show compare second.1 first.1 = .lt from hgt] at hcontra
    cases hcontra
  rw [values_eq_map_toList, hentries, List.map_map]
  exact List.map_id front

/-- Of any beginning of the text of a store, exactly those notes are read into an empty store whose
closing lines it has reached, field by field and in the order of their ids; of the whole text the
clocks of the header as well. -/
theorem read_cut_off (hkeyed : store.Keyed) (hstorable : store.Storable) (path? : Option String)
    (supply : Supply) {text : String} (hbegins : text.toList <+: store.text.toList) :
    (({ path? := path? } : Store).read supply text).1.all <+: store.all ∧
      (({ path? := path? } : Store).read supply text).2.2 =
        (({ path? := path? } : Store).read supply text).1.all.map Note.id ∧
      (∀ id note, (({ path? := path? } : Store).read supply text).1.get? id = some note ↔
        store.get? id = some note ∧ store.ClosedIn note text) ∧
      (text = store.text →
        (({ path? := path? } : Store).read supply text).1.exportClock = store.exportClock ∧
          (({ path? := path? } : Store).read supply text).1.importClock = store.importClock) := by
  have hdefaults : ∀ note ∈ store.all, note.withDefaults = note :=
    fun note hmem => (hstorable.mem_all note hmem).with_defaults
  obtain ⟨front, rest, hall, hnotes, hids, hreached⟩ :=
    read_cut_off_eq hstorable { path? := path? } rfl supply hbegins
  have hvalues := values_overlay_cut_off hkeyed hdefaults hall
  have hread : (({ path? := path? } : Store).read supply text).1.all = front := by
    rw [all, hnotes]
    exact hvalues
  refine ⟨?_, ?_, fun id note => ?_, ?_⟩
  · rw [hread, hall]
    exact List.prefix_append _ _
  · rw [hids, hread]
  · have hdistinct : (front.map Note.id).Nodup := by
      have hstore := hkeyed.nodup_all
      rw [hall, List.map_append] at hstore
      exact hstore.of_append_left
    rw [get?, hnotes, get_overlay_empty_iff hdistinct fun note hnote =>
      hdefaults note (by simp [hall, hnote])]
    constructor
    · rintro ⟨hmem, rfl⟩
      obtain ⟨id, hfound⟩ := mem_all.1 (show note ∈ store.all by simp [hall, hmem])
      obtain rfl := hkeyed id note hfound
      obtain ⟨before, after, rfl⟩ := List.append_of_mem hmem
      have hsplit : store.all = before ++ note :: (after ++ rest) := by simp [hall]
      exact ⟨hfound, before, after ++ rest, hsplit,
        (hreached before note (after ++ rest) hsplit).1 (by simp)⟩
    · rintro ⟨hfound, before, after, hsplit, hclosed⟩
      have hlt := (hreached before note after hsplit).2 hclosed
      rw [hall] at hsplit
      rcases Block.append_cons_cases hsplit with ⟨more, hfront⟩ | ⟨more, hbefore, -⟩
      · exact ⟨by simp [hfront], hkeyed id note hfound⟩
      · rw [hbefore, List.length_append] at hlt
        omega
  · rintro rfl
    rw [Store.text, read_text_of store hstorable.mem_all hstorable.export_range
      hstorable.import_range, foldl_restore_eq store.all _ rfl]
    exact ⟨rfl, rfl⟩

/-- A note for an example: its body has the line that closes the record of the other. -/
def short : Note where
  id := "i"
  name := "n"
  folder := "f"
  tags := ∅
  body := "TASK-END ii"
  format := .plain
  created := ""
  changed := ""
  due := ""
  reminderDismissed := false
  shareToken := ""
  version := 2
  exportVersion := -1
  delimiter := "d"

/-- Another note for an example: its id begins with that of the first. -/
def long : Note :=
  { short with id := "ii" }

/-- A store for an example. -/
def nested : Store :=
  (({} : Store).restore short).restore long

/-- The text of the store for an example, broken off four characters before its end: in the id of the
last closing line. -/
def nestedBegun : String :=
  String.ofList (nested.text.toList.take (nested.text.length - 4))

/-- Of a text that breaks off in the last id the notes before it are read. -/
theorem read_cut_off_nested :
    nestedBegun.toList <+: nested.text.toList ∧
      (({} : Store).read .tally nestedBegun).1.all <+: nested.all ∧
      (({} : Store).read .tally nestedBegun).2.2 =
        (({} : Store).read .tally nestedBegun).1.all.map Note.id ∧
      (∀ id note, (({} : Store).read .tally nestedBegun).1.get? id = some note ↔
        nested.get? id = some note ∧ nested.ClosedIn note nestedBegun) ∧
      (nestedBegun = nested.text →
        (({} : Store).read .tally nestedBegun).1.exportClock = nested.exportClock ∧
          (({} : Store).read .tally nestedBegun).1.importClock = nested.importClock) := by
  have hkeyed : nested.Keyed := ((keyed_of_empty rfl).restore _).restore _
  have hstorable : nested.Storable := by decide +kernel
  have hbegins : nestedBegun.toList <+: nested.text.toList := by
    rw [nestedBegun, String.toList_ofList]
    exact List.take_prefix _ _
  exact ⟨hbegins, read_cut_off hkeyed hstorable none .tally hbegins⟩

end Store

end Notekeeper
