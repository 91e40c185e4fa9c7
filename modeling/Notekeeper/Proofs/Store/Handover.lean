import Notekeeper.Proofs.Note.Refusal
import Notekeeper.Proofs.Store.Damage

/-!
# Handing over a record

A record in a text is looked at twice: a block collects its lines until one closes it, and the reader
of records reads the note from these lines, joined and cut into lines again. Both keep an account of
the id and of the body. `Store.read_as_scanned` says that the accounts are the same in a text without
carriage returns. Line by line the block and the reader are in step (`Block.InStep.step`), so the
reader takes the id with which the record was closed and finds the body closed. What is left to refuse
a record for is a `Record.Flaw`.
-/

namespace Notekeeper

namespace Record

/-! ## What a reader and some lines tell -/

/-- The id that a reader has read. -/
def Reader.id? (reader : Reader) : Option String :=
  if .id ∈ reader.seen then some reader.note.id else none

/-- The delimiter of the body that a reader is in. -/
def Reader.openBody? (reader : Reader) : Option String :=
  match reader.body with
  | .open _ => some reader.note.delimiter
  | _ => none

/-- Outside the body a reader has no delimiter. -/
theorem Reader.open_body_eq_none {reader : Reader} (h : ∀ lines, reader.body ≠ .open lines) :
    reader.openBody? = none := by
  unfold Reader.openBody?
  split
  next lines hopen => exact absurd hopen (h lines)
  next => rfl

/-- The id that some lines tell: that of the first line that gives one. -/
def idTold? (lines : List String) : Option String :=
  (firstLine? lines .id).map fun text => (Entry.ofLine text).word

/-- An id is told by the first part of some lines that tells one. -/
theorem id_told_append (front rest : List String) :
    idTold? (front ++ rest) = (idTold? front).or (idTold? rest) := by
  simp only [idTold?, firstLine?, List.find?_append]
  cases front.find? Key.id.isGivenBy <;> rfl

/-- A line tells an id if it has the keyword of the id and a word that is not empty. -/
theorem id_told_single (text : String) :
    idTold? [text] =
      if (Entry.ofLine text).key = Key.id.word ∧ (Entry.ofLine text).word ≠ "" then
        some (Entry.ofLine text).word
      else none := by
  rw [idTold?, first_line_cons]
  by_cases hkey : (Entry.ofLine text).key = Key.id.word <;>
    by_cases hword : (Entry.ofLine text).word = "" <;>
      simp [Key.isGivenBy, firstLine?, hkey, hword]

/-- A line without the keyword of the id tells none. -/
theorem id_told_of_key_ne {text : String} (h : (Entry.ofLine text).key ≠ Key.id.word) :
    idTold? [text] = none := by
  rw [id_told_single, if_neg fun hgiven => h hgiven.1]

/-- A line that opens a body tells no id. -/
theorem id_told_of_opens {text : String} (h : opensBody text = true) : idTold? [text] = none := by
  have hkey : (Entry.ofLine text).key = bodyOpening := by simpa [opensBody] using h
  refine id_told_of_key_ne ?_
  rw [hkey]
  decide

/-- Outside the body a reader takes the id that a line tells, unless it has one. -/
theorem Reader.Advances.id_outside {reader next : Reader} {text : String}
    (h : reader.Advances text next) (hbody : ∀ lines, reader.body ≠ .open lines) :
    next.id? = reader.id?.or (idTold? [text]) := by
  cases h with
  | collected lines hopen => exact absurd hopen (hbody lines)
  | closed lines hopen => exact absurd hopen (hbody lines)
  | opened _ hkey =>
      have hopens : opensBody text = true := by simp [opensBody, hkey]
      rw [id_told_of_opens hopens, Option.or_none]
      rfl
  | given key note _ hkey hseen hid hread =>
      have hgiven := (Key.read_frame hread).2.2
      by_cases hthis : key = .id
      · subst hthis
        have hunknown : reader.id? = none := if_neg hseen
        rw [hunknown, id_told_single, if_pos ⟨hkey, hid rfl⟩]
        simp [Reader.id?, hgiven]
      · have hother : (Entry.ofLine text).key ≠ Key.id.word := by
          rw [hkey]
          cases key <;> first | decide | exact absurd rfl hthis
        rw [if_neg hthis] at hgiven
        rw [id_told_of_key_ne hother, Option.or_none]
        simp [Reader.id?, Ne.symm hthis, hgiven]
  | passed _ hkeys =>
      by_cases hkey : (Entry.ofLine text).key = Key.id.word
      · rcases hkeys .id hkey with hseen | ⟨-, hempty⟩
        · simp [Reader.id?, hseen]
        · simp [id_told_single, hempty]
      · rw [id_told_of_key_ne hkey, Option.or_none]

end Record

namespace Block

open Record

variable {block : Block} {reader next : Reader}

/-! ## The block and the reader of its record in step -/

/-- A block of which no line has been read. -/
def unread : Block := ⟨[], none, none, false⟩

/-- A line outside the body may give the id or open the body. -/
theorem step_outside (hbody : block.openBody = none) (line : String) :
    (block.step line).1 =
      { lines := line :: block.lines
        id := block.id.or (idTold? [line])
        openBody :=
          if opensBody line = true ∧ block.bodyClosed = false then some (Entry.ofLine line).word
          else none
        bodyClosed := block.bodyClosed } := by
  have hother : bodyOpening ≠ Key.id.word := by decide
  have hfilter : (Entry.ofLine line).word?.filter (fun word => !word.isEmpty) =
      if (Entry.ofLine line).word ≠ "" then some (Entry.ofLine line).word else none := by
    unfold Entry.word
    cases (Entry.ofLine line).word? with
    | none => rfl
    | some word => by_cases hempty : word = "" <;> simp [hempty]
  unfold step
  simp only [hbody, id_told_single, opensBody, beq_iff_eq, Bool.not_eq_true']
  cases hid : block.id with
  | none =>
      by_cases hkey : (Entry.ofLine line).key = Key.id.word
      · simp [hkey, hfilter, hother.symm]
      · by_cases hopens : (Entry.ofLine line).key = bodyOpening ∧ block.bodyClosed = false
        · simp [hopens, hother]
        · simp [hkey, hopens]
  | some id =>
      by_cases hopens : (Entry.ofLine line).key = bodyOpening ∧ block.bodyClosed = false
      · simp [hopens]
      · simp [hopens]

/-- A line goes to the block. -/
theorem step_lines (block : Block) (line : String) :
    (block.step line).1.lines = line :: block.lines := by
  cases hbody : block.openBody with
  | none => rw [step_outside hbody]
  | some delimiter =>
      simp only [step, hbody]
      split <;> rfl

/-- What a block and a reader have in common that have seen the same lines. -/
structure InStep (block : Block) (reader : Reader) : Prop where
  id : block.id = reader.id?
  openBody : block.openBody = reader.openBody?
  bodyClosed : block.bodyClosed = true ↔ reader.body = .closed

/-- A block and a reader are in step before the first line. -/
theorem in_step_unread (blank : Note) : unread.InStep ⟨blank, [], .awaited⟩ :=
  ⟨rfl, rfl, by simp [unread]⟩

/-- In a body the block has it open, too. -/
theorem InStep.inside (h : block.InStep reader) {lines : List String}
    (hbody : reader.body = .open lines) :
    block.openBody = some reader.note.delimiter ∧ block.bodyClosed = false := by
  refine ⟨by rw [h.openBody, Reader.openBody?, hbody], ?_⟩
  cases hclosed : block.bodyClosed with
  | false => rfl
  | true => cases hbody.symm.trans (h.bodyClosed.1 hclosed)

/-- Outside the body the block has none open. -/
theorem InStep.outside (h : block.InStep reader) (hbody : ∀ lines, reader.body ≠ .open lines) :
    block.openBody = none :=
  h.openBody.trans (Reader.open_body_eq_none hbody)

/-- A line keeps a block and a reader in step. -/
theorem InStep.step (h : block.InStep reader) {line : String}
    (hstep : reader.step? line = some next) : (block.step line).1.InStep next := by
  -- The ids agree by `Reader.Advances.id_outside`; the cases differ in the body.
  cases Reader.advances_of_step hstep with
  | collected lines hbody hstays =>
      obtain ⟨hopen, hunfinished⟩ := h.inside hbody
      simp only [Block.step, hopen, hstays]
      exact ⟨h.id, rfl, by simp [hunfinished]⟩
  | closed lines hbody hcloses =>
      obtain ⟨hopen, -⟩ := h.inside hbody
      simp only [Block.step, hopen, hcloses]
      exact ⟨h.id, rfl, by simp⟩
  | opened hbody hkey =>
      have houtside : ∀ lines, reader.body ≠ .open lines := by simp [hbody]
      have hopens : opensBody line = true := by simp [opensBody, hkey]
      have hunfinished : block.bodyClosed = false := by
        cases hflag : block.bodyClosed with
        | false => rfl
        | true => cases hbody.symm.trans (h.bodyClosed.1 hflag)
      rw [step_outside (h.outside houtside), if_pos ⟨hopens, hunfinished⟩]
      refine ⟨?_, rfl, by simp [hunfinished]⟩
      rw [(Reader.advances_of_step hstep).id_outside houtside, h.id]
  | given key note hbody hkey hseen hid hread =>
      have hopens : ¬opensBody line = true := by
        rw [opensBody, hkey, beq_iff_eq]
        cases key <;> decide
      have hnone : Reader.openBody? { reader with note := note, seen := key :: reader.seen } = none :=
        Reader.open_body_eq_none hbody
      rw [step_outside (h.outside hbody), if_neg fun hboth => hopens hboth.1]
      refine ⟨?_, hnone.symm, h.bodyClosed⟩
      rw [(Reader.advances_of_step hstep).id_outside hbody, h.id]
  | passed hbody hkeys hopens =>
      have hkept : ¬(opensBody line = true ∧ block.bodyClosed = false) := by
        rintro ⟨hopening, hunfinished⟩
        have hkey : (Entry.ofLine line).key = bodyOpening := by simpa [opensBody] using hopening
        cases hstate : reader.body with
        | awaited => exact hopens hkey hstate
        | «open» lines => exact hbody lines hstate
        | closed =>
            rw [h.bodyClosed.2 hstate] at hunfinished
            cases hunfinished
      rw [step_outside (h.outside hbody), if_neg hkept]
      refine ⟨?_, (Reader.open_body_eq_none hbody).symm, h.bodyClosed⟩
      rw [(Reader.advances_of_step hstep).id_outside hbody, h.id]

/-! ## A block line by line -/

/-- The block with some more lines, whether or not they close it. -/
def scan (block : Block) (lines : List String) : Block :=
  lines.foldl (fun block line => (block.step line).1) block

/-- Lines are collected in stretches. -/
theorem scan_append (block : Block) (front rest : List String) :
    block.scan (front ++ rest) = (block.scan front).scan rest :=
  List.foldl_append

/-- Lines that do not close the block are collected. -/
theorem scan_of_run {lines : List String} {final : Block} (h : block.run? lines = some final) :
    block.scan lines = final := by
  induction lines generalizing block with
  | nil =>
      obtain rfl : block = final := by simpa [run?] using h
      rfl
  | cons line lines ih =>
      simp only [run?, List.foldlM_cons, Option.bind_eq_bind, Option.bind_eq_some_iff] at h
      obtain ⟨next, hstep, hrest⟩ := h
      split at hstep
      next => cases hstep
      next =>
        obtain rfl := Option.some.inj hstep
        exact ih hrest

/-- The lines go to the block. -/
theorem scan_lines (block : Block) (lines : List String) :
    (block.scan lines).lines = lines.reverse ++ block.lines := by
  induction lines generalizing block with
  | nil => rfl
  | cons line lines ih =>
      have hrest := ih (block.step line).1
      rw [step_lines] at hrest
      simpa [scan] using hrest

/-- Lines keep a block and a reader in step. -/
theorem InStep.run (h : block.InStep reader) {lines : List String}
    (hrun : reader.run? lines = some next) : (block.scan lines).InStep next := by
  induction lines generalizing block reader with
  | nil =>
      obtain rfl : reader = next := by simpa [Reader.run?] using hrun
      exact h
  | cons line lines ih =>
      simp only [Reader.run?, List.foldlM_cons, Option.bind_eq_bind, Option.bind_eq_some_iff] at hrun
      obtain ⟨middle, hstep, hrest⟩ := hrun
      exact ih (h.step hstep) hrest

/-- Lines outside the body tell the id, if none of them opens a body. -/
theorem scan_outside (lines : List String) (hbody : block.openBody = none)
    (h : block.bodyClosed = true ∨ ∀ line ∈ lines, opensBody line = false) :
    block.scan lines =
      { block with
        lines := lines.reverse ++ block.lines
        id := block.id.or (idTold? lines) } := by
  induction lines generalizing block with
  | nil => simp [scan, idTold?, firstLine?]
  | cons line lines ih =>
      have hpassed : ¬(opensBody line = true ∧ block.bodyClosed = false) := by
        rintro ⟨hopens, hunfinished⟩
        rcases h with hclosed | hlines
        · rw [hclosed] at hunfinished
          cases hunfinished
        · rw [hlines line (by simp)] at hopens
          cases hopens
      have hstep : (block.step line).1 =
          { block with lines := line :: block.lines, id := block.id.or (idTold? [line]) } := by
        rw [step_outside hbody, if_neg hpassed, hbody]
      have hrest := @ih (block.step line).1 (by rw [hstep]; exact hbody) (by
        rw [hstep]
        exact h.imp_right fun hlines other hmem => hlines other (List.mem_cons_of_mem _ hmem))
      have htold := id_told_append [line] lines
      rw [List.singleton_append] at htold
      rw [scan, List.foldl_cons]
      refine hrest.trans ?_
      rw [hstep, htold]
      simp [Option.or_assoc]

/-- A body that has been opened takes the lines that do not close it. -/
theorem scan_open {opening : String} {rest : List String} (hopens : opensBody opening = true)
    (hrest : ∀ text ∈ rest, staysOpen opening text = true) (hbody : block.openBody = none)
    (hclosed : block.bodyClosed = false) :
    block.scan (opening :: rest) =
      { block with
        lines := rest.reverse ++ opening :: block.lines
        openBody := some (Entry.ofLine opening).word } := by
  have hnone := id_told_of_opens hopens
  have hstep : (block.step opening).1 =
      { block with
        lines := opening :: block.lines
        openBody := some (Entry.ofLine opening).word } := by
    rw [step_outside hbody, if_pos ⟨hopens, hclosed⟩, hnone, Option.or_none]
  have hinside := run_body rest (block.step opening).1 (Entry.ofLine opening).word (by rw [hstep])
    fun text hmem => by simpa [staysOpen] using hrest text hmem
  have hscan := scan_of_run hinside
  rw [hstep] at hscan
  rw [scan, List.foldl_cons, hstep]
  exact hscan

/-- A body block is collected whole. -/
theorem scan_body_block {body : BodyBlock} {before : List String} (h : body.Begins before)
    (hbody : block.openBody = none) (hclosed : block.bodyClosed = false) :
    block.scan body.all = ⟨body.all.reverse ++ block.lines, block.id, none, true⟩ := by
  have hcloses : (Entry.ofLine body.closing).closesBody (Entry.ofLine body.opening).word = true := by
    simpa [staysOpen] using h.closing
  rw [BodyBlock.all, ← List.cons_append, scan_append, scan_open h.opening h.lines hbody hclosed]
  simp [scan, step, hcloses]

/-- A record begins with the line that opens it. -/
theorem scan_opening (lines : List String) :
    unread.scan (Record.opening :: lines) = opened.scan lines := by
  have hopening : (unread.step Record.opening).1 = opened := by decide
  rw [scan, List.foldl_cons, hopening]
  rfl

/-- The lines of a block are read again, if they have no line break and the last is not empty. -/
theorem lines_text_scan {front : List String} {last : String}
    (hbreak : ∀ line ∈ front ++ [last], '\n' ∉ line.toList ∧ '\r' ∉ line.toList)
    (hne : last ≠ "") :
    Text.lines (unread.scan (front ++ [last])).text = front ++ [last] := by
  have hlines : (unread.scan (front ++ [last])).lines.reverse = front ++ [last] := by
    simp [scan_lines, unread]
  rw [text, hlines]
  refine Text.lines_join (fun line hmem => ?_) (fun line hmem => ?_) ?_ hne
  · exact (hbreak line (List.mem_append_left _ hmem)).1
  · exact Text.drop_return_of_not_mem (hbreak line (List.mem_append_left _ hmem)).2
  · exact (hbreak last (by simp)).1

/-- When no body is open, the id is told by the lines outside the body block, and without a body block
no body has been opened. -/
theorem scan_parts (lines : List String) (hopen : (unread.scan lines).openBody = none) :
    (unread.scan lines).id = idTold? (outside lines) ∧
      (bodyBlock? lines = none → ∀ line ∈ lines, opensBody line = false) := by
  unfold outside bodyBlock?
  cases hpart : part? lines with
  | some parts =>
      obtain ⟨body, out⟩ := parts
      obtain ⟨before, after, rfl, rfl, hbegins⟩ := part_eq_some hpart
      refine ⟨?_, fun hnone => by cases hnone⟩
      rw [scan_append, scan_append, scan_outside before rfl (.inr hbegins.before),
        scan_body_block hbegins rfl rfl, scan_outside after rfl (.inl rfl), Option.elim_some,
        id_told_append]
      rfl
  | none =>
      rcases part_eq_none hpart with hlines | ⟨before, opening, rest, rfl, hbefore, hopens, hrest⟩
      · refine ⟨?_, fun _ => hlines⟩
        rw [scan_outside lines rfl (.inr hlines)]
        rfl
      · rw [scan_append, scan_outside before rfl (.inr hbefore), scan_open hopens hrest rfl rfl]
          at hopen
        cases hopen

end Block

namespace Loading

/-- While a record is open, it consists of the lines since the last that opened one. -/
theorem opened_since (front : List String) {loading : Loading} (hstart : loading.block = none)
    {opened : Block} (h : (front.foldl step loading).block = some opened) :
    ∃ before inner, front = before ++ Record.opening :: inner ∧
      (before.foldl step loading).block = none ∧ Block.opened.run? inner = some opened := by
  induction front using List.reverseRecOn generalizing opened with
  | nil =>
      rw [List.foldl_nil, hstart] at h
      cases h
  | append_singleton front line ih =>
      rw [List.foldl_concat] at h
      cases hblock : (front.foldl step loading).block with
      | none =>
          by_cases hline : line = Record.opening
          · subst hline
            rw [step_opening _ hblock] at h
            exact ⟨front, [], rfl, hblock, congrArg some (Option.some.inj h)⟩
          · have hpassed := (foldl_between [line] (by simpa using hline) _ hblock).1
            rw [List.foldl_cons, List.foldl_nil, h] at hpassed
            cases hpassed
      | some last =>
          obtain ⟨before, inner, rfl, hbefore, hrun⟩ := ih hblock
          simp only [step, hblock] at h
          split at h
          next after hstep =>
            obtain rfl := Option.some.inj h
            refine ⟨before, inner ++ [line], by simp, hbefore, ?_⟩
            rw [Block.run_append, hrun]
            simp [Block.run?, hstep]
          next after hstep =>
            rw [(restore_notes _ after).1] at h
            cases h

/-- While a record is open, its block has the lines since the one that opened it. -/
theorem block_since {loading : Loading} {before inner front : List String} {opened : Block}
    (hbefore : (before.foldl step loading).block = none)
    (hrun : Block.opened.run? inner = some opened) (hfront : front <+: inner) :
    ((before ++ Record.opening :: front).foldl step loading).block =
      some (Block.unread.scan (Record.opening :: front)) := by
  obtain ⟨rest, rfl⟩ := hfront
  rw [Block.run_append] at hrun
  obtain ⟨middle, hmiddle, -⟩ := Option.bind_eq_some_iff.1 hrun
  rw [List.foldl_append, List.foldl_cons, step_opening _ hbefore,
    foldl_of_run front _ Block.opened middle rfl hmiddle, Block.scan_opening,
    Block.scan_of_run hmiddle]

/-- A line that brings an id closes the block that was open, and the id is that of the note read from
it. -/
theorem step_of_mem_ids {loading : Loading} {line id : String} (hbefore : id ∉ loading.ids)
    (h : id ∈ (loading.step line).ids) :
    ∃ opened block note, loading.block = some opened ∧ opened.step line = (block, true) ∧
      Note.ofRecord? (Note.blank loading.supply) block.text = some note ∧ note.id = id := by
  unfold step at h
  split at h
  next =>
    have hsame : (loading.between line).ids = loading.ids := by
      unfold between
      dsimp only
      split_ifs <;> rfl
    exact absurd (hsame ▸ h) hbefore
  next opened hopen =>
    split at h
    next => exact absurd h hbefore
    next block hclose =>
      unfold restore at h
      dsimp only at h
      split at h
      next note hnote =>
        rcases List.mem_cons.1 h with rfl | hmem
        · exact ⟨opened, block, note, hopen, hclose, hnote, rfl⟩
        · exact absurd hmem hbefore
      next => exact absurd h hbefore

/-- An id is only read with a block that a line closes. -/
theorem restored_of_mem_ids (lines : List String) {loading : Loading} (hstart : loading.ids = [])
    {id : String} (h : id ∈ (lines.foldl step loading).ids) :
    ∃ front line rest opened block blank note, lines = front ++ line :: rest ∧
      (front.foldl step loading).block = some opened ∧ opened.step line = (block, true) ∧
      Note.ofRecord? blank block.text = some note ∧ note.id = id := by
  induction lines using List.reverseRecOn with
  | nil =>
      rw [List.foldl_nil, hstart] at h
      cases h
  | append_singleton lines last ih =>
      rw [List.foldl_concat] at h
      by_cases hbefore : id ∈ (lines.foldl step loading).ids
      · obtain ⟨front, line, rest, opened, block, blank, note, rfl, hread⟩ := ih hbefore
        exact ⟨front, line, rest ++ [last], opened, block, blank, note, by simp, hread⟩
      · -- The last line has brought the id, so it has closed a block.
        obtain ⟨opened, block, note, hopen, hclose, hnote, rfl⟩ := step_of_mem_ids hbefore h
        exact ⟨lines, last, [], opened, block, _, note, rfl, hopen, hclose, hnote, rfl⟩

end Loading

namespace Record

/-- What is wrong with the lines of a record that has been handed over and is refused. -/
inductive Flaw (lines : List String) : Prop where
  /-- No line outside the body gives a name. -/
  | name (h : firstLine? (outside lines) .name = none)
  /-- No line opens a body. -/
  | body (h : ∀ line ∈ lines, opensBody line = false)
  /-- The first line of a version has no number. -/
  | version (key : Key) (line : String) (hline : firstLine? (outside lines) key = some line)
      (h : key.Refuses line)

end Record

namespace Store

open Record

variable {store : Store} {supply : Supply} {text : String} {block : Block}

/-- A block is handed over while a text is read if a line of the text closes it: `Loading.restore` reads
it then. -/
def HandsOver (store : Store) (supply : Supply) (text : String) (block : Block) : Prop :=
  ∃ front line rest opened, Text.lines text = front ++ line :: rest ∧
    (front.foldl Loading.step ⟨store, supply, none, []⟩).block = some opened ∧
    opened.step line = (block, true)

/-- Only blocks that are handed over are read: each id that comes from a text is that of such a block's
note. -/
theorem HandsOver.of_mem_ids {id : String} (h : id ∈ (store.read supply text).2.2) :
    ∃ block blank note, store.HandsOver supply text block ∧
      Note.ofRecord? blank block.text = some note ∧ note.id = id := by
  obtain ⟨front, line, rest, opened, block, blank, note, hlines, hopen, hclose, hnote⟩ :=
    Loading.restored_of_mem_ids (Text.lines text) rfl (List.mem_reverse.1 h)
  exact ⟨block, blank, note, ⟨front, line, rest, opened, hlines, hopen, hclose⟩, hnote⟩

/-- A block that is handed over has the lines from one that opens a record to one that closes it. The
last line closes it with the id of the block, and no body is open. -/
theorem HandsOver.stands (h : store.HandsOver supply text block) :
    ∃ before inner last after id,
      Text.lines text = before ++ Record.opening :: inner ++ last :: after ∧
      block = Block.unread.scan (Record.opening :: inner ++ [last]) ∧
      (∀ front, front <+: inner →
        ((before ++ Record.opening :: front).foldl Loading.step ⟨store, supply, none, []⟩).block =
          some (Block.unread.scan (Record.opening :: front))) ∧
      (Entry.ofLine last).key = Record.closing ∧ (Entry.ofLine last).word? = some id ∧
      block.id = some id ∧ block.openBody = none := by
  obtain ⟨front, last, after, opened, hlines, hopen, hclose⟩ := h
  obtain ⟨before, inner, rfl, hbefore, hrun⟩ := Loading.opened_since front rfl hopen
  have hblock : (opened.step last).1 = block := by rw [hclose]
  obtain ⟨hbody, id, hid, hkey, hword⟩ :=
    Block.closes_cases (show (opened.step last).2 = true by rw [hclose])
  have hother : closing ≠ bodyOpening := by decide
  rw [Block.step_outside hbody] at hblock
  refine ⟨before, inner, last, after, id, hlines, ?_, fun front hfront => ?_, hkey, hword, ?_, ?_⟩
  · have hscan := Block.scan_of_run hrun
    rw [List.cons_append, Block.scan_opening, Block.scan_append, hscan, ← hblock,
      ← Block.step_outside hbody]
    rfl
  · exact Loading.block_since hbefore hrun hfront
  · rw [← hblock, hid]
    rfl
  · rw [← hblock]
    simp [opensBody, hkey, hother]

/-- Lines that tell an id and in which every body that is opened is closed are refused exactly for a
flaw. -/
theorem refused_iff_flaw {id : String} (htold : idTold? (outside (Text.lines text)) = some id)
    (hopens : bodyBlock? (Text.lines text) = none → ∀ line ∈ Text.lines text, opensBody line = false)
    (blank : Note) : Note.ofRecord? blank text = none ↔ Flaw (Text.lines text) := by
  have hgiven : firstLine? (outside (Text.lines text)) .id ≠ none := by
    intro hnone
    rw [idTold?, hnone] at htold
    cases htold
  rw [Note.of_record_eq_none_iff]
  constructor
  · rintro (hblock | hnone | hname | ⟨key, line, hline, hrefuses⟩)
    · exact .body (hopens hblock)
    · exact absurd hnone hgiven
    · exact .name hname
    · exact .version key line hline hrefuses
  · rintro (hname | hlines | ⟨key, line, hline, hrefuses⟩)
    · exact .inr (.inr (.inl hname))
    · exact .inl (body_block_eq_none hlines)
    · exact .inr (.inr (.inr ⟨key, line, hline, hrefuses⟩))

/-- How a block that is handed over is read. The record stands between `before` and the line `last`,
and has been closed with the id. -/
structure ReadAsScanned (store : Store) (supply : Supply) (text : String) (block : Block)
    (before inner : List String) (last id : String) : Prop where
  /-- The lines of the record stand in the text. -/
  stands : ∃ after, Text.lines text = before ++ Record.opening :: inner ++ last :: after
  /-- They are the lines that are read. -/
  lines : Text.lines block.text = Record.opening :: inner ++ [last]
  /-- The last one has the keyword and the id that close the record. -/
  ends : (Entry.ofLine last).key = closing ∧ (Entry.ofLine last).word? = some id
  /-- The first line outside the body that gives an id gives this one. -/
  tells : idTold? (outside (Text.lines block.text)) = some id
  /-- On the way the scanner and the reader are in step, unless the reader has stopped at a version
  that is not a number. -/
  inStep : ∀ front, front <+: inner → ∃ opened,
    ((before ++ Record.opening :: front).foldl Loading.step ⟨store, supply, none, []⟩).block =
        some opened ∧
      ∀ blank,
        (∀ reader, (Reader.mk blank [] .awaited).run? (Record.opening :: front) = some reader →
          opened.InStep reader) ∧
        ((Reader.mk blank [] .awaited).run? (Record.opening :: front) = none →
          ∃ line ∈ front, ∃ key : Key, (Entry.ofLine line).key = key.word ∧ key.Refuses line)
  /-- At the end no body is open, and the reader has the id. -/
  told : ∀ blank reader, (Reader.mk blank [] .awaited).run? (Text.lines block.text) = some reader →
    block.InStep reader ∧ reader.id? = some id ∧ reader.openBody? = none
  /-- A note is read under the id. -/
  read : ∀ blank note, Note.ofRecord? blank block.text = some note → note.id = id
  /-- Only a flaw makes the reader refuse the record. -/
  refused : ∀ blank, Note.ofRecord? blank block.text = none ↔ Flaw (Text.lines block.text)

/-- In a text without carriage returns every block that is handed over is read as it was scanned. -/
theorem read_as_scanned (hreturn : '\r' ∉ text.toList) (h : store.HandsOver supply text block) :
    ∃ before inner last id, ReadAsScanned store supply text block before inner last id := by
  obtain ⟨before, inner, last, after, id, hlines, hblock, hopened, hkey, hword, hid, hbody⟩ :=
    h.stands
  have hne : last ≠ "" := by
    rintro rfl
    exact absurd hkey (by decide)
  have hread : Text.lines block.text = Record.opening :: inner ++ [last] := by
    rw [hblock]
    refine Block.lines_text_scan (fun line hmem => Text.no_break_of_mem_lines hreturn ?_) hne
    rw [hlines]
    simp only [List.mem_append, List.mem_cons, List.not_mem_nil, or_false] at hmem ⊢
    tauto
  have htold : ∀ blank reader,
      (Reader.mk blank [] .awaited).run? (Text.lines block.text) = some reader →
        block.InStep reader ∧ reader.id? = some id ∧ reader.openBody? = none := by
    intro blank reader hrun
    have hstep := (Block.in_step_unread blank).run hrun
    rw [hread, ← hblock] at hstep
    exact ⟨hstep, hstep.id.symm.trans hid, hstep.openBody.symm.trans hbody⟩
  have hparts := Block.scan_parts (Record.opening :: inner ++ [last]) (hblock ▸ hbody)
  rw [← hblock, hid, ← hread] at hparts
  obtain ⟨htells, hopens⟩ := hparts
  refine ⟨before, inner, last, id, ⟨after, hlines⟩, hread, ⟨hkey, hword⟩, htells.symm,
    fun front hfront => ?_, htold, fun blank note hnote => ?_, refused_iff_flaw htells.symm hopens⟩
  · refine ⟨_, hopened front hfront, fun blank => ⟨fun reader hrun => ?_, fun hnone => ?_⟩⟩
    · exact (Block.in_step_unread blank).run hrun
    · have hopening : (Reader.mk blank [] .awaited).step? Record.opening =
          some (Reader.mk blank [] .awaited) := rfl
      rw [Reader.run?, List.foldlM_cons, hopening] at hnone
      exact Reader.refused_of_run_eq_none hnone
  · obtain ⟨reader, hrun, hfinish⟩ := Option.bind_eq_some_iff.1 hnote
    obtain ⟨hseen, rfl⟩ := Reader.finish_eq_some hfinish
    have hreaderId := (htold blank reader hrun).2.1
    rw [Reader.id?, if_pos hseen] at hreaderId
    exact Option.some.inj hreaderId

/-- With carriage returns the lines of a record need not be read as they were scanned. -/
example : Text.lines (Text.join "\n" ["TASK-ID a\r", "TASK-END a\r"]) =
    ["TASK-ID a", "TASK-END a\r"] := by
  decide +kernel

/-- The lines of a record for an example: ids that do not count, a body with markers in it, and markers
behind it. -/
def markedLines : List String :=
  ["TASK-BEGIN", "TASK-ID ", "TASK-ID a b", "TASK-ID c", "TASK-END c", "TASK-BODY-BEGIN D", "TASK-ID e",
    "TASK-BODY-BEGIN F", "TASK-END a", "TASK-BODY-END F", "TASK-BODY-END D", "TASK-BODY-BEGIN G",
    "TASK-BEGIN", "TASK-LAMPORT-TIMESTAMP 7", "TASK-NAME Plan"]

/-- The record with the markers is handed over, read as it was scanned, and found under its id. -/
theorem read_as_scanned_of_markers :
    let text := Text.join "\n" (markedLines ++ ["TASK-END a !"])
    let block := Block.unread.scan (markedLines ++ ["TASK-END a !"])
    '\r' ∉ text.toList ∧ HandsOver {} .tally text block ∧
      (∃ before inner last id, ReadAsScanned {} .tally text block before inner last id) ∧
      (Note.ofRecord? (Note.blank .tally) block.text).map Note.id = some "a" := by
  intro text block
  have hbreak : ∀ line ∈ markedLines ++ ["TASK-END a !"],
      '\n' ∉ line.toList ∧ '\r' ∉ line.toList := by
    decide +kernel
  have hreturn : '\r' ∉ text.toList := by
    intro hchar
    rcases Text.mem_join hchar with hfeed | ⟨line, hmem, hinside⟩
    · exact absurd hfeed (by decide)
    · exact (hbreak line hmem).2 hinside
  have hlines : Text.lines text = markedLines ++ ["TASK-END a !"] :=
    Text.lines_join (fun line hmem => (hbreak line (List.mem_append_left _ hmem)).1)
      (fun line hmem => Text.drop_return_of_not_mem (hbreak line (List.mem_append_left _ hmem)).2)
      (by decide) (by decide)
  have hhands : HandsOver {} .tally text block :=
    ⟨markedLines, "TASK-END a !", [], Block.unread.scan markedLines, hlines, by decide +kernel,
      by decide +kernel⟩
  have hread : Text.lines block.text = markedLines ++ ["TASK-END a !"] :=
    Block.lines_text_scan hbreak (by decide)
  have hid : (Note.ofRecord? (Note.blank .tally) block.text).map Note.id = some "a" := by
    rw [Note.ofRecord?, hread]
    decide +kernel
  exact ⟨hreturn, hhands, read_as_scanned hreturn hhands, hid⟩

end Store

end Notekeeper
