import Notekeeper.Proofs.Note.Reader
import Notekeeper.Proofs.Supply

/-!
# The first line of each key

What is read of a record is told by its body block, from the first line that opens a body to the next
line that closes it, and by the first line of each key outside this block (`Note.of_record_eq`). The
block may be read first, wherever it stands (`Reader.run_around`), and of the other lines each key
takes the first that gives it a value, whatever stands between them (`Reader.run_outside`), because
values of different keys can be put into a note in any order (`Key.read_comm`). So two texts that
agree in these lines are read alike (`Note.of_record_eq_of_first_lines`).
-/

namespace Notekeeper

namespace Record

/-! ## The parts of a text -/

/-- The lines that hold the body of a record. -/
structure BodyBlock where
  /-- The line that opens the body. -/
  opening : String
  lines : List String
  /-- The line that closes the body. -/
  closing : String
  deriving DecidableEq

/-- Whether a line opens a body. -/
def opensBody (text : String) : Bool :=
  (Entry.ofLine text).key == bodyOpening

/-- Whether a line leaves the body open that another line has opened. -/
def staysOpen (opening text : String) : Bool :=
  !(Entry.ofLine text).closesBody (Entry.ofLine opening).word

/-- The body block of some lines, and the lines outside it. The block begins with the first line that
opens a body and ends with the first line behind it that closes this body. -/
def part? (lines : List String) : Option (BodyBlock × List String) :=
  match lines.dropWhile fun text => !opensBody text with
  | [] => none
  | opening :: rest =>
      match rest.dropWhile (staysOpen opening) with
      | [] => none
      | closing :: after =>
          some (⟨opening, rest.takeWhile (staysOpen opening), closing⟩,
            (lines.takeWhile fun text => !opensBody text) ++ after)

/-- The body block of some lines, if they have one. -/
def bodyBlock? (lines : List String) : Option BodyBlock :=
  (part? lines).map Prod.fst

/-- The lines outside the body block. -/
def outside (lines : List String) : List String :=
  (part? lines).elim lines Prod.snd

/-- Whether a line gives a key its value. An id counts only if it is not empty. -/
def Key.isGivenBy (key : Key) (text : String) : Bool :=
  (Entry.ofLine text).key == key.word && !(key == .id && (Entry.ofLine text).word.isEmpty)

/-- The first of some lines that gives a key its value. -/
def firstLine? (lines : List String) (key : Key) : Option String :=
  lines.find? key.isGivenBy

/-! ## The note that these parts tell -/

/-- The note with the value of a key from a line, if there is one. -/
def Key.take? (key : Key) (text? : Option String) (note : Note) : Option Note :=
  match text? with
  | some text => key.read? (Entry.ofLine text) note
  | none => some note

/-- The note with the values of some keys from the lines that are given for them. -/
def takeEach? (lines : Key → Option String) (keys : List Key) (note : Note) : Option Note :=
  keys.foldlM (fun note key => key.take? (lines key) note) note

/-- The note with the delimiter and the body of a block. -/
def BodyBlock.put (block : BodyBlock) (note : Note) : Note :=
  { note with
    delimiter := (Entry.ofLine block.opening).word
    body := Text.join "\n" block.lines }

/-- The note of a body block and of a line for each key. The block, an id and a name are required. -/
def assemble? (blank : Note) (block? : Option BodyBlock) (lines : Key → Option String) :
    Option Note :=
  match block? with
  | some block =>
      if (lines .id).isSome ∧ (lines .name).isSome then takeEach? lines Key.all (block.put blank)
      else none
  | none => none

/-! ## Keys -/

/-- Every key is one of those that a record lists. -/
theorem Key.mem_all (key : Key) : key ∈ Key.all := by
  cases key <;> decide

/-- A line gives a value to one key at most. -/
theorem Key.eq_of_given {key other : Key} {text : String} (h : key.isGivenBy text = true)
    (hother : other.isGivenBy text = true) : other = key := by
  simp only [Key.isGivenBy, Bool.and_eq_true, beq_iff_eq] at h hother
  have hkey := Key.of_word_eq_some_iff.2 h.1
  have hsame := Key.of_word_eq_some_iff.2 hother.1
  exact Option.some.inj (hsame.symm.trans hkey)

/-- The values of two different keys are put into a note in either order. -/
theorem Key.read_comm {key other : Key} (hne : other ≠ key) (entry later : Entry) (note : Note) :
    (key.read? entry note).bind (other.read? later) =
      (other.read? later note).bind (key.read? entry) := by
  cases key <;> cases other <;>
    first
    | exact absurd rfl hne
    | rfl
    -- Only a version can be refused, so this is where the two reads depend on what they read.
    | cases hentry : Decimal.read? entry.word <;> cases hlater : Decimal.read? later.word <;>
        simp [Key.read?, hentry, hlater]

/-- The value of a key leaves the delimiter and the body, and does not depend on them. -/
theorem Key.read_put (key : Key) (entry : Entry) (block : BodyBlock) (note : Note) :
    key.read? entry (block.put note) = (key.read? entry note).map block.put := by
  cases key with
  | version | exportVersion => simp [Key.read?, BodyBlock.put, Function.comp_def]
  | _ => rfl

/-! ## Taking values -/

variable {lines later : Key → Option String}

/-- Values are taken key by key. -/
theorem take_each_cons (key : Key) (keys : List Key) (note : Note) :
    takeEach? lines (key :: keys) note = (key.take? (lines key) note).bind (takeEach? lines keys) := by
  rfl

/-- What is taken is decided by the lines of the keys that are asked for. -/
theorem take_each_congr {keys : List Key} (h : ∀ key ∈ keys, lines key = later key) (note : Note) :
    takeEach? lines keys note = takeEach? later keys note := by
  induction keys generalizing note with
  | nil => rfl
  | cons key keys ih =>
      rw [take_each_cons, take_each_cons, h key (by simp)]
      exact Option.bind_congr fun read _ => ih (fun other hmem => h other (by simp [hmem])) read

/-- The value of a key may be taken before all others. -/
theorem take_each_eq_of_first {keys : List Key} (hkeys : keys.Nodup) {key : Key} (hmem : key ∈ keys)
    {text : String} (hkey : lines key = some text) (hlater : later key = none)
    (hothers : ∀ other ≠ key, lines other = later other) (note : Note) :
    takeEach? lines keys note =
      (key.read? (Entry.ofLine text) note).bind (takeEach? later keys) := by
  induction keys generalizing note with
  | nil => exact absurd hmem List.not_mem_nil
  | cons head keys ih =>
      obtain ⟨hhead, hkeys⟩ := List.nodup_cons.1 hkeys
      by_cases heq : head = key
      · subst heq
        have hrest : ∀ other ∈ keys, lines other = later other := by
          intro other hother
          exact hothers other fun hsame => hhead (hsame ▸ hother)
        rw [take_each_cons, hkey]
        refine Option.bind_congr fun read _ => ?_
        rw [take_each_cons, hlater]
        exact take_each_congr hrest read
      · have hrest := ih hkeys ((List.mem_cons.1 hmem).resolve_left (Ne.symm heq))
        have hsame := hothers head heq
        have hcomm : (head.take? (lines head) note).bind (key.read? (Entry.ofLine text)) =
            (key.read? (Entry.ofLine text) note).bind (head.take? (lines head)) := by
          cases hline : lines head with
          | some line => exact Key.read_comm (Ne.symm heq) _ _ note
          | none => exact (Option.bind_fun_some _).symm
        calc takeEach? lines (head :: keys) note
            = (head.take? (lines head) note).bind fun read =>
                (key.read? (Entry.ofLine text) read).bind (takeEach? later keys) := by
              rw [take_each_cons]
              exact Option.bind_congr fun read _ => hrest read
          _ = (key.read? (Entry.ofLine text) note).bind fun read =>
                (head.take? (lines head) read).bind (takeEach? later keys) := by
              rw [← Option.bind_assoc, hcomm, Option.bind_assoc]
          _ = (key.read? (Entry.ofLine text) note).bind (takeEach? later (head :: keys)) := by
              refine Option.bind_congr fun read _ => ?_
              rw [take_each_cons, hsame]

/-- If every key has a line, nothing is left of the note but its delimiter, its body, and the format
where the line names none. -/
theorem take_each_eq_of_full (h : ∀ key, (lines key).isSome) {note other : Note}
    (hdelimiter : note.delimiter = other.delimiter) (hbody : note.body = other.body)
    (hformat : note.format = other.format) :
    takeEach? lines Key.all note = takeEach? lines Key.all other := by
  choose line hline using fun key => Option.isSome_iff_exists.1 (h key)
  simp only [Key.all, take_each_cons, hline, Key.take?, Key.read?, hdelimiter, hbody, hformat,
    Option.bind_some]
  cases Decimal.read? (Entry.ofLine (line .version)).word <;>
    cases Decimal.read? (Entry.ofLine (line .exportVersion)).word <;> rfl

/-! ## Lines outside the body -/

/-- The lines that give the keys their values which have not been seen. -/
def missing (seen : List Key) (lines : List String) (key : Key) : Option String :=
  if key ∈ seen then none else firstLine? lines key

/-- A key takes its value from a line in front of others, if this line gives it one. -/
theorem first_line_cons (text : String) (lines : List String) (key : Key) :
    firstLine? (text :: lines) key =
      if key.isGivenBy text then some text else firstLine? lines key := by
  rw [firstLine?, List.find?_cons]
  cases key.isGivenBy text <;> rfl

variable {reader : Reader}

/-- A line behind the body that gives a key its first value. -/
theorem Reader.step_given (hbody : reader.body = .closed) {key : Key} {text : String}
    (hgiven : key.isGivenBy text = true) (hunseen : key ∉ reader.seen) :
    reader.step? text =
      (key.read? (Entry.ofLine text) reader.note).map fun note =>
        { reader with note := note, seen := key :: reader.seen } := by
  simp only [Key.isGivenBy, Bool.and_eq_true, beq_iff_eq] at hgiven
  obtain ⟨hword, hid⟩ := hgiven
  have hkey := Key.of_word_eq_some_iff.2 hword
  have hskip : ¬(key ∈ reader.seen ∨ key = .id ∧ (Entry.ofLine text).word.isEmpty = true) := by
    rintro (hseen | ⟨hisid, hempty⟩)
    · exact hunseen hseen
    · simp [hisid, hempty] at hid
  simp only [Reader.step?, hbody, Reader.field?, hkey, if_neg hskip]

/-- A line behind the body that gives no key its first value changes nothing. -/
theorem Reader.step_passed (hbody : reader.body = .closed) {text : String}
    (h : ∀ key : Key, key.isGivenBy text = true → key ∈ reader.seen) :
    reader.step? text = some reader := by
  simp only [Reader.step?, hbody, Reader.field?]
  cases hkey : Key.ofWord? (Entry.ofLine text).key with
  | none => simp
  | some key =>
      have hword := Key.of_word_eq_some_iff.1 hkey
      refine if_pos ?_
      by_cases hseen : key ∈ reader.seen
      · exact .inl hseen
      · refine .inr ?_
        by_contra hcounts
        refine hseen (h key ?_)
        simp only [not_and, Bool.not_eq_true] at hcounts
        simp only [Key.isGivenBy, hword, beq_self_eq_true, Bool.true_and, Bool.not_eq_true',
          Bool.and_eq_false_imp, beq_iff_eq]
        exact hcounts

/-- A line in front of others gives one key its value, or none to a key that has not been seen. -/
theorem missing_cons (seen : List Key) (text : String) (lines : List String) :
    (∃ key : Key, key.isGivenBy text = true ∧ key ∉ seen ∧
      missing seen (text :: lines) key = some text ∧ missing (key :: seen) lines key = none ∧
      ∀ other ≠ key, missing seen (text :: lines) other = missing (key :: seen) lines other) ∨
    (∀ key : Key, key.isGivenBy text = true → key ∈ seen) ∧
      missing seen (text :: lines) = missing seen lines := by
  by_cases hgives : ∃ key : Key, key.isGivenBy text = true ∧ key ∉ seen
  · obtain ⟨key, hgiven, hunseen⟩ := hgives
    refine .inl ⟨key, hgiven, hunseen, ?_, if_pos List.mem_cons_self, fun other hne => ?_⟩
    · rw [missing, if_neg hunseen, first_line_cons, if_pos hgiven]
    · have hother : ¬other.isGivenBy text = true := fun h => hne (Key.eq_of_given hgiven h)
      simp only [missing, first_line_cons, if_neg hother, List.mem_cons, hne, false_or]
  · have hseen : ∀ key : Key, key.isGivenBy text = true → key ∈ seen := by
      intro key hgiven
      by_contra hunseen
      exact hgives ⟨key, hgiven, hunseen⟩
    refine .inr ⟨hseen, funext fun key => ?_⟩
    by_cases hkey : key ∈ seen
    · simp only [missing, if_pos hkey]
    · have hpassed : ¬key.isGivenBy text = true := fun hgiven => hkey (hseen key hgiven)
      simp only [missing, first_line_cons, if_neg hpassed]

/-- Of the lines behind the body each key that has not been seen takes the first that gives it a
value, and has then been seen. -/
theorem Reader.run_outside (lines : List String) (hbody : reader.body = .closed) :
    ∃ seen : List Key,
      (∀ key, key ∈ seen ↔ key ∈ reader.seen ∨ (missing reader.seen lines key).isSome) ∧
      reader.run? lines =
        (takeEach? (missing reader.seen lines) Key.all reader.note).map fun note =>
          { reader with note := note, seen := seen } := by
  induction lines generalizing reader with
  | nil =>
      have hnothing (key : Key) : missing reader.seen [] key = none := by
        simp [missing, firstLine?]
      refine ⟨reader.seen, fun key => by simp [hnothing], ?_⟩
      have hsame : takeEach? (missing reader.seen []) Key.all reader.note =
          takeEach? (fun _ => none) Key.all reader.note :=
        take_each_congr (fun key _ => hnothing key) reader.note
      rw [hsame]
      rfl
  | cons text lines ih =>
      have hrun : reader.run? (text :: lines) =
          (reader.step? text).bind fun next => next.run? lines := rfl
      rcases missing_cons reader.seen text lines with
        ⟨key, hgiven, hunseen, hfirst, hlater, hothers⟩ | ⟨hseen, hsame⟩
      · -- The key is read now, and the lines behind are asked for the others only.
        have hshown {seen : List Key} (h : ∀ other, other ∈ seen ↔ other ∈ key :: reader.seen ∨
            (missing (key :: reader.seen) lines other).isSome) (other : Key) :
            other ∈ seen ↔ other ∈ reader.seen ∨
              (missing reader.seen (text :: lines) other).isSome := by
          rw [h other]
          by_cases heq : other = key
          · simp [heq, hfirst]
          · simp [heq, hothers other heq]
        have htake := take_each_eq_of_first (by decide : Key.all.Nodup) key.mem_all hfirst hlater
          hothers reader.note
        rw [hrun, Reader.step_given hbody hgiven hunseen, htake]
        cases key.read? (Entry.ofLine text) reader.note with
        | none =>
            obtain ⟨seen, hseen, -⟩ :=
              @ih { reader with seen := key :: reader.seen } hbody
            exact ⟨seen, hshown hseen, rfl⟩
        | some read =>
            obtain ⟨seen, hseen, hrest⟩ :=
              @ih { reader with note := read, seen := key :: reader.seen } hbody
            exact ⟨seen, hshown hseen, hrest⟩
      · obtain ⟨seen, hshown, hrest⟩ := ih hbody
        rw [hrun, Reader.step_passed hbody hseen, hsame]
        exact ⟨seen, hshown, hrest⟩

/-! ## The body block -/

/-- A block is the first of some lines: none before it opens a body, and its last line is the first
that closes the body again. -/
structure BodyBlock.Begins (block : BodyBlock) (before : List String) : Prop where
  before : ∀ text ∈ before, opensBody text = false
  opening : opensBody block.opening = true
  lines : ∀ text ∈ block.lines, staysOpen block.opening text = true
  closing : staysOpen block.opening block.closing = false

/-- The lines of a block. -/
def BodyBlock.all (block : BodyBlock) : List String :=
  block.opening :: (block.lines ++ [block.closing])

/-- What has been read of a record when its body is that of a block. -/
def BodyBlock.enclose (block : BodyBlock) (reader : Reader) : Reader :=
  { reader with note := block.put reader.note, body := .closed }

/-- Lines are what is passed over and what is left, and what is left begins with the first line that
is not passed over. -/
theorem cut_of_drop_while {passes : String → Bool} {lines rest : List String} {first : String}
    (h : lines.dropWhile passes = first :: rest) :
    lines = lines.takeWhile passes ++ first :: rest ∧ passes first = false ∧
      ∀ text ∈ lines.takeWhile passes, passes text = true := by
  have hfirst := List.head?_dropWhile_not passes lines
  rw [h] at hfirst
  refine ⟨?_, by simpa using hfirst, fun text hmem => List.mem_takeWhile_imp hmem⟩
  rw [← h]
  exact List.takeWhile_append_dropWhile.symm

/-- Lines that have a body block consist of what is before it, of the block, and of what is behind
it. -/
theorem part_eq_some {lines out : List String} {block : BodyBlock}
    (h : part? lines = some (block, out)) :
    ∃ before after, lines = before ++ block.all ++ after ∧ out = before ++ after ∧
      block.Begins before := by
  unfold part? at h
  split at h
  next => cases h
  next opening rest hopening =>
    split at h
    next => cases h
    next closing after hclosing =>
      obtain ⟨hlines, hopens, hbefore⟩ := cut_of_drop_while hopening
      obtain ⟨hrest, hcloses, hbody⟩ := cut_of_drop_while hclosing
      cases h
      refine ⟨_, after, ?_, rfl, ?_, by simpa using hopens, hbody, hcloses⟩
      · rw [BodyBlock.all]
        simpa [← hrest] using hlines
      · exact fun text hmem => by simpa using hbefore text hmem

/-- In lines without a body block no body is opened, or the first body that is opened stays open. -/
theorem part_eq_none {lines : List String} (h : part? lines = none) :
    (∀ text ∈ lines, opensBody text = false) ∨
      ∃ before opening rest, lines = before ++ opening :: rest ∧
        (∀ text ∈ before, opensBody text = false) ∧ opensBody opening = true ∧
          ∀ text ∈ rest, staysOpen opening text = true := by
  unfold part? at h
  split at h
  next hnone =>
    exact .inl fun text hmem => by simpa using List.dropWhile_eq_nil_iff.1 hnone text hmem
  next opening rest hopening =>
    obtain ⟨hlines, hopens, hbefore⟩ := cut_of_drop_while hopening
    split at h
    next hnone =>
      exact .inr ⟨_, opening, rest, hlines, fun text hmem => by simpa using hbefore text hmem,
        by simpa using hopens, fun text hmem => List.dropWhile_eq_nil_iff.1 hnone text hmem⟩
    next => cases h

/-- A line that opens no body is read alike before a body and behind it. -/
theorem Reader.step_enclose (block : BodyBlock) (hbody : reader.body = .awaited) {text : String}
    (htext : opensBody text = false) :
    (block.enclose reader).step? text = (reader.step? text).map block.enclose ∧
      ∀ next, reader.step? text = some next → next.body = .awaited := by
  have hopens : (Entry.ofLine text).key ≠ bodyOpening := by simpa [opensBody] using htext
  have hbehind : (block.enclose reader).body = .closed := rfl
  simp only [Reader.step?, hbody, hbehind, Reader.field?]
  cases hkey : Key.ofWord? (Entry.ofLine text).key with
  | none =>
      simp only [hopens, false_and, if_false]
      refine ⟨rfl, fun next hnext => ?_⟩
      obtain rfl := Option.some.inj hnext
      exact hbody
  | some key =>
      have hseen : (block.enclose reader).seen = reader.seen := rfl
      have hnote : (block.enclose reader).note = block.put reader.note := rfl
      simp only [hseen, hnote, Key.read_put]
      by_cases hskip : key ∈ reader.seen ∨ key = .id ∧ (Entry.ofLine text).word.isEmpty = true
      · simp only [if_pos hskip]
        refine ⟨rfl, fun next hnext => ?_⟩
        obtain rfl := Option.some.inj hnext
        exact hbody
      · simp only [if_neg hskip]
        cases key.read? (Entry.ofLine text) reader.note with
        | none => exact ⟨rfl, fun next hnext => by cases hnext⟩
        | some read =>
            refine ⟨rfl, fun next hnext => ?_⟩
            obtain rfl := Option.some.inj hnext
            rfl

/-- Lines that open no body are read alike before a body and behind it. -/
theorem Reader.run_enclose (block : BodyBlock) {lines : List String}
    (hbody : reader.body = .awaited) (hlines : ∀ text ∈ lines, opensBody text = false) :
    (block.enclose reader).run? lines = (reader.run? lines).map block.enclose ∧
      ∀ later, reader.run? lines = some later → later.body = .awaited := by
  induction lines generalizing reader with
  | nil =>
      refine ⟨rfl, fun later hlater => ?_⟩
      obtain rfl := Option.some.inj hlater
      exact hbody
  | cons text lines ih =>
      obtain ⟨hstep, hawaited⟩ := Reader.step_enclose block hbody (hlines text (by simp))
      have hrun (reader : Reader) : reader.run? (text :: lines) =
          (reader.step? text).bind fun next => next.run? lines := rfl
      rw [hrun, hrun, hstep]
      cases hnext : reader.step? text with
      | none => exact ⟨rfl, fun later hlater => by cases hlater⟩
      | some next => exact ih (hawaited next hnext) fun other hmem => hlines other (by simp [hmem])

/-- A line that opens a body does so if none has been read. -/
theorem Reader.step_opening (hbody : reader.body = .awaited) {opening : String}
    (hopening : opensBody opening = true) :
    reader.step? opening =
      some
        { reader with
          note := { reader.note with delimiter := (Entry.ofLine opening).word }, body := .open [] } := by
  have hkey : (Entry.ofLine opening).key = bodyOpening := by simpa [opensBody] using hopening
  have hword : Key.ofWord? bodyOpening = none := by decide
  simp [Reader.step?, hbody, Reader.field?, hkey, hword]

/-- The lines of a block give a reader its body. -/
theorem Reader.run_block {block : BodyBlock} {before : List String} (h : block.Begins before)
    (hbody : reader.body = .awaited) : reader.run? block.all = some (block.enclose reader) := by
  have hlines := Reader.run_body block.lines
    { reader with
      note := { reader.note with delimiter := (Entry.ofLine block.opening).word }, body := .open [] }
    [] rfl fun text hmem => by simpa [staysOpen] using h.lines text hmem
  have hcloses : (Entry.ofLine block.closing).closesBody (Entry.ofLine block.opening).word = true := by
    simpa [staysOpen] using h.closing
  have hrun : reader.run? block.all =
      (reader.step? block.opening).bind fun next => next.run? (block.lines ++ [block.closing]) := rfl
  rw [hrun, Reader.step_opening hbody h.opening, Option.bind_some, Reader.run_append, hlines]
  simp [Reader.run?, Reader.step?, hcloses, BodyBlock.enclose, BodyBlock.put]

/-- The body block of some lines may be read first. -/
theorem Reader.run_around {block : BodyBlock} {before : List String} (h : block.Begins before)
    (after : List String) (hbody : reader.body = .awaited) :
    reader.run? (before ++ block.all ++ after) =
      (block.enclose reader).run? (before ++ after) := by
  obtain ⟨henclose, hawaited⟩ := Reader.run_enclose block hbody h.before
  rw [Reader.run_append, Reader.run_append, Reader.run_append, henclose]
  cases hread : reader.run? before with
  | none => rfl
  | some later =>
      rw [Option.bind_some, Reader.run_block h (hawaited later hread)]
      rfl

/-- Lines without a body block leave a record incomplete. -/
theorem Reader.run_without_block {lines : List String} (h : part? lines = none)
    (hbody : reader.body = .awaited) : (reader.run? lines).bind Reader.finish? = none := by
  have hunfinished {later : Reader} (hlater : later.body ≠ .closed) : later.finish? = none :=
    if_neg fun hfinished => hlater hfinished.2.2
  -- Any block will do here: it is never put in.
  have hawaited {reader : Reader} {lines : List String} (hbody : reader.body = .awaited)
      (hlines : ∀ text ∈ lines, opensBody text = false) :=
    (@Reader.run_enclose reader ⟨"", [], ""⟩ lines hbody hlines).2
  refine Option.bind_eq_none_iff.2 fun later hlater => hunfinished ?_
  rcases part_eq_none h with hlines | ⟨before, opening, rest, rfl, hbefore, hopening, hrest⟩
  · simp [hawaited hbody hlines later hlater]
  · rw [Reader.run_append] at hlater
    obtain ⟨next, hnext, hopened⟩ := Option.bind_eq_some_iff.1 hlater
    have hrun : next.run? (opening :: rest) =
        (next.step? opening).bind fun opened => opened.run? rest := rfl
    rw [hrun, Reader.step_opening (hawaited hbody hbefore next hnext) hopening, Option.bind_some,
      Reader.run_body rest _ [] rfl fun text hmem => by simpa [staysOpen] using hrest text hmem]
      at hopened
    obtain rfl := Option.some.inj hopened
    simp

end Record

namespace Note

open Record

/-- What is read of a text is told by its body block and by the first line of each key outside it. -/
theorem of_record_eq (blank : Note) (text : String) :
    ofRecord? blank text =
      assemble? blank (bodyBlock? (Text.lines text)) (firstLine? (outside (Text.lines text))) := by
  unfold ofRecord?
  cases hpart : part? (Text.lines text) with
  | none =>
      rw [Reader.run_without_block hpart rfl]
      simp [bodyBlock?, hpart, assemble?]
  | some parts =>
      obtain ⟨block, out⟩ := parts
      obtain ⟨before, after, hlines, rfl, hbegins⟩ := part_eq_some hpart
      have hvalues : missing [] (before ++ after) = firstLine? (before ++ after) :=
        funext fun key => if_neg List.not_mem_nil
      obtain ⟨seen, hseen, hrun⟩ :=
        @Reader.run_outside (block.enclose ⟨blank, [], .awaited⟩) (before ++ after) rfl
      simp only [BodyBlock.enclose, hvalues, List.not_mem_nil, false_or] at hseen hrun
      have hfinish (note : Note) : Reader.finish? ⟨note, seen, .closed⟩ =
          if (firstLine? (before ++ after) .id).isSome ∧ (firstLine? (before ++ after) .name).isSome
          then some note else none := by
        simp only [Reader.finish?, hseen, and_true]
      simp only [bodyBlock?, outside, hpart, Option.map_some, Option.elim_some, assemble?]
      rw [hlines, Reader.run_around hbegins after rfl, BodyBlock.enclose, hrun]
      simp only [Option.bind_map, Function.comp_def, hfinish]
      split <;> simp

/-- Two texts are read alike, whatever blank notes they are read into, if they have the same body block
and each key has the same first line outside it, provided that every keyword stands in such a line. -/
theorem of_record_eq_of_first_lines {text other : String}
    (hkeys : ∀ key : Key, ∃ line ∈ outside (Text.lines text), (Entry.ofLine line).key = key.word)
    (hblock : bodyBlock? (Text.lines text) = bodyBlock? (Text.lines other))
    (hfirst : ∀ key, firstLine? (outside (Text.lines text)) key =
      firstLine? (outside (Text.lines other)) key)
    (supply later : Supply) :
    ofRecord? (blank supply) text = ofRecord? (blank later) other := by
  rw [of_record_eq, of_record_eq, ← hblock, ← funext hfirst]
  cases bodyBlock? (Text.lines text) with
  | none => rfl
  | some block =>
      simp only [assemble?]
      by_cases hgiven : (firstLine? (outside (Text.lines text)) .id).isSome ∧
          (firstLine? (outside (Text.lines text)) .name).isSome
      · rw [if_pos hgiven, if_pos hgiven]
        refine take_each_eq_of_full (fun key => ?_) rfl rfl rfl
        by_cases hid : key = .id
        · rw [hid]
          exact hgiven.1
        · obtain ⟨line, hmem, hword⟩ := hkeys key
          refine List.find?_isSome.2 ⟨line, hmem, ?_⟩
          simp [Key.isGivenBy, hword, hid]
      · rw [if_neg hgiven, if_neg hgiven]

/-- The lines of a record with all keywords in the usual order, before the one that closes it. Its
body looks like a field. -/
def orderlyLines : List String :=
  ["TASK-BEGIN", "TASK-ID a", "TASK-NAME Plan", "TASK-FOLDER work", "TASK-LAMPORT-TIMESTAMP 7",
    "TASK-EXPORT-LAMPORT-TIMESTAMP -1", "TASK-CREATED-DATE c", "TASK-CHANGED-DATE d",
    "TASK-DUE-DATE ", "TASK-DUE-DATE-REMINDER-DISMISSED False", "TASK-BODY-FORMAT PLAIN",
    "TASK-PUBLIC-SHARE-AUTH AUTH0", "TASK-TAGS x, y", "TASK-BODY-BEGIN D", "TASK-NAME body",
    "TASK-BODY-END D"]

/-- Lines of the same record with the body first and the fields backwards, with an unknown keyword, an
empty id, repeated fields, a number that is none, and another body. -/
def shuffledLines : List String :=
  ["TASK-ID ", "TASK-COLOUR red", "TASK-BODY-BEGIN D", "TASK-NAME body", "TASK-BODY-END D",
    "TASK-TAGS x, y", "TASK-PUBLIC-SHARE-AUTH AUTH0", "TASK-BODY-FORMAT PLAIN",
    "TASK-DUE-DATE-REMINDER-DISMISSED False", "TASK-DUE-DATE ", "TASK-CHANGED-DATE d",
    "TASK-CREATED-DATE c", "TASK-EXPORT-LAMPORT-TIMESTAMP -1", "TASK-LAMPORT-TIMESTAMP 7",
    "TASK-LAMPORT-TIMESTAMP seven", "TASK-FOLDER work", "TASK-BODY-BEGIN F", "TASK-NAME Plan",
    "TASK-BODY-END F", "TASK-NAME second", "TASK-ID a"]

/-- No line of the two records is broken, and outside their one body block they agree. -/
theorem shuffled_lines_agree :
    (∀ text ∈ orderlyLines ++ shuffledLines,
        '\n' ∉ text.toList ∧ Text.dropReturn text.toList = text.toList) ∧
      (∀ key ∈ Key.all, ∃ line ∈ outside (orderlyLines ++ ["TASK-END a"]),
        (Entry.ofLine line).key = key.word) ∧
      bodyBlock? (orderlyLines ++ ["TASK-END a"]) = bodyBlock? (shuffledLines ++ ["TASK-ID b"]) ∧
      ∀ key ∈ Key.all, firstLine? (outside (orderlyLines ++ ["TASK-END a"])) key =
        firstLine? (outside (shuffledLines ++ ["TASK-ID b"])) key := by
  decide +kernel

/-- The orderly and the shuffled record are read alike. -/
theorem of_record_of_shuffled :
    let orderly := Text.join "\n" (orderlyLines ++ ["TASK-END a"])
    let shuffled := Text.join "\n" (shuffledLines ++ ["TASK-ID b"])
    (∀ key : Key, ∃ line ∈ outside (Text.lines orderly), (Entry.ofLine line).key = key.word) ∧
      bodyBlock? (Text.lines orderly) = bodyBlock? (Text.lines shuffled) ∧
      (∀ key, firstLine? (outside (Text.lines orderly)) key =
        firstLine? (outside (Text.lines shuffled)) key) ∧
      ofRecord? (blank .tally) orderly = ofRecord? (blank (.strokes 'A')) shuffled := by
  intro orderly shuffled
  obtain ⟨hunbroken, hall_keys, hsame, hall_first⟩ := shuffled_lines_agree
  have hleft {text : String} (hmem : text ∈ orderlyLines) :=
    hunbroken text (List.mem_append_left _ hmem)
  have hright {text : String} (hmem : text ∈ shuffledLines) :=
    hunbroken text (List.mem_append_right _ hmem)
  have horderly : Text.lines orderly = orderlyLines ++ ["TASK-END a"] :=
    Text.lines_join (fun _ hmem => (hleft hmem).1) (fun _ hmem => (hleft hmem).2)
      (by decide) (by decide)
  have hshuffled : Text.lines shuffled = shuffledLines ++ ["TASK-ID b"] :=
    Text.lines_join (fun _ hmem => (hright hmem).1) (fun _ hmem => (hright hmem).2)
      (by decide) (by decide)
  have hkeys : ∀ key : Key, ∃ line ∈ outside (Text.lines orderly),
      (Entry.ofLine line).key = key.word := by
    rw [horderly]
    exact fun key => hall_keys key key.mem_all
  have hblock : bodyBlock? (Text.lines orderly) = bodyBlock? (Text.lines shuffled) := by
    rw [horderly, hshuffled]
    exact hsame
  have hfirst : ∀ key, firstLine? (outside (Text.lines orderly)) key =
      firstLine? (outside (Text.lines shuffled)) key := by
    rw [horderly, hshuffled]
    exact fun key => hall_first key key.mem_all
  exact ⟨hkeys, hblock, hfirst, of_record_eq_of_first_lines hkeys hblock hfirst _ _⟩

end Note

end Notekeeper
