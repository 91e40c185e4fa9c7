import Notekeeper.Proofs.Notebook.Discarding
import Notekeeper.Proofs.Store.Room

/-!
# Operations on several notes

An operation on several notes does something with all notes that are named or with none. If one of
them is not there it fails before it has done anything, and tells the first that is missing.
Otherwise each named note is treated as if it had been named once, whatever the order and however
often (`Notebook.edit_each_edits`, `Notebook.discard_moves`), and every other note is left as it was
(`Notebook.treated_all_or_none`). The versions that the notes get are those of clocks if there is room
for one at every id.
-/

namespace Notekeeper

namespace Notebook

variable {notebook middle left : Notebook} {ids : List String} {id : String}
  {change : Note → Note × Bool}

/-! ## Looking for ids -/

/-- The first of some ids that the primary store does not know. -/
def firstMissing? (notebook : Notebook) (ids : List String) : Option String :=
  ids.find? fun id => !notebook.notes.contains id

/-- Ids are checked without changing anything, and the first that is missing is the fault. -/
theorem check_ids_eq (notebook : Notebook) (ids : List String) :
    checkIds ids notebook =
      match notebook.firstMissing? ids with
      | some id => .error (.notFound id) notebook
      | none => .ok () notebook := by
  unfold firstMissing?
  simp only [checkIds, bind, EStateM.bind, get, getThe, MonadStateOf.get, EStateM.get]
  cases ids.find? fun id => !notebook.notes.contains id <;> rfl

/-- If no id is missing all are there. -/
theorem has_of_none_missing (h : notebook.firstMissing? ids = none) (hmem : id ∈ ids) :
    notebook.notes.contains id = true := by
  have hnot := List.find?_eq_none.1 h id hmem
  simpa using hnot

/-- Repetitions do not matter for which id is the first of a kind. -/
theorem find_distinct (ids : List String) (kind : String → Bool) :
    (distinct ids).find? kind = ids.find? kind := by
  -- what has been kept so far stands before the rest
  have hkept (ids kept : List String) :
      (ids.foldl (fun kept id => if kept.contains id then kept else kept ++ [id]) kept).find? kind =
        (kept.find? kind).or (ids.find? kind) := by
    induction ids generalizing kept with
    | nil => simp
    | cons id ids ih =>
        rw [List.foldl_cons, ih]
        split
        next hrepeated =>
          cases hid : kind id with
          | false => simp [hid]
          | true =>
              have hsome : (kept.find? kind).isSome = true :=
                List.find?_isSome.2 ⟨id, by simpa using hrepeated, hid⟩
              obtain ⟨first, hfirst⟩ := Option.isSome_iff_exists.1 hsome
              simp [hfirst]
        next =>
          rw [List.find?_append, Option.or_assoc, List.find?_cons, List.find?_cons]
          cases kind id <;> simp
  rw [distinct, List.foldr_reverse, hkept]
  simp

/-! ## Editing -/

/-- An edit that keeps what identifies a note, that changes an edited note no further, and that keeps
notes which it does not say it changes. -/
structure Repeatable (change : Note → Note × Bool) : Prop where
  keeps : ∀ note, (change note).1.id = note.id ∧ (change note).1.version = note.version ∧
    (change note).1.exportVersion = note.exportVersion
  again : ∀ note version,
    (change { (change note).1 with version := version }).1 =
      { (change note).1 with version := version }
  unchanged : ∀ note, (change note).2 = false → (change note).1 = note

/-- What is found under the id of a note that has been edited: the edited note under a version above
a clock, or the note as it was if the edit does not change it. -/
def Renewed (change : Note → Note × Bool) (clock : Int) (note : Note) (found : Option Note) : Prop :=
  if (change note).2 then
    ∃ version, clock < version ∧ found = some { (change note).1 with version := version }
  else found = some note

/-- A version above a clock is above an earlier one. -/
theorem Renewed.of_le {clock later : Int} {note : Note} {found : Option Note}
    (h : Renewed change later note found) (hclock : clock ≤ later) :
    Renewed change clock note found := by
  unfold Renewed at *
  split at h
  next hchanges =>
    obtain ⟨version, hlater, hfound⟩ := h
    rw [if_pos hchanges]
    exact ⟨version, Int.lt_of_le_of_lt hclock hlater, hfound⟩
  next hkeeps =>
    rw [if_neg hkeeps]
    exact h

/-- Notes have been edited in the primary store, each as if it had been named once. -/
structure Edited (change : Note → Note × Bool) (ids : List String) (notebook left : Notebook) :
    Prop where
  clock : notebook.notes.clock ≤ left.notes.clock
  others : ∀ id, id ∉ ids → left.notes.get? id = notebook.notes.get? id
  edited : ∀ id ∈ ids, ∀ note, notebook.notes.get? id = some note →
    Renewed change notebook.notes.clock note (left.notes.get? id)
  room : ∀ steps, notebook.notes.HasRoom (steps + ids.length) → left.notes.HasRoom steps

/-- Nothing has been edited. -/
theorem Edited.nil (change : Note → Note × Bool) (notebook : Notebook) :
    Edited change [] notebook notebook :=
  ⟨Int.le_refl _, fun _ _ => rfl, by simp, fun _ h => h⟩

/-- A note that its edit does not change may be named before others. -/
theorem Edited.cons_unchanged {note : Note} (hfound : notebook.notes.get? id = some note)
    (hkeeps : (change note).2 = false) (h : Edited change ids notebook left) :
    Edited change (id :: ids) notebook left := by
  refine ⟨h.clock, fun other hother => ?_, fun other hmem found hother => ?_,
    fun steps hroom => h.room steps (hroom.mono (by simp))⟩
  · exact h.others other fun hmem => hother (List.mem_cons_of_mem _ hmem)
  · by_cases hagain : other ∈ ids
    · exact h.edited other hagain found hother
    · obtain rfl : other = id := (List.mem_cons.1 hmem).resolve_right hagain
      obtain rfl := Option.some.inj (hfound.symm.trans hother)
      rw [Renewed, hkeeps, if_neg Bool.false_ne_true, h.others other hagain]
      exact hfound

/-- One note has been revised and then others have been edited. If the note is among them it is
edited again, which changes its version at most. -/
theorem Edited.cons_revised {note : Note} (hrepeatable : Repeatable change)
    (hfound : notebook.notes.get? id = some note) (hchanges : (change note).2 = true)
    (h : Edited change ids
      { notebook with notes := notebook.notes.revise id (change note).1 } left) :
    Edited change (id :: ids) notebook left := by
  have hrevised := notebook.notes.get_revise id (change note).1
  let version := 1 + max notebook.notes.clock (change note).1.version
  have hclock : notebook.notes.clock < version := by
    dsimp only [version]
    omega
  have hlater : version ≤ left.notes.clock := h.clock
  refine ⟨by omega, fun other hother => ?_, fun other hmem found hother => ?_, fun steps hroom => ?_⟩
  · have hne : id ≠ other := fun heq => hother (by simp [heq])
    rw [h.others other fun hmem => hother (List.mem_cons_of_mem _ hmem), Store.get?, hrevised,
      if_neg hne, Store.get?]
  · by_cases hid : id = other
    · subst hid
      obtain rfl := Option.some.inj (hfound.symm.trans hother)
      have hmiddle : (notebook.notes.revise id (change note).1).get? id =
          some { (change note).1 with version := version } := by
        rw [Store.get?, hrevised, if_pos rfl]
      rw [Renewed, hchanges, if_pos rfl]
      by_cases hagain : id ∈ ids
      · have hedited := h.edited id hagain _ hmiddle
        rw [Renewed, hrepeatable.again] at hedited
        split at hedited
        · obtain ⟨last, hlast, hleft⟩ := hedited
          exact ⟨last, Int.lt_trans hclock hlast, hleft⟩
        · exact ⟨version, hclock, hedited⟩
      · exact ⟨version, hclock, (h.others id hagain).trans hmiddle⟩
    · have hmiddle : (notebook.notes.revise id (change note).1).get? other = some found := by
        rw [Store.get?, hrevised, if_neg hid]
        exact hother
      exact (h.edited other ((List.mem_cons.1 hmem).resolve_left (Ne.symm hid)) found
        hmiddle).of_le (Int.le_of_lt hclock)
  · have hnote := hroom.versions id note hfound
    rw [← (hrepeatable.keeps note).2.1] at hnote
    exact h.room steps (hroom.revise hnote id)

/-- Notes that are there are edited one after the other. -/
theorem edit_each_edits (hrepeatable : Repeatable change) (ids : List String)
    (hthere : ∀ id ∈ ids, notebook.notes.contains id = true) :
    (ids.forM (editOne change)).Meets notebook (fun _ => Edited change ids notebook)
      fun _ _ => False := by
  induction ids generalizing notebook with
  | nil => exact .nil change notebook
  | cons id ids ih =>
      have hcontains := hthere id (by simp)
      rw [Store.contains_eq, Option.isSome_iff_exists] at hcontains
      obtain ⟨note, hfound⟩ := hcontains
      have hrest (other : String) (hmem : other ∈ ids) : notebook.notes.contains other = true :=
        hthere other (by simp [hmem])
      change Attempt.Meets (editOne change id >>= fun _ => ids.forM (editOne change)) notebook _ _
      simp only [editOne, Attempt.meets_bind, Attempt.meets_get, hfound, changeNotes,
        Attempt.meets_modify]
      cases hchanges : (change note).2 with
      | false =>
          have hedit : (notebook.notes.edit id fun _ => (change note).1) = notebook.notes := by
            rw [hrepeatable.unchanged note hchanges, Store.edit_self hfound]
          simp only [hedit, Bool.false_eq_true, if_false, Attempt.meets_pure]
          exact (ih hrest).mono (fun _ _ hleft => .cons_unchanged hfound hchanges hleft)
            fun _ _ hfalse => hfalse
      | true =>
          have hrevised (other : String) (hmem : other ∈ ids) :
              (notebook.notes.revise id (change note).1).contains other = true := by
            rw [Store.contains_eq]
            exact Store.has_revise.2 (.inr ((Store.contains_eq _ _).symm.trans (hrest other hmem)))
          simp only [if_true, touch, Attempt.meets_bind, Attempt.meets_get, Attempt.meets_of_except,
            Store.touch_edit hfound, changeNotes, Attempt.meets_modify]
          exact (@ih { notebook with notes := notebook.notes.revise id (change note).1 }
            hrevised).mono (fun _ _ hleft => .cons_revised hrepeatable hfound hchanges hleft)
            fun _ _ hfalse => hfalse

/-- Changes set no clock of an export or an import. -/
theorem Changes.transfer_clocks (h : notebook.Changes left) :
    left.notes.exportClock = notebook.notes.exportClock ∧
      left.notes.importClock = notebook.notes.importClock ∧
      left.trash.exportClock = notebook.trash.exportClock ∧
      left.trash.importClock = notebook.trash.importClock := by
  induction h with
  | refl => exact ⟨rfl, rfl, rfl, rfl⟩
  | tail _ hchange ih => cases hchange <;> exact ih

/-! ## Treating several notes -/

/-- What is done with several notes at once. -/
inductive Treatment where
  | delete
  | addTag (tag : String)
  | removeTag (tag : String)
  | moveTo (folder : String)
  | dismissReminders
  deriving DecidableEq, Repr

namespace Treatment

/-- The operation that treats the notes of some ids. -/
def operation (ids : List String) : Treatment → NoteOperation
  | delete => .delete ids
  | addTag tag => .addTag ids tag
  | removeTag tag => .removeTag ids tag
  | moveTo folder => .moveTo ids folder
  | dismissReminders => .dismissReminders ids

/-- What a treatment makes of a note, but for its version. A note is never without a folder. -/
def apply : Treatment → Note → Note
  | delete, note => note
  | addTag tag, note => { note with tags := note.tags.insert tag }
  | removeTag tag, note => { note with tags := note.tags.erase tag }
  | moveTo folder, note => { note with folder := if folder = "" then defaultFolder else folder }
  | dismissReminders, note => { note with reminderDismissed := true }

/-- A treatment changes a note; only the removal of a tag leaves some notes as they are. -/
def Changes : Treatment → Note → Prop
  | removeTag tag, note => tag ∈ note.tags
  | _, _ => True

/-- What has become of a note that was treated, in the primary store and in the trash. A new version is
above the clock as a whole number; that it is the value of a clock takes room for it. -/
def Outcome (notebook left : Notebook) (id : String) (note : Note) (treatment : Treatment) : Prop :=
  if treatment = delete then
    left.notes.get? id = none ∧
      ∃ version, left.trash.get? id = some { note with version := version }
  else
    left.trash.get? id = notebook.trash.get? id ∧
      (treatment.Changes note → ∃ version, notebook.notes.clock < version ∧
        left.notes.get? id = some { treatment.apply note with version := version }) ∧
      (¬ treatment.Changes note → left.notes.get? id = some note)

end Treatment

/-- Of the room for some versions in the primary store, what a number of them do not take up is left; in
the trash it is if there was any. -/
def TakesRoom (count : Nat) (notebook left : Notebook) : Prop :=
  ∀ steps, notebook.notes.HasRoom (steps + count) →
    left.notes.HasRoom steps ∧
      (notebook.trash.HasRoom (steps + count) → left.trash.HasRoom steps)

/-- Some notes have been treated, each as if it had been named once, and no others. -/
structure Treated (treatment : Treatment) (ids : List String) (notebook left : Notebook) : Prop where
  named : ∀ id ∈ ids, ∃ note, notebook.notes.get? id = some note ∧
    treatment.Outcome notebook left id note
  others : ∀ id, id ∉ ids → left.notes.get? id = notebook.notes.get? id ∧
    left.trash.get? id = notebook.trash.get? id
  notes_clocks : left.notes.exportClock = notebook.notes.exportClock ∧
    left.notes.importClock = notebook.notes.importClock
  trash_clocks : left.trash.exportClock = notebook.trash.exportClock ∧
    left.trash.importClock = notebook.trash.importClock
  files : FilesStay notebook.layout.exchangeFiles notebook left
  /-- No more versions are given than ids are named. -/
  room : TakesRoom ids.length notebook left

/-- To move notes to the trash takes up room for a version at each in both stores. -/
theorem discard_room (ids : List String) (hnodup : ids.Nodup)
    (hthere : ∀ id ∈ ids, notebook.notes.contains id = true) :
    (ids.forM discard).Meets notebook (fun _ => TakesRoom ids.length notebook)
      fun _ _ => False := by
  refine discard_each_rule (fun ids => TakesRoom ids.length) (fun _ _ hroom => ⟨hroom, id⟩)
    (fun notebook left id ids note hfound _ hrest steps hroom => ?_) ids hnodup hthere
  obtain ⟨hleft, hleft_trash⟩ := hrest steps (hroom.without id)
  exact ⟨hleft, fun htrash => hleft_trash (htrash.add (hroom.versions id note hfound))⟩

/-- There are no more ids without the repetitions. -/
theorem length_distinct_le (ids : List String) : (distinct ids).length ≤ ids.length :=
  ((nodup_distinct ids).subperm fun _ hmem => mem_distinct.1 hmem).length_le

/-- Notes that are all there are moved to the trash. -/
theorem delete_treats (h : notebook.Rooted) (hnamed : Both Store.Named notebook)
    (hthere : notebook.firstMissing? ids = none) :
    (delete ids).Meets notebook (fun _ => Treated .delete ids notebook)
      fun fault _ => notebook.Denies notebook.layout.storeFiles [] fault := by
  have hmissing : notebook.firstMissing? (distinct ids) = none := (find_distinct ids _).trans hthere
  have hcheck : checkIds (distinct ids) notebook = .ok () notebook := by
    rw [check_ids_eq, hmissing]
  have hall (id : String) (hmem : id ∈ distinct ids) : notebook.notes.contains id = true :=
    has_of_none_missing hmissing hmem
  unfold delete
  rw [Attempt.meets_bind, Attempt.meets_of_run hcheck, Attempt.meets_bind]
  refine (((discard_moves h.notes_keyed (distinct ids) (nodup_distinct ids) hall).and
    (discard_each_meets (distinct ids) (nodup_distinct ids) hall)).and
    (discard_room (distinct ids) (nodup_distinct ids) hall)).mono (fun _ middle hmiddle => ?_)
    fun _ _ hfalse => hfalse.1.1.elim
  obtain ⟨⟨hmoved, hdiscarded⟩, hroom⟩ := hmiddle
  have hrooted := hdiscarded.changes.rooted h
  have hstay : FilesStay notebook.layout.exchangeFiles notebook middle := hdiscarded.changes.stay
  have hclocks := hdiscarded.changes.transfer_clocks
  refine (save_writes_both hrooted.notes_path hrooted.trash_path
    fun _ hpath _ hown => (Layout.apart_exchange hpath hown).symm).mono (fun _ left hleft => ?_)
    fun _ _ hfault => hstay.layout ▸ hfault.of_files_stay hstay
  obtain ⟨hfiles, hsaved⟩ := hleft
  rw [hstay.layout] at hfiles
  obtain ⟨-, hnotes, -, hnotes_export, hnotes_import⟩ := middle.notes.saved_eq
  obtain ⟨-, htrash, -, htrash_export, htrash_import⟩ := middle.trash.saved_eq
  refine ⟨fun id hmem => ?_, fun id hnot => ?_, ?_, ?_, hstay.trans hfiles, fun steps hnotes => ?_⟩
  · have hmem : id ∈ distinct ids := mem_distinct.2 hmem
    obtain ⟨note, version, hfound, hgained⟩ := hmoved.trash_gained hnamed.notes hmem
    have hgone := hmoved.notes_saved hnamed.notes id
    rw [if_pos hmem] at hgone
    refine ⟨note, hfound, ?_⟩
    rw [Treatment.Outcome, if_pos rfl, hsaved.notes_eq, hsaved.trash_eq]
    exact ⟨hgone, version, hgained⟩
  · have hnot : id ∉ distinct ids := fun hmem => hnot (mem_distinct.1 hmem)
    have hkept_note := hmoved.notes_saved hnamed.notes id
    rw [if_neg hnot] at hkept_note
    rw [hsaved.notes_eq, hsaved.trash_eq]
    exact ⟨hkept_note, hmoved.trash_saved hnamed.trash hnot⟩
  · rw [hsaved.notes_eq, hnotes_export, hnotes_import]
    exact ⟨hclocks.1, hclocks.2.1⟩
  · rw [hsaved.trash_eq, htrash_export, htrash_import]
    exact hclocks.2.2
  · have hfewer : steps + (distinct ids).length ≤ steps + ids.length :=
      Nat.add_le_add_left (length_distinct_le ids) steps
    obtain ⟨hleft, hleft_trash⟩ := hroom steps (hnotes.mono hfewer)
    rw [hsaved.notes_eq, hsaved.trash_eq]
    exact ⟨hleft.saved, fun htrash => (hleft_trash (htrash.mono hfewer)).saved⟩

/-- Notes that are all there are edited. -/
theorem edit_each_treats (h : notebook.Rooted) (hnamed : notebook.notes.Named)
    (hrepeatable : Repeatable change) (hthere : notebook.firstMissing? ids = none)
    {treatment : Treatment} (hedits : treatment ≠ .delete)
    (hchanges : ∀ note, (change note).2 = true ↔ treatment.Changes note)
    (hedited : ∀ note, note.name ≠ "" → note.folder ≠ "" →
      (change note).1.withDefaults = treatment.apply note) :
    (editEach ids change).Meets notebook (fun _ => Treated treatment ids notebook)
      fun fault _ => notebook.Denies notebook.layout.storeFiles [] fault := by
  have hcheck : checkIds ids notebook = .ok () notebook := by rw [check_ids_eq, hthere]
  have hall (id : String) (hmem : id ∈ ids) : notebook.notes.contains id = true :=
    has_of_none_missing hthere hmem
  unfold editEach
  simp only [Attempt.meets_bind, Attempt.meets_of_run hcheck, Attempt.meets_pure]
  refine ((edit_each_edits hrepeatable ids hall).and (edit_each_meets ids change hrepeatable.keeps
    hrepeatable.unchanged)).mono (fun _ middle hmiddle => ?_) fun _ _ hfalse => hfalse.1.elim
  obtain ⟨hedit, hmiddle, htrash⟩ := hmiddle
  have hrooted := hmiddle.rooted h
  have hstay : FilesStay notebook.layout.exchangeFiles notebook middle := hmiddle.stay
  have hclocks := hmiddle.transfer_clocks
  have hnames : ∀ path ∈ [middle.layout.notesPath, Store.diffPath middle.layout.notesPath],
      ∀ own ∈ middle.layout.exchangeFiles, Disk.Apart path own :=
    fun path hpath own hown => Layout.apart_notes hpath (List.mem_append_right _ hown)
  refine (save_notes_writes hrooted.notes_path hnames).mono (fun _ left hleft => ?_)
    fun _ _ hfault => hstay.layout ▸ (hfault.of_files_stay hstay).mono
      (by simp [Layout.storeFiles, hstay.layout]) (by simp)
  obtain ⟨hfiles, hnotes_eq, htrash_eq, -⟩ := hleft
  rw [hstay.layout] at hfiles
  obtain ⟨-, hnotes, -, hnotes_export, hnotes_import⟩ := middle.notes.saved_eq
  have hfound (id : String) :
      left.notes.get? id = (middle.notes.get? id).map Note.withDefaults := by
    rw [hnotes_eq, Store.get?, hnotes, Store.get_with_defaults, Store.get?]
  refine ⟨fun id hmem => ?_, fun id hnot => ?_, ?_, ?_, hstay.trans hfiles, fun steps hroom => ?_⟩
  · have hcontains := hall id hmem
    rw [Store.contains_eq, Option.isSome_iff_exists] at hcontains
    obtain ⟨note, hnote⟩ := hcontains
    obtain ⟨hname, hfolder⟩ := hnamed id note hnote
    have hrenewed := hedit.edited id hmem note hnote
    refine ⟨note, hnote, ?_⟩
    rw [Treatment.Outcome, if_neg hedits, htrash_eq, htrash, hfound]
    refine ⟨rfl, fun hchanged => ?_, fun hunchanged => ?_⟩
    · rw [Renewed, if_pos ((hchanges note).2 hchanged)] at hrenewed
      obtain ⟨version, hversion, hrenewed⟩ := hrenewed
      refine ⟨version, hversion, ?_⟩
      rw [hrenewed, ← hedited note hname hfolder]
      rfl
    · rw [Renewed, if_neg fun hchanged => hunchanged ((hchanges note).1 hchanged)] at hrenewed
      rw [hrenewed, Option.map_some, hnamed.with_defaults hnote]
  · rw [hfound, htrash_eq, htrash, hedit.others id hnot]
    exact ⟨map_with_defaults hnamed id, rfl⟩
  · rw [hnotes_eq, hnotes_export, hnotes_import]
    exact ⟨hclocks.1, hclocks.2.1⟩
  · rw [htrash_eq, htrash]
    exact ⟨rfl, rfl⟩
  · rw [hnotes_eq, htrash_eq, htrash]
    exact ⟨(hedit.room steps hroom).saved, fun hroom => hroom.mono (Nat.le_add_right _ _)⟩

/-! ## All or none -/

/-- A set to which an element has been added contains it, so that it can be added again. -/
theorem insert_again (tags : TextSet) (tag : String) :
    (tags.insert tag).insert tag = tags.insert tag := by
  apply Std.ExtTreeSet.ext_mem
  intro other
  simp only [Std.ExtTreeSet.mem_insert, or_self_left]

/-- Giving a tag is repeatable. -/
theorem repeatable_add_tag (tag : String) :
    Repeatable fun note => ({ note with tags := note.tags.insert tag }, true) where
  keeps := fun _ => ⟨rfl, rfl, rfl⟩
  again := fun note _ => by simp only [insert_again]
  unchanged := fun _ hfalse => by cases hfalse

/-- Taking a tag away is repeatable. -/
theorem repeatable_remove_tag (tag : String) :
    Repeatable fun note => ({ note with tags := note.tags.erase tag }, note.tags.contains tag) where
  keeps := fun _ => ⟨rfl, rfl, rfl⟩
  again := fun note _ => by
    have hgone : tag ∉ note.tags.erase tag := by simp
    simp only [TextSet.erase_of_not_mem hgone]
  unchanged := fun note hnot => by
    have hcontains : note.tags.contains tag = false := hnot
    have hmissing : tag ∉ note.tags := by
      rw [← Std.ExtTreeSet.contains_iff_mem, hcontains]
      exact Bool.false_ne_true
    simp only [TextSet.erase_of_not_mem hmissing]

/-- Putting a note into a folder is repeatable. -/
theorem repeatable_move (folder : String) :
    Repeatable fun note => ({ note with folder := folder }, true) where
  keeps := fun _ => ⟨rfl, rfl, rfl⟩
  again := fun _ _ => rfl
  unchanged := fun _ hfalse => by cases hfalse

/-- Dismissing a reminder is repeatable. -/
theorem repeatable_dismiss :
    Repeatable fun note => ({ note with reminderDismissed := true }, true) where
  keeps := fun _ => ⟨rfl, rfl, rfl⟩
  again := fun _ _ => rfl
  unchanged := fun _ hfalse => by cases hfalse

/-- Notes that are all there are treated. -/
theorem treatment_treats (h : notebook.Rooted) (hnamed : Both Store.Named notebook)
    (treatment : Treatment) (hthere : notebook.firstMissing? ids = none) :
    (treatment.operation ids).perform.Meets notebook (fun _ => Treated treatment ids notebook)
      fun fault _ => notebook.Denies notebook.layout.storeFiles [] fault := by
  cases treatment with
  | delete => exact delete_treats h hnamed hthere
  | addTag tag =>
      exact edit_each_treats h hnamed.notes (repeatable_add_tag tag) hthere (by simp)
        (fun _ => by simp [Treatment.Changes])
        fun _ hname hfolder => Note.with_defaults_of_ne hname hfolder
  | removeTag tag =>
      exact edit_each_treats h hnamed.notes (repeatable_remove_tag tag) hthere (by simp)
        (fun _ => Std.ExtTreeSet.contains_iff_mem)
        fun _ hname hfolder => Note.with_defaults_of_ne hname hfolder
  | moveTo folder =>
      exact edit_each_treats h hnamed.notes (repeatable_move folder) hthere (by simp)
        (fun _ => by simp [Treatment.Changes]) fun note hname _ => by
          simp [Note.withDefaults, Note.nameOrDefault, Note.folderOrDefault, Treatment.apply, hname]
  | dismissReminders =>
      exact edit_each_treats h hnamed.notes repeatable_dismiss hthere (by simp)
        (fun _ => by simp [Treatment.Changes])
        fun _ hname hfolder => Note.with_defaults_of_ne hname hfolder

/-- If an id is missing nothing is treated. -/
theorem treatment_fails (treatment : Treatment) (hmissing : notebook.firstMissing? ids = some id) :
    (treatment.operation ids).perform notebook = .error (.notFound id) notebook := by
  have hcheck : checkIds ids notebook = .error (.notFound id) notebook := by
    rw [check_ids_eq, hmissing]
  have hdistinct : checkIds (distinct ids) notebook = .error (.notFound id) notebook := by
    rw [check_ids_eq, firstMissing?, find_distinct, ← firstMissing?, hmissing]
  cases treatment <;>
    simp [Treatment.operation, NoteOperation.perform, delete, addTag, removeTag, moveTo,
      dismissReminders, editEach, bind, EStateM.bind, hcheck, hdistinct]

/-- Whatever has been done with a notebook since it was opened, an operation on several notes fails
with the first id that is missing and leaves the notebook with its disk as it was; or none is missing,
and it treats each note that is named as if it had been named once, whatever the order and however
often, and leaves every other note as it was. Then it can fail only where the disk does not take a
file of a store. -/
theorem treated_all_or_none {layout : Layout} {disk : Disk} {supply : Supply}
    (hopens : openStores.fault? (unread layout disk supply) = none)
    (hreached : Reached layout disk supply notebook) (treatment : Treatment) (ids : List String) :
    match notebook.firstMissing? ids with
    | some id => (treatment.operation ids).perform notebook = .error (.notFound id) notebook
    | none => (treatment.operation ids).perform.Meets notebook
        (fun _ left => Treated treatment ids notebook left)
        fun fault _ => notebook.Denies notebook.layout.storeFiles [] fault := by
  split
  next hmissing => exact treatment_fails treatment hmissing
  next hthere =>
    exact treatment_treats (hreached.standing hopens).toRooted hreached.named treatment hthere

/-- A note that is named twice is given a tag once; if another is named that is not there, neither is
treated. -/
theorem treated_or_missing :
    ((Treatment.addTag "t").operation ["i", "i"]).perform.fault? savedTwice = none ∧
      Treated (.addTag "t") ["i", "i"] savedTwice
        (((Treatment.addTag "t").operation ["i", "i"]).perform.after savedTwice) ∧
      (Treatment.delete.operation ["i", "k", "j"]).perform savedTwice =
        .error (.notFound "k") savedTwice := by
  have hopens := saved_twice_performed.1
  have hreached : Reached (.inFolder "notes") .empty .tally savedTwice :=
    .performed _ _ (.performed _ _ .opened)
  obtain ⟨hthere, hmissing, hsucceeds⟩ : savedTwice.firstMissing? ["i", "i"] = none ∧
      savedTwice.firstMissing? ["i", "k", "j"] = some "k" ∧
      ((Treatment.addTag "t").operation ["i", "i"]).perform.fault? savedTwice = none := by
    decide +kernel
  have htreated := treated_all_or_none hopens hreached (.addTag "t") ["i", "i"]
  have hfails := treated_all_or_none hopens hreached .delete ["i", "k", "j"]
  rw [hthere] at htreated
  rw [hmissing] at hfails
  exact ⟨hsucceeds, htreated.after_of_none hsucceeds, hfails⟩

end Notebook

end Notekeeper
