import Notekeeper.Proofs.Notebook.Standing
import Notekeeper.Proofs.Notebook.Tidy
import Notekeeper.Proofs.Store.Interruption
import Notekeeper.Proofs.Store.Stable

/-!
# Deleting while the disk gives out

To delete notes is to take them out of the primary store, to add them to the trash, and to save first
the one and then the other. Each save is of everything, so there are four writes, any of which the disk
may refuse. What is then found on opening is told note by note and write by write
(`Notebook.deleted_notes_found`): a note is lost if the trash has not been written when the primary
store has.
-/

namespace Notekeeper

namespace Store

variable {disk later : Disk} {path : String} {notes : Std.ExtTreeMap String Note}

/-- What a new store is loaded with has names and folders. -/
theorem load_named (path : String) (disk : Disk) (supply : Supply) :
    load.Meets ⟨{ path? := some path }, disk, supply⟩ (fun _ left => left.store.Named)
      fun _ _ => True := by
  have hread {reader left : Store} {supply after : Supply} {text : String} {ids : List String}
      (h : reader.Named) (hread : reader.read supply text = (left, after, ids)) : left.Named := by
    have hkept := (read_keeps Named (fun _ note hnamed => hnamed.restore note)
      (fun _ _ _ hnamed => hnamed) reader h supply text).1
    rwa [hread] at hkept
  unfold load loadFrom
  simp only [Shelf.getStore, Shelf.change, Attempt.meets_bind, Attempt.meets_get,
    Attempt.meets_pure, Attempt.meets_modify]
  refine (read_file_meets path _).mono (fun _ middle hmiddle => ?_) fun _ _ _ => trivial
  obtain ⟨-, -, text, -, hmain⟩ := hmiddle
  have hnamed : middle.store.Named := hread (fun id note hfound => by
    simp [requireFullSave, get?] at hfound) hmain
  split
  · simp only [Attempt.meets_bind, Attempt.meets_modify]
    refine (read_file_meets (diffPath path) middle).mono (fun _ left hleft => ?_)
      fun _ _ _ => trivial
    obtain ⟨-, -, more, -, hdiff⟩ := hleft
    have hlast : left.store.Named := hread hnamed hdiff
    exact hlast
  · exact hnamed

/-- Loading changes neither the path of a store nor the disk. -/
theorem load_stays (path : String) (disk : Disk) (supply : Supply) :
    load.Meets ⟨{ path? := some path }, disk, supply⟩
      (fun _ left => left.store.path? = some path ∧ left.disk = disk)
      fun _ left => left.store.path? = some path ∧ left.disk = disk := by
  have hkeeps : load.Keeps (Shelf.Conforms _ (· = disk)) := (path_lasting (some path)).enduring.load
  exact (hkeeps _ ⟨rfl, rfl⟩).mono (fun _ _ hleft => ⟨hleft.store, hleft.disk⟩)
    fun _ _ hleft => ⟨hleft.store, hleft.disk⟩

end Store

namespace Notebook

/-! ## Opening -/

variable {layout : Layout} {disk : Disk} {notes trash : Std.ExtTreeMap String Note}

/-- Nothing has a name to lack. -/
theorem unread_named (path : String) : ({ path? := some path } : Store).Named :=
  fun id note hfound => by simp [Store.get?] at hfound

/-- Opening a notebook whose folders stand gives what is found in the files of its stores. It can fail
only when it makes backups. -/
theorem open_finds (hfolders : disk.HasFolders layout)
    (hnotes : Store.Finds disk layout.notesPath notes)
    (htrash : Store.Finds disk layout.trashPath trash) (supply : Supply) :
    openStores.Meets (unread layout disk supply)
      (fun _ left => left.notes.notes = notes ∧ left.trash.notes = trash)
      fun fault _ => fault = .disk ∧ layout.backsUpOnOpen = true := by
  refine open_meets_of_folders hfolders
    (fun left => left.layout = layout ∧ left.disk = disk ∧ left.notes.notes = notes ∧
      left.notes.Named ∧ left.trash = { path? := some layout.trashPath })
    (fun left => left.layout = layout ∧ left.disk = disk ∧ left.notes.notes = notes ∧
      left.notes.Named ∧ left.trash.notes = trash ∧ left.trash.Named)
    (fun hfile => ?_) (fun hnone => ?_) (fun half hhalf hfile => ?_) (fun half hhalf hnone => ?_)
    fun read hread => ?_
  · have hload := (((Store.finds_iff_of_file hfile).1 hnotes supply).and
      (Store.load_named _ disk supply)).and (Store.load_stays _ disk supply)
    unfold onNotes
    rw [Attempt.meets_within]
    exact hload.mono (fun _ _ hleft => ⟨rfl, hleft.2.2, hleft.1.1, hleft.1.2, rfl⟩)
      fun _ _ hfalse => hfalse.1.1.elim
  · have hempty : notes = ∅ := by simpa [Store.Finds, hnone] using hnotes
    exact ⟨rfl, rfl, hempty.symm, unread_named _, rfl⟩
  · obtain ⟨hlayout, hdisk, hnotes, hnamed, hstore⟩ := hhalf
    rw [hdisk] at hfile
    have hload := (((Store.finds_iff_of_file hfile).1 htrash half.supply).and
      (Store.load_named _ disk half.supply)).and (Store.load_stays _ disk half.supply)
    unfold onTrash
    rw [Attempt.meets_within, hstore, hdisk]
    exact hload.mono (fun _ _ hleft => ⟨hlayout, hleft.2.2, hnotes, hnamed, hleft.1.1, hleft.1.2⟩)
      fun _ _ hfalse => hfalse.1.1.elim
  · obtain ⟨hlayout, hdisk, hnotes, hnamed, hstore⟩ := hhalf
    rw [hdisk] at hnone
    have hempty : trash = ∅ := by simpa [Store.Finds, hnone] using htrash
    exact ⟨hlayout, hdisk, hnotes, hnamed, by rw [hstore, hempty], by rw [hstore]; exact unread_named _⟩
  · obtain ⟨hlayout, hdisk, hnotes, hnamed, htrash, htrashed⟩ := hread
    cases hbacks : layout.backsUpOnOpen with
    | false => exact ⟨hnotes, htrash⟩
    | true =>
        have hstand : read.disk.HasFolders read.layout := by
          rw [hdisk, hlayout]
          exact hfolders
        refine (back_up_both_meets hstand none).mono (fun _ left hleft => ?_)
          fun _ _ hfault => ⟨hfault.1, rfl⟩
        rw [hleft.2.1, hleft.2.2, hnamed.defaults, htrashed.defaults]
        exact ⟨hnotes, htrash⟩

/-! ## Moving notes to the trash -/

variable {notebook middle left : Notebook} {ids : List String} {id : String} {note : Note}

/-- Notes have been moved to the trash, each under a new version; nothing else has changed. -/
structure Moved (ids : List String) (notebook left : Notebook) : Prop where
  layout : left.layout = notebook.layout
  disk : left.disk = notebook.disk
  notes_changes : notebook.notes.Changes left.notes
  trash_changes : notebook.trash.Changes left.trash
  others : ∀ id, id ∉ ids → left.notes.get? id = notebook.notes.get? id ∧
    left.trash.get? id = notebook.trash.get? id
  moved : ∀ id ∈ ids, left.notes.get? id = none ∧ ∃ note version,
    notebook.notes.get? id = some note ∧
      left.trash.get? id = some { note.withDefaults with version := version }
  due : left.notes.fullSaveDue = true ∧ left.trash.fullSaveDue = true ∨ ids = [] ∧ left = notebook

/-- One note has been moved to the trash and then others. -/
theorem Moved.cons (hkeyed : notebook.notes.Keyed) (hfound : notebook.notes.get? id = some note)
    (hnot : id ∉ ids)
    (h : Moved ids
      { notebook with notes := notebook.notes.without id, trash := notebook.trash.add note } left) :
    Moved (id :: ids) notebook left := by
  obtain rfl : note.id = id := hkeyed id note hfound
  have hgone : (notebook.notes.without note.id).get? note.id = none := by
    rw [Store.get?, Store.get_without, if_pos rfl]
  have hadded : (notebook.trash.add note).get? note.id =
      some { note.withDefaults with version := 1 + max notebook.trash.clock note.version } := by
    rw [Store.get?, Store.get_add, if_pos rfl]
  have hothers (other : String) (hne : note.id ≠ other) :
      (notebook.notes.without note.id).get? other = notebook.notes.get? other ∧
        (notebook.trash.add note).get? other = notebook.trash.get? other := by
    rw [Store.get_add_of_ne hne, Store.get?, Store.get_without, if_neg hne]
    exact ⟨rfl, rfl⟩
  refine ⟨h.layout, h.disk, .head (.remove _ _ note _ (Store.remove_eq hfound)) h.notes_changes,
    .head (.add _ note) h.trash_changes, fun other hother => ?_, fun other hmem => ?_, ?_⟩
  · have hne : note.id ≠ other := fun heq => hother (by simp [heq])
    obtain ⟨hnotes, htrash⟩ := h.others other fun hmem => hother (List.mem_cons_of_mem _ hmem)
    exact ⟨hnotes.trans (hothers other hne).1, htrash.trans (hothers other hne).2⟩
  · -- the first id is not among the rest, so what was done with it stays
    rcases List.mem_cons.1 hmem with rfl | hmem
    · obtain ⟨hnotes, htrash⟩ := h.others _ hnot
      exact ⟨hnotes.trans hgone, note, _, hfound, htrash.trans hadded⟩
    · obtain ⟨hnotes, moved, version, hmoved, htrash⟩ := h.moved other hmem
      have hne : note.id ≠ other := by
        rintro rfl
        exact hnot hmem
      exact ⟨hnotes, moved, version, (hothers other hne).1.symm.trans hmoved, htrash⟩
  · rcases h.due with hdue | ⟨-, rfl⟩
    · exact .inl hdue
    · exact .inl ⟨rfl, rfl⟩

/-- Notes that are there are moved to the trash one after the other. -/
theorem discard_moves (hkeyed : notebook.notes.Keyed) (ids : List String) (hnodup : ids.Nodup)
    (hthere : ∀ id ∈ ids, notebook.notes.contains id = true) :
    (ids.forM discard).Meets notebook (fun _ => Moved ids notebook) fun _ _ => False := by
  refine (discard_each_rule (fun ids notebook left => notebook.notes.Keyed → Moved ids notebook left)
    (fun _ _ => ?_) (fun _ _ id _ _ hfound hnot hmoved hkeyed => ?_) ids hnodup hthere).mono
    (fun _ _ hleft => hleft hkeyed) fun _ _ hfalse => hfalse
  · exact ⟨rfl, rfl, .refl, .refl, fun _ _ => ⟨rfl, rfl⟩, by simp, .inr ⟨rfl, rfl⟩⟩
  · exact .cons hkeyed hfound hnot (hmoved (hkeyed.without id))

/-- A primary store from which notes have been moved is tracked. -/
theorem Moved.tracked (h : Moved ids notebook left) (hdurable : notebook.Durable)
    (htidy : notebook.Tidy) :
    left.notes.Tracked notebook.disk notebook.layout.notesPath := by
  have hused := (h.notes_changes.kept (hdurable.notes.in_use htidy.notes)
    hdurable.notes.accounted).1
  rcases h.due with ⟨hdue, -⟩ | ⟨-, rfl⟩
  · exact .of_due hused.path_eq hused.keyed hdue
  · exact hdurable.notes.tracked

/-- Notes with names and folders need no defaults. -/
theorem map_with_defaults {store : Store} (h : store.Named) (id : String) :
    (store.get? id).map Note.withDefaults = store.get? id := by
  have hnotes := store.get_with_defaults id
  rw [h.with_defaults_eq] at hnotes
  exact hnotes.symm

/-- The primary store that is saved when notes have been moved. -/
theorem Moved.notes_saved (h : Moved ids notebook left) (hnamed : notebook.notes.Named)
    (id : String) :
    left.notes.saved.notes[id]? = if id ∈ ids then none else notebook.notes.get? id := by
  have hsaved : left.notes.saved.notes[id]? = (left.notes.get? id).map Note.withDefaults := by
    rw [left.notes.saved_eq.2.1, Store.get_with_defaults, Store.get?]
  rw [hsaved]
  split
  next hmem => rw [(h.moved id hmem).1, Option.map_none]
  next hnot => rw [(h.others id hnot).1, map_with_defaults hnamed]

/-- The trash that is saved when notes have been moved: other notes are as they were. -/
theorem Moved.trash_saved (h : Moved ids notebook left) (hnamed : notebook.trash.Named)
    (hnot : id ∉ ids) : left.trash.saved.notes[id]? = notebook.trash.get? id := by
  rw [left.trash.saved_eq.2.1, Store.get_with_defaults]
  change (left.trash.get? id).map Note.withDefaults = _
  rw [(h.others id hnot).2, map_with_defaults hnamed]

/-- The trash that is saved when notes have been moved: they are in it under new versions. -/
theorem Moved.trash_gained (h : Moved ids notebook left) (hnamed : notebook.notes.Named)
    (hmem : id ∈ ids) : ∃ note version, notebook.notes.get? id = some note ∧
      left.trash.saved.notes[id]? = some { note with version := version } := by
  obtain ⟨-, note, version, hfound, htrash⟩ := h.moved id hmem
  refine ⟨note, version, hfound, ?_⟩
  have hnote := hnamed id note hfound
  have hdefaults : note.withDefaults = note := Note.with_defaults_of_ne hnote.1 hnote.2
  have hagain : Note.withDefaults { note with version := version } =
      { note with version := version } :=
    Note.with_defaults_of_ne hnote.1 hnote.2
  rw [left.trash.saved_eq.2.1, Store.get_with_defaults]
  change (left.trash.get? id).map Note.withDefaults = _
  rw [htrash, hdefaults, Option.map_some, hagain]

/-! ## What the disk gives out at -/

/-- What is found, in the primary store and in the trash, of a note that was to be moved to the trash,
if the disk gave out at a certain write. -/
def Remains (notebook : Notebook) (id : String) (note : Note) (found trashed : Option Note) :
    Nat → Prop
  /- The main file of the primary store was refused. -/
  | 1 => found = some note ∧ trashed = notebook.trash.get? id
  /- The diff file of the primary store was not emptied. -/
  | 2 => (found = if id ∈ notebook.notes.touched then some note else none) ∧
      trashed = notebook.trash.get? id
  /- The main file of the trash was refused. -/
  | 3 => found = none ∧ trashed = notebook.trash.get? id
  /- The diff file of the trash was not emptied. -/
  | 4 => found = none ∧
      if id ∈ notebook.trash.touched then trashed = notebook.trash.get? id
      else ∃ version, trashed = some { note with version := version }
  | _ => False

/-- What is found on a disk on which notes were to be moved to the trash and that has given out. -/
structure Broken (ids : List String) (notebook : Notebook) (disk : Disk)
    (notes trash : Std.ExtTreeMap String Note) : Prop where
  notes_found : Store.Finds disk notebook.layout.notesPath notes
  trash_found : Store.Finds disk notebook.layout.trashPath trash
  folders : notebook.disk.SameFolders disk
  others : ∀ id : String, id ∉ ids →
    notes[id]? = notebook.notes.get? id ∧ trash[id]? = notebook.trash.get? id
  remains : ∀ id ∈ ids, ∃ note, notebook.notes.get? id = some note ∧
    Remains notebook id note notes[id]? trash[id]? (disk.writes - notebook.disk.writes)

/-- What is found if the disk gave out while the primary store was saved. -/
theorem Moved.broken (h : Moved ids notebook middle) (hdurable : notebook.Durable)
    {disk : Disk} (hfinds : Store.Finds disk notebook.layout.notesPath notes)
    (htrash : notebook.trash.Saved disk notebook.layout.trashPath)
    (hfolders : notebook.disk.SameFolders disk)
    (hcase : disk.writes = notebook.disk.writes + 1 ∧ notes = notebook.notes.notes ∨
      disk.writes = notebook.disk.writes + 2 ∧ Store.Mixes notebook.notes middle.notes.saved notes) :
    Broken ids notebook disk notes notebook.trash.notes := by
  refine ⟨hfinds, htrash.finds, hfolders, fun id hnot => ⟨?_, rfl⟩, fun id hmem => ?_⟩
  · rcases hcase with ⟨-, rfl⟩ | ⟨-, hmixes⟩
    · rfl
    · rw [hmixes id, h.notes_saved hdurable.notes.storable.named, if_neg hnot]
      split <;> rfl
  · obtain ⟨-, note, -, hfound, -⟩ := h.moved id hmem
    refine ⟨note, hfound, ?_⟩
    rcases hcase with ⟨hwrites, rfl⟩ | ⟨hwrites, hmixes⟩
    · rw [hwrites, Nat.add_sub_cancel_left]
      exact ⟨hfound, rfl⟩
    · rw [hwrites, Nat.add_sub_cancel_left]
      refine ⟨?_, rfl⟩
      rw [hmixes id, h.notes_saved hdurable.notes.storable.named, if_pos hmem]
      split
      · exact hfound
      · rfl

/-- A notebook from which notes have been moved to the trash, after the primary store has been
saved. -/
structure HalfSaved (ids : List String) (notebook middle left : Notebook) : Prop where
  layout : left.layout = notebook.layout
  folders : notebook.disk.SameFolders left.disk
  notes_eq : left.notes = middle.notes.saved
  trash_eq : left.trash = middle.trash
  notes_saved : middle.notes.saved.Storable →
    middle.notes.saved.Saved left.disk notebook.layout.notesPath
  trash_saved : notebook.trash.Saved left.disk notebook.layout.trashPath
  tidy : Store.Tidy left.disk notebook.layout.trashPath
  writes : left.disk.writes = notebook.disk.writes + 2 ∨ ids = []

/-- What is found if the disk gave out while the trash was saved, after the primary store. -/
theorem HalfSaved.broken (h : HalfSaved ids notebook middle left)
    (hmoved : Moved ids notebook middle) (hdurable : notebook.Durable) {disk : Disk}
    (hfinds : Store.Finds disk notebook.layout.trashPath trash)
    (hnotes : middle.notes.saved.Saved disk notebook.layout.notesPath)
    (hfolders : left.disk.SameFolders disk)
    (hcase : disk.writes = left.disk.writes + 1 ∧ trash = notebook.trash.notes ∨
      disk.writes = left.disk.writes + 2 ∧ Store.Mixes notebook.trash middle.trash.saved trash) :
    Broken ids notebook disk middle.notes.saved.notes trash := by
  refine ⟨hnotes.finds, hfinds, h.folders.trans hfolders, fun id hnot => ⟨?_, ?_⟩, fun id hmem => ?_⟩
  · rw [hmoved.notes_saved hdurable.notes.storable.named, if_neg hnot]
  · rcases hcase with ⟨-, rfl⟩ | ⟨-, hmixes⟩
    · rfl
    · rw [hmixes id, hmoved.trash_saved hdurable.trash.storable.named hnot]
      split <;> rfl
  · -- a note that was to be moved tells that the primary store was saved as a whole
    have hwrites : left.disk.writes = notebook.disk.writes + 2 :=
      h.writes.resolve_right fun hnone => by simp [hnone] at hmem
    have hgone : middle.notes.saved.notes[id]? = none := by
      rw [hmoved.notes_saved hdurable.notes.storable.named, if_pos hmem]
    obtain ⟨note, version, hfound, hgained⟩ := hmoved.trash_gained hdurable.notes.storable.named hmem
    refine ⟨note, hfound, ?_⟩
    rcases hcase with ⟨hlast, rfl⟩ | ⟨hlast, hmixes⟩
    · rw [hlast, hwrites, Nat.add_assoc, Nat.add_sub_cancel_left]
      exact ⟨hgone, rfl⟩
    · rw [hlast, hwrites, Nat.add_assoc, Nat.add_sub_cancel_left]
      refine ⟨hgone, ?_⟩
      rw [hmixes id]
      split
      · rfl
      · exact ⟨version, hgained⟩

/-- Saving the primary store after notes have been moved to the trash. -/
theorem Moved.save_notes_meets (h : Moved ids notebook middle) (hdurable : notebook.Durable)
    (htidy : notebook.Tidy) :
    (onNotes Store.save).Meets middle (fun _ left => HalfSaved ids notebook middle left)
      fun fault left => fault = .disk ∧ left.notes = middle.notes.saved ∧
        (middle.notes.saved.Storable →
          ∃ notes trash, Broken ids notebook left.disk notes trash) := by
  have htracked := h.tracked hdurable htidy
  -- the save leaves the files of the trash alone
  have hsame {left : Shelf}
      (hended : middle.notes.Ended notebook.disk middle.supply notebook.layout.notesPath left)
      (own : String)
      (hown : own ∈ [notebook.layout.trashPath, Store.diffPath notebook.layout.trashPath]) :
      left.disk.octets? own = notebook.disk.octets? own :=
    hended.others own
      ((Layout.apart_notes (by simp) (List.mem_append_left _ hown)).elsewhere _)
      ((Layout.apart_notes (by simp) (List.mem_append_left _ hown)).elsewhere _)
  unfold onNotes
  rw [Attempt.meets_within, h.disk]
  refine (hdurable.notes.save_finds htidy.notes h.notes_changes middle.supply).mono
    (fun _ left hleft => ?_) fun _ left hleft => ?_
  · obtain ⟨hended, hwrites, hwritten⟩ := hleft
    refine ⟨h.layout, hended.folders, hended.store_eq, rfl, hwritten.saved htracked,
      hdurable.trash.of_same_files (hsame hended _ (by simp)) (hsame hended _ (by simp)),
      htidy.trash.of_same_files (hsame hended _ (by simp)) (hsame hended _ (by simp)), ?_⟩
    rcases h.due with ⟨hdue, -⟩ | ⟨hids, -⟩
    · exact .inl (by simpa [Store.savesDiff, hdue] using hwrites)
    · exact .inr hids
  · obtain ⟨hfault, hended, hfinds⟩ := hleft
    refine ⟨hfault, hended.store_eq, fun hstorable => ?_⟩
    obtain ⟨notes, hfinds, hcase⟩ := hfinds hstorable
    exact ⟨notes, _, h.broken hdurable hfinds (hdurable.trash.of_same_files
      (hsame hended _ (by simp)) (hsame hended _ (by simp))) hended.folders hcase⟩

/-- Saving the trash after that. -/
theorem HalfSaved.save_trash_meets (h : HalfSaved ids notebook middle left)
    (hmoved : Moved ids notebook middle) (hdurable : notebook.Durable) :
    (onTrash Store.save).Meets left (fun _ _ => True)
      fun fault last => fault = .disk ∧ last.notes = middle.notes.saved ∧
        last.trash = middle.trash.saved ∧
        (middle.notes.saved.Storable → middle.trash.saved.Storable →
          ∃ notes trash, Broken ids notebook last.disk notes trash) := by
  unfold onTrash
  rw [Attempt.meets_within, h.trash_eq]
  refine (h.trash_saved.save_finds h.tidy hmoved.trash_changes left.supply).mono
    (fun _ _ _ => trivial) fun _ last hlast => ?_
  obtain ⟨hfault, hended, hfinds⟩ := hlast
  -- the save leaves the files of the primary store alone
  have hsame (own : String)
      (hown : own ∈ [notebook.layout.notesPath, Store.diffPath notebook.layout.notesPath]) :
      last.disk.octets? own = left.disk.octets? own :=
    hended.others own
      ((Layout.apart_trash (by simp) (List.mem_append_left _ hown)).elsewhere _)
      ((Layout.apart_trash (by simp) (List.mem_append_left _ hown)).elsewhere _)
  refine ⟨hfault, h.notes_eq, hended.store_eq, fun hnotes_storable hstorable => ?_⟩
  have hnotes := (h.notes_saved hnotes_storable).of_same_files (hsame _ (by simp))
    (hsame _ (by simp))
  obtain ⟨trash, hfinds, hcase⟩ := hfinds hstorable
  exact ⟨_, trash, h.broken hmoved hdurable hfinds hnotes hended.folders hcase⟩

/-- What is found when the disk gives out while notes are moved to the trash. -/
theorem delete_breaks (h : notebook.Durable) (htidy : notebook.Tidy) (ids : List String) :
    (delete ids).Meets notebook (fun _ _ => True)
      fun fault left => fault = .disk → left.Storable →
        ∃ notes trash, Broken (distinct ids) notebook left.disk notes trash := by
  unfold delete
  simp only [Attempt.meets_bind]
  refine (check_ids_meets (distinct ids)).mono (fun _ checked hchecked => ?_)
    fun fault _ hunknown => ?_
  · obtain ⟨rfl, hthere⟩ := hchecked
    refine (discard_moves h.notes.keyed (distinct ids) (nodup_distinct ids) hthere).mono
      (fun _ middle hmoved => ?_) fun _ _ hfalse => hfalse.elim
    refine (hmoved.save_notes_meets h htidy).mono (fun _ half hhalf => ?_)
      fun _ left hleft _ hstorable => ?_
    · refine (hhalf.save_trash_meets hmoved h).mono (fun _ _ _ => trivial)
        fun _ left hleft _ hstorable => ?_
      obtain ⟨-, hnotes, htrash, hbroken⟩ := hleft
      exact hbroken (hnotes ▸ hstorable.notes) (htrash ▸ hstorable.trash)
    · obtain ⟨-, hnotes, hbroken⟩ := hleft
      exact hbroken (hnotes ▸ hstorable.notes)
  · -- that an id is unknown is not a fault of the disk
    obtain ⟨-, id, rfl⟩ := hunknown
    intro hdisk
    cases hdisk

/-- Notes are deleted from a notebook whose files hold its stores, and the disk gives out at one of the
four writes. When a fresh notebook is opened on the files, all other notes are found where they were,
and of every note that was to be deleted there remains what the number of that write tells. So it is
found in neither store if the main file of the trash was refused, unless it was in the trash before.
The notebooks along a run are all such as is asked for here (`Run.durable`, `Run.tidy`). -/
theorem deleted_notes_found (h : notebook.Durable) (htidy : notebook.Tidy) (ids : List String)
    (hstorable : ((delete ids).after notebook).Storable) (fresh : Supply) :
    (delete ids).Meets notebook (fun _ _ => True)
      fun fault left => fault = .disk →
        openStores.Meets (unread notebook.layout left.disk fresh)
          (fun _ opened =>
            (∀ id, id ∉ ids → opened.notes.get? id = notebook.notes.get? id ∧
              opened.trash.get? id = notebook.trash.get? id) ∧
            ∀ id ∈ ids, ∃ note, notebook.notes.get? id = some note ∧
              Remains notebook id note (opened.notes.get? id) (opened.trash.get? id)
                (left.disk.writes - notebook.disk.writes))
          fun fault _ => fault = .disk ∧ notebook.layout.backsUpOnOpen = true := by
  refine (delete_breaks h htidy ids).run.mono (fun _ _ _ => trivial) fun _ left hleft hdisk => ?_
  obtain ⟨hbreaks, hrun⟩ := hleft
  have hleft : (delete ids).after notebook = left := by rw [Attempt.after, hrun]
  rw [hleft] at hstorable
  obtain ⟨notes, trash, hbroken⟩ := hbreaks hdisk hstorable
  refine (open_finds (h.folders.of_same_folders hbroken.folders) hbroken.notes_found
    hbroken.trash_found fresh).mono (fun _ opened hopened => ?_) fun _ _ hfault => hfault
  obtain ⟨rfl, rfl⟩ := hopened
  exact ⟨fun id hnot => hbroken.others id fun hmem => hnot (mem_distinct.1 hmem),
    fun id hmem => hbroken.remains id (mem_distinct.2 hmem)⟩

/-- A notebook for examples, on a disk that refuses one write: a note has been created. -/
def createdOn (refused : Nat) : Notebook :=
  (Operation.note (.create { name := "one" })).perform.after
    (openStores.after
      (unread (.inFolder "notes") { Disk.empty with refuses := (· == refused) } .tally))

/-- The notebook for examples is reached by a run, and its note is in it. If the disk refuses a write of
the trash, the note cannot be deleted. -/
theorem created_on (refused : Nat) (h : refused = 4 ∨ refused = 5) :
    Run (.inFolder "notes") { Disk.empty with refuses := (· == refused) } .tally
      [.note (.create { name := "one" })] (createdOn refused) ∧
      (createdOn refused).Durable ∧ (createdOn refused).Tidy ∧
      (createdOn refused).layout.backsUpOnOpen = false ∧ (createdOn refused).notes.Has "i" ∧
      (delete ["i"]).fault? (createdOn refused) = some .disk ∧
      ((delete ["i"]).after (createdOn refused)).Storable := by
  let layout : Layout := .inFolder "notes"
  let disk : Disk := { Disk.empty with refuses := (· == refused) }
  let create : Operation := .note (.create { name := "one" })
  obtain ⟨⟨hvacant, hopens, hcreates, hstorable⟩, hrest⟩ :
      (layout.Vacant disk ∧ openStores.fault? (unread layout disk .tally) = none ∧
        create.perform.fault? (openStores.after (unread layout disk .tally)) ≠ some .disk ∧
        (createdOn refused).Storable) ∧
      (createdOn refused).Tidy ∧
      (createdOn refused).layout.backsUpOnOpen = false ∧ (createdOn refused).notes.Has "i" ∧
      (delete ["i"]).fault? (createdOn refused) = some .disk ∧
      ((delete ["i"]).after (createdOn refused)).Storable := by
    rcases h with rfl | rfl <;> decide +kernel
  have hrun : Run layout disk .tally [create] (createdOn refused) :=
    .performed [] create _ (.opened hopens) hcreates (fun heq => absurd heq (by decide)) hstorable
  exact ⟨hrun, (hrun.durable hvacant).1, hrest⟩

/-- If only the diff file of the trash was refused, the note is found in the trash. -/
theorem deleted_note_found_in_trash :
    (delete ["i"]).fault? (createdOn 5) = some .disk ∧
      openStores.Meets
        (unread (createdOn 5).layout ((delete ["i"]).after (createdOn 5)).disk .tally)
        (fun _ opened => ¬ opened.notes.Has "i" ∧ opened.trash.Has "i") fun _ _ => False := by
  obtain ⟨-, hdurable, htidy, hquiet, -, hfails, hstorable⟩ := created_on 5 (.inr rfl)
  obtain ⟨hwrites, hnew⟩ :
      ((delete ["i"]).after (createdOn 5)).disk.writes - (createdOn 5).disk.writes = 4 ∧
        ¬ "i" ∈ (createdOn 5).trash.touched := by
    decide +kernel
  have hfound := (deleted_notes_found hdurable htidy ["i"] hstorable .tally).after_of_some hfails
  refine ⟨hfails, (hfound rfl).mono (fun _ opened hopened => ?_) fun _ _ hfault => ?_⟩
  · obtain ⟨note, -, hremains⟩ := hopened.2 "i" (by simp)
    rw [hwrites] at hremains
    obtain ⟨hgone, htrash⟩ := hremains
    rw [if_neg hnew] at htrash
    obtain ⟨version, htrash⟩ := htrash
    rw [Store.Has, Store.Has, hgone, htrash]
    exact ⟨by simp, rfl⟩
  · simp [hquiet] at hfault

/-- If the main file of the trash was refused, the note is found in neither store. -/
theorem deleted_note_lost :
    (∃ operations, Run (.inFolder "notes") { Disk.empty with refuses := (· == 4) } .tally operations
      (createdOn 4)) ∧
      (createdOn 4).Durable ∧ ((delete ["i"]).after (createdOn 4)).Storable ∧
      (createdOn 4).notes.Has "i" ∧ (delete ["i"]).fault? (createdOn 4) = some .disk ∧
      openStores.Meets
        (unread (createdOn 4).layout ((delete ["i"]).after (createdOn 4)).disk .tally)
        (fun _ opened => ¬ opened.notes.Has "i" ∧ ¬ opened.trash.Has "i") fun _ _ => False := by
  obtain ⟨hrun, hdurable, htidy, hquiet, hthere, hfails, hstorable⟩ := created_on 4 (.inl rfl)
  obtain ⟨hwrites, hnew⟩ :
      ((delete ["i"]).after (createdOn 4)).disk.writes - (createdOn 4).disk.writes = 3 ∧
        (createdOn 4).trash.get? "i" = none := by
    decide +kernel
  obtain ⟨notes, trash, hbroken⟩ :=
    (delete_breaks hdurable htidy ["i"]).after_of_some hfails rfl hstorable
  refine ⟨⟨_, hrun⟩, hdurable, hstorable, hthere, hfails,
    (open_finds (hdurable.folders.of_same_folders hbroken.folders) hbroken.notes_found
      hbroken.trash_found .tally).mono (fun _ opened hopened => ?_) fun _ _ hfault => ?_⟩
  · obtain ⟨rfl, rfl⟩ := hopened
    obtain ⟨note, -, hremains⟩ := hbroken.remains "i" (mem_distinct.2 (by simp))
    rw [hwrites] at hremains
    obtain ⟨hgone, htrash⟩ := hremains
    rw [Store.Has, Store.Has, Store.get?, Store.get?, hgone, htrash, hnew]
    simp
  · simp [hquiet] at hfault

end Notebook

end Notekeeper
