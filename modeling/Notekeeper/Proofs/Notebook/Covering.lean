import Notekeeper.Proofs.Notebook.Durability
import Notekeeper.Proofs.Store.Covering

/-!
# Notebooks that cover their files

A notebook covers its files if both of its stores do. Saving makes it so if its notes are enclosed
(`Notebook.SavedAs.covered`). Closing and opening a notebook that covers its files brings no id into a
store that was not there (`Notebook.Covered.opens`), although notes that files cannot hold may change
or get lost.
-/

namespace Notekeeper

/-- A store that has never held anything covers its files as long as it has no main file. -/
theorem Store.covered_of_no_file {disk : Disk} {path : String} (hfile : disk.isFile path = false) :
    ({ path? := some path } : Store).Covered disk path := by
  refine ⟨rfl, fun id note hfound => ?_, fun id note hfound => ?_, fun hthere => ?_⟩
  · simp at hfound
  · simp [get?] at hfound
  · rw [hfile] at hthere
    cases hthere

namespace Notebook

/-- The notes of both stores are kept apart in files. -/
structure Enclosed (notebook : Notebook) : Prop where
  notes : notebook.notes.Enclosed
  trash : notebook.trash.Enclosed

instance (notebook : Notebook) : Decidable notebook.Enclosed :=
  decidable_of_iff (notebook.notes.Enclosed ∧ notebook.trash.Enclosed)
    ⟨fun ⟨hnotes, htrash⟩ => ⟨hnotes, htrash⟩, fun h => ⟨h.notes, h.trash⟩⟩

/-- Both stores cover their files. -/
structure Covered (notebook : Notebook) : Prop where
  notes : notebook.notes.Covered notebook.disk notebook.layout.notesPath
  trash : notebook.trash.Covered notebook.disk notebook.layout.trashPath
  folders : notebook.disk.HasFolders notebook.layout

/-- Both stores cover their files unless saves of everything are due. -/
structure Covering (notebook : Notebook) : Prop where
  notes : notebook.notes.Covering notebook.disk notebook.layout.notesPath
  trash : notebook.trash.Covering notebook.disk notebook.layout.trashPath
  folders : notebook.disk.HasFolders notebook.layout

variable {notebook left : Notebook} {notes trash : Store}

theorem Covered.covering (h : notebook.Covered) : notebook.Covering :=
  ⟨h.notes.covering, h.trash.covering, h.folders⟩

theorem Due.covering (h : notebook.Due) : notebook.Covering :=
  ⟨.of_due h.notes_path h.notes_keyed h.notes_due, .of_due h.trash_path h.trash_keyed h.trash_due,
    h.folders⟩

theorem Covered.rooted (h : notebook.Covered) : notebook.Rooted :=
  ⟨h.notes.path_eq, h.trash.path_eq, h.notes.keyed, h.trash.keyed, h.folders⟩

/-- A notebook whose files hold its stores covers them. -/
theorem Durable.covered (h : notebook.Durable) : notebook.Covered :=
  ⟨h.notes.covered, h.trash.covered, h.folders⟩

/-- Both stores go on covering their files as long as nothing happens to them. -/
theorem Covered.of_stays (h : notebook.Covered) (hstays : Stays notebook left) : left.Covered := by
  obtain ⟨hfiles, hnotes, htrash⟩ := hstays
  refine ⟨?_, ?_, hfiles.has_folders h.folders⟩
  · rw [hnotes, hfiles.layout]
    exact h.notes.of_same_files (hfiles.files _ (by simp [Layout.storeFiles]))
      (hfiles.files _ (by simp [Layout.storeFiles]))
  · rw [htrash, hfiles.layout]
    exact h.trash.of_same_files (hfiles.files _ (by simp [Layout.storeFiles]))
      (hfiles.files _ (by simp [Layout.storeFiles]))

/-- A notebook covers its files when stores that did so have been saved in place of its own. -/
theorem SavedAs.covered (h : SavedAs notebook notes trash left)
    (hcovering : Covering { notebook with notes := notes, trash := trash })
    (henclosed : left.Enclosed) : left.Covered := by
  obtain ⟨hnotes, htrash, hfolders⟩ := hcovering
  refine ⟨?_, ?_, h.stay.has_folders hfolders⟩
  · rw [h.notes_eq, h.stay.layout]
    exact h.notes_written.covered hnotes (by rw [← h.notes_eq]; exact henclosed.notes)
  · rw [h.trash_eq, h.stay.layout]
    exact h.trash_written.covered htrash (by rw [← h.trash_eq]; exact henclosed.trash)

/-- Through changes both stores go on covering their files. -/
theorem Changes.covering (h : notebook.Changes left) (hcovering : notebook.Covering) :
    left.Covering := by
  induction h with
  | refl => exact hcovering
  | tail _ hchange ih =>
      obtain ⟨hnotes, htrash, hfolders⟩ := ih
      cases hchange with
      | add note later =>
          exact ⟨.of_due hnotes.path_eq (hnotes.keyed.add note) rfl, htrash, hfolders⟩
      | revise id note edited later hfound hid =>
          exact ⟨hnotes.revise hfound hid, htrash, hfolders⟩
      | discard id note =>
          exact ⟨.of_due hnotes.path_eq (hnotes.keyed.without id) rfl,
            .of_due htrash.path_eq (htrash.keyed.add note) rfl, hfolders⟩

/-- Operations on notes leave the files of an exchange alone. -/
theorem NoteOperation.exchange_stays (operation : NoteOperation) (h : notebook.Covering) :
    operation.perform.Meets notebook
      (fun _ left => FilesStay notebook.layout.exchangeFiles notebook left) fun _ _ => True := by
  have hstay {middle : Notebook} (hchanges : notebook.Changes middle) (left : Notebook)
      (hleft : FilesStay middle.layout.exchangeFiles middle left) :
      FilesStay notebook.layout.exchangeFiles notebook left := by
    have hlayout : middle.layout = notebook.layout :=
      (hchanges.stay : FilesStay [] notebook middle).layout
    rw [hlayout] at hleft
    exact hchanges.stay.trans hleft
  refine operation.perform_meets ⟨.refl notebook, fun _ => trivial, fun middle hchanges _ => ?_,
    fun middle hchanges => ?_⟩ fun _ _ _ hchanges => hchanges.stay
  · exact (save_notes_meets (hchanges.covering h).notes.path_eq).mono
      (fun _ left hleft => hstay hchanges left (hleft.1.mono (by simp +contextual)))
      fun _ _ _ => trivial
  · have hcovering := hchanges.covering h
    exact (save_writes hcovering.notes.path_eq hcovering.trash.path_eq).mono
      (fun _ left hleft => hstay hchanges left hleft.1) fun _ _ _ => trivial

/-! ## Opening -/

/-- A notebook has been opened over the files that another covers, and its primary store has been
read. -/
structure HalfRecalled (notebook left : Notebook) : Prop where
  layout : left.layout = notebook.layout
  disk : left.disk = notebook.disk
  supply : notebook.supply.LeadsTo left.supply
  notes : left.notes.Covered notebook.disk notebook.layout.notesPath
  notes_has : ∀ id, left.notes.Has id → notebook.notes.Has id
  trash : left.trash = { path? := some notebook.layout.trashPath }

/-- A notebook has been opened over the files that another covers. -/
structure Recalled (notebook left : Notebook) : Prop where
  covered : left.Covered
  stay : FilesStay [] notebook left
  notes : ∀ id, left.notes.Has id → notebook.notes.Has id
  trash : ∀ id, left.trash.Has id → notebook.trash.Has id

/-- Reading the primary store brings no id that was not in it. -/
theorem Covered.load_notes_meets (h : notebook.Covered)
    (hfile : notebook.disk.isFile notebook.layout.notesPath = true) :
    (onNotes Store.load).Meets (unread notebook.layout notebook.disk notebook.supply)
      (fun _ left => HalfRecalled notebook left) fun _ _ => False := by
  unfold onNotes
  rw [Attempt.meets_within]
  exact (h.notes.covers.load_meets hfile notebook.supply).mono
    (fun _ _ hshelf => ⟨rfl, hshelf.1, hshelf.2.1, hshelf.2.2.1, hshelf.2.2.2, rfl⟩)
    fun _ _ hfalse => hfalse

/-- A notebook whose stores have both been read covers the same files. -/
theorem HalfRecalled.recalled {trash : Store} {supply : Supply} (h : HalfRecalled notebook left)
    (hcovered : notebook.Covered) (hsupply : left.supply.LeadsTo supply)
    (htrash : trash.Covered notebook.disk notebook.layout.trashPath)
    (hhas : ∀ id, trash.Has id → notebook.trash.Has id) :
    Recalled notebook { left with trash := trash, supply := supply } := by
  obtain ⟨hlayout, hdisk, hleads, hnotes, hnotes_has, -⟩ := h
  refine ⟨⟨?_, ?_, ?_⟩, ⟨hlayout, hleads.trans hsupply, ?_, by simp⟩, hnotes_has, hhas⟩
  · rw [hlayout, hdisk]
    exact hnotes
  · rw [hlayout, hdisk]
    exact htrash
  · rw [hlayout, hdisk]
    exact hcovered.folders
  · rw [hdisk]
    exact .refl _

/-- Reading the trash after the primary store brings no id that was not in it. -/
theorem HalfRecalled.load_trash_meets (h : HalfRecalled notebook left) (hcovered : notebook.Covered)
    (hfile : notebook.disk.isFile notebook.layout.trashPath = true) :
    (onTrash Store.load).Meets left (fun _ last => Recalled notebook last) fun _ _ => False := by
  unfold onTrash
  rw [Attempt.meets_within, h.trash, h.disk]
  refine (hcovered.trash.covers.load_meets hfile left.supply).mono (fun _ shelf hshelf => ?_)
    fun _ _ hfalse => hfalse
  obtain ⟨hdisk, hleads, htrash, hhas⟩ := hshelf
  rw [hdisk, ← h.disk]
  exact h.recalled hcovered hleads htrash hhas

/-- Closing a notebook that covers its files and opening it again brings no id into a store that was
not in it. It fails only if the disk does not take the backups that are made. -/
theorem Covered.opens (h : notebook.Covered) :
    openStores.Meets (unread notebook.layout notebook.disk notebook.supply)
      (fun _ left => Recalled notebook left) fun fault _ => notebook.DiskFault fault := by
  refine open_meets_of_folders h.folders (HalfRecalled notebook) (Recalled notebook)
    (fun hfile => (h.load_notes_meets hfile).mono (fun _ _ hleft => hleft) fun _ _ hf => hf.elim)
    (fun hnone => ⟨rfl, rfl, .refl _, Store.covered_of_no_file hnone, fun id hhas => ?_, rfl⟩)
    (fun half hhalf hfile => (hhalf.load_trash_meets h (by rwa [← hhalf.disk])).mono
      (fun _ _ hleft => hleft) fun _ _ hf => hf.elim)
    (fun half hhalf hnone => ?_) fun read hread => ?_
  · simp [unread, Store.Has, Store.get?] at hhas
  · have hempty : half.trash.Covered notebook.disk notebook.layout.trashPath := by
      rw [hhalf.trash]
      rw [hhalf.disk] at hnone
      exact Store.covered_of_no_file hnone
    refine hhalf.recalled h (.refl _) hempty fun id hhas => ?_
    rw [hhalf.trash] at hhas
    simp [Store.Has, Store.get?] at hhas
  · cases hbacks : notebook.layout.backsUpOnOpen with
    | false => exact hread
    | true =>
        refine (back_up_both_meets hread.covered.folders none).mono (fun _ left hleft => ?_)
          fun _ _ hfault => hread.stay.disk_fault ⟨hfault.1, hfault.2 (by simp [ownSuffixes])⟩
        obtain ⟨hfiles, hnotes, htrash⟩ := hleft
        rw [hread.covered.notes.named.with_defaults_eq] at hnotes
        rw [hread.covered.trash.named.with_defaults_eq] at htrash
        refine ⟨hread.covered.of_stays ⟨hfiles.mono (by simp +contextual), hnotes, htrash⟩,
          hread.stay.trans (hfiles.mono (by simp)), fun id hhas => hread.notes id ?_,
          fun id hhas => hread.trash id ?_⟩
        · rwa [← hnotes]
        · rwa [← htrash]

end Notebook

end Notekeeper
