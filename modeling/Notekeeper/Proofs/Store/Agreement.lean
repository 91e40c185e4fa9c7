import Notekeeper.Proofs.Store.Upkeep

/-!
# Diff saves agree with full saves

A store is handled in every way that its owners handle it, while no access to the disk fails
(`Store.Handled`). Whether the touched notes account for all in which it differs from its main file can
go wrong in two ways: a note that is put in with its version is not marked as something to save, though
the marks of other notes are dropped; and loading drops the mark that everything is to be saved, though
the store may hold notes that its files have never held. Apart from that, files hold the store after
every save, whether it was one of everything or one of the touched notes (`Store.saves_agree`).
-/

namespace Notekeeper

namespace Store

variable {store base left : Store} {disk : Disk} {path : String} {shelf later : Shelf} {known : Bool}
  {told : List Note}

/-! ## Loading a store in use -/

/-- What is loaded is in use. -/
theorem InUse.loaded (h : store.InUse disk path) (hmain : MainFile base disk path)
    (hdiff : DiffFile disk path told) (hloaded : store.Loaded base disk path told later) :
    later.store.InUse later.disk path := by
  refine ⟨hloaded.path_eq, fun id note hfound => ?_, fun id hmem => ?_, ?_, ?_⟩
  · rw [hloaded.notes_eq] at hfound
    exact overlay_keyed (overlay_keyed h.keyed) id note hfound
  · rw [Std.ExtTreeMap.mem_iff_isSome_getElem?, hloaded.notes_eq, get_overlay, Option.isSome_or,
      overlay_isSome.2 ((hloaded.touched id).1 hmem)]
    rfl
  · rw [hloaded.disk_eq]
    exact .inr ⟨base, hmain⟩
  · rw [hloaded.disk_eq]
    exact ⟨told, hdiff⟩

/-- A store that held nothing, or what its files hold, holds after loading what the files hold. -/
theorem Loaded.notes_of_held (hmain : MainFile base disk path) (hdiff : DiffFile disk path told)
    (hloaded : store.Loaded base disk path told later)
    (hheld : store.notes = ∅ ∨ FilesHold disk path store.notes) :
    later.store.notes = overlay base.notes told := by
  have hall : overlay ∅ base.all = base.notes :=
    overlay_all hmain.keyed fun note hmem => (hmain.storable.mem_all note hmem).with_defaults
  rw [hloaded.notes_eq]
  rcases hheld with hnone | hheld
  · rw [hnone, hall]
  · rw [files_hold_iff hmain hdiff] at hheld
    apply Std.ExtTreeMap.ext_getElem?
    intro id
    rw [get_overlay _ told, get_overlay _ base.all, hall, ← hheld, get_overlay base.notes told]
    cases (overlay ∅ told)[id]? <;> cases base.notes[id]? <;> rfl

/-- A store that holds after loading what its files hold is accounted for. -/
theorem Loaded.accounted (hmain : MainFile base disk path)
    (hloaded : store.Loaded base disk path told later)
    (hnotes : later.store.notes = overlay base.notes told) :
    later.store.Accounted later.disk path := by
  intro _
  rw [hloaded.disk_eq]
  refine .inr ⟨base, hmain, fun id hnot => ?_⟩
  rw [hnotes, get_overlay_of_not_mem fun hmem => hnot ((hloaded.touched id).2 hmem)]

/-- A store in use is loaded if it has a main file. -/
theorem InUse.load_meets (h : store.InUse disk path) (supply : Supply) :
    load.Meets ⟨store, disk, supply⟩
      (fun _ left => left.store.InUse left.disk path ∧
        (store.notes = ∅ ∨ FilesHold disk path store.notes →
          left.store.Accounted left.disk path))
      fun _ _ => disk.octets? path = none := by
  obtain ⟨told, hdiff⟩ := h.diff
  rcases h.main with hnone | ⟨base, hmain⟩
  · exact (load_fails h.path_eq hnone supply).mono (fun _ _ hfalse => hfalse.elim) fun _ _ _ => hnone
  · refine (load_onto h.path_eq hmain hdiff supply).mono (fun _ left hleft => ?_)
      fun _ _ hfalse => hfalse.elim
    exact ⟨h.loaded hmain hdiff hleft, fun hheld =>
      hleft.accounted hmain (hleft.notes_of_held hmain hdiff hheld)⟩

/-! ## Handling -/

/-- A store is handled in any order, and no access to the disk fails. Known along with it is whether it
is accounted for: it is when it begins, whenever everything is due to be saved, after a save of
everything, and when it is loaded while it holds nothing or what its files hold. -/
inductive Handled (path : String) : Shelf → Bool → Prop
  | begun (shelf : Shelf) (hused : shelf.store.InUse shelf.disk path)
      (haccounted : shelf.store.Accounted shelf.disk path) : Handled path shelf true
  | changed (shelf : Shelf) (known : Bool) (left : Store) (h : Handled path shelf known)
      (hchange : Change shelf.store left) :
      Handled path { shelf with store := left } (known || left.fullSaveDue)
  /-- A note that already has a version is put in. -/
  | restored (shelf : Shelf) (known : Bool) (note : Note) (h : Handled path shelf known) :
      Handled path { shelf with store := shelf.store.restore note } shelf.store.fullSaveDue
  | cleared (shelf : Shelf) (known : Bool) (h : Handled path shelf known) :
      Handled path { shelf with store := shelf.store.clear } true
  | required (shelf : Shelf) (known : Bool) (h : Handled path shelf known) :
      Handled path { shelf with store := shelf.store.requireFullSave } true
  | clocksSet (shelf : Shelf) (known : Bool) (exportClock importClock : Int)
      (h : Handled path shelf known) :
      Handled path
        { shelf with store := (shelf.store.withClocks exportClock importClock).requireFullSave } true
  | loaded (shelf : Shelf) (known : Bool) (h : Handled path shelf known)
      (hloads : load.fault? shelf = none) :
      Handled path (load.after shelf) (load.after shelf).store.fullSaveDue
  | reloaded (shelf : Shelf) (known : Bool) (h : Handled path shelf known)
      (hloads : load.fault? shelf = none)
      (hheld : shelf.store.notes = ∅ ∨ FilesHold shelf.disk path shelf.store.notes) :
      Handled path (load.after shelf) true
  | saved (shelf : Shelf) (known : Bool) (h : Handled path shelf known)
      (hsaves : save.fault? shelf = none) (hstorable : shelf.store.saved.Storable) :
      Handled path (save.after shelf) (!shelf.store.savesDiff || known)

/-- However it is handled, a store is in use, and accounted for where that is known. -/
theorem Handled.in_use (h : Handled path shelf known) :
    shelf.store.InUse shelf.disk path ∧ (known = true → shelf.store.Accounted shelf.disk path) := by
  induction h with
  | begun shelf hused haccounted => exact ⟨hused, fun _ => haccounted⟩
  | changed shelf known left _ hchange ih =>
      refine ⟨ih.1.change hchange, fun hcase => ?_⟩
      rcases Bool.or_eq_true_iff.1 hcase with hbefore | hdue
      · exact (ih.2 hbefore).change hchange
      · exact accounted_of_due hdue
  | restored shelf known note _ ih =>
      exact ⟨⟨ih.1.path_eq, ih.1.keyed.restore note, by simp [Store.restore], ih.1.main, ih.1.diff⟩,
        fun hdue => accounted_of_due hdue⟩
  | cleared shelf known _ ih =>
      exact ⟨⟨ih.1.path_eq, keyed_of_empty rfl, by simp [Store.clear], ih.1.main, ih.1.diff⟩,
        fun _ => accounted_of_due rfl⟩
  | required shelf known _ ih =>
      exact ⟨⟨ih.1.path_eq, ih.1.keyed, by simp [Store.requireFullSave], ih.1.main, ih.1.diff⟩,
        fun _ => accounted_of_due rfl⟩
  | clocksSet shelf known exportClock importClock _ ih =>
      exact ⟨⟨ih.1.path_eq, ih.1.keyed, by simp [Store.requireFullSave], ih.1.main, ih.1.diff⟩,
        fun _ => accounted_of_due rfl⟩
  | loaded shelf known _ hloads ih =>
      exact ⟨((ih.1.load_meets shelf.supply).after_of_none hloads).1, accounted_of_due⟩
  | reloaded shelf known _ hloads hheld ih =>
      have hleft := (ih.1.load_meets shelf.supply).after_of_none hloads
      exact ⟨hleft.1, fun _ => hleft.2 hheld⟩
  | saved shelf known _ hsaves hstorable ih =>
      have hmeets := (ih.1.save_accounts hstorable shelf.supply).and
        (save_ends ih.1.path_eq shelf.disk shelf.supply)
      have hleft := (hmeets.mono (fun _ left hleft => (⟨hleft.1, hleft.2.2.2.1⟩ :
        (left.store.InUse left.disk path ∧ (_ → left.store.Accounted left.disk path)) ∧
          left.disk.writes = _)) fun _ _ _ => True.intro).after_of_none hsaves
      obtain ⟨⟨hused, haccounted⟩, hwrites⟩ := hleft
      refine ⟨hused, fun hcase => haccounted ?_⟩
      rw [hwrites]
      cases hdiff : shelf.store.savesDiff with
      | true =>
          rw [hdiff] at hcase
          exact .inr ⟨rfl, ih.2 hcase⟩
      | false => exact .inl rfl

/-- However a store has been handled, after the next save the files hold it if everything was written,
or if the main file has every note that is not touched as it is in the store, and in no other case. They
do if, since the last save of everything, no note was put in with its version and nothing was loaded
over notes that the files did not hold, or if something was added, taken out or cleared, or everything
was marked, after that. -/
theorem saves_agree (h : Handled path shelf known) (hstorable : shelf.store.saved.Storable) :
    save.Meets shelf
      (fun kind left =>
        (FilesHold left.disk path left.store.notes ↔
          kind = .full ∨ left.store.MainAgrees left.disk path) ∧
        (known = true → FilesHold left.disk path left.store.notes))
      fun fault _ => fault = .disk :=
  (h.in_use.1.save_read_back hstorable shelf.supply).mono
    (fun _ _ hleft => ⟨hleft.1, fun hcase => hleft.2 (h.in_use.2 hcase)⟩) fun _ _ hfault => hfault

/-- A shelf for examples: a note has been added. -/
def addedOnce : Shelf :=
  ⟨add { path? := some "notes" } { Note.blank .tally with name := "one" }, .empty, .tally⟩

/-- The shelf for examples after the note has been saved and edited. -/
def editedOnce : Shelf :=
  { save.after addedOnce with store := (save.after addedOnce).store.revise "i" editedNote }

/-- The shelf for examples after the note has been saved, another note has been put in with its version
and the first one has been edited. -/
def restoredAndEdited : Shelf :=
  { save.after addedOnce with
    store := ((save.after addedOnce).store.restore otherNote).revise "i" editedNote }

/-- In the example there is no file at first, the note is saved with everything, and its edits are saved
alone. The note that was put in beside it is not touched. -/
theorem examples_saved :
    (Disk.empty.octets? "notes" = none ∧ Disk.empty.octets? (diffPath "notes") = none) ∧
      (save.fault? addedOnce = none ∧ addedOnce.store.saved.Storable ∧
        addedOnce.store.savesDiff = false ∧ ¬ addedOnce.store.saved.Has "j" ∧
        (save.after addedOnce).store.Has "i") ∧
      (save.fault? editedOnce = none ∧ editedOnce.store.saved.Storable ∧
        editedOnce.store.savesDiff = true) ∧
      save.fault? restoredAndEdited = none ∧ restoredAndEdited.store.saved.Storable ∧
        restoredAndEdited.store.savesDiff = true ∧ ¬ "j" ∈ restoredAndEdited.store.saved.touched ∧
        restoredAndEdited.store.saved.Has "j" := by
  decide +kernel

/-- The addition of the note is part of the handling of its store. -/
theorem handled_added : Handled "notes" addedOnce true :=
  .changed _ _ _ (.begun ⟨{ path? := some "notes" }, .empty, .tally⟩
    (new_in_use examples_saved.1.1 examples_saved.1.2) (new_accounted _ _)) (.add _ _)

/-- So is the save of the note. -/
theorem handled_saved :
    Handled "notes" (save.after addedOnce) (!addedOnce.store.savesDiff || true) :=
  handled_added.saved _ _ examples_saved.2.1.1 examples_saved.2.1.2.1

/-- An edit of a saved note is saved in the diff file and read back. -/
theorem saves_agree_on_edit :
    editedOnce.store.savesDiff = true ∧ save.fault? editedOnce = none ∧
      FilesHold (save.after editedOnce).disk "notes" (save.after editedOnce).store.notes := by
  obtain ⟨-, ⟨-, -, -, -, hthere⟩, ⟨hsaves, hstorable, hdiff⟩, -⟩ := examples_saved
  obtain ⟨note, hfound⟩ := has_iff.1 hthere
  have hedit : Change (save.after addedOnce).store editedOnce.store :=
    .edit _ "i" (fun _ => editedNote) _
      (fun other hother => (handled_saved.in_use.1.keyed "i" other hother).symm)
      (touch_edit hfound editedNote)
  refine ⟨hdiff, hsaves, ?_⟩
  have hmeets := (saves_agree (handled_saved.changed _ _ _ hedit) hstorable).mono
    (fun _ _ hleft => hleft.2 (by simp)) fun _ _ hfault => hfault
  exact hmeets.after_of_none hsaves

/-- What has been done with the shelf for examples is part of the handling of its store. -/
theorem handled_restored : ∃ known, Handled "notes" restoredAndEdited known := by
  have hrestored := handled_saved.restored _ _ otherNote
  obtain ⟨-, ⟨-, -, -, -, hthere⟩, -⟩ := examples_saved
  obtain ⟨note, hfound⟩ := has_iff.1 (has_restore.2 (.inr hthere) :
    ((save.after addedOnce).store.restore otherNote).Has "i")
  have hedit : Change ((save.after addedOnce).store.restore otherNote) restoredAndEdited.store :=
    .edit _ "i" (fun _ => editedNote) _
      (fun other hother => (hrestored.in_use.1.keyed "i" other hother).symm)
      (touch_edit hfound editedNote)
  exact ⟨_, hrestored.changed _ _ _ hedit⟩

/-- A note that was put in with its version is not read back when another has been edited and saved:
the save writes the edit alone. -/
theorem restored_note_not_saved :
    ∃ known, Handled "notes" restoredAndEdited known ∧ restoredAndEdited.store.saved.Storable ∧
      save.fault? restoredAndEdited = none ∧
      ¬ FilesHold (save.after restoredAndEdited).disk "notes"
        (save.after restoredAndEdited).store.notes := by
  obtain ⟨known, hhandled⟩ := handled_restored
  obtain ⟨-, ⟨hfirst_saves, hbefore, hwhole, hmissing, -⟩, -, hsaves, hstorable, hdiff, huntouched,
    hheld⟩ := examples_saved
  refine ⟨known, hhandled, hstorable, hsaves, fun hhold => ?_⟩
  -- the main file is still that of the first save, and the diff file tells the edited note alone
  have hfirst := (save_after handled_added.in_use.1.path_eq hfirst_saves).2
  have hlast := save_after hhandled.in_use.1.path_eq hsaves
  have hmain := handled_added.in_use.1.main_written hbefore (hfirst.main_rewritten hwhole)
  have hkept := hmain.of_same_file (hlast.2.main_kept hdiff)
  have hused := hhandled.in_use.1.written hstorable hlast.2
  rw [hlast.1.store_eq, files_hold_iff hkept (hstorable.diff_file hlast.2.diff)] at hhold
  have hother := get_overlay_touched hused.keyed hstorable hused.touched addedOnce.store.saved.notes
    "j"
  rw [hhold, if_neg huntouched] at hother
  exact hmissing (has_iff.2 ((has_iff.1 hheld).imp fun note hfound => hother.symm.trans hfound))

end Store

end Notekeeper
