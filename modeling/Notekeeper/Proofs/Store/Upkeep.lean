import Notekeeper.Proofs.Store.Replay

/-!
# Saves that fail

A store is changed and saved in any order, and the disk may refuse any write (`Store.Upkeep`). A save
forgets what was to be written before it writes the main file, so if that is refused, later saves of
touched notes do not make up for it. Along the way it is known whether that has happened since the
main file was last written or something was last added or removed. If not, a save that succeeds leaves
files that hold the store; and in any case its files hold the store exactly if they have all notes that
are not touched as they are in the store (`Store.read_back_after_refusals`).
-/

namespace Notekeeper

namespace Store

/-- A change that marks what is to be saved: a note is added, edited and then touched, or taken
out. -/
inductive Change : Store → Store → Prop
  | add (store : Store) (note : Note) : Change store (store.add note)
  | edit (store : Store) (id : String) (change : Note → Note) (left : Store)
      (hid : ∀ note, store.get? id = some note → (change note).id = note.id)
      (htouch : (store.edit id change).touch id = .ok left) : Change store left
  | remove (store : Store) (id : String) (note : Note) (left : Store)
      (hremove : store.remove id = .ok (note, left)) : Change store left

variable {store left : Store} {disk : Disk} {path : String} {shelf : Shelf} {known : Bool}

/-- A change in closed form: a note is added, revised or taken out. -/
theorem Change.cases (h : Change store left) :
    (∃ note, left = store.add note) ∨
      (∃ id note edited, store.get? id = some note ∧ edited.id = note.id ∧
        left = store.revise id edited) ∨
      ∃ id, left = store.without id := by
  cases h with
  | add note => exact .inl ⟨note, rfl⟩
  | edit id change _ hid htouch =>
      refine .inr (.inl ?_)
      cases hfound : store.get? id with
      | none => simp [Store.edit, touch, hfound] at htouch
      | some note =>
          have hedit : store.edit id change = store.edit id fun _ => change note := by
            simp only [Store.edit, hfound]
          rw [hedit, touch_edit hfound] at htouch
          exact ⟨id, note, change note, hfound, hid note hfound, (Except.ok.inj htouch).symm⟩
  | remove id note _ hremove =>
      refine .inr (.inr ⟨id, ?_⟩)
      cases hfound : store.get? id with
      | none => simp [Store.remove, hfound] at hremove
      | some found =>
          rw [remove_eq hfound] at hremove
          exact (Prod.mk.inj (Except.ok.inj hremove)).2.symm

/-! ## What changes keep -/

/-- Notes that are touched are there after a change too. -/
theorem InUse.change (h : store.InUse disk path) (hchange : Change store left) :
    left.InUse disk path := by
  rcases hchange.cases with ⟨note, rfl⟩ | ⟨id, note, edited, hfound, hid, rfl⟩ | ⟨id, rfl⟩
  · exact ⟨h.path_eq, h.keyed.add note, by simp [Store.add], h.main, h.diff⟩
  · refine ⟨h.path_eq, h.keyed.revise (hid.trans (h.keyed id note hfound)), fun other hmem => ?_,
      h.main, h.diff⟩
    rw [Std.ExtTreeMap.mem_iff_isSome_getElem?, get_revise]
    split
    · rfl
    next hne =>
      have htouched : other ∈ store.touched := by
        simpa [Store.revise, Std.ExtTreeSet.mem_insert, hne] using hmem
      exact Std.ExtTreeMap.mem_iff_isSome_getElem?.1 (h.touched other htouched)
  · exact ⟨h.path_eq, h.keyed.without id, by simp [Store.without], h.main, h.diff⟩

/-- Changes are accounted for: a revised note is touched, and after any other everything is to be
saved. -/
theorem Accounted.change (h : store.Accounted disk path) (hchange : Change store left) :
    left.Accounted disk path := by
  rcases hchange.cases with ⟨note, rfl⟩ | ⟨id, note, edited, hfound, hid, rfl⟩ | ⟨id, rfl⟩
  · intro hdue
    simp [Store.add] at hdue
  · intro hdue
    rcases h hdue with ⟨hnotes, -⟩ | ⟨base, hmain, hagrees⟩
    · simp [get?, hnotes] at hfound
    · refine .inr ⟨base, hmain, fun other hnot => ?_⟩
      have hnot : id ≠ other ∧ other ∉ store.touched := by
        simpa [Store.revise, Std.ExtTreeSet.mem_insert] using hnot
      rw [get_revise, if_neg hnot.1]
      exact hagrees other hnot.2
  · intro hdue
    simp [Store.without] at hdue

/-- What is to be saved as a whole is accounted for. -/
theorem accounted_of_due (hdue : store.fullSaveDue = true) : store.Accounted disk path :=
  fun hnot => by simp [hdue] at hnot

/-! ## Where upkeep begins -/

/-- The touched notes of a saved store account for all in which it differs from its main file. -/
theorem Saved.accounted (h : store.Saved disk path) : store.Accounted disk path := by
  intro _
  cases h.files with
  | unwritten hnotes _ _ htouched _ => exact .inl ⟨hnotes, htouched⟩
  | written base hmain hdiffers _ => exact .inr ⟨base, hmain, hdiffers.others⟩

/-- The diff file of a saved store tells its touched notes. -/
theorem Saved.diff_file (h : store.Saved disk path) (htidy : Tidy disk path) :
    DiffFile disk path store.touchedNotes := by
  cases h.files with
  | unwritten _ _ _ htouched hnone =>
      have hnotes : store.touchedNotes = [] := by simp [touchedNotes, htouched]
      rw [hnotes]
      exact .absent (htidy hnone)
  | written base hmain hdiffers hdiff => exact h.storable.diff_file hdiff

/-- A saved store is in use. -/
theorem Saved.in_use (h : store.Saved disk path) (htidy : Tidy disk path) :
    store.InUse disk path := by
  have hdiff := h.diff_file htidy
  cases h.files with
  | unwritten _ _ _ htouched hnone =>
      exact ⟨h.path_eq, h.keyed, by simp [htouched], .inl hnone, _, hdiff⟩
  | written base hmain hdiffers _ =>
      exact ⟨h.path_eq, h.keyed, hdiffers.touched, .inr ⟨base, hmain⟩, _, hdiff⟩

/-- A new store without files is in use. -/
theorem new_in_use (hmain : disk.octets? path = none) (hdiff : disk.octets? (diffPath path) = none) :
    ({ path? := some path } : Store).InUse disk path :=
  ⟨rfl, keyed_of_empty rfl, by simp, .inl hmain, [], .absent hdiff⟩

/-- A new store is accounted for, as there is nothing to save. -/
theorem new_accounted (disk : Disk) (path : String) :
    ({ path? := some path } : Store).Accounted disk path :=
  fun _ => .inl ⟨rfl, rfl⟩

/-! ## Upkeep -/

/-- A store is changed and saved in any order; saves may fail at any write. Known along with it is
whether it is accounted for: it is when it begins, whenever everything is due to be saved, and when a
save has written the main file; a save that fails to write the main file makes it unaccounted for. -/
inductive Upkeep (path : String) : Shelf → Bool → Prop
  | begun (shelf : Shelf) (hused : shelf.store.InUse shelf.disk path)
      (haccounted : shelf.store.Accounted shelf.disk path) : Upkeep path shelf true
  | changed (shelf : Shelf) (known : Bool) (left : Store) (h : Upkeep path shelf known)
      (hchange : Change shelf.store left) :
      Upkeep path { shelf with store := left } (known || left.fullSaveDue)
  | saved (shelf : Shelf) (known : Bool) (h : Upkeep path shelf known)
      (hstorable : shelf.store.saved.Storable) :
      Upkeep path (save.after shelf)
        ((save.after shelf).disk.writes == shelf.disk.writes + 2 ||
          shelf.store.savesDiff && known)

/-- All along its upkeep a store is in use, and accounted for where that is known. -/
theorem Upkeep.in_use (h : Upkeep path shelf known) :
    shelf.store.InUse shelf.disk path ∧
      (known = true → shelf.store.Accounted shelf.disk path) := by
  induction h with
  | begun shelf hused haccounted => exact ⟨hused, fun _ => haccounted⟩
  | changed shelf known left _ hchange ih =>
      refine ⟨ih.1.change hchange, fun hcase => ?_⟩
      rcases Bool.or_eq_true_iff.1 hcase with hbefore | hdue
      · exact (ih.2 hbefore).change hchange
      · exact accounted_of_due hdue
  | saved shelf known _ hstorable ih =>
      obtain ⟨hused, haccounted⟩ := (ih.1.save_accounts hstorable shelf.supply).after_of_both
      refine ⟨hused, fun hcase => haccounted ?_⟩
      simp only [Bool.or_eq_true, beq_iff_eq, Bool.and_eq_true] at hcase
      exact hcase.imp_right fun hdiff => ⟨hdiff.1, ih.2 hdiff.2⟩

/-- However a store has been changed and saved, and whatever writes were refused: after the next save
that succeeds the files hold the store if everything was written, or if the main file has every note
that is not touched as it is in the store, and in no other case. They do if no save has failed to write
the main file since it was last written or something was last added or removed. -/
theorem read_back_after_refusals (h : Upkeep path shelf known)
    (hstorable : shelf.store.saved.Storable) :
    save.Meets shelf
      (fun kind left =>
        (FilesHold left.disk path left.store.notes ↔
          kind = .full ∨ left.store.MainAgrees left.disk path) ∧
        (known = true → FilesHold left.disk path left.store.notes))
      fun fault _ => fault = .disk :=
  (h.in_use.1.save_read_back hstorable shelf.supply).mono
    (fun _ _ hleft => ⟨hleft.1, fun hcase => hleft.2 (h.in_use.2 hcase)⟩) fun _ _ hfault => hfault

/-- A shelf for examples, whose disk refuses the first write: a note has been added. -/
def addedUnsaved : Shelf :=
  ⟨add { path? := some "notes" } { Note.blank .tally with name := "one" },
    { Disk.empty with refuses := (· == 0) }, .tally⟩

/-- Another note for the examples. -/
def otherNote : Note :=
  { Note.blank .tally with id := "j" }

/-- The shelf for examples after another note has been added, when the save of the first has failed. -/
def addedAfterRefusal : Shelf :=
  { save.after addedUnsaved with store := (save.after addedUnsaved).store.add otherNote }

/-- The note of the examples when it has been edited. -/
def editedNote : Note :=
  { Note.blank .tally with name := "two", folder := "inbox" }

/-- The shelf for examples after the note has been edited instead. -/
def editedAfterRefusal : Shelf :=
  { save.after addedUnsaved with store := (save.after addedUnsaved).store.revise "i" editedNote }

/-- In the example there is no file at first and the first save is refused. The next one is not, but if
the note has only been edited in between there is no main file after it. -/
theorem examples_refused :
    (addedUnsaved.disk.octets? "notes" = none ∧
        addedUnsaved.disk.octets? (diffPath "notes") = none ∧
        addedUnsaved.store.saved.Storable ∧ save.fault? addedUnsaved = some .disk ∧
        (save.after addedUnsaved).store.Has "i") ∧
      (save.fault? addedAfterRefusal = none ∧ addedAfterRefusal.store.saved.Storable) ∧
      editedAfterRefusal.store.saved.Storable ∧ save.fault? editedAfterRefusal = none ∧
        (save.after editedAfterRefusal).disk.octets? "notes" = none := by
  decide +kernel

/-- The refused save is part of the upkeep of its store. -/
theorem upkeep_refused : ∃ known, Upkeep "notes" (save.after addedUnsaved) known := by
  obtain ⟨⟨hmain, hdiff, hstorable, -⟩, -⟩ := examples_refused
  exact ⟨_, .saved _ _ (.changed _ _ _
    (.begun ⟨{ path? := some "notes" }, { Disk.empty with refuses := (· == 0) }, .tally⟩
      (new_in_use hmain hdiff) (new_accounted _ _)) (.add _ _)) hstorable⟩

/-- A note whose save was refused is read back when another note has been added and saved. -/
theorem read_back_after_refused_add :
    save.fault? addedUnsaved = some .disk ∧ save.fault? addedAfterRefusal = none ∧
      FilesHold (save.after addedAfterRefusal).disk "notes"
        (save.after addedAfterRefusal).store.notes := by
  obtain ⟨known, hrefused⟩ := upkeep_refused
  obtain ⟨⟨-, -, -, hfails, -⟩, ⟨hsaves, hstorable⟩, -⟩ := examples_refused
  have hupkeep := hrefused.changed _ _ _ (.add _ otherNote)
  refine ⟨hfails, hsaves, ?_⟩
  have hmeets := (read_back_after_refusals hupkeep hstorable).mono
    (fun _ _ hleft => hleft.2 (by simp [Store.add])) fun _ _ hfault => hfault
  exact hmeets.after_of_none hsaves

/-- A note whose save was refused is not read back when it has been edited and saved: the save of the
edit succeeds, and there is no main file. -/
theorem edit_lost_after_refusal :
    ∃ known, Upkeep "notes" editedAfterRefusal known ∧ editedAfterRefusal.store.saved.Storable ∧
      save.fault? editedAfterRefusal = none ∧
      ¬ FilesHold (save.after editedAfterRefusal).disk "notes"
        (save.after editedAfterRefusal).store.notes := by
  obtain ⟨known, hrefused⟩ := upkeep_refused
  obtain ⟨⟨-, -, -, -, hthere⟩, -, hstorable, hsaves, hmissing⟩ := examples_refused
  obtain ⟨note, hfound⟩ := has_iff.1 hthere
  have hedit : Change (save.after addedUnsaved).store editedAfterRefusal.store :=
    .edit _ "i" (fun _ => editedNote) _
      (fun other hother => (hrefused.in_use.1.keyed "i" other hother).symm)
      (touch_edit hfound editedNote)
  exact ⟨_, hrefused.changed _ _ _ hedit, hstorable, hsaves, not_files_hold hmissing⟩

end Store

end Notekeeper
