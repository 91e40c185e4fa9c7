import Notekeeper.Proofs.Disk.Places
import Notekeeper.Proofs.Store.Saving

/-!
# How a save ends

A save that succeeds has written the files of its store. One that fails has left them as they were, or
has got as far as writing all notes to the main file without emptying the diff file
(`Store.Halted`). Both ways the store is left as after a success (`Store.save_ends`), wherever the
disk gave out.
-/

namespace Notekeeper

namespace Store

variable {store : Store} {disk later : Disk} {supply : Supply} {path : String} {left : Shelf}

/-- The main file and the diff file are different files. -/
theorem elsewhere_diff_path (disk : Disk) (path : String) : disk.Elsewhere path (diffPath path) :=
  disk.elsewhere_of_longer path (by decide) (by decide)

/-- What a save of the touched notes leaves of a store. -/
theorem saved_of_diff (h : store.savesDiff = true) : store.saved = store.withDefaults := by
  have hsaves : store.withDefaults.savesDiff = store.savesDiff := rfl
  simp [saved, hsaves, h]

/-- What a save of everything leaves of a store. -/
theorem saved_of_full (h : store.savesDiff = false) : store.saved = store.withDefaults.settled := by
  have hsaves : store.withDefaults.savesDiff = store.savesDiff := rfl
  simp [saved, hsaves, h]

/-- A save of the touched notes leaves the main file alone. -/
theorem Written.main_kept (h : store.Written disk later path) (hdiff : store.savesDiff = true) :
    later.octets? path = disk.octets? path := by
  have hmain := h.main
  rwa [show store.withDefaults.savesDiff = true from hdiff, if_pos rfl] at hmain

/-- A save of everything writes it to the main file. -/
theorem Written.main_rewritten (h : store.Written disk later path)
    (hfull : store.savesDiff = false) :
    later.octets? path = some (Text.encode store.saved.text) := by
  have hmain := h.main
  rwa [show store.withDefaults.savesDiff = false from hfull, if_neg Bool.false_ne_true] at hmain

/-- What a save has made of the files of a store if it failed: nothing, or it has written all notes to
the main file and then the diff file was refused. -/
inductive Halted (store : Store) (disk later : Disk) (path : String) : Prop
  | untouched (hwrites : later.writes = disk.writes + 1)
      (hmain : later.octets? path = disk.octets? path)
      (hdiff : later.octets? (diffPath path) = disk.octets? (diffPath path))
  | halfway (hwhole : store.savesDiff = false) (hwrites : later.writes = disk.writes + 2)
      (hmain : later.octets? path = some (Text.encode store.saved.text))
      (hdiff : later.octets? (diffPath path) = disk.octets? (diffPath path))

/-- What a save leaves whether it succeeds or fails. -/
structure Ended (store : Store) (disk : Disk) (supply : Supply) (path : String) (left : Shelf) :
    Prop where
  store_eq : left.store = store.saved
  supply_eq : left.supply = supply
  folders : disk.SameFolders left.disk
  others : ∀ other, disk.Elsewhere path other → disk.Elsewhere (diffPath path) other →
    left.disk.octets? other = disk.octets? other

/-- The kind of save that is due. -/
def saveKind (store : Store) : SaveKind :=
  if store.savesDiff then .diff else .full

/-- A save of the touched notes makes one write, of the diff file. -/
theorem save_touched_ends (hpath : store.path? = some path) (hdiff : store.savesDiff = true)
    (disk : Disk) (supply : Supply) :
    save.Meets ⟨store, disk, supply⟩
      (fun kind left => store.Ended disk supply path left ∧ kind = .diff ∧
        left.disk.writes = disk.writes + 1 ∧ store.Written disk left.disk path)
      fun fault left => fault = .disk ∧ store.Ended disk supply path left ∧
        store.Halted disk left.disk path := by
  have hdefaults : store.withDefaults.path? = some path := hpath
  have hsaves : store.withDefaults.savesDiff = true := hdiff
  have hsaved := saved_of_diff hdiff
  have htouched : store.withDefaults.touched.isEmpty = false := by
    change store.touched.isEmpty = false
    simpa [Std.ExtTreeSet.isEmpty_iff] using (touched_of_saves_diff hdiff).2
  unfold save
  simp only [Shelf.change, Shelf.getStore, Attempt.meets_bind, Attempt.meets_modify,
    Attempt.meets_get, Attempt.meets_pure, hdefaults, Shelf.onDisk, hsaves, if_true,
    Attempt.meets_within]
  refine (Disk.write_ends _ _ _).mono (fun _ left hleft => ?_) fun _ left hleft => ?_
  · obtain ⟨hfolders, hwrites, hwritten, hothers⟩ := hleft
    refine ⟨⟨hsaved.symm, rfl, hfolders, fun other _ hother => hothers other hother⟩, trivial,
      hwrites, ?_, ?_⟩
    · rw [hsaves, if_pos rfl]
      exact hothers path (elsewhere_diff_path disk path).symm
    · rw [hwritten, hsaved, diffText, htouched]
      rfl
  · obtain ⟨hfault, hfolders, hwrites, hothers⟩ := hleft
    exact ⟨hfault, ⟨hsaved.symm, rfl, hfolders, fun other _ _ => hothers other⟩,
      .untouched hwrites (hothers _) (hothers _)⟩

/-- A save of everything makes two writes, of the main file and of the diff file, which it empties. -/
theorem save_all_ends (hpath : store.path? = some path) (hfull : store.savesDiff = false)
    (disk : Disk) (supply : Supply) :
    save.Meets ⟨store, disk, supply⟩
      (fun kind left => store.Ended disk supply path left ∧ kind = .full ∧
        left.disk.writes = disk.writes + 2 ∧ store.Written disk left.disk path)
      fun fault left => fault = .disk ∧ store.Ended disk supply path left ∧
        store.Halted disk left.disk path := by
  have hdefaults : store.withDefaults.path? = some path := hpath
  have hsaves : store.withDefaults.savesDiff = false := hfull
  have hsaved := saved_of_full hfull
  have htext : store.withDefaults.settled.diffText = "" := by simp [diffText, Store.settled]
  unfold save
  simp only [Shelf.change, Shelf.getStore, Attempt.meets_bind, Attempt.meets_modify,
    Attempt.meets_get, Attempt.meets_pure, hdefaults, Shelf.onDisk, hsaves, Bool.false_eq_true,
    if_false, Attempt.meets_within]
  -- the marks are dropped before anything is written
  refine (Disk.write_ends _ _ _).mono (fun _ middle hmiddle => ?_) fun _ left hleft => ?_
  · obtain ⟨hfolders, hcount, hmain, hothers⟩ := hmiddle
    have hdiff_same := hothers _ (elsewhere_diff_path disk path)
    refine (Disk.write_ends _ _ _).mono (fun _ left hleft => ?_) fun _ left hleft => ?_
    · obtain ⟨hlast, hwrites, hempty, hrest⟩ := hleft
      refine ⟨⟨hsaved.symm, rfl, hfolders.trans hlast, fun other hone htwo => ?_⟩, trivial, ?_, ?_, ?_⟩
      · exact (hrest other (htwo.of_same_folders hfolders)).trans (hothers other hone)
      · rw [hwrites, hcount]
      · rw [hsaves, if_neg Bool.false_ne_true,
          hrest path (elsewhere_diff_path middle path).symm, hmain, hsaved]
        rfl
      · rw [hempty, hsaved, htext]
    · obtain ⟨hfault, hlast, hwrites, hrest⟩ := hleft
      refine ⟨hfault, ⟨hsaved.symm, rfl, hfolders.trans hlast, fun other hone _ =>
        (hrest other).trans (hothers other hone)⟩, .halfway hfull ?_ ?_ ?_⟩
      · rw [hwrites, hcount]
      · rw [hrest path, hmain, hsaved]
        rfl
      · rw [hrest, hdiff_same]
  · obtain ⟨hfault, hfolders, hwrites, hothers⟩ := hleft
    exact ⟨hfault, ⟨hsaved.symm, rfl, hfolders, fun other _ _ => hothers other⟩,
      .untouched hwrites (hothers _) (hothers _)⟩

/-- A save leaves the store without marks for what was to be written, also if it fails; the files are
then written, or the disk has given out at one of them. -/
theorem save_ends (hpath : store.path? = some path) (disk : Disk) (supply : Supply) :
    save.Meets ⟨store, disk, supply⟩
      (fun kind left => store.Ended disk supply path left ∧ kind = store.saveKind ∧
        left.disk.writes = disk.writes + (if store.savesDiff then 1 else 2) ∧
        store.Written disk left.disk path)
      fun fault left => fault = .disk ∧ store.Ended disk supply path left ∧
        store.Halted disk left.disk path := by
  cases hdiff : store.savesDiff with
  | true => simpa [saveKind, hdiff] using save_touched_ends hpath hdiff disk supply
  | false => simpa [saveKind, hdiff] using save_all_ends hpath hdiff disk supply

variable {shelf : Shelf}

/-- What a save that succeeds has left and written. -/
theorem save_after (hpath : shelf.store.path? = some path) (hsaves : save.fault? shelf = none) :
    shelf.store.Ended shelf.disk shelf.supply path (save.after shelf) ∧
      shelf.store.Written shelf.disk (save.after shelf).disk path :=
  ((save_ends hpath shelf.disk shelf.supply).mono
    (fun _ _ hleft => (⟨hleft.1, hleft.2.2.2⟩ : _ ∧ _)) fun _ _ _ => trivial).after_of_none hsaves

/-- What a save that fails has left and written. -/
theorem save_halts (hpath : shelf.store.path? = some path) {fault : Fault}
    (hfails : save.fault? shelf = some fault) :
    shelf.store.Ended shelf.disk shelf.supply path (save.after shelf) ∧
      shelf.store.Halted shelf.disk (save.after shelf).disk path :=
  ((save_ends hpath shelf.disk shelf.supply).after_of_some hfails).2

/-- A tracked store that has been saved is held by its files, if they can hold it. -/
theorem Tracked.saved_after (h : shelf.store.Tracked shelf.disk path)
    (hsaves : save.fault? shelf = none) (hstorable : shelf.store.saved.Storable) :
    (save.after shelf).store.Saved (save.after shelf).disk path := by
  obtain ⟨hended, hwritten⟩ := save_after h.path_eq hsaves
  rw [hended.store_eq]
  exact hwritten.saved h hstorable

end Store

end Notekeeper
