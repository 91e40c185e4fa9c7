import Notekeeper.Proofs.Notebook.Durability
import Notekeeper.Proofs.Store.Replay

/-!
# Diff files without main files

A diff file is read only beside a main file. One that was left alone would come into force as soon as a
main file is written, so it matters that there is none: a store is saved to its diff file only over a
main file, and main files are never taken away. So a notebook stays tidy all along a run
(`Notebook.Run.tidy`).
-/

namespace Notekeeper

/-- A save that succeeds leaves a main file, if the touched notes tell all in which the store differed
from its files. -/
theorem Store.Written.tidy {store : Store} {disk later : Disk} {path : String}
    (h : store.Written disk later path) (htracked : store.Tracked disk path) :
    Tidy later path := by
  apply tidy_of_file
  cases hdiff : store.savesDiff with
  | false => simp [Disk.isFile, h.main_rewritten hdiff]
  | true =>
      -- without a main file nothing would be touched, and the save would be one of everything
      obtain ⟨hdue, htouched⟩ := touched_of_saves_diff hdiff
      obtain ⟨base, hmain, -⟩ := (htracked.main hdue).resolve_left fun hnone => htouched hnone.2
      simp [Disk.isFile, h.main_kept hdiff, hmain.octets]

namespace Notebook

/-- There is no diff file without a main file. -/
structure Tidy (notebook : Notebook) : Prop where
  notes : Store.Tidy notebook.disk notebook.layout.notesPath
  trash : Store.Tidy notebook.disk notebook.layout.trashPath

instance (notebook : Notebook) : Decidable notebook.Tidy :=
  decidable_of_iff
    (Store.Tidy notebook.disk notebook.layout.notesPath ∧
      Store.Tidy notebook.disk notebook.layout.trashPath)
    ⟨fun ⟨hnotes, htrash⟩ => ⟨hnotes, htrash⟩, fun h => ⟨h.notes, h.trash⟩⟩

variable {notebook left : Notebook} {notes trash : Store}

/-- A notebook stays tidy as long as the files of its stores stay. -/
theorem Tidy.of_files_stay (h : notebook.Tidy)
    (hfiles : FilesStay notebook.layout.storeFiles notebook left) : left.Tidy := by
  constructor <;> rw [hfiles.layout]
  · exact h.notes.of_same_files (hfiles.files _ (by simp [Layout.storeFiles]))
      (hfiles.files _ (by simp [Layout.storeFiles]))
  · exact h.trash.of_same_files (hfiles.files _ (by simp [Layout.storeFiles]))
      (hfiles.files _ (by simp [Layout.storeFiles]))

/-- Saving both stores leaves a main file for each. -/
theorem SavedAs.tidy (h : SavedAs notebook notes trash left)
    (hnotes : notes.Tracked notebook.disk notebook.layout.notesPath)
    (htrash : trash.Tracked notebook.disk notebook.layout.trashPath) : left.Tidy := by
  constructor <;> rw [h.stay.layout]
  · exact h.notes_written.tidy hnotes
  · exact h.trash_written.tidy htrash

/-- A save leaves a notebook tidy. -/
theorem Kept.save_tidy (h : notebook.Kept) :
    save.Meets notebook (fun _ => Tidy) fun fault left => fault = .disk ∨ left.Tidy :=
  (save_writes h.notes.path_eq h.trash.path_eq).mono
    (fun _ _ hleft => hleft.2.tidy h.notes h.trash) fun _ _ hfault => .inl hfault.1

/-- Operations on notes leave a notebook tidy. -/
theorem Tidy.settles (h : notebook.Tidy) (hkept : notebook.Kept) :
    Settles notebook Tidy fun fault left => fault = .disk ∨ left.Tidy where
  unchanged := h
  unknown := fun _ => .inr h
  notes := fun middle hchanges _ => by
    have hmiddle := hchanges.kept hkept
    refine (Notebook.save_notes_meets hmiddle.notes.path_eq).mono (fun _ left hleft => ?_)
      fun _ _ hfault => .inl hfault.1
    obtain ⟨hfiles, -, -, hwritten⟩ := hleft
    have hstay : FilesStay [notebook.layout.trashPath, Store.diffPath notebook.layout.trashPath]
        notebook left := by
      have hsame : FilesStay [] notebook middle := hchanges.stay
      exact hchanges.stay.trans (hfiles.mono (by simp [hsame.layout]))
    constructor
    · rw [hfiles.layout]
      exact hwritten.tidy hmiddle.notes
    · rw [hstay.layout]
      exact h.trash.of_same_files (hstay.files _ (by simp)) (hstay.files _ (by simp))
  both := fun _ hchanges => (hchanges.kept hkept).save_tidy

/-- An import leaves a notebook tidy: both stores are saved before the package is looked for, and once
more when it has been taken in. -/
theorem import_tidy (h : notebook.Durable) (mode : ImportMode) :
    (importPackage mode).Meets notebook (fun _ => Tidy)
      fun fault left => fault = .disk ∨ left.Tidy := by
  unfold importPackage
  simp only [Attempt.meets_bind, Attempt.meets_pure]
  refine take_import_meets h.kept.rooted mode (fun _ _ hfault => .inl hfault.1)
    (fun _ _ hsaved _ => .inr (hsaved.tidy h.kept.notes h.kept.trash))
    fun text remotes middle hunpacked => ?_
  cases mode with
  | merge =>
      refine (absorb_merge_meets h.kept.rooted hunpacked).mono
        (fun _ left hleft => hleft.1.kept.save_tidy) fun fault left hleft => ?_
      rcases hleft with hfault | ⟨rfl, -⟩
      · exact .inl hfault.1
      · exact .inr (hunpacked.saved.tidy h.kept.notes h.kept.trash)
  | replace =>
      exact (absorb_replace_meets h.kept.rooted hunpacked).mono
        (fun _ left hleft => (hleft.kept h).save_tidy) fun _ _ hfalse => hfalse.elim

/-- Every operation leaves a notebook tidy unless the disk gives out. -/
theorem Operation.perform_tidy (operation : Operation) (h : notebook.Durable)
    (htidy : notebook.Tidy)
    (hfresh : operation = .note .virtualFolders →
      notebook.notes.contains (notebook.supply.token 0) = false) :
    operation.perform.Meets notebook (fun _ => Tidy)
      fun fault left => fault = .disk ∨ left.Tidy := by
  cases operation with
  | note operation =>
      refine operation.perform_meets (htidy.settles h.kept) fun heq hclash => ?_
      rw [hfresh (by rw [heq])] at hclash
      cases hclash
  | backUp suffix? =>
      exact (back_up_both_meets h.folders suffix?).mono
        (fun _ _ hleft => htidy.of_files_stay (hleft.1.mono (by simp +contextual)))
        fun _ _ hfault => .inl hfault.1
  | exportPackage =>
      have hstamped : notebook.notes.withDefaults.stampExport.Tracked notebook.disk
          notebook.layout.notesPath :=
        .of_due h.notes.path_eq h.notes.keyed.with_defaults.stamp_export rfl
      exact (export_writes h.kept.rooted).mono
        (fun _ _ hleft => hleft.1.tidy hstamped h.kept.trash.with_defaults)
        fun _ _ hfault => .inl hfault.1
  | importPackage mode =>
      simp only [perform, Attempt.meets_bind, Attempt.meets_pure]
      exact import_tidy h mode
  | save => exact h.kept.save_tidy
  | reopen =>
      change Attempt.Meets Notebook.reopen notebook _ _
      unfold Notebook.reopen
      rw [Attempt.meets_bind, Attempt.meets_modify]
      exact (h.opens notebook.supply).mono (fun _ _ hleft => htidy.of_files_stay hleft.2.2)
        fun _ _ hfault => .inl hfault.1.1
  | receive package =>
      exact (receive_meets package).mono (fun _ _ hleft => htidy.of_files_stay hleft.1)
        fun _ _ hfault => .inl hfault.1

/-- All along a run a notebook is tidy that is opened where there is no diff file without a main
file. -/
theorem Run.tidy {layout : Layout} {disk : Disk} {supply : Supply} {operations : List Operation}
    (h : Run layout disk supply operations notebook) (hvacant : layout.Vacant disk)
    (hbare : (unread layout (layout.makeAll.after disk) supply).Tidy) : notebook.Tidy := by
  induction h with
  | opened hopens =>
      have hopen : openStores.Meets (unread layout disk supply) (fun _ => Tidy)
          fun fault _ => fault = .disk := by
        refine open_meets_of_made (fun _ => rfl) fun made _ hfolders hafter => ?_
        unfold Layout.Vacant at hvacant
        rw [hafter] at hvacant hbare
        exact ((durable_of_no_files hfolders hvacant supply).opens supply).mono
          (fun _ _ hleft => hbare.of_files_stay hleft.2.2) fun _ _ hfault => hfault.1.1
      exact hopen.after_of_none hopens
  | performed operations operation notebook hrun hdisk hfresh hstorable ih =>
      exact (operation.perform_tidy (hrun.durable hvacant).1 ih hfresh).after_of_not_disk hdisk

end Notebook

end Notekeeper
