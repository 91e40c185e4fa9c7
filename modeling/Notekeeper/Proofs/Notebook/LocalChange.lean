import Notekeeper.Proofs.Notebook.Durability
import Notekeeper.Proofs.Notebook.Stable
import Notekeeper.Proofs.Store.Room
import Notekeeper.Sync.Change

/-!
# Whether an edit counts as a change since the last export

An update gives its note the next number of the clock, and the note counts as changed here if that
number is above its export stamp. No version is ever above the clock, but export stamps can be: a
stamp is the clock of an export, and the clock itself is not in the files. A notebook that is opened
again takes the highest version for it, which is lower than the stamps if the latest change before
the export was a deletion. So an update counts as a local change exactly if the stamp of its note is
not above the clock (`Notebook.local_change_after_update`). The next number is the value of a clock if
there is room for it.
-/

namespace Notekeeper

namespace Store

/-- A save leaves the store as saved. It fails only if the store has no files that the disk takes. -/
theorem save_leaves (shelf : Shelf) :
    save.Meets shelf (fun _ left => left.store = shelf.store.saved)
      fun _ _ => ∀ path, shelf.store.path? = some path →
        ¬ (shelf.disk.Takes path ∧ shelf.disk.Takes (diffPath path)) := by
  unfold save saved
  simp only [Shelf.change, Shelf.getStore, Attempt.meets_bind, Attempt.meets_modify,
    Attempt.meets_get, Attempt.meets_pure, Shelf.onDisk]
  have hdefaults : shelf.store.withDefaults.path? = shelf.store.path? := rfl
  rw [hdefaults]
  cases hpath : shelf.store.path? with
  | none =>
      intro path hsome
      cases hsome
  | some path =>
      have hother {failing : Disk} (h : ¬ failing.Takes path ∨ ¬ failing.Takes (diffPath path))
          (hsame : shelf.disk.SameFolders failing) (other : String) (heq : some path = some other) :
          ¬ (shelf.disk.Takes other ∧ shelf.disk.Takes (diffPath other)) := by
        obtain rfl := Option.some.inj heq
        rintro ⟨hmain, hdiff⟩
        exact h.elim (fun hnot => hnot (hmain.of_same_folders hsame))
          fun hnot => hnot (hdiff.of_same_folders hsame)
      dsimp only
      cases shelf.store.withDefaults.savesDiff with
      | true =>
          simp only [if_true, Attempt.meets_bind, Attempt.meets_within, Attempt.meets_pure]
          exact (Disk.write_meets _ _ _).mono (fun _ _ _ => trivial)
            fun _ _ hfault => hother (.inr hfault.2.2) (.refl _)
      | false =>
          simp only [Bool.false_eq_true, if_false, Attempt.meets_bind, Attempt.meets_within,
            Attempt.meets_pure, Attempt.meets_modify]
          refine (Disk.write_meets _ _ _).mono (fun _ middle hmiddle => ?_)
            fun _ _ hfault => hother (.inl hfault.2.2) (.refl _)
          exact (Disk.write_meets _ _ _).mono (fun _ _ _ => trivial)
            fun _ _ hfault => hother (.inr hfault.2.2) hmiddle.1

end Store

namespace Notebook

variable {notebook : Notebook}

/-- An update revises the note and saves the store. It fails only if the note is not there, or if the
store has no files that the disk takes. -/
theorem update_meets (id : String) (input : NoteInput) :
    (update id input).Meets notebook
      (fun _ left => ∃ note edited, notebook.notes.get? id = some note ∧ edited.id = note.id ∧
        edited.version = note.version ∧ edited.exportVersion = note.exportVersion ∧
        left.notes = (notebook.notes.revise id edited).saved)
      fun _ _ => (notebook.notes.get? id).isSome → ∀ path, notebook.notes.path? = some path →
        ¬ (notebook.disk.Takes path ∧ notebook.disk.Takes (Store.diffPath path)) := by
  unfold Notebook.update
  simp only [Attempt.meets_bind, Attempt.meets_get, Attempt.meets_of_except, find, store]
  cases hfound : notebook.notes.get? id with
  | none => simp
  | some note =>
      simp only [look, touch, changeNotes, onNotes, Attempt.meets_bind, Attempt.meets_modify_get,
        Attempt.meets_modify, Attempt.meets_get, Attempt.meets_of_except, Store.touch_edit hfound,
        Attempt.meets_pure, Attempt.meets_within]
      refine (Store.save_leaves _).mono (fun _ _ hleft => ?_) fun _ _ hfault _ => hfault
      refine ⟨note, _, rfl, ?_, ?_, ?_, hleft⟩
      all_goals rfl

/-- However a notebook has been worked on, an update that succeeds gives its note the next number of
the clock as its version. The note then counts as changed here if and only if its export stamp was
not above the clock, and a merge overwrites it without a copy exactly with a version above a stamp
that was above the clock. The versions stay those of clocks if there was room for one more. -/
theorem local_change_after_update {layout : Layout} {disk : Disk} {supply : Supply}
    (hreached : Reached layout disk supply notebook) (id : String) (input : NoteInput) :
    (update id input).Meets notebook
      (fun _ left => ∃ before after, notebook.notes.get? id = some before ∧
        left.notes.get? id = some after ∧ after.version = notebook.notes.clock + 1 ∧
        after.exportVersion = before.exportVersion ∧
        (Sync.localChange after = true ↔ before.exportVersion ≤ notebook.notes.clock) ∧
        (∀ there, Sync.remoteChangeOnly after there = true ↔
          notebook.notes.clock < before.exportVersion ∧ before.exportVersion < there.version) ∧
        ∀ steps, notebook.notes.HasRoom (steps + 1) → left.notes.HasRoom steps)
      fun _ _ => True := by
  refine (update_meets id input).mono (fun _ left hleft => ?_) fun _ _ _ => trivial
  obtain ⟨before, edited, hfound, -, hversion, hexport, hnotes⟩ := hleft
  have hcapped : before.version ≤ notebook.notes.clock :=
    (hreached.both Store.capped_stable).notes id before hfound
  let after : Note :=
    { edited with version := 1 + max notebook.notes.clock edited.version }.withDefaults
  have hafter : left.notes.get? id = some after := by
    have hrevised := Store.get_revise notebook.notes id edited id
    rw [if_pos rfl] at hrevised
    rw [Store.get?, hnotes, (Store.saved_eq _).2.1, Store.get_with_defaults, hrevised]
    rfl
  have hafter_version : after.version = notebook.notes.clock + 1 := by
    change 1 + max notebook.notes.clock edited.version = _
    omega
  have hafter_export : after.exportVersion = before.exportVersion := hexport
  have hlocal : Sync.localChange after = true ↔ before.exportVersion ≤ notebook.notes.clock := by
    rw [Sync.localChange, decide_eq_true_iff, hafter_version, hafter_export]
    omega
  refine ⟨before, after, hfound, hafter, hafter_version, hafter_export, hlocal, fun there => ?_,
    fun steps hroom => ?_⟩
  · rw [Sync.remoteChangeOnly, Sync.remoteChange, Bool.and_eq_true, decide_eq_true_iff,
      Bool.not_eq_true', ← Bool.not_eq_true, hlocal, hafter_export]
    omega
  · have hedited : Decimal.HasRoom edited.version (steps + 1) :=
      hversion ▸ hroom.versions id before hfound
    rw [hnotes]
    exact (hroom.revise hedited id).saved

/-- A notebook for an example: a note has been created. -/
def createdOnce : Notebook :=
  (Operation.note (.create { name := "one" })).perform.after
    (openStores.after (unread (.inFolder "notes") .empty .tally))

/-- What is needed of the notebook for the example. -/
theorem created_once_updates :
    (update "i" { name := "one", body := "text" }).fault? createdOnce = none ∧
      createdOnce.notes.clock = 2 := by
  decide +kernel

/-- An update of a note that has never been exported succeeds and counts as a local change. -/
theorem local_change_after_first_update :
    (update "i" { name := "one", body := "text" }).fault? createdOnce = none ∧
      createdOnce.notes.clock = 2 ∧
      (update "i" { name := "one", body := "text" }).Meets createdOnce
        (fun _ left => ∃ before after, createdOnce.notes.get? "i" = some before ∧
          left.notes.get? "i" = some after ∧ after.version = createdOnce.notes.clock + 1 ∧
          after.exportVersion = before.exportVersion ∧
          (Sync.localChange after = true ↔ before.exportVersion ≤ createdOnce.notes.clock) ∧
          (∀ there, Sync.remoteChangeOnly after there = true ↔
            createdOnce.notes.clock < before.exportVersion ∧
              before.exportVersion < there.version) ∧
          ∀ steps, createdOnce.notes.HasRoom (steps + 1) → left.notes.HasRoom steps)
        fun _ _ => True :=
  ⟨created_once_updates.1, created_once_updates.2,
    local_change_after_update (.performed _ _ .opened) "i" { name := "one", body := "text" }⟩

/-- When a notebook is closed and opened again, the next update gets the number above the highest
version of the notes that are left, while the export stamp of its note stays. -/
theorem update_reopened_meets (h : notebook.Durable)
    (hbacks : notebook.layout.backsUpOnOpen = false) {id : String} {before : Note}
    (hfound : notebook.notes.get? id = some before)
    (hmain : notebook.disk.Takes notebook.layout.notesPath)
    (hdiff : notebook.disk.Takes (Store.diffPath notebook.layout.notesPath)) (input : NoteInput) :
    (do reopen; update id input : Attempt Notebook Unit).Meets notebook
      (fun _ left => ∃ after, left.notes.get? id = some after ∧
        after.version = notebook.notes.rebuiltClock + 1 ∧
        after.exportVersion = before.exportVersion)
      fun _ _ => False := by
  unfold reopen
  simp only [Attempt.meets_bind, Attempt.meets_modify]
  refine (h.open_meets notebook.supply).mono (fun _ opened hopened => ?_) fun _ _ hfault => ?_
  · obtain ⟨-, hstores, hstay⟩ := hopened
    have hget : opened.notes.get? id = some before := by
      rw [hstores.notes]
      exact hfound
    have hpath : opened.notes.path? = some notebook.layout.notesPath := by
      rw [hstores.notes]
      exact h.notes.path_eq
    refine (update_meets id input).mono (fun _ left hleft => ?_) fun _ _ hfault => ?_
    · obtain ⟨note, edited, hnote, -, hversion, hexport, hnotes⟩ := hleft
      obtain rfl := Option.some.inj (hget.symm.trans hnote)
      have hclock : opened.notes.clock = notebook.notes.rebuiltClock := by rw [hstores.notes]
      have hbelow : before.version ≤ notebook.notes.rebuiltClock :=
        (Store.highest_le_iff.1 (Int.le_refl notebook.notes.rebuiltClock)).2 before
          (Store.mem_all.2 ⟨id, hfound⟩)
      have hrevised := Store.get_revise opened.notes id edited id
      rw [if_pos rfl] at hrevised
      rw [Store.get?, hnotes, (Store.saved_eq _).2.1, Store.get_with_defaults, hrevised]
      refine ⟨_, rfl, ?_, hexport⟩
      change 1 + max opened.notes.clock edited.version = _
      omega
    · exact hfault (by rw [hget]; rfl) _ hpath
        ⟨hmain.of_same_folders hstay.folders, hdiff.of_same_folders hstay.folders⟩
  · rw [hbacks] at hfault
    cases hfault.2

/-- A notebook for an example: of two notes the later one is deleted, and the other exported. -/
def exportedAfterDelete : Notebook :=
  Operation.exportPackage.perform.after
    ((Operation.note (.delete ["iiiii"])).perform.after
      ((Operation.note (.create { name := "Y" })).perform.after
        ((Operation.note (.create { name := "X" })).perform.after
          (openStores.after (unread (.inFolder "notes") .empty .tally)))))

/-- What is needed of the notebook for the example: what is done can be done, the note that is left has
been stamped with 4, and the highest version that is left in the files is 2. -/
theorem exported_after_delete_eq :
    openStores.fault? (unread (.inFolder "notes") .empty .tally) = none ∧
      Performs (openStores.after (unread (.inFolder "notes") .empty .tally))
        [.note (.create { name := "X" }), .note (.create { name := "Y" }), .note (.delete ["iiiii"]),
          .exportPackage] ∧
      exportedAfterDelete.notes.rebuiltClock = 2 ∧
      (exportedAfterDelete.notes.get? "i").map Note.exportVersion = some 4 ∧
      exportedAfterDelete.layout = .inFolder "notes" ∧
      (exportedAfterDelete.disk.filePlace? (Layout.inFolder "notes").notesPath).isSome = true ∧
      (exportedAfterDelete.disk.filePlace?
        (Store.diffPath (Layout.inFolder "notes").notesPath)).isSome = true := by
  decide +kernel

/-- The notebook for the example is held by its files, and its disk refuses nothing. -/
theorem exported_after_delete_durable :
    exportedAfterDelete.Durable ∧ ∀ number, exportedAfterDelete.disk.refuses number = false := by
  obtain ⟨hopens, hperforms, -⟩ := exported_after_delete_eq
  have hrun := (Run.opened hopens).performed_all (by simp) hperforms
  rw [List.foldl_cons, List.foldl_cons, List.foldl_cons, List.foldl_cons, List.foldl_nil] at hrun
  obtain ⟨hdurable, -, hfolders⟩ := hrun.durable Layout.vacant_empty
  exact ⟨hdurable, fun number => congrFun hfolders.refuses number⟩

/-- The notebook for the example is closed and opened again, and an update that succeeds does not
count as a change since the export. -/
theorem update_unnoticed_after_reopen :
    Reached (.inFolder "notes") .empty .tally exportedAfterDelete ∧
      (do reopen; update "i" { name := "X", body := "new" } : Attempt Notebook Unit).Meets
        exportedAfterDelete
        (fun _ left => ∃ note, left.notes.get? "i" = some note ∧ Sync.localChange note = false)
        fun _ _ => False := by
  obtain ⟨hdurable, hrefuses⟩ := exported_after_delete_durable
  obtain ⟨-, -, hclock, hstamp, hlayout, hmain, hdiff⟩ := exported_after_delete_eq
  obtain ⟨before, hfound, hbefore⟩ := Option.map_eq_some_iff.1 hstamp
  refine ⟨.performed _ _ (.performed _ _ (.performed _ _ (.performed _ _ .opened))), ?_⟩
  have hupdated := update_reopened_meets hdurable (by rw [hlayout]; rfl) hfound
    (by rw [hlayout]; exact ⟨hmain, hrefuses⟩) (by rw [hlayout]; exact ⟨hdiff, hrefuses⟩)
    { name := "X", body := "new" }
  refine hupdated.mono (fun _ left hleft => ?_) fun _ _ hfalse => hfalse
  obtain ⟨after, hafter, hversion, hexport⟩ := hleft
  refine ⟨after, hafter, ?_⟩
  simp [Sync.localChange, hversion, hexport, hclock, hbefore]

end Notebook

end Notekeeper
