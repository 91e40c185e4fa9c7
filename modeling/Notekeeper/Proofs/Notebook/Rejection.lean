import Notekeeper.Proofs.Notebook.Merging
import Notekeeper.Proofs.Store.Told

/-!
# Imports that are rejected

Before an import looks at the package it saves both stores, backs them up and has the snapshot written.
None of this changes what the stores hold, in memory or in their files. So an import that cannot be made
of what is in the exchange location, or of a snapshot that is stale, fails with an error that tells the
cause and has changed nothing (`Notebook.rejected_import_changes_nothing`).
-/

namespace Notekeeper

namespace Notebook

variable {notebook found left : Notebook} {mode : ImportMode} {fault other : Fault}

/-- An import cannot be made of what is in the exchange location, and what it fails with. -/
inductive Rejects (mode : ImportMode) (notebook : Notebook) : Fault → Prop
  /-- Nothing can be taken out of the package. -/
  | unusable (fault : Fault) (hunusable : notebook.Unusable fault) : Rejects mode notebook fault
  /-- The snapshot is to be merged, and its import clock is below the export clock of the notebook. -/
  | stale (text : String) (reading : Supply) (hmerge : mode = .merge)
      (hpackage : notebook.Packaged text)
      (hstale : (snapshotOf text reading).importClock < notebook.notes.exportClock) :
      Rejects mode notebook
        (.stale notebook.notes.exportClock (snapshotOf text reading).importClock)

/-- A package is unusable for one reason. -/
theorem Unusable.unique (h : notebook.Unusable fault) (hother : notebook.Unusable other) :
    other = fault := by
  cases h with
  | missing hnone =>
      cases hother with
      | missing | damaged => rfl
      | folder hfolder => simp [hnone] at hfolder
      | empty octets hoctets => simp [Disk.octets?, hnone] at hoctets
  | folder hfolder =>
      cases hother with
      | folder | empty => rfl
      | missing hnone => simp [hfolder] at hnone
      | damaged octets extraction hoctets => simp [Disk.octets?, hfolder] at hoctets
  | empty octets hoctets hextract =>
      cases hother with
      | folder | empty => rfl
      | missing hnone => simp [Disk.octets?, hnone] at hoctets
      | damaged others whole hothers hwhole =>
          rw [← Option.some.inj (hoctets.symm.trans hothers), hextract] at hwhole
          cases hwhole
  | damaged octets extraction hoctets hextract =>
      cases hother with
      | missing | damaged => rfl
      | folder hfolder => simp [Disk.octets?, hfolder] at hoctets
      | empty others hothers hnone =>
          rw [← Option.some.inj (hoctets.symm.trans hothers), hextract] at hnone
          cases hnone

/-- The import clock of a snapshot depends on its text alone. -/
theorem import_clock_snapshot (text : String) (reading other : Supply) :
    (snapshotOf text reading).importClock = (snapshotOf text other).importClock :=
  Store.import_clock_read _ reading other text

/-- An import is rejected for one reason. -/
theorem Rejects.unique (h : notebook.Rejects mode fault) (hother : notebook.Rejects mode other) :
    other = fault := by
  cases h with
  | unusable fault hunusable =>
      cases hother with
      | unusable other hagain => exact hunusable.unique hagain
      | stale text reading _ hpackage => exact absurd hpackage (hunusable.not_packaged text)
  | stale text reading _ hpackage =>
      cases hother with
      | unusable other hunusable => exact absurd hpackage (hunusable.not_packaged text)
      | stale again rereading _ hagain =>
          rw [hpackage.unique hagain, import_clock_snapshot again rereading reading]

/-- A notebook is found as it was left, but for what is in the exchange location. -/
structure FoundAs (notebook found : Notebook) : Prop where
  layout : found.layout = notebook.layout
  notes : found.notes = notebook.notes
  trash : found.trash = notebook.trash
  folders : notebook.disk.FoldersStay found.disk
  files : ∀ own ∈ notebook.layout.storeFiles,
    found.disk.octets? own = notebook.disk.octets? own

/-- Files that held the stores hold them as the notebook is found. -/
theorem FoundAs.durable (h : FoundAs notebook found) (hdurable : notebook.Durable) :
    found.Durable := by
  refine ⟨?_, ?_, fun folder hfolder later hlater => ?_⟩
  · rw [h.notes, h.layout]
    exact hdurable.notes.of_same_files (h.files _ (by simp [Layout.storeFiles]))
      (h.files _ (by simp [Layout.storeFiles]))
  · rw [h.trash, h.layout]
    exact hdurable.trash.of_same_files (h.files _ (by simp [Layout.storeFiles]))
      (h.files _ (by simp [Layout.storeFiles]))
  · rw [h.layout] at hfolder
    exact hdurable.folders folder hfolder later (h.folders.trans hlater)

/-- Both stores hold what they held, in memory and when the notebook is opened again. -/
structure Unchanged (notebook left : Notebook) : Prop where
  notes : notebook.notes.Alike left.notes
  trash : notebook.trash.Alike left.trash
  /-- Opening can fail only where it makes backups. -/
  reopened : ∀ fresh, openStores.Meets (unread notebook.layout left.disk fresh)
    (fun _ opened =>
      opened.notes.notes = notebook.notes.notes ∧ opened.trash.notes = notebook.trash.notes ∧
      opened.notes.exportClock = notebook.notes.exportClock ∧
      opened.notes.importClock = notebook.notes.importClock ∧
      opened.trash.exportClock = notebook.trash.exportClock ∧
      opened.trash.importClock = notebook.trash.importClock)
    fun fault _ => fault = .disk ∧ notebook.layout.backsUpOnOpen = true

/-- Saving stores that their files hold changes nothing. -/
theorem SavedAs.unchanged (h : SavedAs notebook notebook.notes notebook.trash left)
    (hdurable : notebook.Durable) : Unchanged notebook left := by
  have hnotes := hdurable.notes.storable.alike_saved
  have htrash := hdurable.trash.storable.alike_saved
  rw [← h.notes_eq] at hnotes
  rw [← h.trash_eq] at htrash
  have hstorable : left.Storable := by
    refine ⟨?_, ?_⟩
    · rw [h.notes_eq]
      exact hdurable.notes.storable.saved
    · rw [h.trash_eq]
      exact hdurable.trash.storable.saved
  have hleft := (h.settles_to hdurable.kept).1.durable hstorable
  refine ⟨hnotes, htrash, fun fresh => ?_⟩
  rw [← h.stay.layout]
  refine (hleft.open_meets fresh).mono (fun _ opened hopened => ?_) fun _ _ hfault => hfault
  obtain ⟨-, ⟨hopened_notes, hopened_trash⟩, -⟩ := hopened
  rw [hopened_notes, hopened_trash]
  exact ⟨hnotes.notes, htrash.notes, hnotes.export_clock, hnotes.import_clock, htrash.export_clock,
    htrash.import_clock⟩

/-- An import whose own files are taken either is not rejected and succeeds, or fails for the reason it
is rejected for and has changed nothing. -/
theorem Durable.import_or_rejects (h : notebook.Durable) (mode : ImportMode)
    (hallows : notebook.Allows (importFiles notebook.layout) [some "imp0", some "imp1"]) :
    (importPackage mode).Meets notebook (fun _ _ => ∀ fault, ¬ notebook.Rejects mode fault)
      fun fault left => notebook.Rejects mode fault ∧ Unchanged notebook left := by
  have hrooted := h.kept.rooted
  unfold importPackage
  simp only [Attempt.meets_bind, Attempt.meets_pure]
  -- no save of the stores is refused
  have hsave {middle : Notebook} (hmiddle : middle.Rooted) (hstay : FilesStay [] notebook middle)
      {success : Prop} (hsuccess : success) {failure : Fault → Notebook → Prop} :
      save.Meets middle (fun _ _ => success) failure := by
    refine (save_writes_both hmiddle.notes_path hmiddle.trash_path
      (by simp : ∀ path ∈ _, ∀ own ∈ ([] : List String), _)).mono (fun _ _ _ => hsuccess)
      fun _ _ hdenied => absurd (hallows.mono ?_ (by simp)) (hdenied.of_files_stay hstay).2
    simp +contextual [importFiles, hstay.layout]
  refine take_import_writes hrooted mode
    (fun fault left hdenied => absurd (hallows.mono (by simp) (by simp)) hdenied.2)
    (fun fault left hsaved hunusable => ⟨.unusable fault hunusable, hsaved.unchanged h⟩)
    fun text remotes middle hunpacked => ?_
  obtain ⟨reading, rfl⟩ := hunpacked.remotes
  have husable (fault : Fault) : ¬ notebook.Unusable fault :=
    fun hunusable => hunusable.not_packaged text hunpacked.package
  cases mode with
  | replace =>
      refine (absorb_replace_meets hrooted hunpacked).mono
        (fun _ left hleft => hsave hleft.rooted hleft.stay fun fault hrejects => ?_)
        fun _ _ hfalse => hfalse.elim
      cases hrejects with
      | unusable _ hunusable => exact husable fault hunusable
      | stale _ _ hmerge => cases hmerge
  | merge =>
      have hexport : notebook.notes.saved.exportClock = notebook.notes.exportClock :=
        notebook.notes.saved_eq.2.2.2.1
      obtain ⟨haccept, hrefuse⟩ :=
        check_import_iff notebook.notes.saved (snapshotOf text reading)
      rw [hexport] at haccept hrefuse
      refine (absorb_merge_writes hrooted hunpacked).mono
        (fun _ left hleft => hsave hleft.1.toRooted hleft.2.1 fun fault hrejects => ?_)
        fun fault left hleft => ?_
      · have hfresh := haccept.1 hleft.2.2.1
        cases hrejects with
        | unusable _ hunusable => exact husable fault hunusable
        | stale again rereading _ hpackage hstale =>
            rw [hpackage.unique hunpacked.package, import_clock_snapshot text rereading reading] at hstale
            omega
      · rcases hleft with hdenied | ⟨rfl, hcheck⟩
        · exact absurd (hallows.mono (by simp) (by simp)) hdenied.2
        · obtain ⟨hstale, rfl⟩ := (hrefuse fault).1 hcheck
          exact ⟨.stale text reading rfl hunpacked.package hstale, hunpacked.saved.unchanged h⟩

/-- A notebook that a run has led to is found with anything in its exchange location, and its own files
are taken by the disk. An import then either is not rejected and succeeds, or it fails with the one error
that it is rejected with, and the notes and the clocks of both stores are as before, in memory and, but
for the clock that counts versions, when the notebook is opened again. -/
theorem rejected_import_changes_nothing {layout : Layout} {disk : Disk} {supply : Supply}
    {operations : List Operation} (hvacant : layout.Vacant disk)
    (hrun : Run layout disk supply operations notebook) (hfound : FoundAs notebook found)
    (mode : ImportMode)
    (hallows : found.Allows (importFiles found.layout) [some "imp0", some "imp1"]) :
    (importPackage mode).Meets found (fun _ _ => ∀ fault, ¬ found.Rejects mode fault)
      fun fault left => (∀ other, found.Rejects mode other ↔ other = fault) ∧
        Unchanged notebook left := by
  refine (Durable.import_or_rejects (hfound.durable (hrun.durable hvacant).1) mode hallows).mono
    (fun _ _ hnot => hnot) fun fault left hleft => ?_
  obtain ⟨hrejects, hnotes, htrash, hreopened⟩ := hleft
  rw [hfound.notes] at hnotes hreopened
  rw [hfound.trash] at htrash hreopened
  rw [hfound.layout] at hreopened
  exact ⟨fun other => ⟨hrejects.unique, fun heq => heq ▸ hrejects⟩, hnotes, htrash, hreopened⟩

/-- The notebook for examples after something that is no package has been put where the next import looks
for one. -/
def foundJunk : Notebook :=
  (receive ⟨#[80, 75]⟩).after savedTwice

/-- What is needed of the notebooks for the examples: the disk has folders for all files that an import
writes, and the import refuses the junk. -/
theorem found_junk_eq :
    (receive ⟨#[80, 75]⟩).fault? savedTwice = none ∧
      ((∀ path ∈ importFiles foundJunk.layout, (foundJunk.disk.filePlace? path).isSome = true) ∧
        ∀ suffix? ∈ [some "imp0", some "imp1"], ∀ file ∈ [Layout.notesName, Layout.trashName],
          (foundJunk.disk.filePlace? (foundJunk.layout.backupPath (Supply.tally.moments 0) suffix?
            file)).isSome = true) ∧
      (importPackage .merge).fault? foundJunk = some .package := by
  decide +kernel

/-- What is no package is rejected, and the note in the diff file is not lost by that. -/
theorem junk_changes_nothing :
    savedTwice.notes.touched.contains "i" = true ∧
      (importPackage .merge).fault? foundJunk = some .package ∧
      Unchanged savedTwice ((importPackage .merge).after foundJunk) := by
  have hvacant := Layout.vacant_empty
  have hrun := saved_twice_run
  obtain ⟨hreceives, hplaces, hfails⟩ := found_junk_eq
  obtain ⟨hfiles, hnotes, htrash, -⟩ :=
    (@receive_meets savedTwice ⟨#[80, 75]⟩).after_of_none hreceives
  have hfound : FoundAs savedTwice foundJunk :=
    ⟨hfiles.layout, hnotes, htrash, hfiles.folders.stay, hfiles.files⟩
  -- the disk for examples takes all that it has a folder for, and its clock stands still
  have hrefuses (number : Nat) : foundJunk.disk.refuses number = false :=
    congrFun ((hrun.durable hvacant).2.2.trans hfiles.folders.stay).refuses number
  have hmoments (number : Nat) : foundJunk.supply.moments number = Supply.tally.moments 0 :=
    congrFun ((hrun.leads_to hvacant).trans hfiles.supply).moments number
  have hallows : foundJunk.Allows (importFiles foundJunk.layout) [some "imp0", some "imp1"] := by
    refine ⟨fun path hpath => ⟨hplaces.1 path hpath, hrefuses⟩,
      fun number suffix? hsuffix file hfile => ⟨?_, hrefuses⟩⟩
    rw [hmoments]
    exact hplaces.2 suffix? hsuffix file hfile
  have hrejected := (rejected_import_changes_nothing hvacant hrun hfound .merge hallows).after_of_some
    hfails
  exact ⟨saved_twice_performed.2.2, hfails, hrejected.2⟩

end Notebook

end Notekeeper
