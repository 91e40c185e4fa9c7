import Notekeeper.Notebook.Exchange
import Notekeeper.Proofs.Notebook.Saving
import Notekeeper.Proofs.Store.Alike
import Notekeeper.Proofs.Sync.Merge

/-!
# What exports and imports lead to

`Notebook.export_meets` tells which store an export leaves and packs, `Notebook.take_import_meets`
what is taken out of the package by an import and what it makes of the stores. Both leave the notebook settled,
also when they fail for another cause than the disk.
-/

namespace Notekeeper

namespace Store

variable {store other : Store}

/-- The notes of a store stamped as exported. -/
theorem get_stamp_export (store : Store) (id : String) :
    store.stampExport.notes[id]? =
      store.notes[id]?.map fun note => { note with exportVersion := store.clock } := by
  simp [stampExport, editAll, requireFullSave, Std.ExtTreeMap.getElem?_map]

/-- Like stores are stamped alike. -/
theorem Alike.stamp_export (h : store.Alike other) :
    store.stampExport.Alike other.stampExport := by
  refine ⟨?_, h.clock, h.clock, h.import_clock⟩
  simp only [stampExport, editAll, requireFullSave, h.notes, h.clock]

/-- Like stores accept an import alike. -/
theorem Alike.accept_import (h : store.Alike other) (exportClock : Int) :
    (store.acceptImport exportClock).Alike (other.acceptImport exportClock) := by
  refine ⟨h.notes, ?_, h.export_clock, ?_⟩
  · simp only [acceptImport, raiseClock, h.clock]
  · simp only [acceptImport, raiseClock, h.clock]

/-- A stamp changes no id. -/
theorem Keyed.stamp_export (h : store.Keyed) : store.stampExport.Keyed := by
  intro id note hfound
  rw [get_stamp_export, Option.map_eq_some_iff] at hfound
  obtain ⟨old, hold, rfl⟩ := hfound
  exact h id old hold

end Store

namespace Disk

/-- Taking a snapshot out of a package writes no other file, also if it fails. -/
theorem extract_stays {package path : String} {files : List String}
    (hfiles : ∀ own ∈ files, Apart path own) (before : Disk) :
    (extractSnapshot package path).Keeps fun disk => before.SameFolders disk ∧
      ∀ own ∈ files, disk.octets? own = before.octets? own := by
  unfold extractSnapshot
  refine .get_bind fun disk hdisk => ?_
  split
  · split
    · refine ((write_stays hfiles before _).bind fun _ => ?_) disk hdisk
      split
      · exact .throw _
      · exact .pure _
    · exact hdisk
  · exact hdisk
  · exact hdisk

end Disk

namespace Notebook

variable {notebook left : Notebook}

/-- Tracked stores stay tracked through a backup. -/
theorem Kept.of_back_up (h : notebook.Kept)
    (hfiles : FilesStay notebook.layout.storeFiles notebook left)
    (hnotes : left.notes = notebook.notes.withDefaults)
    (htrash : left.trash = notebook.trash.withDefaults) : left.Kept := by
  have hdefaults : Kept { notebook with
      notes := notebook.notes.withDefaults, trash := notebook.trash.withDefaults } :=
    ⟨h.notes.with_defaults, h.trash.with_defaults, h.folders⟩
  exact hdefaults.of_files_stay ⟨hfiles.layout, hfiles.supply, hfiles.folders, hfiles.files⟩
    hnotes htrash

/-- A settled notebook stays settled through a backup. -/
theorem Settled.of_back_up (h : notebook.Settled)
    (hfiles : FilesStay notebook.layout.storeFiles notebook left)
    (hnotes : left.notes = notebook.notes.withDefaults)
    (htrash : left.trash = notebook.trash.withDefaults) : left.Settled :=
  h.of_files_stay hfiles (hnotes.trans h.notes_defaults) (htrash.trans h.trash_defaults)

/-! ## Export -/

/-- The snapshot in transit is packed beside the files of the stores. -/
theorem pack_snapshot_meets (hfolders : notebook.disk.HasFolders notebook.layout) :
    (onDisk (Disk.packSnapshot notebook.layout.snapshotPath notebook.layout.packagePath
      notebook.layout.exchange)).Meets notebook
      (fun _ left => FilesStay notebook.layout.storeFiles notebook left ∧
        left.notes = notebook.notes ∧ left.trash = notebook.trash ∧
        ∀ content, notebook.disk.octets? notebook.layout.snapshotPath = some content →
          left.disk.octets? notebook.layout.packagePath =
            some (Package.Archive.pack Layout.snapshotName content))
      fun fault _ => fault = .disk ∧ (notebook.Willing →
        notebook.disk.octets? notebook.layout.snapshotPath = none) := by
  have hmade := hfolders notebook.layout.exchange (by simp) notebook.disk (.refl _)
  unfold onDisk Disk.packSnapshot
  rw [Attempt.meets_within, Attempt.meets_bind]
  unfold Attempt.Meets Disk.read
  cases hread : notebook.disk.octets? notebook.layout.snapshotPath with
  | none => exact ⟨rfl, fun _ => rfl⟩
  | some content =>
      change Attempt.Meets (Disk.makeFolders notebook.layout.exchange >>= fun _ =>
        Disk.write notebook.layout.packagePath
          (Package.Archive.pack Layout.snapshotName content)) notebook.disk _ _
      rw [Attempt.meets_bind]
      unfold Attempt.Meets
      rw [hmade]
      refine (Disk.write_meets _ _ _).mono (fun _ disk hdisk => ?_)
        fun _ _ hfault => ⟨hfault.1, fun hwilling => (hfault.2.2 (hwilling.files _
          (by simp [Layout.exchangeFiles]))).elim⟩
      obtain ⟨hsame, hwritten, hothers⟩ := hdisk
      refine ⟨⟨rfl, .refl _, hsame, fun own hown => hothers own (Layout.apart_exchange hown
        (by simp [Layout.exchangeFiles]))⟩, rfl, rfl, fun _ heq => ?_⟩
      rw [← Option.some.inj heq]
      exact hwritten

/-- The primary store as an export leaves and packs it. -/
def exported (notebook : Notebook) : Store :=
  notebook.notes.withDefaults.stampExport.saved

/-- An export stamps the notes of the primary store, saves both stores and packs the primary one. -/
theorem export_writes (h : notebook.Rooted) :
    exportPackage.Meets notebook
      (fun _ left =>
        SavedAs notebook notebook.notes.withDefaults.stampExport notebook.trash.withDefaults left ∧
        left.disk.octets? notebook.layout.packagePath =
          some (Package.Archive.pack Layout.snapshotName (Text.encode notebook.exported.text)))
      fun fault _ => notebook.DiskFault fault := by
  unfold exportPackage
  simp only [Attempt.meets_bind, Attempt.meets_get, changeNotes, Attempt.meets_modify]
  refine (back_up_both_meets h.folders none).mono (fun _ backed hbacked => ?_)
    fun _ _ hfault => ⟨hfault.1, hfault.2 (by simp [ownSuffixes])⟩
  obtain ⟨hfiles, hnotes, htrash⟩ := hbacked
  have hstamped : FilesStay notebook.layout.storeFiles notebook
      { backed with notes := backed.notes.stampExport } :=
    ⟨hfiles.layout, hfiles.supply, hfiles.folders, fun own hown => hfiles.files own (by simp [hown])⟩
  have hnotes_path : backed.notes.stampExport.path? = some backed.layout.notesPath := by
    rw [hnotes, hfiles.layout]
    exact h.notes_path
  have htrash_path : backed.trash.path? = some backed.layout.trashPath := by
    rw [htrash, hfiles.layout]
    exact h.trash_path
  refine (@save_writes { backed with notes := backed.notes.stampExport } hnotes_path
    htrash_path).mono (fun _ saved hsaved => ?_) fun _ _ hfault => hstamped.disk_fault hfault
  have hsaved := hsaved.2.of_before hstamped
  simp only [hnotes, htrash] at hsaved
  have hsnapshot : ∀ own ∈ saved.layout.storeFiles, Disk.Apart saved.layout.snapshotPath own :=
    fun own hown => Layout.apart_exchange hown (by simp [Layout.exchangeFiles])
  rw [← hsaved.stay.layout]
  refine (save_notes_to_meets _ hsnapshot).mono (fun _ written hwritten => ?_)
    fun _ _ hfault => hsaved.stay.disk_fault ⟨hfault.1, fun hwilling =>
      hfault.2 (hwilling.files _ (by simp [Layout.exchangeFiles]))⟩
  obtain ⟨hwrite, hwritten_notes, hwritten_trash, hcontent⟩ := hwritten
  rw [hsaved.defaults.1] at hwritten_notes hcontent
  have hsaved_written := hsaved.of_stays ⟨hwrite, hwritten_notes, hwritten_trash⟩
  rw [← hwrite.layout] at hcontent ⊢
  refine (pack_snapshot_meets (hsaved_written.stay.has_folders h.folders)).mono
    (fun _ left hleft => ?_) fun _ _ hfault => ⟨hfault.1, fun hwilling => ?_⟩
  · obtain ⟨hpack, hleft_notes, hleft_trash, hpacked⟩ := hleft
    refine ⟨hsaved_written.of_stays ⟨hpack, hleft_notes, hleft_trash⟩, hpacked _ ?_⟩
    rw [hcontent, hsaved.notes_eq]
    rfl
  · have hnone := hfault.2 (hsaved_written.stay.willing hwilling)
    simp [hcontent] at hnone

/-- An export of a notebook that is kept settles it. -/
theorem export_meets (h : notebook.Kept) :
    exportPackage.Meets notebook
      (fun _ left => FilesStay [] notebook left ∧ left.notes = notebook.exported ∧
        left.trash = notebook.trash.withDefaults.saved ∧ left.Settled ∧
        left.disk.octets? notebook.layout.packagePath =
          some (Package.Archive.pack Layout.snapshotName (Text.encode notebook.exported.text)))
      fun fault _ => notebook.DiskFault fault := by
  have hstamped : notebook.notes.withDefaults.stampExport.Tracked notebook.disk
      notebook.layout.notesPath :=
    .of_due h.notes.path_eq h.notes.keyed.with_defaults.stamp_export rfl
  exact (export_writes h.rooted).mono
    (fun _ _ hleft => ⟨hleft.1.stay, hleft.1.notes_eq, hleft.1.trash_eq,
      hleft.1.settled hstamped h.trash.with_defaults h.folders, hleft.2⟩) fun _ _ hfault => hfault

/-! ## Import -/

/-- The exchange package holds a text. -/
def Packaged (notebook : Notebook) (text : String) : Prop :=
  ∃ octets extraction, notebook.disk.octets? notebook.layout.packagePath = some octets ∧
    Package.Archive.extract? Layout.snapshotName octets = some extraction ∧
    extraction.isIntact = true ∧ Text.decode? extraction.content = some text

/-- A package holds one text at most. -/
theorem Packaged.unique {text other : String} (h : notebook.Packaged text)
    (hother : notebook.Packaged other) : text = other := by
  obtain ⟨octets, extraction, hoctets, hextract, -, hdecode⟩ := h
  obtain ⟨others, again, hothers, hagain, -, hdecoded⟩ := hother
  rw [← Option.some.inj (hoctets.symm.trans hothers)] at hagain
  rw [← Option.some.inj (hextract.symm.trans hagain), hdecode] at hdecoded
  exact Option.some.inj hdecoded

/-- A package holds its text as long as the files of an exchange stay. -/
theorem Packaged.of_files_stay {text : String} (h : notebook.Packaged text)
    (hfiles : FilesStay notebook.layout.exchangeFiles notebook left) : left.Packaged text := by
  obtain ⟨octets, extraction, hoctets, hrest⟩ := h
  refine ⟨octets, extraction, ?_, hrest⟩
  rw [hfiles.layout, hfiles.files _ (by simp [Layout.exchangeFiles])]
  exact hoctets

/-- Nothing can be taken out of the exchange package, and what an import fails with then. -/
inductive Unusable (notebook : Notebook) : Fault → Prop
  /-- There is nothing in its place. -/
  | missing (hnone : notebook.disk.atPath? notebook.layout.packagePath = none) :
      Unusable notebook .disk
  /-- There is a folder in its place. -/
  | folder (hfolder : notebook.disk.atPath? notebook.layout.packagePath = some .folder) :
      Unusable notebook .package
  /-- It is no package, or there is no snapshot in it. -/
  | empty (octets : ByteArray)
      (hoctets : notebook.disk.octets? notebook.layout.packagePath = some octets)
      (hextract : Package.Archive.extract? Layout.snapshotName octets = none) :
      Unusable notebook .package
  /-- The snapshot in it is damaged, or is no text. -/
  | damaged (octets : ByteArray) (extraction : Package.Extraction)
      (hoctets : notebook.disk.octets? notebook.layout.packagePath = some octets)
      (hextract : Package.Archive.extract? Layout.snapshotName octets = some extraction)
      (hdamaged : extraction.isIntact = false ∨ Text.decode? extraction.content = none) :
      Unusable notebook .disk

/-- Out of a package that holds a text something can be taken. -/
theorem Unusable.not_packaged {fault : Fault} (h : notebook.Unusable fault) (text : String) :
    ¬ notebook.Packaged text := by
  rintro ⟨octets, extraction, hoctets, hextract, hintact, hdecode⟩
  cases h with
  | missing hnone => simp [Disk.octets?, hnone] at hoctets
  | folder hfolder => simp [Disk.octets?, hfolder] at hoctets
  | empty others hothers hnone =>
      rw [← Option.some.inj (hoctets.symm.trans hothers), hextract] at hnone
      cases hnone
  | damaged others whole hothers hwhole hdamaged =>
      rw [← Option.some.inj (hoctets.symm.trans hothers), hextract] at hwhole
      obtain rfl := Option.some.inj hwhole
      rcases hdamaged with hbroken | hnone
      · rw [hintact] at hbroken
        cases hbroken
      · rw [hdecode] at hnone
        cases hnone

/-- A snapshot is taken out of a package, unless the disk does not take it or there is none. -/
theorem extract_snapshot_meets :
    (onDisk (Disk.extractSnapshot notebook.layout.packagePath
      notebook.layout.snapshotPath)).Meets notebook
      (fun _ left => FilesStay notebook.layout.storeFiles notebook left ∧
        left.notes = notebook.notes ∧ left.trash = notebook.trash ∧
        ∃ octets extraction, notebook.disk.octets? notebook.layout.packagePath = some octets ∧
          Package.Archive.extract? Layout.snapshotName octets = some extraction ∧
          extraction.isIntact = true ∧
          left.disk.octets? notebook.layout.snapshotPath = some extraction.content)
      fun fault _ => notebook.Denies [notebook.layout.snapshotPath] [] fault ∨
        notebook.Unusable fault := by
  unfold onDisk Disk.extractSnapshot
  rw [Attempt.meets_within, Attempt.meets_bind, Attempt.meets_get]
  cases hentry : notebook.disk.atPath? notebook.layout.packagePath with
  | none => exact .inr (.missing hentry)
  | some entry =>
      cases entry with
      | folder => exact .inr (.folder hentry)
      | file octets =>
          have hoctets : notebook.disk.octets? notebook.layout.packagePath = some octets := by
            simp [Disk.octets?, hentry]
          dsimp only
          cases hextract : Package.Archive.extract? Layout.snapshotName octets with
          | none => exact .inr (.empty octets hoctets hextract)
          | some extraction =>
              simp only [Attempt.meets_bind]
              refine (Disk.write_meets _ _ _).mono (fun _ disk hdisk => ?_) fun _ _ hfault =>
                .inl ⟨hfault.1, fun hallows => hfault.2.2 (hallows.files _ (by simp))⟩
              obtain ⟨hsame, hwritten, hothers⟩ := hdisk
              split
              next hbroken =>
                exact .inr (.damaged octets extraction hoctets hextract (.inl (by simpa using hbroken)))
              next hintact =>
                exact ⟨⟨rfl, .refl _, hsame, fun own hown => hothers own
                  (Layout.apart_exchange hown (by simp [Layout.exchangeFiles]))⟩, trivial, trivial,
                  octets, extraction, hoctets, hextract, by simpa using hintact, hwritten⟩

/-- Taking a snapshot out of a package leaves the stores and their files alone, also if it fails. -/
theorem extract_snapshot_stays (notebook : Notebook) :
    (onDisk (Disk.extractSnapshot notebook.layout.packagePath
      notebook.layout.snapshotPath)).Keeps (Stays notebook) := by
  have hown (own : String) (hown : own ∈ notebook.layout.storeFiles) :
      Disk.Apart notebook.layout.snapshotPath own :=
    Layout.apart_exchange hown (by simp [Layout.exchangeFiles])
  exact (Disk.extract_stays hown notebook.disk).within
    (fun _ hleft => ⟨hleft.files.folders, hleft.files.files⟩)
    fun _ _ hleft hinner => ⟨⟨hleft.files.layout, hleft.files.supply, hinner.1, hinner.2⟩,
      hleft.notes, hleft.trash⟩

/-- The store that a text holds, read on its own. -/
def snapshotOf (text : String) (supply : Supply) : Store :=
  ((Store.requireFullSave {}).read supply text).1

/-- A snapshot is read. -/
theorem read_snapshot_meets (path : String) :
    (readSnapshot path).Meets notebook
      (fun remotes left => ∃ text later, (notebook.disk.octets? path).bind Text.decode? = some text ∧
        remotes = snapshotOf text notebook.supply ∧ notebook.supply.LeadsTo later ∧
        left = { notebook with supply := later })
      fun fault left => fault = .disk ∧
        (notebook.disk.octets? path).bind Text.decode? = none ∧ left = notebook := by
  unfold readSnapshot Store.loadFrom
  rw [Attempt.meets_within]
  simp only [Shelf.getStore, Shelf.change, Attempt.meets_bind, Attempt.meets_get,
    Attempt.meets_pure, Attempt.meets_modify]
  refine (Store.read_file_meets path _).mono (fun ids shelf hshelf => ?_)
    fun _ shelf hfault => ⟨hfault.1, hfault.2.2, by rw [hfault.2.1]⟩
  obtain ⟨hdisk, hleads, text, hfound, hread⟩ := hshelf
  refine ⟨text, shelf.supply, hfound, ?_, hleads, ?_⟩
  · rw [snapshotOf, hread]
  · rw [hdisk]

/-- An import has unpacked the package: the stores have been saved, the snapshot holds a text, and
the text has been read. -/
structure Unpacked (notebook : Notebook) (text : String) (remotes : Store) (middle : Notebook) :
    Prop where
  saved : SavedAs notebook notebook.notes notebook.trash middle
  package : notebook.Packaged text
  snapshot : (middle.disk.octets? middle.layout.snapshotPath).bind Text.decode? = some text
  remotes : ∃ supply, remotes = snapshotOf text supply

/-- What is done with the snapshot of an import. -/
def absorb (mode : ImportMode) (remotes : Store) : Attempt Notebook (Option Sync.Report) := do
  let layout := (← get).layout
  match mode with
  | .replace =>
      replaceBy layout.snapshotPath remotes
      return none
  | .merge =>
      let report ← mergeIn remotes
      backUpBoth (some "imp1")
      return some report

/-- The files of its own that an import writes before it does anything with the snapshot. -/
def importFiles (layout : Layout) : List String :=
  layout.storeFiles ++ [layout.snapshotPath]

/-- An import saves and backs up both stores and unpacks the package before it does anything with
the snapshot. Before the stores have been saved it fails only where the disk does not take a file, and
after that only because of the package. -/
theorem take_import_writes (h : notebook.Rooted) (mode : ImportMode)
    {success : Option Sync.Report → Notebook → Prop} {failure : Fault → Notebook → Prop}
    (hdenied : ∀ fault left, notebook.Denies (importFiles notebook.layout) [some "imp0"] fault →
      failure fault left)
    (hpackage : ∀ fault left, SavedAs notebook notebook.notes notebook.trash left →
      notebook.Unusable fault → failure fault left)
    (habsorb : ∀ text remotes middle, Unpacked notebook text remotes middle →
      (absorb mode remotes).Meets middle success failure) :
    (takeImport mode).Meets notebook success failure := by
  unfold takeImport
  simp only [Attempt.meets_bind, Attempt.meets_get]
  refine (save_writes_both h.notes_path h.trash_path
    fun _ hpath _ hown => (Layout.apart_exchange hpath hown).symm).mono (fun _ saved hsaved => ?_)
    fun fault left hfault => hdenied fault left (hfault.mono (by simp +contextual [importFiles])
      (by simp))
  obtain ⟨hsave, hsaved⟩ := hsaved
  refine (back_up_writes_both (hsave.has_folders h.folders) (some "imp0")).mono
    (fun _ backed hbacked => ?_)
    fun fault left hfault => hdenied fault left ((hfault.of_files_stay hsave).mono (by simp) (by simp))
  obtain ⟨hback, hnotes, htrash⟩ := hbacked
  have hbacked := hsaved.of_stays ⟨hback.mono (by simp +contextual),
    hnotes.trans hsaved.defaults.1, htrash.trans hsaved.defaults.2⟩
  have hlayout : backed.layout = notebook.layout := hbacked.stay.layout
  -- neither the save nor the backups write the package
  have hoctets : backed.disk.octets? backed.layout.packagePath =
      notebook.disk.octets? notebook.layout.packagePath := by
    rw [hlayout, ← hsave.layout, hback.files _ (by simp [Layout.exchangeFiles]), hsave.layout]
    exact hsave.files _ (by simp [Layout.exchangeFiles])
  have hentry : backed.disk.atPath? backed.layout.packagePath =
      notebook.disk.atPath? notebook.layout.packagePath := by
    rw [hlayout, (hbacked.stay.folders).at_path (hlayout ▸ hoctets)]
  have hunusable {fault : Fault} (hbad : backed.Unusable fault) : notebook.Unusable fault := by
    cases hbad with
    | missing hnone => exact .missing (hentry ▸ hnone)
    | folder hfolder => exact .folder (hentry ▸ hfolder)
    | empty octets hfound hextract => exact .empty octets (hoctets ▸ hfound) hextract
    | damaged octets extraction hfound hextract hdamaged =>
        exact .damaged octets extraction (hoctets ▸ hfound) hextract hdamaged
  refine (extract_snapshot_meets.and (extract_snapshot_stays backed backed (.refl backed))).mono
    (fun _ extracted hextracted => ?_) fun fault left hleft => ?_
  · obtain ⟨⟨-, -, -, octets, extraction, hfound, hextraction, hintact, hcontent⟩, hstays⟩ :=
      hextracted
    have hextracted := hbacked.of_stays hstays
    refine (read_snapshot_meets _).mono (fun remotes middle hmiddle => ?_)
      fun fault left hleft => ?_
    · obtain ⟨text, later, htext, hremotes, hsupply, rfl⟩ := hmiddle
      rw [hcontent, Option.bind_some] at htext
      have hunpacked : Unpacked notebook text remotes { extracted with supply := later } := by
        refine ⟨hextracted.of_stays ⟨⟨rfl, hsupply, .refl _, fun _ _ => rfl⟩, rfl, rfl⟩,
          ⟨octets, extraction, ?_, hextraction, hintact, htext⟩, ?_, ⟨_, hremotes⟩⟩
        · rw [← hoctets, hfound]
        · change (extracted.disk.octets? extracted.layout.snapshotPath).bind Text.decode? = some text
          rw [hstays.files.layout, hcontent, Option.bind_some, htext]
      have hrest := habsorb text remotes _ hunpacked
      simp only [absorb, Attempt.meets_bind, Attempt.meets_get, hstays.files.layout] at hrest
      cases mode <;> simpa only [hstays.files.layout] using hrest
    · obtain ⟨rfl, hnone, rfl⟩ := hleft
      rw [hcontent, Option.bind_some] at hnone
      exact hpackage .disk _ hextracted
        (hunusable (.damaged octets extraction hfound hextraction (.inr hnone)))
  · obtain ⟨hcause | hcause, hstays⟩ := hleft
    · refine hdenied fault left ((hcause.of_files_stay hbacked.stay).mono ?_ (by simp))
      simp [importFiles, hlayout]
    · exact hpackage fault left (hbacked.of_stays hstays) (hunusable hcause)

/-- An import that cannot be made fails because the disk does not take a file, or after the stores have
been saved because of the package. -/
theorem take_import_meets (h : notebook.Rooted) (mode : ImportMode)
    {success : Option Sync.Report → Notebook → Prop} {failure : Fault → Notebook → Prop}
    (hrefused : ∀ fault left, notebook.DiskFault fault → failure fault left)
    (hpackage : ∀ fault left, SavedAs notebook notebook.notes notebook.trash left →
      (fault = .disk ∧ (notebook.Willing → ∀ text, ¬ notebook.Packaged text) ∨
        ∀ octets, notebook.disk.octets? notebook.layout.packagePath = some octets →
          Package.Archive.extract? Layout.snapshotName octets = none) → failure fault left)
    (habsorb : ∀ text remotes middle, Unpacked notebook text remotes middle →
      (absorb mode remotes).Meets middle success failure) :
    (takeImport mode).Meets notebook success failure := by
  refine take_import_writes h mode (fun fault left hfault => hrefused fault left ?_)
    (fun fault left hsaved hunusable => hpackage fault left hsaved ?_) habsorb
  · refine hfault.disk_fault (fun path hpath => ?_) (by simp [ownSuffixes])
    simp only [importFiles, Layout.exchangeFiles, List.mem_append, List.mem_cons] at hpath ⊢
    tauto
  · have hnone := hunusable.not_packaged
    cases hunusable with
    | missing | damaged => exact .inl ⟨rfl, fun _ => hnone⟩
    | folder hfolder =>
        exact .inr fun octets hoctets => by simp [Disk.octets?, hfolder] at hoctets
    | empty octets hoctets hextract =>
        refine .inr fun others hothers => ?_
        rw [← Option.some.inj (hoctets.symm.trans hothers)]
        exact hextract

/-- The merge of a snapshot into the stores as they have been saved. -/
def merging (notebook : Notebook) (remotes : Store) (supply : Supply) : Sync.Merging :=
  Sync.merge (notebook.notes.saved.acceptImport remotes.exportClock) notebook.trash.saved remotes
    supply

/-- A snapshot that is merged, unless it is stale: the stores that come of it are still to be saved. -/
theorem absorb_merge_writes {middle : Notebook} {text : String} {remotes : Store}
    (h : notebook.Rooted) (hunpacked : Unpacked notebook text remotes middle) :
    (absorb .merge remotes).Meets middle
      (fun report left => left.Due ∧ FilesStay [] notebook left ∧
        Sync.checkImport notebook.notes.saved remotes = .ok () ∧
        ∃ supply, notebook.supply.LeadsTo supply ∧
          (merging notebook remotes supply).supply.LeadsTo left.supply ∧
          report = some (merging notebook remotes supply).report ∧
          left.notes = (merging notebook remotes supply).locals.requireFullSave.withDefaults ∧
          left.trash = (merging notebook remotes supply).trash.requireFullSave.withDefaults)
      fun fault left => notebook.Denies [] [some "imp1"] fault ∨ left = middle ∧
        Sync.checkImport notebook.notes.saved remotes = .error fault := by
  have hsaved := hunpacked.saved
  have hfolders := hsaved.stay.has_folders h.folders
  unfold absorb mergeIn
  simp only [Attempt.meets_bind, Attempt.meets_get, Attempt.meets_of_except, Attempt.meets_pure,
    changeNotes, Attempt.meets_modify, Attempt.meets_modify_get, hsaved.notes_eq, hsaved.trash_eq]
  cases hcheck : Sync.checkImport notebook.notes.saved remotes with
  | error fault => exact .inr ⟨trivial, rfl⟩
  | ok accepted =>
      dsimp only
      have hkeeps := Sync.merge_keeps
        (fun store => store.path? = some notebook.layout.notesPath ∧ store.Keyed)
        (fun store => store.path? = some notebook.layout.trashPath ∧ store.Keyed)
        (fun store note hstore => ⟨hstore.1, hstore.2.restore note⟩)
        (fun store note hstore => ⟨hstore.1, hstore.2.add note⟩)
        (fun store id hstore => ⟨hstore.1, hstore.2.without id⟩)
        (fun store note hstore => ⟨hstore.1, hstore.2.restore note⟩)
        (fun store note hstore => ⟨hstore.1, hstore.2.add note⟩)
        (notebook.notes.saved.acceptImport remotes.exportClock) notebook.trash.saved remotes
        ⟨(Store.saved_eq _).1.trans h.notes_path, h.notes_keyed.saved⟩
        ⟨(Store.saved_eq _).1.trans h.trash_path, h.trash_keyed.saved⟩ middle.supply
      obtain ⟨⟨hnotes_path, hnotes_keyed⟩, ⟨htrash_path, htrash_keyed⟩, hsupply⟩ := hkeeps
      have hstay : FilesStay [] notebook
          { middle with
            notes := (merging notebook remotes middle.supply).locals.requireFullSave
            trash := (merging notebook remotes middle.supply).trash.requireFullSave
            supply := (merging notebook remotes middle.supply).supply } :=
        hsaved.stay.trans ⟨rfl, hsupply, .refl _, by simp⟩
      refine (back_up_writes_both (hstay.has_folders h.folders) (some "imp1")).mono
        (fun _ left hleft => ?_) fun _ _ hfault => .inl (hfault.of_files_stay hstay)
      obtain ⟨hback, hnotes, htrash⟩ := hleft
      have hleft : FilesStay [] notebook left := hstay.trans (hback.mono (by simp))
      refine ⟨⟨⟨?_, ?_, ?_, ?_, hleft.has_folders h.folders⟩, ?_, ?_⟩, hleft, rfl, middle.supply,
        hsaved.stay.supply, hback.supply, rfl, hnotes, htrash⟩
      · rw [hnotes, hleft.layout]
        exact hnotes_path
      · rw [htrash, hleft.layout]
        exact htrash_path
      · rw [hnotes]
        exact Store.Keyed.with_defaults hnotes_keyed
      · rw [htrash]
        exact Store.Keyed.with_defaults htrash_keyed
      · rw [hnotes]
        rfl
      · rw [htrash]
        rfl

/-- A merge fails because the disk does not take a file or because the snapshot is stale. -/
theorem absorb_merge_meets {middle : Notebook} {text : String} {remotes : Store}
    (h : notebook.Rooted) (hunpacked : Unpacked notebook text remotes middle) :
    (absorb .merge remotes).Meets middle
      (fun report left => left.Due ∧ FilesStay [] notebook left ∧
        Sync.checkImport notebook.notes.saved remotes = .ok () ∧
        ∃ supply, notebook.supply.LeadsTo supply ∧
          (merging notebook remotes supply).supply.LeadsTo left.supply ∧
          report = some (merging notebook remotes supply).report ∧
          left.notes = (merging notebook remotes supply).locals.requireFullSave.withDefaults ∧
          left.trash = (merging notebook remotes supply).trash.requireFullSave.withDefaults)
      fun fault left => notebook.DiskFault fault ∨ left = middle ∧
        Sync.checkImport notebook.notes.saved remotes = .error fault :=
  (absorb_merge_writes h hunpacked).mono (fun _ _ hleft => hleft)
    fun _ _ hleft => hleft.imp_left fun hfault => hfault.disk_fault (by simp) (by simp [ownSuffixes])

/-- The store of a snapshot that replaces another. -/
def replacing (notebook : Notebook) (text : String) (remotes : Store) (supply : Supply) : Store :=
  (notebook.notes.saved.clear.requireFullSave.read supply text).1.acceptImport remotes.exportClock

/-- A store has taken the place of the primary one and is still to be saved. -/
structure Replaced (notebook : Notebook) (text : String) (remotes : Store) (left : Notebook) :
    Prop where
  rooted : left.Rooted
  stay : FilesStay [] notebook left
  notes : ∃ supply, left.notes = replacing notebook text remotes supply
  notes_due : left.notes.fullSaveDue = true
  trash : left.trash = notebook.trash.saved
  trash_written :
    notebook.trash.Written notebook.disk left.disk notebook.layout.trashPath

/-- A snapshot that replaces the primary store, which is still to be saved. -/
theorem absorb_replace_meets {middle : Notebook} {text : String} {remotes : Store}
    (h : notebook.Rooted) (hunpacked : Unpacked notebook text remotes middle) :
    (absorb .replace remotes).Meets middle (fun _ => Replaced notebook text remotes)
      fun _ _ => False := by
  have hsaved := hunpacked.saved
  unfold absorb replaceBy Store.loadFrom onNotes
  simp only [Attempt.meets_bind, Attempt.meets_get, Attempt.meets_pure, changeNotes,
    Attempt.meets_modify, Attempt.meets_within, Shelf.change, hsaved.notes_eq]
  refine (Store.read_file_meets _ _).mono (fun ids shelf hshelf => ?_) fun _ _ hfault => by
    cases hunpacked.snapshot.symm.trans hfault.2.2
  obtain ⟨hdisk, hsupply, found, hfound, hread⟩ := hshelf
  obtain rfl := Option.some.inj (hfound.symm.trans hunpacked.snapshot)
  have hkeeps := Store.read_keeps
    (fun store => store.path? = some notebook.layout.notesPath ∧ store.Keyed ∧
      store.fullSaveDue = true)
    (fun store note hstore => ⟨hstore.1, hstore.2.1.restore note, hstore.2.2⟩)
    (fun store _ _ hstore => ⟨hstore.1, hstore.2.1, hstore.2.2⟩)
    notebook.notes.saved.clear.requireFullSave
    ⟨(Store.saved_eq _).1.trans h.notes_path, fun id note hnote => by
      simp [Store.clear, Store.requireFullSave] at hnote, rfl⟩ middle.supply found
  rw [hread] at hkeeps
  obtain ⟨⟨hpath, hkeyed, hdue⟩, -⟩ := hkeeps
  have hdisk : shelf.disk = middle.disk := hdisk
  have hstay : FilesStay [] notebook
      { middle with
        notes := shelf.store.acceptImport remotes.exportClock
        disk := shelf.disk
        supply := shelf.supply } := by
    refine hsaved.stay.trans ⟨rfl, hsupply, ?_, by simp⟩
    rw [hdisk]
    exact .refl _
  have htrash_path : middle.trash.path? = some middle.layout.trashPath := by
    rw [hsaved.trash_eq, hsaved.stay.layout]
    exact (Store.saved_eq _).1.trans h.trash_path
  have htrash_keyed : middle.trash.Keyed := by
    rw [hsaved.trash_eq]
    exact h.trash_keyed.saved
  refine ⟨⟨by rw [hstay.layout]; exact hpath, htrash_path, hkeyed, htrash_keyed,
    hstay.has_folders h.folders⟩, hstay, ⟨middle.supply, ?_⟩, hdue, hsaved.trash_eq, ?_⟩
  · rw [replacing, hread]
  · rw [hdisk]
    exact hsaved.trash_written

/-- A notebook whose files held its stores is kept when another store takes the place of the primary
one. -/
theorem Replaced.kept {text : String} {remotes : Store} (h : Replaced notebook text remotes left)
    (hdurable : notebook.Durable) : left.Kept := by
  refine ⟨.of_due h.rooted.notes_path h.rooted.notes_keyed h.notes_due, ?_, h.rooted.folders⟩
  rw [h.trash, h.stay.layout]
  exact (h.trash_written.saved hdurable.trash.tracked hdurable.trash.storable.saved).tracked

/-- An operation has left the notebook settled and its folders as they were. -/
def SettlesTo (notebook left : Notebook) : Prop :=
  left.Settled ∧ FilesStay [] notebook left

/-- A save of what is kept settles it. -/
theorem SavedAs.settles_to (h : SavedAs notebook notebook.notes notebook.trash left)
    (hkept : notebook.Kept) : SettlesTo notebook left :=
  ⟨h.settled hkept.notes hkept.trash hkept.folders, h.stay⟩

/-- An import leaves the notebook settled, also when it fails for another cause than the disk. -/
theorem import_settles (h : notebook.Durable) (mode : ImportMode) :
    (importPackage mode).Meets notebook (fun _ => SettlesTo notebook)
      fun fault left => fault = .disk ∨ SettlesTo notebook left := by
  unfold importPackage
  simp only [Attempt.meets_bind, Attempt.meets_pure]
  have hsave {middle : Notebook} (hmiddle : middle.Kept) (hstay : FilesStay [] notebook middle) :
      save.Meets middle (fun _ => SettlesTo notebook)
        fun fault left => fault = .disk ∨ SettlesTo notebook left :=
    (save_meets hmiddle).mono
      (fun _ left hleft => ⟨hleft.2.2.2, hstay.trans (hleft.1.mono (by simp))⟩)
      fun _ _ hfault => .inl hfault.1
  refine take_import_meets h.kept.rooted mode (fun _ _ hfault => .inl hfault.1)
    (fun _ _ hsaved _ => .inr (hsaved.settles_to h.kept)) fun text remotes middle hunpacked => ?_
  cases mode with
  | merge =>
      refine (absorb_merge_meets h.kept.rooted hunpacked).mono
        (fun _ left hleft => hsave hleft.1.kept hleft.2.1) fun fault left hleft => ?_
      rcases hleft with hfault | ⟨rfl, -⟩
      · exact .inl hfault.1
      · exact .inr (hunpacked.saved.settles_to h.kept)
  | replace =>
      exact (absorb_replace_meets h.kept.rooted hunpacked).mono
        (fun _ left hleft => hsave (hleft.kept h) hleft.stay) fun _ _ hfalse => hfalse.elim

end Notebook

end Notekeeper
