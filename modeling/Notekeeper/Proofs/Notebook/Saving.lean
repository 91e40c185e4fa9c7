import Notekeeper.Proofs.Notebook.Files
import Notekeeper.Proofs.Supply

/-!
# Saving and backing up a notebook

What saves and backups do to the stores and to the files (`Notebook.save_meets`,
`Notebook.back_up_both_meets`). A notebook whose touched notes tell all in which its stores differ
from its files is `Kept`; saving makes it `Settled`, which is to say that its files hold its stores
if they can be held at all, and backups change nothing about that.
-/

namespace Notekeeper

/-- All folders of a layout stand, so that making them changes nothing. -/
def Disk.HasFolders (disk : Disk) (layout : Layout) : Prop :=
  ∀ folder ∈ [layout.home, layout.backups, layout.exchange], ∀ later, disk.FoldersStay later →
    Disk.makeFolders folder later = .ok () later

namespace Notebook

/-- Files can hold both stores. -/
structure Storable (notebook : Notebook) : Prop where
  notes : notebook.notes.Storable
  trash : notebook.trash.Storable

instance (notebook : Notebook) : Decidable notebook.Storable :=
  decidable_of_iff (notebook.notes.Storable ∧ notebook.trash.Storable)
    ⟨fun ⟨hnotes, htrash⟩ => ⟨hnotes, htrash⟩, fun h => ⟨h.notes, h.trash⟩⟩

/-- The stores know their files and have their notes under their ids, and the folders stand. -/
structure Rooted (notebook : Notebook) : Prop where
  notes_path : notebook.notes.path? = some notebook.layout.notesPath
  trash_path : notebook.trash.path? = some notebook.layout.trashPath
  notes_keyed : notebook.notes.Keyed
  trash_keyed : notebook.trash.Keyed
  folders : notebook.disk.HasFolders notebook.layout

/-- Both stores are to be saved as a whole. -/
structure Due (notebook : Notebook) : Prop extends notebook.Rooted where
  notes_due : notebook.notes.fullSaveDue = true
  trash_due : notebook.trash.fullSaveDue = true

/-- The touched notes tell all in which the stores differ from their files. -/
structure Kept (notebook : Notebook) : Prop where
  notes : notebook.notes.Tracked notebook.disk notebook.layout.notesPath
  trash : notebook.trash.Tracked notebook.disk notebook.layout.trashPath
  folders : notebook.disk.HasFolders notebook.layout

/-- The files hold both stores. -/
structure Durable (notebook : Notebook) : Prop where
  notes : notebook.notes.Saved notebook.disk notebook.layout.notesPath
  trash : notebook.trash.Saved notebook.disk notebook.layout.trashPath
  folders : notebook.disk.HasFolders notebook.layout

/-- The files hold both stores, if any can. -/
structure Settled (notebook : Notebook) : Prop where
  durable : notebook.Storable → notebook.Durable
  notes_defaults : notebook.notes.withDefaults = notebook.notes
  trash_defaults : notebook.trash.withDefaults = notebook.trash
  folders : notebook.disk.HasFolders notebook.layout

/-- Some files of a notebook stay as they are, and its folders. -/
structure FilesStay (files : List String) (notebook left : Notebook) : Prop where
  layout : left.layout = notebook.layout
  supply : notebook.supply.LeadsTo left.supply
  folders : notebook.disk.SameFolders left.disk
  files : ∀ own ∈ files, left.disk.octets? own = notebook.disk.octets? own

/-- The suffixes of the backups that are made on an export, and before and after an import. -/
def ownSuffixes : List (Option String) :=
  [none, some "imp0", some "imp1"]

/-- The disk takes every file that saves, exchanges and their backups write. -/
structure Willing (notebook : Notebook) : Prop where
  files : ∀ path ∈ notebook.layout.storeFiles ++ notebook.layout.exchangeFiles,
    notebook.disk.Takes path
  backups : ∀ number, ∀ suffix? ∈ ownSuffixes, ∀ file ∈ [Layout.notesName, Layout.trashName],
    notebook.disk.Takes (notebook.layout.backupPath (notebook.supply.moments number) suffix? file)

/-- The disk takes some files, and backups with some suffixes whenever they are made. -/
structure Allows (files : List String) (suffixes : List (Option String)) (notebook : Notebook) :
    Prop where
  files : ∀ path ∈ files, notebook.disk.Takes path
  backups : ∀ number, ∀ suffix? ∈ suffixes, ∀ file ∈ [Layout.notesName, Layout.trashName],
    notebook.disk.Takes (notebook.layout.backupPath (notebook.supply.moments number) suffix? file)

/-- A fault of a disk that does not take some files, or backups with some suffixes. -/
def Denies (files : List String) (suffixes : List (Option String)) (notebook : Notebook)
    (fault : Fault) : Prop :=
  fault = .disk ∧ ¬ notebook.Allows files suffixes

variable {notebook left last : Notebook} {files fewer : List String}
  {suffixes rarer : List (Option String)} {fault : Fault}

theorem Kept.rooted (h : notebook.Kept) : notebook.Rooted :=
  ⟨h.notes.path_eq, h.trash.path_eq, h.notes.keyed, h.trash.keyed, h.folders⟩

/-- Stores that are to be saved as a whole differ from their files in any way. -/
theorem Due.kept (h : notebook.Due) : notebook.Kept :=
  ⟨.of_due h.notes_path h.notes_keyed h.notes_due, .of_due h.trash_path h.trash_keyed h.trash_due,
    h.folders⟩

theorem FilesStay.refl (notebook : Notebook) : FilesStay files notebook notebook :=
  ⟨rfl, .refl _, .refl _, fun _ _ => rfl⟩

theorem FilesStay.trans (h : FilesStay files notebook left) (hlast : FilesStay files left last) :
    FilesStay files notebook last :=
  ⟨hlast.layout.trans h.layout, h.supply.trans hlast.supply, h.folders.trans hlast.folders,
    fun own hown => (hlast.files own hown).trans (h.files own hown)⟩

/-- Of files that stay some stay. -/
theorem FilesStay.mono (h : FilesStay files notebook left) (hfewer : ∀ own ∈ fewer, own ∈ files) :
    FilesStay fewer notebook left :=
  ⟨h.layout, h.supply, h.folders, fun own hown => h.files own (hfewer own hown)⟩

/-- Folders that stand go on standing. -/
theorem FilesStay.has_folders (h : FilesStay files notebook left)
    (hfolders : notebook.disk.HasFolders notebook.layout) : left.disk.HasFolders left.layout := by
  intro folder hfolder later hlater
  rw [h.layout] at hfolder
  exact hfolders folder hfolder later (h.folders.stay.trans hlater)

/-- A disk that takes some files goes on taking them. -/
theorem FilesStay.allows {kept : List String} (h : FilesStay kept notebook left)
    (hallows : notebook.Allows files suffixes) : left.Allows files suffixes := by
  refine ⟨fun path hpath => (hallows.files path hpath).of_same_folders h.folders,
    fun number suffix? hsuffix file hfile => ?_⟩
  rw [h.layout, h.supply.moments]
  exact (hallows.backups number suffix? hsuffix file hfile).of_same_folders h.folders

/-- A disk that takes some files takes fewer. -/
theorem Allows.mono (h : notebook.Allows files suffixes) (hfewer : ∀ path ∈ fewer, path ∈ files)
    (hrarer : ∀ suffix? ∈ rarer, suffix? ∈ suffixes) : notebook.Allows fewer rarer :=
  ⟨fun path hpath => h.files path (hfewer path hpath),
    fun number suffix? hsuffix => h.backups number suffix? (hrarer suffix? hsuffix)⟩

/-- What is refused of fewer files is refused of more. -/
theorem Denies.mono (h : notebook.Denies fewer rarer fault)
    (hfewer : ∀ path ∈ fewer, path ∈ files)
    (hrarer : ∀ suffix? ∈ rarer, suffix? ∈ suffixes) : notebook.Denies files suffixes fault :=
  ⟨h.1, fun hallows => h.2 (hallows.mono hfewer hrarer)⟩

/-- What is refused later on is refused as the notebook was. -/
theorem Denies.of_files_stay {kept : List String} (h : left.Denies files suffixes fault)
    (hstay : FilesStay kept notebook left) : notebook.Denies files suffixes fault :=
  ⟨h.1, fun hallows => h.2 (hstay.allows hallows)⟩

/-- A disk that takes every file takes them and their backups. -/
theorem willing_iff : notebook.Willing ↔
    notebook.Allows (notebook.layout.storeFiles ++ notebook.layout.exchangeFiles) ownSuffixes :=
  ⟨fun h => ⟨h.files, h.backups⟩, fun h => ⟨h.files, h.backups⟩⟩

/-- A disk that takes every file goes on taking them. -/
theorem FilesStay.willing (h : FilesStay files notebook left) (hwilling : notebook.Willing) :
    left.Willing := by
  rw [willing_iff, h.layout]
  exact h.allows (willing_iff.1 hwilling)

/-- The stores of a notebook stay as they are, and their files. -/
structure Stays (notebook left : Notebook) : Prop where
  files : FilesStay notebook.layout.storeFiles notebook left
  notes : left.notes = notebook.notes
  trash : left.trash = notebook.trash

theorem Stays.refl (notebook : Notebook) : Stays notebook notebook :=
  ⟨.refl notebook, rfl, rfl⟩

theorem Stays.trans (h : Stays notebook left) (hlast : Stays left last) : Stays notebook last := by
  obtain ⟨hfiles, hnotes, htrash⟩ := hlast
  rw [h.files.layout] at hfiles
  exact ⟨h.files.trans hfiles, hnotes.trans h.notes, htrash.trans h.trash⟩

/-- A fault of a disk that does not take every file. -/
def DiskFault (notebook : Notebook) (fault : Fault) : Prop :=
  fault = .disk ∧ ¬ notebook.Willing

/-- A refusal of a file of the notebook or of a backup of its own is a fault of the disk. -/
theorem Denies.disk_fault (h : notebook.Denies files suffixes fault)
    (hfiles : ∀ path ∈ files,
      path ∈ notebook.layout.storeFiles ++ notebook.layout.exchangeFiles)
    (hsuffixes : ∀ suffix? ∈ suffixes, suffix? ∈ ownSuffixes) : notebook.DiskFault fault :=
  ⟨h.1, fun hwilling => h.2 ((willing_iff.1 hwilling).mono hfiles hsuffixes)⟩

/-- A fault of the disk later on is one of the disk as it was. -/
theorem FilesStay.disk_fault (h : FilesStay files notebook left)
    (hfault : left.DiskFault fault) : notebook.DiskFault fault :=
  ⟨hfault.1, fun hwilling => hfault.2 (h.willing hwilling)⟩

/-- Tracked stores stay tracked as long as their files stay. -/
theorem Kept.of_files_stay (h : notebook.Kept)
    (hfiles : FilesStay notebook.layout.storeFiles notebook left)
    (hnotes : left.notes = notebook.notes) (htrash : left.trash = notebook.trash) : left.Kept := by
  refine ⟨?_, ?_, hfiles.has_folders h.folders⟩
  · rw [hnotes, hfiles.layout]
    exact h.notes.of_same_file (hfiles.files _ (by simp [Layout.storeFiles]))
  · rw [htrash, hfiles.layout]
    exact h.trash.of_same_file (hfiles.files _ (by simp [Layout.storeFiles]))

/-- Stores stay held by their files as long as these stay. -/
theorem Durable.of_files_stay (h : notebook.Durable)
    (hfiles : FilesStay notebook.layout.storeFiles notebook left)
    (hnotes : left.notes = notebook.notes) (htrash : left.trash = notebook.trash) :
    left.Durable := by
  refine ⟨?_, ?_, hfiles.has_folders h.folders⟩
  · rw [hnotes, hfiles.layout]
    exact h.notes.of_same_files (hfiles.files _ (by simp [Layout.storeFiles]))
      (hfiles.files _ (by simp [Layout.storeFiles]))
  · rw [htrash, hfiles.layout]
    exact h.trash.of_same_files (hfiles.files _ (by simp [Layout.storeFiles]))
      (hfiles.files _ (by simp [Layout.storeFiles]))

/-- A settled notebook stays settled as long as its files stay. -/
theorem Settled.of_files_stay (h : notebook.Settled)
    (hfiles : FilesStay notebook.layout.storeFiles notebook left)
    (hnotes : left.notes = notebook.notes) (htrash : left.trash = notebook.trash) :
    left.Settled := by
  refine ⟨fun hstorable => ?_, ?_, ?_, hfiles.has_folders h.folders⟩
  · refine (h.durable ⟨?_, ?_⟩).of_files_stay hfiles hnotes htrash
    · rw [← hnotes]
      exact hstorable.notes
    · rw [← htrash]
      exact hstorable.trash
  · rw [hnotes, h.notes_defaults]
  · rw [htrash, h.trash_defaults]

/-- Files that hold the stores hold stores that can be held. -/
theorem Durable.storable (h : notebook.Durable) : notebook.Storable :=
  ⟨h.notes.storable, h.trash.storable⟩

/-- A notebook whose files hold its stores differs from them in nothing. -/
theorem Durable.kept (h : notebook.Durable) : notebook.Kept :=
  ⟨h.notes.tracked, h.trash.tracked, h.folders⟩

/-- A notebook whose files hold its stores is settled. -/
theorem Durable.settled (h : notebook.Durable) : notebook.Settled :=
  ⟨fun _ => h, h.notes.storable.defaults, h.trash.storable.defaults, h.folders⟩

/-! ## Single files -/

/-- A file is written. -/
theorem write_meets (path : String) (octets : ByteArray)
    (hfiles : ∀ own ∈ files, Disk.Apart path own) :
    (onDisk (Disk.write path octets)).Meets notebook
      (fun _ left => FilesStay files notebook left ∧ left.notes = notebook.notes ∧
        left.trash = notebook.trash ∧ left.disk.octets? path = some octets)
      fun fault _ => fault = .disk ∧ ¬ notebook.disk.Takes path := by
  unfold onDisk
  rw [Attempt.meets_within]
  refine (Disk.write_meets path octets notebook.disk).mono (fun _ disk hdisk => ?_)
    fun _ _ hfault => ⟨hfault.1, hfault.2.2⟩
  obtain ⟨hfolders, hwritten, hothers⟩ := hdisk
  exact ⟨⟨rfl, .refl _, hfolders, fun own hown => hothers own (hfiles own hown)⟩, rfl, rfl,
    hwritten⟩

/-- The primary store is written to another file. -/
theorem save_notes_to_meets (path : String) (hfiles : ∀ own ∈ files, Disk.Apart path own) :
    (onNotes (Store.saveTo path)).Meets notebook
      (fun _ left => FilesStay files notebook left ∧
        left.notes = notebook.notes.withDefaults ∧ left.trash = notebook.trash ∧
        left.disk.octets? path = some (Text.encode notebook.notes.withDefaults.text))
      fun fault _ => fault = .disk ∧ ¬ notebook.disk.Takes path := by
  unfold onNotes
  rw [Attempt.meets_within]
  refine (Store.save_to_meets path _).mono (fun _ shelf hshelf => ?_) fun _ _ hfault => hfault
  obtain ⟨hstore, hsupply, hfolders, hwritten, hothers⟩ := hshelf
  refine ⟨⟨rfl, ?_, hfolders, fun own hown => hothers own (hfiles own hown)⟩, hstore, rfl, hwritten⟩
  rw [hsupply]
  exact .refl _

/-- The trash is written to another file. -/
theorem save_trash_to_meets (path : String) (hfiles : ∀ own ∈ files, Disk.Apart path own) :
    (onTrash (Store.saveTo path)).Meets notebook
      (fun _ left => FilesStay files notebook left ∧
        left.notes = notebook.notes ∧ left.trash = notebook.trash.withDefaults)
      fun fault _ => fault = .disk ∧ ¬ notebook.disk.Takes path := by
  unfold onTrash
  rw [Attempt.meets_within]
  refine (Store.save_to_meets path _).mono (fun _ shelf hshelf => ?_) fun _ _ hfault => hfault
  obtain ⟨hstore, hsupply, hfolders, -, hothers⟩ := hshelf
  refine ⟨⟨rfl, ?_, hfolders, fun own hown => hothers own (hfiles own hown)⟩, rfl, hstore⟩
  rw [hsupply]
  exact .refl _

/-! ## Backups -/

/-- A folder of the layout is there. -/
theorem make_folders_meets (hfolders : notebook.disk.HasFolders notebook.layout) {folder : String}
    (h : folder ∈ [notebook.layout.home, notebook.layout.backups, notebook.layout.exchange]) :
    (onDisk (Disk.makeFolders folder)).Meets notebook (fun _ left => left = notebook)
      fun _ _ => False := by
  have hmade := hfolders folder h notebook.disk (.refl _)
  unfold onDisk
  rw [Attempt.meets_within]
  unfold Attempt.Meets
  rw [hmade]

/-- A backup changes no file of the notebook itself, and fails only where the disk does not take
backups with its suffix. -/
theorem back_up_writes (kind : StoreKind) (suffix? : Option String) {file : String}
    (hfile : file ∈ [Layout.notesName, Layout.trashName]) :
    (backUp kind suffix? file).Meets notebook
      (fun _ left =>
        FilesStay (notebook.layout.storeFiles ++ notebook.layout.exchangeFiles) notebook left ∧
        match kind with
        | .notes => left.notes = notebook.notes.withDefaults ∧ left.trash = notebook.trash
        | .trash => left.notes = notebook.notes ∧ left.trash = notebook.trash.withDefaults)
      fun fault _ => notebook.Denies [] [suffix?] fault := by
  unfold backUp look
  simp only [Attempt.meets_bind, Attempt.meets_modify_get, Attempt.meets_get]
  have hread : FilesStay (notebook.layout.storeFiles ++ notebook.layout.exchangeFiles) notebook
      { notebook with supply := notebook.supply.afterReading } :=
    ⟨rfl, Supply.leads_to_reading _, .refl _, fun _ _ => rfl⟩
  have hpath (own : String)
      (hown : own ∈ notebook.layout.storeFiles ++ notebook.layout.exchangeFiles) :
      Disk.Apart (notebook.layout.backupPath notebook.supply.now suffix? file) own :=
    Layout.apart_backup notebook.supply.now suffix? hfile hown
  have hfault {fault : Fault} (h : fault = .disk ∧
      ¬ notebook.disk.Takes (notebook.layout.backupPath notebook.supply.now suffix? file)) :
      notebook.Denies [] [suffix?] fault :=
    ⟨h.1, fun hallows => h.2 (hallows.backups _ suffix? (by simp) file hfile)⟩
  cases kind with
  | notes =>
      simp only [Attempt.meets_bind, Attempt.meets_pure]
      exact (save_notes_to_meets _ hpath).mono
        (fun _ left hleft => ⟨hread.trans hleft.1, hleft.2.1, hleft.2.2.1⟩) fun _ _ h => hfault h
  | trash =>
      simp only [Attempt.meets_bind, Attempt.meets_pure]
      exact (save_trash_to_meets _ hpath).mono
        (fun _ left hleft => ⟨hread.trans hleft.1, hleft.2⟩) fun _ _ h => hfault h

/-- Backups of both stores change no file of the notebook itself, and fail only where the disk does
not take backups with their suffix. -/
theorem back_up_writes_both (hfolders : notebook.disk.HasFolders notebook.layout)
    (suffix? : Option String) :
    (backUpBoth suffix?).Meets notebook
      (fun _ left =>
        FilesStay (notebook.layout.storeFiles ++ notebook.layout.exchangeFiles) notebook left ∧
        left.notes = notebook.notes.withDefaults ∧ left.trash = notebook.trash.withDefaults)
      fun fault _ => notebook.Denies [] [suffix?] fault := by
  unfold backUpBoth
  simp only [Attempt.meets_bind, Attempt.meets_get]
  refine (make_folders_meets hfolders (by simp)).mono (fun _ made hmade => ?_)
    fun _ _ hfalse => hfalse.elim
  subst hmade
  refine (back_up_writes .notes suffix? (by simp)).mono (fun _ middle hmiddle => ?_)
    fun _ _ hfault => hfault
  obtain ⟨hfirst, hnotes, htrash⟩ := hmiddle
  refine (back_up_writes .trash suffix? (by simp)).mono (fun _ left hleft => ?_)
    fun _ _ hfault => hfault.of_files_stay hfirst
  obtain ⟨hsecond, hlast, htrashed⟩ := hleft
  rw [hfirst.layout] at hsecond
  exact ⟨hfirst.trans hsecond, hlast.trans hnotes, htrashed.trans (by rw [htrash])⟩

/-- Backups of both stores change no file of the notebook itself. -/
theorem back_up_both_meets (hfolders : notebook.disk.HasFolders notebook.layout)
    (suffix? : Option String) :
    (backUpBoth suffix?).Meets notebook
      (fun _ left =>
        FilesStay (notebook.layout.storeFiles ++ notebook.layout.exchangeFiles) notebook left ∧
        left.notes = notebook.notes.withDefaults ∧ left.trash = notebook.trash.withDefaults)
      fun fault _ => fault = .disk ∧ (suffix? ∈ ownSuffixes → ¬ notebook.Willing) :=
  (back_up_writes_both hfolders suffix?).mono (fun _ _ hleft => hleft)
    fun _ _ hfault => ⟨hfault.1, fun hown => (hfault.disk_fault (by simp) (by simpa using hown)).2⟩

/-- Writing a primary store with defaults to another file leaves both stores and their files alone,
also if it fails. -/
theorem save_notes_to_stays (hdefaults : notebook.notes.withDefaults = notebook.notes)
    {path : String} (hpath : ∀ own ∈ notebook.layout.storeFiles, Disk.Apart path own) :
    (onNotes (Store.saveTo path)).Keeps (Stays notebook) :=
  (Store.save_to_stays hpath ⟨notebook.notes, notebook.disk, notebook.supply⟩ hdefaults).within
    (fun _ hleft => ⟨hleft.notes, hleft.files.supply, hleft.files.folders, hleft.files.files⟩)
    fun _ _ hleft hshelf => ⟨⟨hleft.files.layout, hshelf.2.1, hshelf.2.2.1, hshelf.2.2.2⟩, hshelf.1,
      hleft.trash⟩

/-- Writing a trash with defaults to another file leaves both stores and their files alone, also if
it fails. -/
theorem save_trash_to_stays (hdefaults : notebook.trash.withDefaults = notebook.trash)
    {path : String} (hpath : ∀ own ∈ notebook.layout.storeFiles, Disk.Apart path own) :
    (onTrash (Store.saveTo path)).Keeps (Stays notebook) :=
  (Store.save_to_stays hpath ⟨notebook.trash, notebook.disk, notebook.supply⟩ hdefaults).within
    (fun _ hleft => ⟨hleft.trash, hleft.files.supply, hleft.files.folders, hleft.files.files⟩)
    fun _ _ hleft hshelf => ⟨⟨hleft.files.layout, hshelf.2.1, hshelf.2.2.1, hshelf.2.2.2⟩,
      hleft.notes, hshelf.1⟩

/-- A backup of a notebook with defaults leaves the stores and their files alone, also if it
fails. -/
theorem back_up_stays (hnotes : notebook.notes.withDefaults = notebook.notes)
    (htrash : notebook.trash.withDefaults = notebook.trash) (kind : StoreKind)
    (suffix? : Option String) {file : String} (hfile : file ∈ [Layout.notesName, Layout.trashName]) :
    (backUp kind suffix? file).Keeps (Stays notebook) := by
  intro left hleft
  have hpath (own : String) (hown : own ∈ notebook.layout.storeFiles) :
      Disk.Apart (left.layout.backupPath left.supply.now suffix? file) own := by
    rw [hleft.files.layout]
    exact Layout.apart_backup _ suffix? hfile (by simp [hown])
  have hread : Stays notebook { left with supply := left.supply.afterReading } :=
    hleft.trans ⟨⟨rfl, left.supply.leads_to_reading, .refl _, fun _ _ => rfl⟩, rfl, rfl⟩
  unfold backUp look
  simp only [Attempt.meets_bind, Attempt.meets_modify_get, Attempt.meets_get]
  cases kind with
  | notes =>
      simp only [Attempt.meets_bind, Attempt.meets_pure]
      exact save_notes_to_stays hnotes hpath _ hread
  | trash =>
      simp only [Attempt.meets_bind, Attempt.meets_pure]
      exact save_trash_to_stays htrash hpath _ hread

/-- Backups of a notebook with defaults leave the stores and their files alone, also if they
fail. -/
theorem back_up_both_stays (hfolders : notebook.disk.HasFolders notebook.layout)
    (hnotes : notebook.notes.withDefaults = notebook.notes)
    (htrash : notebook.trash.withDefaults = notebook.trash) (suffix? : Option String) :
    (backUpBoth suffix?).Keeps (Stays notebook) := by
  intro left hleft
  unfold backUpBoth
  simp only [Attempt.meets_bind, Attempt.meets_get]
  refine (make_folders_meets (hleft.files.has_folders hfolders) (by simp)).mono
    (fun _ made hmade => ?_) fun _ _ hfalse => hfalse.elim
  subst hmade
  exact (back_up_stays hnotes htrash .notes suffix? (by simp) made hleft).mono
    (fun _ middle hmiddle => back_up_stays hnotes htrash .trash suffix? (by simp) middle hmiddle)
    fun _ _ hfault => hfault

/-! ## Saving -/

/-- The primary store is saved; files that bear other names than its own stay. -/
theorem save_notes_writes (hpath : notebook.notes.path? = some notebook.layout.notesPath)
    (hfiles : ∀ path ∈ [notebook.layout.notesPath, Store.diffPath notebook.layout.notesPath],
      ∀ own ∈ files, Disk.Apart path own) :
    (onNotes Store.save).Meets notebook
      (fun _ left => FilesStay files notebook left ∧
        left.notes = notebook.notes.saved ∧ left.trash = notebook.trash ∧
        notebook.notes.Written notebook.disk left.disk notebook.layout.notesPath)
      fun fault _ => notebook.Denies
        [notebook.layout.notesPath, Store.diffPath notebook.layout.notesPath] [] fault := by
  unfold onNotes
  rw [Attempt.meets_within]
  have hproper : 2 < (Path.lastName notebook.layout.notesPath).length := by
    rw [Layout.last_name_notes]
    decide
  refine (Store.save_writes hproper hpath notebook.disk notebook.supply).mono
    (fun _ shelf hshelf => ?_) fun _ _ hfault => ⟨hfault.1, fun hallows => hfault.2 ⟨
      hallows.files _ (by simp), hallows.files _ (by simp)⟩⟩
  obtain ⟨hstore, hsupply, hfolders, hwritten, hothers⟩ := hshelf
  refine ⟨⟨rfl, ?_, hfolders, fun own hown => hothers own (hfiles _ (by simp) own hown)
    (hfiles _ (by simp) own hown)⟩, hstore, rfl, hwritten⟩
  rw [hsupply]
  exact .refl _

/-- The trash is saved; files that bear other names than its own stay. -/
theorem save_trash_writes (hpath : notebook.trash.path? = some notebook.layout.trashPath)
    (hfiles : ∀ path ∈ [notebook.layout.trashPath, Store.diffPath notebook.layout.trashPath],
      ∀ own ∈ files, Disk.Apart path own) :
    (onTrash Store.save).Meets notebook
      (fun _ left => FilesStay files notebook left ∧
        left.notes = notebook.notes ∧ left.trash = notebook.trash.saved ∧
        notebook.trash.Written notebook.disk left.disk notebook.layout.trashPath)
      fun fault _ => notebook.Denies
        [notebook.layout.trashPath, Store.diffPath notebook.layout.trashPath] [] fault := by
  unfold onTrash
  rw [Attempt.meets_within]
  have hproper : 2 < (Path.lastName notebook.layout.trashPath).length := by
    rw [Layout.last_name_trash]
    decide
  refine (Store.save_writes hproper hpath notebook.disk notebook.supply).mono
    (fun _ shelf hshelf => ?_) fun _ _ hfault => ⟨hfault.1, fun hallows => hfault.2 ⟨
      hallows.files _ (by simp), hallows.files _ (by simp)⟩⟩
  obtain ⟨hstore, hsupply, hfolders, hwritten, hothers⟩ := hshelf
  refine ⟨⟨rfl, ?_, hfolders, fun own hown => hothers own (hfiles _ (by simp) own hown)
    (hfiles _ (by simp) own hown)⟩, rfl, hstore, hwritten⟩
  rw [hsupply]
  exact .refl _

/-- The primary store is saved. -/
theorem save_notes_meets (hpath : notebook.notes.path? = some notebook.layout.notesPath) :
    (onNotes Store.save).Meets notebook
      (fun _ left =>
        FilesStay ([notebook.layout.trashPath, Store.diffPath notebook.layout.trashPath] ++
          notebook.layout.exchangeFiles) notebook left ∧
        left.notes = notebook.notes.saved ∧ left.trash = notebook.trash ∧
        notebook.notes.Written notebook.disk left.disk notebook.layout.notesPath)
      fun fault _ => notebook.DiskFault fault :=
  (save_notes_writes hpath fun _ hname _ hown => Layout.apart_notes hname hown).mono
    (fun _ _ hleft => hleft)
    fun _ _ hfault => hfault.disk_fault (by simp [Layout.storeFiles]) (by simp)

/-- The trash is saved. -/
theorem save_trash_meets (hpath : notebook.trash.path? = some notebook.layout.trashPath) :
    (onTrash Store.save).Meets notebook
      (fun _ left =>
        FilesStay ([notebook.layout.notesPath, Store.diffPath notebook.layout.notesPath] ++
          notebook.layout.exchangeFiles) notebook left ∧
        left.notes = notebook.notes ∧ left.trash = notebook.trash.saved ∧
        notebook.trash.Written notebook.disk left.disk notebook.layout.trashPath)
      fun fault _ => notebook.DiskFault fault :=
  (save_trash_writes hpath fun _ hname _ hown => Layout.apart_trash hname hown).mono
    (fun _ _ hleft => hleft)
    fun _ _ hfault => hfault.disk_fault (by simp [Layout.storeFiles]) (by simp)

/-- Two stores have been saved in place of those of a notebook. -/
structure SavedAs (notebook : Notebook) (notes trash : Store) (left : Notebook) : Prop where
  stay : FilesStay [] notebook left
  notes_eq : left.notes = notes.saved
  trash_eq : left.trash = trash.saved
  notes_written : notes.Written notebook.disk left.disk notebook.layout.notesPath
  trash_written : trash.Written notebook.disk left.disk notebook.layout.trashPath

variable {notes trash : Store}

/-- What has been saved stays saved as long as the files stay. -/
theorem SavedAs.of_stays (h : SavedAs notebook notes trash left) (hstays : Stays left last) :
    SavedAs notebook notes trash last := by
  have hlayout := h.stay.layout
  obtain ⟨hfiles, hnotes, htrash⟩ := hstays
  have hown (own : String) (hown : own ∈ notebook.layout.storeFiles) :
      last.disk.octets? own = left.disk.octets? own :=
    hfiles.files own (by rwa [hlayout])
  exact ⟨h.stay.trans (hfiles.mono (by simp)), hnotes.trans h.notes_eq, htrash.trans h.trash_eq,
    h.notes_written.of_same_files (hown _ (by simp [Layout.storeFiles]))
      (hown _ (by simp [Layout.storeFiles])),
    h.trash_written.of_same_files (hown _ (by simp [Layout.storeFiles]))
      (hown _ (by simp [Layout.storeFiles]))⟩

/-- Other files do not tell what was there before. -/
theorem SavedAs.of_before {middle : Notebook} (h : SavedAs middle notes trash left)
    (hfiles : FilesStay notebook.layout.storeFiles notebook middle) :
    SavedAs notebook notes trash left := by
  have hnotes := h.notes_written
  have htrash := h.trash_written
  rw [hfiles.layout] at hnotes htrash
  exact ⟨(hfiles.mono (by simp)).trans h.stay, h.notes_eq, h.trash_eq,
    hnotes.of_same_before (hfiles.files _ (by simp [Layout.storeFiles])),
    htrash.of_same_before (hfiles.files _ (by simp [Layout.storeFiles]))⟩

/-- Stores that have been saved have defaults. -/
theorem SavedAs.defaults (h : SavedAs notebook notes trash left) :
    left.notes.withDefaults = left.notes ∧ left.trash.withDefaults = left.trash := by
  rw [h.notes_eq, h.trash_eq]
  exact ⟨notes.saved_with_defaults, trash.saved_with_defaults⟩

/-- A notebook is settled by saving stores that are tracked. -/
theorem SavedAs.settled (h : SavedAs notebook notes trash left)
    (hnotes : notes.Tracked notebook.disk notebook.layout.notesPath)
    (htrash : trash.Tracked notebook.disk notebook.layout.trashPath)
    (hfolders : notebook.disk.HasFolders notebook.layout) : left.Settled := by
  refine ⟨fun hstorable => ⟨?_, ?_, h.stay.has_folders hfolders⟩, h.defaults.1, h.defaults.2,
    h.stay.has_folders hfolders⟩
  · rw [h.notes_eq, h.stay.layout]
    exact h.notes_written.saved hnotes (by rw [← h.notes_eq]; exact hstorable.notes)
  · rw [h.trash_eq, h.stay.layout]
    exact h.trash_written.saved htrash (by rw [← h.trash_eq]; exact hstorable.trash)

/-- Both stores are saved; files that bear other names than theirs stay. -/
theorem save_writes_both (hnotes : notebook.notes.path? = some notebook.layout.notesPath)
    (htrash : notebook.trash.path? = some notebook.layout.trashPath)
    (hfiles : ∀ path ∈ notebook.layout.storeFiles, ∀ own ∈ files, Disk.Apart path own) :
    save.Meets notebook
      (fun _ left => FilesStay files notebook left ∧
        SavedAs notebook notebook.notes notebook.trash left)
      fun fault _ => notebook.Denies notebook.layout.storeFiles [] fault := by
  have hnotes_files : ∀ path ∈ [notebook.layout.notesPath,
      Store.diffPath notebook.layout.notesPath],
      ∀ own ∈ [notebook.layout.trashPath, Store.diffPath notebook.layout.trashPath] ++ files,
        Disk.Apart path own := by
    intro path hpath own hown
    rcases List.mem_append.1 hown with htrashed | hother
    · exact Layout.apart_notes hpath (List.mem_append_left _ htrashed)
    · exact hfiles path (by simp only [Layout.storeFiles, List.mem_cons] at hpath ⊢; tauto) own hother
  unfold save
  simp only [Attempt.meets_bind, Attempt.meets_pure]
  refine (save_notes_writes hnotes hnotes_files).mono (fun _ middle hmiddle => ?_)
    fun _ _ hfault => hfault.mono (by simp [Layout.storeFiles]) (by simp)
  obtain ⟨hfirst, hsaved_notes, hsame, hwritten⟩ := hmiddle
  have hpath : middle.trash.path? = some middle.layout.trashPath := by
    rw [hsame, hfirst.layout]
    exact htrash
  have htrash_files : ∀ path ∈ [middle.layout.trashPath, Store.diffPath middle.layout.trashPath],
      ∀ own ∈ [middle.layout.notesPath, Store.diffPath middle.layout.notesPath] ++ files,
        Disk.Apart path own := by
    rw [hfirst.layout]
    intro path hpath own hown
    rcases List.mem_append.1 hown with hnoted | hother
    · exact Layout.apart_trash hpath (List.mem_append_left _ hnoted)
    · exact hfiles path (by simp only [Layout.storeFiles, List.mem_cons] at hpath ⊢; tauto) own hother
  refine (save_trash_writes hpath htrash_files).mono (fun _ left hleft => ?_) fun _ _ hfault => ?_
  · obtain ⟨hsecond, hlast, hsaved_trash, hwritten_trash⟩ := hleft
    rw [hfirst.layout] at hsecond hwritten_trash
    rw [hsame] at hsaved_trash hwritten_trash
    have hboth : FilesStay files notebook left :=
      (hfirst.mono (by simp +contextual)).trans (hsecond.mono (by simp +contextual))
    -- neither save writes a file of the other
    exact ⟨hboth, hboth.mono (by simp), hlast.trans hsaved_notes, hsaved_trash,
      hwritten.of_same_files (hsecond.files _ (by simp)) (hsecond.files _ (by simp)),
      hwritten_trash.of_same_before (hfirst.files _ (by simp))⟩
  · rw [hfirst.layout] at hfault
    exact (hfault.of_files_stay hfirst).mono (by simp [Layout.storeFiles]) (by simp)

/-- A save leaves the files of an exchange alone. -/
theorem save_writes (hnotes : notebook.notes.path? = some notebook.layout.notesPath)
    (htrash : notebook.trash.path? = some notebook.layout.trashPath) :
    save.Meets notebook
      (fun _ left => FilesStay notebook.layout.exchangeFiles notebook left ∧
        SavedAs notebook notebook.notes notebook.trash left)
      fun fault _ => notebook.DiskFault fault :=
  (save_writes_both hnotes htrash fun _ hpath _ hown => (Layout.apart_exchange hpath hown).symm).mono
    (fun _ _ hleft => hleft) fun _ _ hfault => hfault.disk_fault (by simp +contextual) (by simp)

/-- A save settles a notebook that is kept. It leaves the files of an exchange alone. -/
theorem save_meets (h : notebook.Kept) :
    save.Meets notebook
      (fun _ left => FilesStay notebook.layout.exchangeFiles notebook left ∧
        left.notes = notebook.notes.saved ∧ left.trash = notebook.trash.saved ∧ left.Settled)
      fun fault _ => notebook.DiskFault fault :=
  (save_writes h.notes.path_eq h.trash.path_eq).mono
    (fun _ _ hleft => ⟨hleft.1, hleft.2.notes_eq, hleft.2.trash_eq,
      hleft.2.settled h.notes h.trash h.folders⟩) fun _ _ hfault => hfault

end Notebook

end Notekeeper
