import Notekeeper.Proofs.Notebook.Merging
import Notekeeper.Proofs.Notebook.Naming
import Notekeeper.Proofs.Notebook.Standing

/-!
# Backups last

A run of a notebook is kept beside the list of the backups that it has made, oldest first
(`Notebook.BackedUp`). One step says what an operation writes: the files of the notebook itself, and
its backups (`Operation.backs_up`). So a backup is found as it was made until another gets into its
place (`Notebook.backups_last`). Backups bear the second they are made in, the suffix and the store in
their names, so with plain suffixes only a backup of the same store with the same suffix in the same
second does that; but such a one does (`Notebook.backup_overwritten`).
-/

namespace Notekeeper

/-- An attempt meets all of what it meets for each item. -/
theorem Attempt.meets_forall {state result : Type} {item : Sort*} {attempt : Attempt state result}
    {before : state} {success : item → result → state → Prop} {failure : item → Fault → state → Prop}
    (h : ∀ value, attempt.Meets before (success value) (failure value)) :
    attempt.Meets before (fun value left => ∀ each, success each value left)
      fun fault left => ∀ each, failure each fault left := by
  unfold Meets at *
  cases hrun : attempt before with
  | ok value left => exact fun each => by simpa only [hrun] using h each
  | error fault left => exact fun each => by simpa only [hrun] using h each

/-- Packing a snapshot writes no file but the package, also if it fails. -/
theorem Disk.pack_stays {snapshot package folder : String} {files : List String} {before : Disk}
    (hfolder : ∀ later, before.FoldersStay later → makeFolders folder later = .ok () later)
    (hfiles : ∀ own ∈ files, Apart package own) :
    (packSnapshot snapshot package folder).Keeps fun disk => before.SameFolders disk ∧
      ∀ own ∈ files, disk.octets? own = before.octets? own := by
  unfold packSnapshot
  refine .bind (fun disk hdisk => ?_) fun content => .bind (fun disk hdisk => ?_) fun _ =>
    write_stays hfiles before _
  · unfold Attempt.Meets read
    cases disk.octets? snapshot <;> exact hdisk
  · exact (Attempt.meets_of_run (hfolder disk hdisk.1.stay)).2 hdisk

/-- A store is written to another file as a whole; files at paths that lead elsewhere stay. -/
theorem Store.save_to_ends (path : String) (shelf : Shelf) :
    (saveTo path).Meets shelf
      (fun _ left => left.store = shelf.store.withDefaults ∧ left.supply = shelf.supply ∧
        shelf.disk.SameFolders left.disk ∧
        left.disk.octets? path = some (Text.encode shelf.store.withDefaults.text) ∧
        ∀ other, shelf.disk.Elsewhere path other →
          left.disk.octets? other = shelf.disk.octets? other)
      fun fault _ => fault = .disk := by
  unfold saveTo
  simp only [Shelf.change, Shelf.getStore, Attempt.meets_bind, Attempt.meets_modify,
    Attempt.meets_get, Attempt.meets_pure, Shelf.onDisk, Attempt.meets_within]
  exact (Disk.write_ends _ _ _).mono
    (fun _ _ hleft => ⟨trivial, trivial, hleft.1, hleft.2.2.1, hleft.2.2.2⟩)
    fun _ _ hfault => hfault.1

/-- A save takes nothing from the supply. -/
theorem Store.save_keeps_supply (supply : Supply) : save.Keeps fun shelf => shelf.supply = supply := by
  have hdisk (attempt : Attempt Disk Unit) :
      (Shelf.onDisk attempt).Keeps fun shelf => shelf.supply = supply :=
    (Attempt.Keeps.trivial attempt).within (fun _ _ => trivial) fun _ _ hshelf _ => hshelf
  have hchange (change : Store → Store) :
      (Shelf.change change).Keeps fun shelf => shelf.supply = supply :=
    .modify fun _ hshelf => hshelf
  unfold save Shelf.getStore
  refine .bind (hchange _) fun _ => .bind (.get_bind fun _ hshelf => hshelf) fun store => ?_
  split
  · exact .throw _
  · split
    · exact .bind (hdisk _) fun _ => .pure _
    · exact .bind (hchange _) fun _ => .bind (hdisk _) fun _ => .bind (hdisk _) fun _ => .pure _

/-- A store that has been saved has the text that was written. -/
theorem Store.text_saved (store : Store) : store.saved.text = store.withDefaults.text := by
  obtain ⟨-, hnotes, -, hexport, himport⟩ := store.saved_eq
  simp only [text, textOf, all, header, hnotes, hexport, himport]
  rfl

/-- A path bears another name than the files of a notebook that saves and exchanges write. -/
def Layout.Foreign (layout : Layout) (path : String) : Prop :=
  ∀ own ∈ layout.storeFiles ++ layout.exchangeFiles, Disk.Apart own path

/-! ## Single backups -/

/-- A backup of a store: what it is named for, and the text of the store. -/
structure Backup where
  moment : Moment
  suffix? : Option String
  kind : StoreKind
  text : String
  deriving DecidableEq

namespace Backup

variable {layout : Layout} {disk later : Disk} {backup other : Backup}

/-- Where a backup is made. -/
def path (backup : Backup) (layout : Layout) : String :=
  layout.backupPath backup.moment backup.suffix? backup.kind.fileName

/-- A disk holds a backup as it was made. -/
def HeldBy (backup : Backup) (layout : Layout) (disk : Disk) : Prop :=
  disk.octets? (backup.path layout) = some (Text.encode backup.text)

/-- Two backups are of one store, with one suffix and at one moment. -/
structure SameOccasion (backup other : Backup) : Prop where
  moment : backup.moment = other.moment
  suffix : backup.suffix? = other.suffix?
  kind : backup.kind = other.kind

/-- A backup does not get into the place of another. -/
inductive Spares (layout : Layout) (disk : Disk) (backup other : Backup) : Prop
  /-- Both have plain suffixes and differ in the moment, the suffix or the store. -/
  | named (hplain : Layout.Plain backup.suffix?) (hother : Layout.Plain other.suffix?)
      (hne : ¬ backup.SameOccasion other)
  /-- Their paths lead to different places. -/
  | placed (h : disk.Elsewhere (backup.path layout) (other.path layout))

/-- A backup that does not get into the place of another lies elsewhere. -/
theorem Spares.elsewhere (h : backup.Spares layout disk other) :
    disk.Elsewhere (backup.path layout) (other.path layout) := by
  cases h with
  | named hplain hother hne =>
      exact (Layout.backup_apart hplain hother fun heq =>
        hne ⟨heq.1, heq.2.1, heq.2.2⟩).elsewhere disk
  | placed h => exact h

/-- A backup lies beside the files of the notebook itself. -/
theorem foreign (backup : Backup) (layout : Layout) : layout.Foreign (backup.path layout) :=
  fun _ hown => (Layout.apart_backup _ _ backup.kind.file_name_mem hown).symm

end Backup

namespace Notebook

variable {notebook middle left : Notebook} {first second taken : List Backup} {result : Type}

/-! ## What a step writes -/

/-- The disk of a notebook holds each backup that no later one has got into the place of. -/
def HoldsBackups (taken : List Backup) (notebook : Notebook) : Prop :=
  ∀ earlier backup later, taken = earlier ++ backup :: later →
    (∀ other ∈ later, notebook.disk.Elsewhere (other.path notebook.layout)
      (backup.path notebook.layout)) → backup.HeldBy notebook.layout notebook.disk

/-- What has been done with a notebook has made some backups, and has written no file but those and
the files of the notebook itself. -/
structure BacksUp (taken : List Backup) (notebook left : Notebook) : Prop where
  layout : left.layout = notebook.layout
  folders : notebook.disk.SameFolders left.disk
  spared : ∀ path, notebook.layout.Foreign path →
    (∀ backup ∈ taken, notebook.disk.Elsewhere (backup.path notebook.layout) path) →
    left.disk.octets? path = notebook.disk.octets? path
  held : HoldsBackups taken left

/-- Where nothing is left to hold everything is held. -/
theorem holds_backups_nil (notebook : Notebook) : HoldsBackups [] notebook := by
  intro earlier backup later htaken
  simp at htaken

/-- Files of other names that all stay are all that counts where no backup is made. -/
theorem backs_up_of_stay (h : ∀ files : List String, (∀ own ∈ files, notebook.layout.Foreign own) →
    FilesStay files notebook left) : BacksUp [] notebook left :=
  ⟨(h [] (by simp)).layout, (h [] (by simp)).folders,
    fun path hpath _ => (h [path] (by simpa using hpath)).files path (by simp), holds_backups_nil left⟩

/-- Backups are held on as what is done next makes others. -/
theorem HoldsBackups.append (h : HoldsBackups first notebook) (hnext : BacksUp second notebook left) :
    HoldsBackups (first ++ second) left := by
  intro earlier backup later htaken hspared
  rcases List.append_eq_append_iff.1 htaken with ⟨rest, -, hrest⟩ | ⟨rest, hfirst, hlater⟩
  · exact hnext.held rest backup later hrest hspared
  · cases rest with
    | nil => exact hnext.held [] backup later hlater.symm hspared
    | cons same rest =>
        obtain ⟨rfl, rfl⟩ := List.cons.inj hlater
        have hplaces (other : Backup) (hother : other ∈ rest ++ second) :
            notebook.disk.Elsewhere (other.path notebook.layout) (backup.path notebook.layout) := by
          have hlast := (hspared other hother).of_same_folders hnext.folders.symm
          rw [hnext.layout] at hlast
          exact hlast
        have hheld := h earlier backup rest hfirst fun other hother =>
          hplaces other (List.mem_append_left _ hother)
        rw [Backup.HeldBy, hnext.layout, hnext.spared _ (backup.foreign _) fun other hother =>
          hplaces other (List.mem_append_right _ hother)]
        exact hheld

/-- What is done in two steps makes the backups of both. -/
theorem BacksUp.trans (h : BacksUp first notebook middle) (hnext : BacksUp second middle left) :
    BacksUp (first ++ second) notebook left := by
  refine ⟨hnext.layout.trans h.layout, h.folders.trans hnext.folders, fun path hpath hplaces => ?_,
    h.held.append hnext⟩
  have hfirst := h.spared path hpath fun backup hbackup =>
    hplaces backup (List.mem_append_left _ hbackup)
  rw [← hfirst]
  refine hnext.spared path (by rwa [h.layout]) fun backup hbackup => ?_
  rw [h.layout]
  exact (hplaces backup (List.mem_append_right _ hbackup)).of_same_folders h.folders

/-- No backup is made where all files of other names stay, whether it succeeds or fails. -/
theorem meets_backs_up_nil {attempt : Attempt Notebook result}
    (h : ∀ files : List String, (∀ own ∈ files, notebook.layout.Foreign own) →
      attempt.Meets notebook (fun _ left => FilesStay files notebook left)
        fun fault left => fault = .disk ∨ FilesStay files notebook left) :
    attempt.Meets notebook (fun _ left => BacksUp [] notebook left)
      fun fault left => fault = .disk ∨ BacksUp [] notebook left := by
  refine (Attempt.meets_forall fun files => Attempt.Meets.imp (h files)).mono
    (fun _ left hleft => backs_up_of_stay hleft) fun fault left hleft => ?_
  by_cases hdisk : fault = .disk
  · exact .inl hdisk
  · exact .inr (backs_up_of_stay fun files hfiles => (hleft files hfiles).resolve_left hdisk)

/-! ## Backups of a notebook -/

/-- The suffixes that the program itself gives are plain. -/
theorem plain_of_own {suffix? : Option String} (h : suffix? ∈ ownSuffixes) : Layout.Plain suffix? := by
  intro suffix hmem hslash
  simp only [ownSuffixes, List.mem_cons, List.not_mem_nil, or_false] at h
  rcases h with rfl | rfl | rfl <;> cases hmem <;> revert hslash <;> decide

/-- The backups that both stores of a notebook give with a suffix, when the clock is read for the
first of them for the time of a number. -/
def backupsAt (notebook : Notebook) (suffix? : Option String) (number : Nat) : List Backup :=
  [⟨notebook.supply.moments number, suffix?, .notes, notebook.notes.withDefaults.text⟩,
    ⟨notebook.supply.moments (number + 1), suffix?, .trash, notebook.trash.withDefaults.text⟩]

/-- A backup that has been written, while all files that lie elsewhere stay, has been made. -/
theorem backs_up_single {backup : Backup} (hlayout : left.layout = notebook.layout)
    (hfolders : notebook.disk.SameFolders left.disk)
    (hwritten : backup.HeldBy notebook.layout left.disk)
    (hothers : ∀ other, notebook.disk.Elsewhere (backup.path notebook.layout) other →
      left.disk.octets? other = notebook.disk.octets? other) :
    BacksUp [backup] notebook left := by
  refine ⟨hlayout, hfolders, fun path _ hplaces => hothers path (hplaces backup (by simp)), ?_⟩
  intro earlier single later htaken _
  cases earlier with
  | nil =>
      obtain ⟨rfl, -⟩ := List.cons.inj htaken
      rw [hlayout]
      exact hwritten
  | cons => simp at htaken

/-- A store is backed up. -/
theorem back_up_backs_up (kind : StoreKind) (suffix? : Option String) :
    (backUp kind suffix? kind.fileName).Meets notebook
      (fun _ left =>
        BacksUp [⟨notebook.supply.now, suffix?, kind, (notebook.store kind).withDefaults.text⟩]
          notebook left ∧
        left.supply = notebook.supply.afterReading ∧
        match kind with
        | .notes => left.notes = notebook.notes.withDefaults ∧ left.trash = notebook.trash
        | .trash => left.notes = notebook.notes ∧ left.trash = notebook.trash.withDefaults)
      fun fault _ => fault = .disk := by
  unfold backUp look
  simp only [Attempt.meets_bind, Attempt.meets_modify_get, Attempt.meets_get]
  cases kind with
  | notes =>
      simp only [Attempt.meets_bind, Attempt.meets_pure, onNotes, Attempt.meets_within]
      refine (Store.save_to_ends _ _).mono (fun _ shelf hshelf => ?_) fun _ _ hfault => hfault
      obtain ⟨hstore, hsupply, hfolders, hwritten, hothers⟩ := hshelf
      exact ⟨backs_up_single rfl hfolders hwritten hothers, hsupply, hstore, trivial⟩
  | trash =>
      simp only [Attempt.meets_bind, Attempt.meets_pure, onTrash, Attempt.meets_within]
      refine (Store.save_to_ends _ _).mono (fun _ shelf hshelf => ?_) fun _ _ hfault => hfault
      obtain ⟨hstore, hsupply, hfolders, hwritten, hothers⟩ := hshelf
      exact ⟨backs_up_single rfl hfolders hwritten hothers, hsupply, trivial, hstore⟩

/-- Both stores are backed up. -/
theorem back_up_both_backs_up (hfolders : notebook.disk.HasFolders notebook.layout)
    (suffix? : Option String) :
    (backUpBoth suffix?).Meets notebook
      (fun _ left =>
        BacksUp (notebook.backupsAt suffix? notebook.supply.momentsTaken) notebook left ∧
        left.supply = notebook.supply.afterReading.afterReading ∧
        left.notes = notebook.notes.withDefaults ∧ left.trash = notebook.trash.withDefaults)
      fun fault _ => fault = .disk := by
  unfold backUpBoth
  simp only [Attempt.meets_bind, Attempt.meets_get]
  refine (make_folders_meets hfolders (by simp)).mono (fun _ made hmade => ?_)
    fun _ _ hfalse => hfalse.elim
  subst hmade
  refine (back_up_backs_up .notes suffix?).mono (fun _ half hhalf => ?_) fun _ _ hfault => hfault
  obtain ⟨hfirst, hsupply, hnotes, htrash⟩ := hhalf
  refine (back_up_backs_up .trash suffix?).mono (fun _ left hleft => ?_) fun _ _ hfault => hfault
  obtain ⟨hsecond, hread, hsame, htrashed⟩ := hleft
  rw [hsupply] at hread hsecond
  simp only [store, htrash] at hsecond
  exact ⟨hfirst.trans hsecond, hread, hsame.trans hnotes, htrashed.trans (by rw [htrash])⟩

/-- The backups that both stores gave with a suffix when the clock was last read. -/
def lastBackups (notebook : Notebook) (suffix? : Option String) : List Backup :=
  notebook.backupsAt suffix? (notebook.supply.momentsTaken - 2)

/-- The last backups are known from the notebook that is left. -/
theorem last_backups_of_backed (suffix? : Option String)
    (hsupply : left.supply = notebook.supply.afterReading.afterReading)
    (hnotes : left.notes = notebook.notes.withDefaults)
    (htrash : left.trash = notebook.trash.withDefaults) :
    left.lastBackups suffix? = notebook.backupsAt suffix? notebook.supply.momentsTaken := by
  have hcount : notebook.supply.momentsTaken + 1 + 1 - 2 = notebook.supply.momentsTaken := by omega
  simp only [lastBackups, backupsAt, hsupply, hnotes, htrash, Store.with_defaults_idem,
    Supply.afterReading, hcount]

/-- A save leaves what was backed up before it. -/
theorem SavedAs.last_backups (h : SavedAs notebook notebook.notes notebook.trash left)
    (hsupply : left.supply = notebook.supply) (suffix? : Option String) :
    left.lastBackups suffix? = notebook.lastBackups suffix? := by
  simp only [lastBackups, backupsAt, hsupply, h.notes_eq, h.trash_eq, Store.saved_with_defaults,
    Store.text_saved]

/-! ## Operations -/

/-- The stores of a notebook know their files, and its folders stand. -/
structure Housed (notebook : Notebook) : Prop where
  notes_path : notebook.notes.path? = some notebook.layout.notesPath
  trash_path : notebook.trash.path? = some notebook.layout.trashPath
  folders : notebook.disk.HasFolders notebook.layout

theorem Rooted.housed (h : notebook.Rooted) : notebook.Housed :=
  ⟨h.notes_path, h.trash_path, h.folders⟩

/-- Stores that are where they were are in files that stand where they stood. -/
theorem Housed.of_backs_up (h : notebook.Housed) (hbacks : BacksUp taken notebook left)
    (hnotes : left.notes.path? = notebook.notes.path?)
    (htrash : left.trash.path? = notebook.trash.path?) : left.Housed := by
  refine ⟨?_, ?_, ?_⟩
  · rw [hnotes, hbacks.layout, h.notes_path]
  · rw [htrash, hbacks.layout, h.trash_path]
  · rw [hbacks.layout]
    exact h.folders.of_same_folders hbacks.folders

/-- The stores of a notebook know their files, which lie on its disk. -/
theorem Housed.conforms (h : notebook.Housed) : Conforms notebook.layout
    (fun store => store.path? = some notebook.layout.notesPath)
    (fun store => store.path? = some notebook.layout.trashPath)
    (fun disk => disk = notebook.disk) notebook :=
  ⟨rfl, h.notes_path, h.trash_path, rfl⟩

/-- What changes no disk makes no backup and moves no store. -/
theorem Housed.of_conforms (h : notebook.Housed)
    (hleft : Conforms notebook.layout (fun store => store.path? = some notebook.layout.notesPath)
      (fun store => store.path? = some notebook.layout.trashPath) (fun disk => disk = notebook.disk)
      left) : BacksUp [] notebook left ∧ left.Housed := by
  obtain ⟨hlayout, hnotes, htrash, hdisk⟩ := hleft
  have hbacks : BacksUp [] notebook left := by
    refine ⟨hlayout, ?_, fun path _ _ => by rw [hdisk], holds_backups_nil left⟩
    rw [hdisk]
    exact .refl _
  exact ⟨hbacks, h.of_backs_up hbacks (hnotes.trans h.notes_path.symm)
    (htrash.trans h.trash_path.symm)⟩

/-- A save makes no backup. -/
theorem save_backs_up (h : notebook.Housed) :
    save.Meets notebook
      (fun _ left => BacksUp [] notebook left ∧ left.Housed ∧
        SavedAs notebook notebook.notes notebook.trash left ∧ left.supply = notebook.supply)
      fun fault _ => fault = .disk := by
  have hstay : save.Meets notebook
      (fun _ left => BacksUp [] notebook left ∧
        SavedAs notebook notebook.notes notebook.trash left) fun fault _ => fault = .disk := by
    have hsaves (files : List String) (hfiles : ∀ own ∈ files, notebook.layout.Foreign own) :=
      save_writes_both h.notes_path h.trash_path fun path hpath own hown =>
        hfiles own hown path (List.mem_append_left _ hpath)
    refine (Attempt.meets_forall fun files => Attempt.Meets.imp (hsaves files)).mono
      (fun _ left hleft => ?_) fun fault left hleft => (hleft [] (by simp)).1
    exact ⟨backs_up_of_stay fun files hfiles => (hleft files hfiles).1, (hleft [] (by simp)).2⟩
  have hsupply : save.Keeps fun left => left.supply = notebook.supply := by
    have honce := Store.save_keeps_supply notebook.supply
    unfold save onNotes onTrash
    exact .bind (honce.within (fun _ hleft => hleft) fun _ _ _ hshelf => hshelf) fun _ =>
      .bind (honce.within (fun _ hleft => hleft) fun _ _ _ hshelf => hshelf) fun _ => .pure _
  refine (hstay.and (hsupply notebook rfl)).mono (fun _ left hleft => ?_)
    fun _ _ hfault => hfault.1
  obtain ⟨⟨hbacks, hsaved⟩, hsame⟩ := hleft
  refine ⟨hbacks, h.of_backs_up hbacks ?_ ?_, hsaved, hsame⟩
  · rw [hsaved.notes_eq]
    exact notebook.notes.saved_eq.1
  · rw [hsaved.trash_eq]
    exact notebook.trash.saved_eq.1

/-- Operations on notes make no backup. -/
theorem NoteOperation.backs_up (operation : NoteOperation) (h : notebook.Rooted) :
    operation.perform.Meets notebook (fun _ left => BacksUp [] notebook left)
      fun fault left => fault = .disk ∨ BacksUp [] notebook left := by
  refine meets_backs_up_nil fun files hfiles => ?_
  have hown {path : String} (hpath : path ∈ notebook.layout.storeFiles) :
      ∀ own ∈ files, Disk.Apart path own :=
    fun own hown => hfiles own hown path (List.mem_append_left _ hpath)
  refine operation.perform_meets ⟨.refl notebook, fun _ => .inr (.refl notebook),
    fun middle hchanges htrash => ?_, fun middle hchanges => ?_⟩ fun _ _ left hchanges =>
    hchanges.stay
  · refine (@save_notes_writes middle files (hchanges.rooted h).notes_path
      fun path hpath => ?_).mono (fun _ left hleft => hchanges.stay.trans hleft.1)
      fun _ _ hfault => .inl hfault.1
    rw [hchanges.layout_eq] at hpath
    exact hown (by simp only [Layout.storeFiles, List.mem_cons] at hpath ⊢; tauto)
  · refine (@save_writes_both middle files (hchanges.rooted h).notes_path
      (hchanges.rooted h).trash_path fun path hpath => ?_).mono
      (fun _ left hleft => hchanges.stay.trans hleft.1) fun _ _ hfault => .inl hfault.1
    rw [hchanges.layout_eq] at hpath
    exact hown hpath

/-- A package that is received is no backup. -/
theorem receive_backs_up (package : ByteArray) :
    (receive package).Meets notebook (fun _ left => BacksUp [] notebook left)
      fun fault left => fault = .disk ∨ BacksUp [] notebook left := by
  refine meets_backs_up_nil fun files hfiles => ?_
  unfold receive
  rw [Attempt.meets_bind, Attempt.meets_get]
  exact (write_meets _ package fun own hown => hfiles own hown _ (by simp [Layout.exchangeFiles])).mono
    (fun _ _ hleft => hleft.1) fun _ _ hfault => .inl hfault.1

/-- An export backs up both stores before it does anything else. -/
theorem export_backs_up (h : notebook.Housed) :
    exportPackage.Meets notebook
      (fun _ left => BacksUp (notebook.backupsAt none notebook.supply.momentsTaken) notebook left)
      fun fault left => fault = .disk ∨
        BacksUp (notebook.backupsAt none notebook.supply.momentsTaken) notebook left := by
  unfold exportPackage
  rw [Attempt.meets_bind]
  refine (back_up_both_backs_up h.folders none).mono (fun _ backed hbacked => ?_)
    fun _ _ hfault => .inl hfault
  obtain ⟨hbacks, -, hnotes, htrash⟩ := hbacked
  have hhoused : backed.Housed := h.of_backs_up hbacks (by rw [hnotes]; rfl) (by rw [htrash]; rfl)
  refine Attempt.Meets.mono (meets_backs_up_nil fun files hfiles => ?_)
    (fun _ left hleft => by simpa using hbacks.trans hleft)
    fun fault left hleft => hleft.imp_right fun hrest => by simpa using hbacks.trans hrest
  have hstamped : FilesStay files backed { backed with notes := backed.notes.stampExport } :=
    ⟨rfl, .refl _, .refl _, fun _ _ => rfl⟩
  simp only [Attempt.meets_bind, Attempt.meets_get, changeNotes, Attempt.meets_modify]
  refine (@save_writes_both { backed with notes := backed.notes.stampExport } files
    hhoused.notes_path hhoused.trash_path fun path hpath own hown =>
      hfiles own hown path (List.mem_append_left _ hpath)).mono (fun _ saved hsaved => ?_)
    fun _ _ hfault => .inl hfault.1
  have hsave : FilesStay files backed saved := hstamped.trans hsaved.1
  have hexchange {path : String} (hpath : path ∈ backed.layout.exchangeFiles) :
      ∀ own ∈ files, Disk.Apart path own :=
    fun own hown => hfiles own hown path (List.mem_append_right _ hpath)
  refine (@save_notes_to_meets saved files saved.layout.snapshotPath ?_).mono
    (fun _ written hwritten => ?_) fun _ _ hfault => .inl hfault.1
  · rw [hsave.layout]
    exact hexchange (by simp [Layout.exchangeFiles])
  · have hwrite : FilesStay files backed written := hsave.trans hwritten.1
    have hpackage : ∀ own ∈ files, Disk.Apart saved.layout.packagePath own := by
      rw [hsave.layout]
      exact hexchange (by simp [Layout.exchangeFiles])
    have hfolder : ∀ later, written.disk.FoldersStay later →
        Disk.makeFolders saved.layout.exchange later = .ok () later := by
      rw [hsave.layout, ← hwrite.layout]
      exact hwrite.has_folders hhoused.folders _ (by simp)
    unfold onDisk
    rw [Attempt.meets_within]
    exact (Disk.pack_stays hfolder hpackage written.disk ⟨.refl _, fun _ _ => rfl⟩).mono
      (fun _ disk hdisk => hwrite.trans ⟨rfl, .refl _, hdisk.1, hdisk.2⟩)
      fun _ disk hdisk => .inr (hwrite.trans ⟨rfl, .refl _, hdisk.1, hdisk.2⟩)

/-- Where a notebook knows the files of its stores, they stay known through what endures. -/
theorem path_enduring (path : String) :
    Store.Enduring fun store => store.path? = some path :=
  (Store.path_lasting _).enduring

/-- The backups that an import makes after a merge. -/
def mergeBackups (mode : ImportMode) (left : Notebook) : List Backup :=
  match mode with
  | .merge => left.lastBackups (some "imp1")
  | .replace => []

/-- What an import does with a snapshot makes backups only after a merge. -/
theorem absorb_backs_up (h : notebook.Housed) (mode : ImportMode) (remotes : Store) :
    (absorb mode remotes).Meets notebook
      (fun _ left => left.Housed ∧ BacksUp (mergeBackups mode left) notebook left)
      fun fault left => fault = .disk ∨ BacksUp [] notebook left := by
  unfold absorb
  simp only [Attempt.meets_bind, Attempt.meets_get]
  cases mode with
  | replace =>
      simp only [Attempt.meets_bind, Attempt.meets_pure]
      exact (replace_by_keeps (path_enduring _) _ remotes notebook h.conforms).mono
        (fun _ left hleft => (h.of_conforms hleft).symm)
        fun _ left hleft => .inr (h.of_conforms hleft).1
  | merge =>
      simp only [Attempt.meets_bind, Attempt.meets_pure]
      refine (merge_in_keeps (path_enduring _) (path_enduring _) remotes notebook h.conforms).mono
        (fun report merged hmerged => ?_) fun _ left hleft => .inr (h.of_conforms hleft).1
      obtain ⟨hmerge, hhoused⟩ := h.of_conforms hmerged
      refine (back_up_both_backs_up hhoused.folders (some "imp1")).mono (fun _ left hleft => ?_)
        fun _ _ hfault => .inl hfault
      obtain ⟨hbacks, hsupply, hnotes, htrash⟩ := hleft
      refine ⟨hhoused.of_backs_up hbacks (by rw [hnotes]; rfl) (by rw [htrash]; rfl), ?_⟩
      rw [mergeBackups, last_backups_of_backed _ hsupply hnotes htrash]
      exact hmerge.trans hbacks

/-- A snapshot that is taken out of a package is no backup. -/
theorem extract_backs_up (h : notebook.Housed) :
    (onDisk (Disk.extractSnapshot notebook.layout.packagePath
      notebook.layout.snapshotPath)).Meets notebook
      (fun _ left => BacksUp [] notebook left ∧ left.Housed)
      fun fault left => fault = .disk ∨ BacksUp [] notebook left := by
  have hwrites : (onDisk (Disk.extractSnapshot notebook.layout.packagePath
      notebook.layout.snapshotPath)).Meets notebook (fun _ left => BacksUp [] notebook left)
      fun fault left => fault = .disk ∨ BacksUp [] notebook left := by
    refine meets_backs_up_nil fun files hfiles => ?_
    have hsnapshot : ∀ own ∈ files, Disk.Apart notebook.layout.snapshotPath own :=
      fun own hown => hfiles own hown _ (by simp [Layout.exchangeFiles])
    unfold onDisk
    rw [Attempt.meets_within]
    exact (Disk.extract_stays hsnapshot notebook.disk _ ⟨.refl _, fun _ _ => rfl⟩).mono
      (fun _ disk hdisk => ⟨rfl, .refl _, hdisk.1, hdisk.2⟩)
      fun _ disk hdisk => .inr ⟨rfl, .refl _, hdisk.1, hdisk.2⟩
  refine (hwrites.and (extract_snapshot_stays notebook notebook (.refl notebook))).mono
    (fun _ left hleft => ⟨hleft.1, h.of_backs_up hleft.1 ?_ ?_⟩) fun _ _ hleft => hleft.1
  · rw [hleft.2.notes]
  · rw [hleft.2.trash]

/-- An import backs up both stores before it looks at the package, and again after a merge. -/
theorem import_backs_up (h : notebook.Housed) (mode : ImportMode) :
    (importPackage mode).Meets notebook
      (fun _ left => BacksUp (notebook.backupsAt (some "imp0") notebook.supply.momentsTaken ++
        mergeBackups mode left) notebook left)
      fun fault left => fault = .disk ∨
        BacksUp (notebook.backupsAt (some "imp0") notebook.supply.momentsTaken) notebook left := by
  unfold importPackage takeImport
  simp only [Attempt.meets_bind, Attempt.meets_get, Attempt.meets_pure]
  refine (save_backs_up h).mono (fun _ saved hsaved => ?_) fun _ _ hfault => .inl hfault
  obtain ⟨hsave, hsaved_housed, hsaved, hsupply⟩ := hsaved
  refine (back_up_both_backs_up hsaved_housed.folders (some "imp0")).mono
    (fun _ backed hbacked => ?_) fun _ _ hfault => .inl hfault
  obtain ⟨hback, -, hnotes, htrash⟩ := hbacked
  have hbacked_housed : backed.Housed :=
    hsaved_housed.of_backs_up hback (by rw [hnotes]; rfl) (by rw [htrash]; rfl)
  -- the stores have the same texts before and after they are saved
  have hsame : saved.backupsAt (some "imp0") saved.supply.momentsTaken =
      notebook.backupsAt (some "imp0") notebook.supply.momentsTaken := by
    simp only [backupsAt, hsupply, hsaved.notes_eq, hsaved.trash_eq, Store.saved_with_defaults,
      Store.text_saved]
  rw [hsame] at hback
  have hbacks : BacksUp (notebook.backupsAt (some "imp0") notebook.supply.momentsTaken) notebook
      backed := hsave.trans hback
  refine (extract_backs_up hbacked_housed).mono (fun _ extracted hextracted => ?_)
    fun _ left hleft => hleft.imp_right fun hrest => by simpa using hbacks.trans hrest
  obtain ⟨hextract, hextracted_housed⟩ := hextracted
  refine (read_snapshot_keeps _ extracted hextracted_housed.conforms).mono
    (fun remotes middle hmiddle => ?_) fun _ left hleft => .inr ?_
  · obtain ⟨hread, hmiddle_housed⟩ := hextracted_housed.of_conforms hmiddle
    have hunpacked : BacksUp (notebook.backupsAt (some "imp0") notebook.supply.momentsTaken)
        notebook middle := by simpa using (hbacks.trans hextract).trans hread
    have hlayout : middle.layout = backed.layout := hread.layout.trans hextract.layout
    have hrest : (absorb mode remotes).Meets middle
        (fun _ absorbed => save.Meets absorbed
          (fun _ left => BacksUp (notebook.backupsAt (some "imp0") notebook.supply.momentsTaken ++
            mergeBackups mode left) notebook left)
          fun fault left => fault = .disk ∨
            BacksUp (notebook.backupsAt (some "imp0") notebook.supply.momentsTaken) notebook left)
        fun fault left => fault = .disk ∨
          BacksUp (notebook.backupsAt (some "imp0") notebook.supply.momentsTaken) notebook left := by
      refine (absorb_backs_up hmiddle_housed mode remotes).mono (fun _ absorbed habsorbed => ?_)
        fun fault left hleft => hleft.imp_right fun hrest => by simpa using hunpacked.trans hrest
      refine (save_backs_up habsorbed.1).mono (fun _ left hleft => ?_) fun _ _ hfault => .inl hfault
      obtain ⟨hlast, -, hsaved, hsupply⟩ := hleft
      have hmerged : mergeBackups mode left = mergeBackups mode absorbed := by
        cases mode with
        | merge => exact hsaved.last_backups hsupply _
        | replace => rfl
      rw [hmerged]
      simpa using (hunpacked.trans habsorbed.2).trans hlast
    simp only [absorb, Attempt.meets_bind, Attempt.meets_get, hlayout] at hrest
    cases mode <;> simpa only using hrest
  · have hread := (hextracted_housed.of_conforms hleft).1
    simpa using (hbacks.trans hextract).trans hread

/-- The backups that an opening makes, as the opened notebook tells them. -/
def openingBackups (left : Notebook) : List Backup :=
  if left.layout.backsUpOnOpen then left.lastBackups none else []

/-- An opening backs up what it has read, if the layout asks for that. -/
theorem open_backs_up {layout : Layout} {disk : Disk} (hfolders : disk.HasFolders layout)
    (supply : Supply) :
    openStores.Meets (unread layout disk supply)
      (fun _ left => BacksUp (openingBackups left) (unread layout disk supply) left)
      fun fault left => fault = .disk ∨ BacksUp [] (unread layout disk supply) left := by
  have hunread : (unread layout disk supply).Housed := ⟨rfl, rfl, hfolders⟩
  refine open_meets_of_folders hfolders
    (Conforms layout (fun store => store.path? = some layout.notesPath)
      (fun store => store.path? = some layout.trashPath) fun found => found = disk)
    (Conforms layout (fun store => store.path? = some layout.notesPath)
      (fun store => store.path? = some layout.trashPath) fun found => found = disk)
    (fun _ => ?_) (fun _ => hunread.conforms) (fun half hhalf _ => ?_) (fun half hhalf _ => hhalf)
    fun read hread => ?_
  · exact (on_notes_keeps (path_enduring _).load _ hunread.conforms).mono (fun _ _ hleft => hleft)
      fun _ left hleft => .inr (hunread.of_conforms hleft).1
  · exact (on_trash_keeps (path_enduring _).load half hhalf).mono (fun _ _ hleft => hleft)
      fun _ left hleft => .inr (hunread.of_conforms hleft).1
  · obtain ⟨hloaded, hhoused⟩ := hunread.of_conforms hread
    cases hopening : layout.backsUpOnOpen with
    | false =>
        have hnone : openingBackups read = [] := by simp [openingBackups, hread.layout, hopening]
        rw [if_neg Bool.false_ne_true, Attempt.meets_pure, hnone]
        exact hloaded
    | true =>
        rw [if_pos rfl]
        refine (back_up_both_backs_up hhoused.folders none).mono (fun _ left hleft => ?_)
          fun _ _ hfault => .inl hfault
        obtain ⟨hbacks, hsupply, hnotes, htrash⟩ := hleft
        have hlayout : left.layout = layout := hbacks.layout.trans hread.layout
        rw [openingBackups, hlayout, hopening, if_pos rfl,
          last_backups_of_backed none hsupply hnotes htrash]
        exact hloaded.trans hbacks

/-- The backups that an operation makes, as the notebook tells them before it and after it, and
whether it succeeds. -/
def Operation.backups (operation : Operation) (notebook left : Notebook) (succeeds : Bool) :
    List Backup :=
  match operation with
  | .note _ | .save | .receive _ => []
  | .backUp suffix? => notebook.backupsAt suffix? notebook.supply.momentsTaken
  | .exportPackage => notebook.backupsAt none notebook.supply.momentsTaken
  | .importPackage mode =>
      notebook.backupsAt (some "imp0") notebook.supply.momentsTaken ++
        if succeeds then mergeBackups mode left else []
  | .reopen => if succeeds then openingBackups left else []

/-- An operation makes its backups, and writes no file but those and the files of the notebook
itself. -/
theorem Operation.backs_up (operation : Operation) (h : notebook.Rooted) :
    operation.perform.Meets notebook
      (fun _ left => BacksUp (operation.backups notebook left true) notebook left)
      fun fault left => fault = .disk ∨
        BacksUp (operation.backups notebook left false) notebook left := by
  cases operation with
  | note operation => exact operation.backs_up h
  | backUp suffix? =>
      exact (back_up_both_backs_up h.folders suffix?).mono (fun _ _ hleft => hleft.1)
        fun _ _ hfault => .inl hfault
  | exportPackage => exact export_backs_up h.housed
  | importPackage mode =>
      simp only [Operation.perform, Attempt.meets_bind, Attempt.meets_pure]
      exact (import_backs_up h.housed mode).mono (fun _ _ hleft => hleft) fun _ _ hleft =>
        hleft.imp_right fun hbacks => by simpa [Operation.backups] using hbacks
  | save =>
      exact (save_backs_up h.housed).mono (fun _ _ hleft => hleft.1) fun _ _ hfault => .inl hfault
  | reopen =>
      have hclosed : BacksUp [] notebook
          (unread notebook.layout notebook.disk notebook.supply) :=
        ⟨rfl, .refl _, fun _ _ _ => rfl, holds_backups_nil _⟩
      change openStores.Meets (unread notebook.layout notebook.disk notebook.supply) _ _
      exact (open_backs_up h.folders notebook.supply).mono (fun _ _ hleft => hclosed.trans hleft)
        fun _ _ hleft => hleft.imp_right fun hbacks => hclosed.trans hbacks
  | receive package => exact receive_backs_up package

/-! ## Runs -/

/-- A run of a notebook in which no disk fails, with the backups that it has made, oldest first. A
notebook may be closed and opened again with or without backups on opening. -/
inductive BackedUp : List Backup → Notebook → Prop
  | opened (layout : Layout) (disk : Disk) (supply : Supply)
      (hopens : openStores.fault? (unread layout disk supply) = none) :
      BackedUp (openingBackups (openStores.after (unread layout disk supply)))
        (openStores.after (unread layout disk supply))
  | performed (operation : Operation) (taken : List Backup) (notebook : Notebook)
      (h : BackedUp taken notebook) (hdisk : operation.perform.fault? notebook ≠ some .disk) :
      BackedUp
        (taken ++ operation.backups notebook (operation.perform.after notebook)
          (operation.perform.fault? notebook).isNone)
        (operation.perform.after notebook)
  | reopened (backsUpOnOpen : Bool) (taken : List Backup) (notebook : Notebook)
      (h : BackedUp taken notebook)
      (hopens : openStores.fault? (unread { notebook.layout with backsUpOnOpen := backsUpOnOpen }
        notebook.disk notebook.supply) = none) :
      BackedUp
        (taken ++ openingBackups (openStores.after
          (unread { notebook.layout with backsUpOnOpen := backsUpOnOpen } notebook.disk
            notebook.supply)))
        (openStores.after (unread { notebook.layout with backsUpOnOpen := backsUpOnOpen }
          notebook.disk notebook.supply))

/-- A notebook that could be opened stands. -/
theorem standing_of_opened {layout : Layout} {disk : Disk} {supply : Supply}
    (hopens : openStores.fault? (unread layout disk supply) = none) :
    (openStores.after (unread layout disk supply)).Standing :=
  ((opens_conforming layout disk supply).after_of_none hopens).standing

/-- A notebook with backups stands. -/
theorem BackedUp.standing (h : BackedUp taken notebook) : notebook.Standing := by
  induction h with
  | opened layout disk supply hopens => exact standing_of_opened hopens
  | performed operation taken notebook _ _ ih =>
      exact (Standing.keeps fun layout => (standing_lasting layout).perform operation).after ih
  | reopened backsUpOnOpen taken notebook _ hopens => exact standing_of_opened hopens

/-- An opening leaves its backups. -/
theorem holds_of_opened {layout : Layout} {disk : Disk} {supply : Supply}
    (hopens : openStores.fault? (unread layout disk supply) = none) :
    HoldsBackups (openingBackups (openStores.after (unread layout disk supply)))
      (openStores.after (unread layout disk supply)) := by
  have hmeets : openStores.Meets (unread layout disk supply)
      (fun _ left => HoldsBackups (openingBackups left) left) fun fault _ => True :=
    open_meets_of_made (fun _ => trivial) fun made _ hfolders _ =>
      (open_backs_up hfolders supply).mono (fun _ left hleft => hleft.held) fun _ _ _ => trivial
  exact hmeets.after_of_none hopens

/-- A disk holds each backup of a run that no later one has got into the place of. -/
theorem BackedUp.holds_backups (h : BackedUp taken notebook) : HoldsBackups taken notebook := by
  induction h with
  | opened layout disk supply hopens => exact holds_of_opened hopens
  | performed operation taken notebook hbefore hdisk ih =>
      have hmeets := Attempt.meets_iff.1 (operation.backs_up hbefore.standing.toRooted)
      refine ih.append ?_
      cases hfault : operation.perform.fault? notebook with
      | none =>
          rw [hfault] at hmeets
          exact hmeets
      | some fault =>
          rw [hfault] at hmeets hdisk
          exact hmeets.resolve_left fun heq => hdisk (congrArg some heq)
  | reopened backsUpOnOpen taken notebook hbefore hopens ih =>
      let layout : Layout := { notebook.layout with backsUpOnOpen := backsUpOnOpen }
      have hfolders : notebook.disk.HasFolders layout := hbefore.standing.folders
      have hclosed : HoldsBackups taken (unread layout notebook.disk notebook.supply) := ih
      exact hclosed.append ((open_backs_up hfolders notebook.supply).after_of_none hopens)

/-- In a run in which no disk fails every backup is held as it was made until a later one gets into its
place, and a store is read back from it. With plain suffixes only a backup of the same store with the
same suffix in the same second gets there. -/
theorem backups_last (h : BackedUp taken notebook) {earlier later : List Backup} {backup : Backup}
    (htaken : taken = earlier ++ backup :: later)
    (hspared : ∀ other ∈ later, other.Spares notebook.layout notebook.disk backup) :
    backup.HeldBy notebook.layout notebook.disk ∧
      ∀ store : Store, store.Storable → store.Keyed → backup.text = store.text →
        ∀ reading, snapshotOf backup.text reading = store.asRead := by
  refine ⟨h.holds_backups earlier backup later htaken fun other hother =>
    (hspared other hother).elsewhere, fun store hstorable hkeyed htext reading => ?_⟩
  rw [htext]
  exact snapshot_of_text hstorable hkeyed reading

/-- The notebook for examples, which has been opened for the first time. -/
def newlyOpened : Notebook :=
  openStores.after (unread (.inFolder "notes") .empty .tally)

/-- The empty stores have been backed up with a suffix, and then a note has been created. -/
def backedUpOnce (first? : Option String) : Notebook :=
  (Operation.note (.create { name := "one" })).perform.after
    ((Operation.backUp first?).perform.after newlyOpened)

/-- The stores have been backed up again, in the same second. -/
def backedUpTwice (first? second? : Option String) : Notebook :=
  (Operation.backUp second?).perform.after (backedUpOnce first?)

/-- The beginning of the examples is a run in which two backups are made. -/
theorem backed_up_once {first? : Option String}
    (hfirst : (Operation.backUp first?).perform.fault? newlyOpened = none)
    (hcreate : (Operation.note (.create { name := "one" })).perform.fault?
      ((Operation.backUp first?).perform.after newlyOpened) = none) :
    BackedUp (newlyOpened.backupsAt first? newlyOpened.supply.momentsTaken) (backedUpOnce first?) := by
  have hopened : BackedUp (openingBackups newlyOpened) newlyOpened :=
    .opened (.inFolder "notes") .empty .tally (by decide +kernel)
  have hnone : openingBackups newlyOpened = [] := by decide +kernel
  have hbacked := BackedUp.performed (.backUp first?) _ _ hopened (by simp [hfirst])
  have honce := BackedUp.performed (.note (.create { name := "one" })) _ _ hbacked
    (by simp [hcreate])
  simp only [Operation.backups, hnone, List.nil_append, List.append_nil] at honce
  exact honce

/-- The examples are runs in which two more backups are made. -/
theorem backed_up_twice {first? second? : Option String}
    (h : BackedUp (newlyOpened.backupsAt first? newlyOpened.supply.momentsTaken) (backedUpOnce first?))
    (hsecond : (Operation.backUp second?).perform.fault? (backedUpOnce first?) = none) :
    BackedUp (newlyOpened.backupsAt first? newlyOpened.supply.momentsTaken ++
        (backedUpOnce first?).backupsAt second? (backedUpOnce first?).supply.momentsTaken)
      (backedUpTwice first? second?) :=
  .performed (.backUp second?) _ _ h (by rw [hsecond]; simp)

/-- The backup of the primary store before there is a note in the examples. -/
def firstBackup (first? : Option String) : Backup :=
  ⟨newlyOpened.supply.now, first?, .notes, newlyOpened.notes.withDefaults.text⟩

/-- The three backups of the examples that are made after that one. -/
def otherBackups (first? second? : Option String) : List Backup :=
  (newlyOpened.backupsAt first? newlyOpened.supply.momentsTaken).tail ++
    (backedUpOnce first?).backupsAt second? (backedUpOnce first?).supply.momentsTaken

/-- What the operations of the examples do: none of them fails, and the second backup under one suffix
does not leave the first one where it is. -/
theorem examples_back_up :
    (Operation.backUp none).perform.fault? newlyOpened = none ∧
      (Operation.note (.create { name := "one" })).perform.fault?
        ((Operation.backUp none).perform.after newlyOpened) = none ∧
      (Operation.backUp none).perform.fault? (backedUpOnce none) = none ∧
      (Operation.backUp (some "imp0")).perform.fault? (backedUpOnce none) = none ∧
      ¬ (firstBackup none).HeldBy (backedUpTwice none none).layout
        (backedUpTwice none none).disk := by
  unfold Backup.HeldBy
  decide +kernel

/-- Of two backups in one second with different suffixes the first is still there after the second. -/
theorem backup_beside_another :
    (firstBackup none).HeldBy (backedUpTwice none (some "imp0")).layout
      (backedUpTwice none (some "imp0")).disk := by
  obtain ⟨hfirst, hcreate, -, hsecond, -⟩ := examples_back_up
  have hrun := backed_up_twice (backed_up_once hfirst hcreate) hsecond
  have hnone : Layout.Plain none := plain_of_own (by simp [ownSuffixes])
  have himport : Layout.Plain (some "imp0") := plain_of_own (by simp [ownSuffixes])
  refine (@backups_last _ _ hrun [] (otherBackups none (some "imp0")) (firstBackup none) rfl
    fun other hother => ?_).1
  simp only [otherBackups, backupsAt, List.tail_cons, List.nil_append, List.cons_append,
    List.mem_cons, List.not_mem_nil, or_false] at hother
  rcases hother with rfl | rfl | rfl
  · exact .named hnone hnone fun h => by cases h.kind
  · exact .named himport hnone fun h => by cases h.suffix
  · exact .named himport hnone fun h => by cases h.kind

/-- Of two backups in one second with the same suffix the second takes the place of the first, which
was there before. -/
theorem backup_overwritten :
    BackedUp (firstBackup none :: otherBackups none none) (backedUpTwice none none) ∧
      (firstBackup none).HeldBy (backedUpOnce none).layout (backedUpOnce none).disk ∧
      ¬ (firstBackup none).HeldBy (backedUpTwice none none).layout
        (backedUpTwice none none).disk := by
  obtain ⟨hfirst, hcreate, hsecond, -, hlost⟩ := examples_back_up
  have honce := backed_up_once hfirst hcreate
  have hnone : Layout.Plain none := plain_of_own (by simp [ownSuffixes])
  refine ⟨backed_up_twice honce hsecond, honce.holds_backups [] (firstBackup none)
    (newlyOpened.backupsAt none newlyOpened.supply.momentsTaken).tail rfl fun other hother => ?_,
    hlost⟩
  simp only [backupsAt, List.tail_cons, List.mem_singleton] at hother
  subst hother
  exact Backup.Spares.elsewhere (.named hnone hnone fun h => by cases h.kind)

end Notebook

end Notekeeper
