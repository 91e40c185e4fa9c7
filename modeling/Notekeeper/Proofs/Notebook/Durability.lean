import Notekeeper.Proofs.Notebook.Change
import Notekeeper.Proofs.Notebook.Exchange
import Notekeeper.Proofs.Notebook.Opening

/-!
# Durability

Whatever is done with a notebook, its files hold its stores afterwards: opening a fresh notebook on
the same disk gives the same notes and the same clocks of both stores. An operation leads from a
notebook whose files hold its stores to one that is `Settled` (`Operation.perform_meets`), so the
files hold the stores all along a run.
-/

namespace Notekeeper

namespace Store

variable {store : Store} {disk : Disk} {path : String}

/-- The clock of a store is not in its files. -/
theorem Saved.with_clock (h : store.Saved disk path) (clock : Int) :
    Saved { store with clock := clock } disk path := by
  refine ⟨h.path_eq, h.keyed, ⟨h.storable.notes, h.storable.export_range,
    h.storable.import_range⟩, h.settled, ?_⟩
  cases h.files with
  | unwritten hnotes hexport himport htouched hfile =>
      exact .unwritten hnotes hexport himport htouched hfile
  | written base hmain hdiffers hdiff =>
      exact .written base hmain ⟨hdiffers.export_clock, hdiffers.import_clock, hdiffers.touched,
        hdiffers.others, hdiffers.versions⟩ hdiff

/-- A saved store without a file is one that has never held anything. -/
theorem Saved.eq_of_no_file (h : store.Saved disk path) (hfile : disk.isFile path = false) :
    ({ path? := some path } : Store) = { store with clock := store.rebuiltClock } := by
  cases h.files with
  | unwritten hnotes hexport himport htouched _ =>
      have hpath := h.path_eq
      have hsettled := h.settled
      have hclock : store.rebuiltClock = 1 := by
        rw [rebuiltClock, all, hnotes]
        rfl
      rw [hclock]
      cases store
      simp_all
  | written base hmain => simp [Disk.isFile, hmain.octets] at hfile

/-- A store that has never held anything is saved without a file. -/
theorem saved_of_no_file (hfile : disk.isFile path = false) :
    ({ path? := some path } : Store).Saved disk path := by
  have hoctets : disk.octets? path = none := by simpa [Disk.isFile] using hfile
  have hrange : Decimal.InRange (-1) := by decide
  have hnone (id : String) (note : Note) :
      ¬ ({ path? := some path } : Store).notes[id]? = some note := by simp
  exact ⟨rfl, fun id note hfound => absurd hfound (hnone id note),
    ⟨fun id note hfound => absurd hfound (hnone id note), hrange, hrange⟩, rfl,
    .unwritten rfl rfl rfl rfl hoctets⟩

end Store

namespace Notebook

variable {notebook left : Notebook}

/-! ## Changes and saves -/

/-- Changes leave the files alone. -/
theorem Changes.stay {files : List String} (h : notebook.Changes left) :
    FilesStay files notebook left := by
  induction h with
  | refl => exact .refl notebook
  | tail _ hchange ih =>
      cases hchange with
      | add note later _ _ _ hsupply =>
          exact ih.trans ⟨rfl, (Supply.leads_to_drop _ 1).trans hsupply, .refl _, fun _ _ => rfl⟩
      | revise id note edited later _ _ _ _ hsupply =>
          exact ih.trans ⟨rfl, hsupply, .refl _, fun _ _ => rfl⟩
      | discard id note => exact ih.trans ⟨rfl, .refl _, .refl _, fun _ _ => rfl⟩

/-- Changes leave the stores where they are, with their notes under their ids. -/
theorem Changes.rooted (h : notebook.Changes left) (hrooted : notebook.Rooted) : left.Rooted := by
  induction h with
  | refl => exact hrooted
  | tail _ hchange ih =>
      cases hchange with
      | add note later => exact { ih with notes_keyed := ih.notes_keyed.add note }
      | revise id note edited later hfound hid =>
          exact { ih with notes_keyed := ih.notes_keyed.revise (hid.trans (ih.notes_keyed _ _ hfound)) }
      | discard id note =>
          exact { ih with
            notes_keyed := ih.notes_keyed.without id
            trash_keyed := ih.trash_keyed.add note }

/-- Changes keep what the touched notes tell. -/
theorem Changes.kept (h : notebook.Changes left) (hkept : notebook.Kept) : left.Kept := by
  induction h with
  | refl => exact hkept
  | tail _ hchange ih =>
      cases hchange with
      | add note later => exact ⟨ih.notes.add note, ih.trash, ih.folders⟩
      | revise id note edited later hfound hid hversion =>
          exact ⟨ih.notes.revise hfound hid hversion, ih.trash, ih.folders⟩
      | discard id note => exact ⟨ih.notes.without id, ih.trash.add note, ih.folders⟩

/-- A notebook whose changed stores are to be saved is settled by that, if the primary store alone
has changed and is saved. -/
theorem Changes.save_notes_meets (h : notebook.Changes left) (hdurable : notebook.Durable)
    (htrash : left.trash = notebook.trash) :
    (onNotes Store.save).Meets left
      (fun _ last => SettlesTo notebook last ∧ left.supply.LeadsTo last.supply ∧
        last.notes = left.notes.saved ∧ last.trash = notebook.trash)
      fun fault _ => notebook.DiskFault fault := by
  have hkept := h.kept hdurable.kept
  have hstay : FilesStay [] notebook left := h.stay
  refine (Notebook.save_notes_meets hkept.notes.path_eq).mono (fun _ last hlast => ?_)
    fun _ _ hfault => hstay.disk_fault hfault
  obtain ⟨hfiles, hnotes, htrashed, hwritten⟩ := hlast
  have hfolders := hfiles.has_folders hkept.folders
  refine ⟨⟨⟨fun hstorable => ⟨?_, ?_, hfolders⟩, ?_, ?_, hfolders⟩,
    h.stay.trans (hfiles.mono (by simp))⟩, hfiles.supply, hnotes, htrashed.trans htrash⟩
  · rw [hnotes, hfiles.layout]
    exact hwritten.saved hkept.notes (by rw [← hnotes]; exact hstorable.notes)
  · have hstay : FilesStay [notebook.layout.trashPath, Store.diffPath notebook.layout.trashPath]
        notebook last := h.stay.trans (hfiles.mono (by simp [hstay.layout]))
    rw [htrashed, htrash, hstay.layout]
    exact hdurable.trash.of_same_files (hstay.files _ (by simp)) (hstay.files _ (by simp))
  · rw [hnotes, Store.saved_with_defaults]
  · rw [htrashed, htrash, hdurable.trash.storable.defaults]

/-- A notebook whose changed stores are to be saved is settled by that. -/
theorem Changes.save_meets (h : notebook.Changes left) (hdurable : notebook.Durable) :
    save.Meets left
      (fun _ last => SettlesTo notebook last ∧ left.supply.LeadsTo last.supply ∧
        last.notes = left.notes.saved ∧ last.trash = left.trash.saved)
      fun fault _ => notebook.DiskFault fault := by
  have hstay : FilesStay [] notebook left := h.stay
  refine (Notebook.save_meets (h.kept hdurable.kept)).mono (fun _ last hlast => ?_)
    fun _ _ hfault => hstay.disk_fault hfault
  obtain ⟨hfiles, hnotes, htrash, hsettled⟩ := hlast
  exact ⟨⟨hsettled, hstay.trans (hfiles.mono (by simp))⟩, hfiles.supply, hnotes, htrash⟩

/-- Operations on notes leave the notebook settled. -/
theorem Durable.settles (h : notebook.Durable) :
    Settles notebook (SettlesTo notebook)
      fun fault left => notebook.DiskFault fault ∨ SettlesTo notebook left where
  unchanged := ⟨h.settled, .refl _⟩
  unknown := fun _ => .inr ⟨h.settled, .refl _⟩
  notes := fun _ hchanges htrash => (hchanges.save_notes_meets h htrash).mono
    (fun _ _ hleft => hleft.1) fun _ _ hfault => .inl hfault
  both := fun _ hchanges => (hchanges.save_meets h).mono (fun _ _ hleft => hleft.1)
    fun _ _ hfault => .inl hfault

/-! ## Opening -/

/-- A notebook with the stores of another as they are found in their files. -/
structure HasStoresOf (notebook left : Notebook) : Prop where
  notes : left.notes = { notebook.notes with clock := notebook.notes.rebuiltClock }
  trash : left.trash = { notebook.trash with clock := notebook.trash.rebuiltClock }

/-- A notebook that has been opened over the files of another, and whose primary store has been
read. -/
structure HalfRead (notebook : Notebook) (supply : Supply) (left : Notebook) : Prop where
  layout : left.layout = notebook.layout
  disk : left.disk = notebook.disk
  supply : supply.LeadsTo left.supply
  notes : left.notes = { notebook.notes with clock := notebook.notes.rebuiltClock }
  trash : left.trash = { path? := some notebook.layout.trashPath }

/-- A notebook that has been opened over the files of another, and whose stores have been read. -/
structure Read (notebook : Notebook) (supply : Supply) (left : Notebook) : Prop where
  layout : left.layout = notebook.layout
  disk : left.disk = notebook.disk
  supply : supply.LeadsTo left.supply
  stores : HasStoresOf notebook left

/-- A notebook that has been read from files that hold its stores is held by them. -/
theorem Durable.of_read {supply : Supply} (h : notebook.Durable)
    (hread : Read notebook supply left) : left.Durable := by
  obtain ⟨hlayout, hdisk, -, hnotes, htrash⟩ := hread
  refine ⟨?_, ?_, ?_⟩
  · rw [hnotes, hlayout, hdisk]
    exact h.notes.with_clock _
  · rw [htrash, hlayout, hdisk]
    exact h.trash.with_clock _
  · rw [hlayout, hdisk]
    exact h.folders

/-- Reading the primary store of a notebook gives it. -/
theorem Durable.load_notes_meets (h : notebook.Durable) (supply : Supply)
    (hfile : notebook.disk.isFile notebook.layout.notesPath = true) :
    (onNotes Store.load).Meets (unread notebook.layout notebook.disk supply)
      (fun _ left => HalfRead notebook supply left) fun _ _ => False := by
  unfold onNotes
  rw [Attempt.meets_within]
  exact (Store.load_meets h.notes hfile supply).mono
    (fun _ _ hshelf => ⟨rfl, hshelf.1, hshelf.2.1, hshelf.2.2, rfl⟩) fun _ _ hfalse => hfalse

/-- Reading the trash after the primary store gives both. -/
theorem Durable.load_trash_meets {supply : Supply} (h : notebook.Durable)
    (hleft : HalfRead notebook supply left)
    (hfile : notebook.disk.isFile notebook.layout.trashPath = true) :
    (onTrash Store.load).Meets left (fun _ last => Read notebook supply last)
      fun _ _ => False := by
  unfold onTrash
  rw [Attempt.meets_within, hleft.trash, hleft.disk]
  exact (Store.load_meets h.trash hfile left.supply).mono
    (fun _ _ hshelf => ⟨hleft.layout, hshelf.1, hleft.supply.trans hshelf.2.1, hleft.notes,
      hshelf.2.2⟩) fun _ _ hfalse => hfalse

/-- Opening a notebook whose files hold its stores gives these stores, leaves their files alone and makes
no folder. It can fail only when it makes backups, and not if the disk takes them. -/
theorem Durable.opens (h : notebook.Durable) (supply : Supply) :
    openStores.Meets (unread notebook.layout notebook.disk supply)
      (fun _ left => left.Durable ∧ HasStoresOf notebook left ∧
        FilesStay notebook.layout.storeFiles { notebook with supply := supply } left)
      fun fault _ => DiskFault { notebook with supply := supply } fault ∧
        notebook.layout.backsUpOnOpen = true := by
  refine open_meets_of_folders h.folders (HalfRead notebook supply) (Read notebook supply)
    (fun hfile => (h.load_notes_meets supply hfile).mono (fun _ _ hleft => hleft) fun _ _ hf => hf.elim)
    (fun hnone => ⟨rfl, rfl, .refl _, h.notes.eq_of_no_file hnone, rfl⟩)
    (fun half hhalf hfile => (h.load_trash_meets hhalf (by rwa [← hhalf.disk])).mono
      (fun _ _ hleft => hleft) fun _ _ hf => hf.elim)
    (fun half hhalf hnone => ⟨hhalf.layout, hhalf.disk, hhalf.supply, hhalf.notes, ?_⟩)
    fun read hread => ?_
  · rw [hhalf.trash]
    rw [hhalf.disk] at hnone
    exact h.trash.eq_of_no_file hnone
  · have hdurable := h.of_read hread
    have hstay : FilesStay notebook.layout.storeFiles { notebook with supply := supply } read := by
      refine ⟨hread.layout, hread.supply, ?_, fun own _ => ?_⟩
      · rw [hread.disk]
        exact .refl _
      · rw [hread.disk]
    cases hbacks : notebook.layout.backsUpOnOpen with
    | false => exact ⟨hdurable, hread.stores, hstay⟩
    | true =>
        refine (back_up_both_meets hdurable.folders none).mono (fun _ left hleft => ?_)
          fun _ _ hfault => ⟨hstay.disk_fault ⟨hfault.1, hfault.2 (by simp [ownSuffixes])⟩, rfl⟩
        obtain ⟨hfiles, hnotes, htrash⟩ := hleft
        rw [hdurable.notes.storable.defaults] at hnotes
        rw [hdurable.trash.storable.defaults] at htrash
        have hstores : FilesStay read.layout.storeFiles read left := hfiles.mono (by simp +contextual)
        refine ⟨hdurable.of_files_stay hstores hnotes htrash, ⟨?_, ?_⟩,
          hstay.trans (hread.layout ▸ hstores)⟩
        · rw [hnotes, hread.stores.notes]
        · rw [htrash, hread.stores.trash]

/-- Opening a notebook whose files hold its stores gives these stores and makes no folder. It can fail
only when it makes backups. -/
theorem Durable.open_meets (h : notebook.Durable) (supply : Supply) :
    openStores.Meets (unread notebook.layout notebook.disk supply)
      (fun _ left => left.Durable ∧ HasStoresOf notebook left ∧
        FilesStay [] { notebook with supply := supply } left)
      fun fault _ => fault = .disk ∧ notebook.layout.backsUpOnOpen = true :=
  (h.opens supply).mono (fun _ _ hleft => ⟨hleft.1, hleft.2.1, hleft.2.2.mono (by simp)⟩)
    fun _ _ hfault => ⟨hfault.1.1, hfault.2⟩

end Notebook

/-! ## Beginning -/

namespace Layout

/-- All folders of a layout are made. -/
def makeAll (layout : Layout) : Attempt Disk Unit := do
  Disk.makeFolders layout.home
  Disk.makeFolders layout.backups
  Disk.makeFolders layout.exchange

/-- There is no store yet on a disk: when the folders have been made there is no main file. -/
def Vacant (layout : Layout) (disk : Disk) : Prop :=
  ∀ path ∈ [layout.notesPath, layout.trashPath], (layout.makeAll.after disk).isFile path = false

instance (layout : Layout) (disk : Disk) : Decidable (layout.Vacant disk) :=
  inferInstanceAs (Decidable (∀ path ∈ [layout.notesPath, layout.trashPath],
    (layout.makeAll.after disk).isFile path = false))

/-- There is no store yet on an empty disk. -/
theorem vacant_empty : (inFolder "notes").Vacant .empty := by
  decide +kernel

end Layout

namespace Notebook

variable {layout : Layout} {disk made : Disk}

/-- A notebook that has never held anything is held by the files that are not there. -/
theorem durable_of_no_files (hfolders : made.HasFolders layout)
    (h : ∀ path ∈ [layout.notesPath, layout.trashPath], made.isFile path = false)
    (supply : Supply) : (unread layout made supply).Durable :=
  ⟨Store.saved_of_no_file (h _ (by simp)), Store.saved_of_no_file (h _ (by simp)), hfolders⟩

/-- To open a notebook is to make its folders and then to open it where they stand. -/
theorem open_meets_of_made {supply : Supply} {success : Unit → Notebook → Prop}
    {failure : Fault → Notebook → Prop} (hfault : ∀ left, failure .disk left)
    (hopen : ∀ made, disk.FoldersStay made → made.HasFolders layout →
      layout.makeAll.after disk = made → openStores.Meets (unread layout made supply) success failure) :
    openStores.Meets (unread layout disk supply) success failure := by
  unfold openStores
  simp only [Attempt.meets_bind, Attempt.meets_get, onDisk, Attempt.meets_within]
  refine (Disk.make_folders_meets _ _).run.mono (fun _ first hfirst => ?_)
    fun _ _ hleft => hleft.1 ▸ hfault _
  refine (Disk.make_folders_meets _ _).run.mono (fun _ second hsecond => ?_)
    fun _ _ hleft => hleft.1 ▸ hfault _
  refine (Disk.make_folders_meets _ _).run.mono (fun _ made hmade => ?_)
    fun _ _ hleft => hleft.1 ▸ hfault _
  obtain ⟨⟨hstay_first, hhome⟩, hrun_home⟩ := hfirst
  obtain ⟨⟨hstay_second, hbackups⟩, hrun_backups⟩ := hsecond
  obtain ⟨⟨hstay_made, hexchange⟩, hrun_exchange⟩ := hmade
  have hfolders : made.HasFolders layout := by
    intro folder hfolder later hlater
    simp only [List.mem_cons, List.not_mem_nil, or_false] at hfolder
    rcases hfolder with rfl | rfl | rfl
    · exact hhome later ((hstay_second.trans hstay_made).trans hlater)
    · exact hbackups later (hstay_made.trans hlater)
    · exact hexchange later hlater
  have hafter : layout.makeAll.after disk = made := by
    have hrun : layout.makeAll disk = .ok () made := by
      simp only [unread] at hrun_home hrun_backups hrun_exchange
      simp [Layout.makeAll, bind, EStateM.bind, hrun_home, hrun_backups, hrun_exchange]
    rw [Attempt.after, hrun]
  -- opening again where the folders stand makes none of them anew
  have hagain := hopen made ((hstay_first.trans hstay_second).trans hstay_made) hfolders hafter
  unfold openStores at hagain
  simp only [Attempt.meets_bind, Attempt.meets_get, onDisk, Attempt.meets_within] at hagain
  replace hagain := (Attempt.meets_of_run (hfolders layout.home (by simp) made (.refl _))).1 hagain
  replace hagain := (Attempt.meets_of_run (hfolders layout.backups (by simp) made (.refl _))).1 hagain
  exact (Attempt.meets_of_run (hfolders layout.exchange (by simp) made (.refl _))).1 hagain

/-- The first opening leaves a notebook without notes, whose files hold its stores, and unmakes no
folder. -/
theorem first_open_meets (hvacant : layout.Vacant disk) (supply : Supply) :
    openStores.Meets (unread layout disk supply)
      (fun _ left => left.Durable ∧ left.layout = layout ∧ disk.FoldersStay left.disk ∧
        supply.LeadsTo left.supply ∧ ({} : Store).Alike left.notes ∧ ({} : Store).Alike left.trash)
      fun fault _ => fault = .disk := by
  refine open_meets_of_made (fun _ => rfl) fun made hstay hfolders hafter => ?_
  unfold Layout.Vacant at hvacant
  rw [hafter] at hvacant
  -- the notebook is opened as one that has been closed without ever holding anything
  refine ((durable_of_no_files hfolders hvacant supply).open_meets supply).mono
    (fun _ left hleft => ?_) fun _ _ hfault => hfault.1
  obtain ⟨hdurable, ⟨hnotes, htrash⟩, hopened⟩ := hleft
  refine ⟨hdurable, hopened.layout, hstay.trans hopened.folders.stay, hopened.supply, ?_, ?_⟩
  · rw [hnotes]
    exact ⟨rfl, rfl, rfl, rfl⟩
  · rw [htrash]
    exact ⟨rfl, rfl, rfl, rfl⟩

/-! ## Receiving -/

/-- A package is put where the next import looks for it, beside the files of the stores. -/
theorem receive_meets {notebook : Notebook} (package : ByteArray) :
    (receive package).Meets notebook
      (fun _ left => FilesStay notebook.layout.storeFiles notebook left ∧
        left.notes = notebook.notes ∧ left.trash = notebook.trash ∧
        left.disk.octets? notebook.layout.packagePath = some package)
      fun fault _ => notebook.DiskFault fault := by
  have hpath : ∀ own ∈ notebook.layout.storeFiles, Disk.Apart notebook.layout.packagePath own :=
    fun own hown => Layout.apart_exchange hown (by simp [Layout.exchangeFiles])
  unfold receive
  rw [Attempt.meets_bind, Attempt.meets_get]
  exact (write_meets _ package hpath).mono (fun _ _ hleft => hleft) fun _ _ hfault =>
    ⟨hfault.1, fun hwilling => hfault.2 (hwilling.files _ (by simp [Layout.exchangeFiles]))⟩

/-! ## Runs -/

/-- Every operation leaves a notebook settled whose files held its stores. -/
theorem Operation.perform_settles {notebook : Notebook} (operation : Operation)
    (h : notebook.Durable)
    (hfresh : operation = .note .virtualFolders →
      notebook.notes.contains (notebook.supply.token 0) = false) :
    operation.perform.Meets notebook (fun _ => SettlesTo notebook)
      fun fault left => fault = .disk ∨ SettlesTo notebook left := by
  cases operation with
  | note operation =>
      refine (operation.perform_meets h.settles fun heq hclash => ?_).mono (fun _ _ hleft => hleft)
        fun _ _ hleft => hleft.imp_left fun hfault => hfault.1
      rw [hfresh (by rw [heq])] at hclash
      cases hclash
  | backUp suffix? =>
      refine (back_up_both_meets h.folders suffix?).mono (fun _ left hleft => ?_)
        fun _ _ hfault => .inl hfault.1
      obtain ⟨hfiles, hnotes, htrash⟩ := hleft
      exact ⟨h.settled.of_back_up (hfiles.mono (by simp +contextual)) hnotes htrash,
        hfiles.mono (by simp)⟩
  | exportPackage =>
      exact (export_meets h.kept).mono (fun _ left hleft => ⟨hleft.2.2.2.1, hleft.1⟩)
        fun _ _ hfault => .inl hfault.1
  | importPackage mode =>
      simp only [perform, Attempt.meets_bind, Attempt.meets_pure]
      exact import_settles h mode
  | save =>
      exact (save_meets h.kept).mono (fun _ left hleft => ⟨hleft.2.2.2, hleft.1.mono (by simp)⟩)
        fun _ _ hfault => .inl hfault.1
  | reopen =>
      change Attempt.Meets Notebook.reopen notebook _ _
      unfold Notebook.reopen
      rw [Attempt.meets_bind, Attempt.meets_modify]
      exact (h.open_meets notebook.supply).mono
        (fun _ left hleft => ⟨hleft.1.settled, hleft.2.2⟩)
        fun _ _ hfault => .inl hfault.1
  | receive package =>
      refine (receive_meets package).mono (fun _ left hleft => ?_) fun _ _ hfault => .inl hfault.1
      obtain ⟨hfiles, hnotes, htrash, -⟩ := hleft
      exact ⟨h.settled.of_files_stay hfiles hnotes htrash, hfiles.mono (by simp)⟩

/-- A run of a notebook that is opened on a disk and on which operations are performed. No access to
the disk fails, files can hold every note that is held after an operation, and no id is drawn twice
where virtual folders are looked up. -/
inductive Run (layout : Layout) (disk : Disk) (supply : Supply) : List Operation → Notebook → Prop
  | opened (hopens : openStores.fault? (unread layout disk supply) = none) :
      Run layout disk supply [] (openStores.after (unread layout disk supply))
  | performed (operations : List Operation) (operation : Operation) (notebook : Notebook)
      (hrun : Run layout disk supply operations notebook)
      (hdisk : operation.perform.fault? notebook ≠ some .disk)
      (hfresh : operation = .note .virtualFolders →
        notebook.notes.contains (notebook.supply.token 0) = false)
      (hstorable : (operation.perform.after notebook).Storable) :
      Run layout disk supply (operations ++ [operation]) (operation.perform.after notebook)

/-- Operations can be performed one after the other: no access to the disk fails, and files can hold
every note that is held after each of them. -/
def Performs (notebook : Notebook) : List Operation → Prop
  | [] => True
  | operation :: more =>
      operation.perform.fault? notebook ≠ some .disk ∧ (operation.perform.after notebook).Storable ∧
        Performs (operation.perform.after notebook) more

/-- Whether operations can be performed is decided by performing them. -/
instance Performs.decidable (notebook : Notebook) :
    (operations : List Operation) → Decidable (Performs notebook operations)
  | [] => inferInstanceAs (Decidable True)
  | operation :: more =>
      have := Performs.decidable (operation.perform.after notebook) more
      inferInstanceAs (Decidable (_ ∧ _ ∧ _))

/-- A run goes on with operations that can be performed. -/
theorem Run.performed_all {supply : Supply} {operations : List Operation} {notebook : Notebook}
    (h : Run layout disk supply operations notebook) {more : List Operation}
    (hnone : .note .virtualFolders ∉ more) (hmore : Performs notebook more) :
    Run layout disk supply (operations ++ more)
      (more.foldl (fun notebook operation => operation.perform.after notebook) notebook) := by
  induction more generalizing operations notebook with
  | nil =>
      rw [List.append_nil]
      exact h
  | cons operation more ih =>
      obtain ⟨hdisk, hstorable, hmore⟩ := hmore
      rw [List.mem_cons, not_or] at hnone
      have hnext := h.performed _ operation _ hdisk (fun heq => absurd heq.symm hnone.1) hstorable
      rw [List.append_cons]
      exact ih hnext hnone.2 hmore

/-- An operation that does not fail because of the disk settles a notebook whose files held its
stores. -/
theorem Operation.settles_to {notebook : Notebook} {operation : Operation} (h : notebook.Durable)
    (hdisk : operation.perform.fault? notebook ≠ some .disk)
    (hfresh : operation = .note .virtualFolders →
      notebook.notes.contains (notebook.supply.token 0) = false) :
    SettlesTo notebook (operation.perform.after notebook) :=
  (operation.perform_settles h hfresh).after_of_not_disk hdisk

/-- All along a run the files hold the stores, and folders go on standing. -/
theorem Run.durable {supply : Supply} {operations : List Operation} {notebook : Notebook}
    (h : Run layout disk supply operations notebook) (hvacant : layout.Vacant disk) :
    notebook.Durable ∧ notebook.layout = layout ∧ disk.FoldersStay notebook.disk := by
  induction h with
  | opened hopens =>
      have hopen := (first_open_meets hvacant supply).after_of_none hopens
      exact ⟨hopen.1, hopen.2.1, hopen.2.2.1⟩
  | performed operations operation notebook hrun hdisk hfresh hstorable ih =>
      obtain ⟨hdurable, hlayout, hfolders⟩ := ih
      have hsettled := Operation.settles_to hdurable hdisk hfresh
      exact ⟨hsettled.1.durable hstorable, hsettled.2.layout.trans hlayout,
        hfolders.trans hsettled.2.folders.stay⟩

/-- All tokens that are taken along a run come from one supply. -/
theorem Run.leads_to {supply : Supply} {operations : List Operation} {notebook : Notebook}
    (h : Run layout disk supply operations notebook) (hvacant : layout.Vacant disk) :
    supply.LeadsTo notebook.supply := by
  induction h with
  | opened hopens =>
      exact ((first_open_meets hvacant supply).after_of_none hopens).2.2.2.1
  | performed operations operation notebook hrun hdisk hfresh hstorable ih =>
      exact ih.trans (Operation.settles_to (hrun.durable hvacant).1 hdisk hfresh).2.supply

/-- After every operation of a run, opening a fresh notebook on the same disk gives the same notes
and the same clocks at the last export and import of both stores. It can fail only when a backup
that is made on opening is refused. -/
theorem reopened_as_left {supply : Supply} {operations : List Operation} {notebook : Notebook}
    (hvacant : layout.Vacant disk) (hrun : Run layout disk supply operations notebook)
    (fresh : Supply) :
    openStores.Meets (unread layout notebook.disk fresh)
      (fun _ opened =>
        opened.notes.notes = notebook.notes.notes ∧ opened.trash.notes = notebook.trash.notes ∧
        opened.notes.exportClock = notebook.notes.exportClock ∧
        opened.notes.importClock = notebook.notes.importClock ∧
        opened.trash.exportClock = notebook.trash.exportClock ∧
        opened.trash.importClock = notebook.trash.importClock)
      fun fault _ => fault = .disk ∧ layout.backsUpOnOpen = true := by
  obtain ⟨hdurable, hlayout, -⟩ := hrun.durable hvacant
  subst hlayout
  refine (hdurable.open_meets fresh).mono (fun _ opened hopened => ?_) fun _ _ hfault => hfault
  obtain ⟨-, ⟨hnotes, htrash⟩, -⟩ := hopened
  rw [hnotes, htrash]
  exact ⟨rfl, rfl, rfl, rfl, rfl, rfl⟩

/-- A notebook for an example: a note has been created, saved with everything, and then given
another body, which is in the diff file. -/
def savedTwice : Notebook :=
  (Operation.note (.update "i" { name := "one", body := "text" })).perform.after
    ((Operation.note (.create { name := "one" })).perform.after
      (openStores.after (unread (.inFolder "notes") .empty .tally)))

/-- What is done in the example can be done, and the update touches the note. -/
theorem saved_twice_performed :
    openStores.fault? (unread (.inFolder "notes") .empty .tally) = none ∧
      Performs (openStores.after (unread (.inFolder "notes") .empty .tally))
        [.note (.create { name := "one" }), .note (.update "i" { name := "one", body := "text" })] ∧
      savedTwice.notes.touched.contains "i" = true := by
  decide +kernel

/-- The notebook for the example comes of a run. -/
theorem saved_twice_run :
    Run (.inFolder "notes") .empty .tally
      [.note (.create { name := "one" }), .note (.update "i" { name := "one", body := "text" })]
      savedTwice := by
  obtain ⟨hopens, hperforms, -⟩ := saved_twice_performed
  have hrun := (Run.opened hopens).performed_all (by simp) hperforms
  rw [List.foldl_cons, List.foldl_cons, List.foldl_nil] at hrun
  exact hrun

/-- A note in the diff file is there when the notebook is opened again. -/
theorem reopened_after_diff_save :
    savedTwice.notes.touched.contains "i" = true ∧
      openStores.Meets (unread (.inFolder "notes") savedTwice.disk .tally)
        (fun _ opened =>
          opened.notes.notes = savedTwice.notes.notes ∧
          opened.trash.notes = savedTwice.trash.notes ∧
          opened.notes.exportClock = savedTwice.notes.exportClock ∧
          opened.notes.importClock = savedTwice.notes.importClock ∧
          opened.trash.exportClock = savedTwice.trash.exportClock ∧
          opened.trash.importClock = savedTwice.trash.importClock)
        fun fault _ => fault = .disk ∧ (Layout.inFolder "notes").backsUpOnOpen = true := by
  exact ⟨saved_twice_performed.2.2, reopened_as_left Layout.vacant_empty saved_twice_run .tally⟩

end Notebook

end Notekeeper
