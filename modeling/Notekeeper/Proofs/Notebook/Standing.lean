import Notekeeper.Proofs.Notebook.Durability
import Notekeeper.Proofs.Notebook.Stable

/-!
# Notebooks that have been opened

A notebook that could be opened is `Notebook.Standing` ever after, whatever is done with it and
however that turns out (`Notebook.Reached.standing`). Its folders stand, its stores know their files,
and the trash can be read. So it can be opened again as soon as the files hold its primary store
(`Notebook.Standing.reopens`).
-/

namespace Notekeeper

namespace Disk

variable {disk later : Disk} {layout : Layout}

/-- Folders that stand go on standing. -/
theorem HasFolders.of_same_folders (h : disk.HasFolders layout) (hsame : disk.SameFolders later) :
    later.HasFolders layout :=
  fun folder hfolder last hlast => h folder hfolder last (hsame.stay.trans hlast)

/-- The folders of a layout stand, and the file of the trash, if there is one, is a text. -/
structure Opened (disk : Disk) (layout : Layout) : Prop where
  folders : disk.HasFolders layout
  trash : disk.Readable layout.trashPath

/-- Writing a text anywhere, also over the trash, leaves the trash a text. -/
theorem write_text_keeps_opened (path text : String) :
    (writeText path text).Keeps fun disk => disk.Opened layout := by
  intro disk hopened
  have hnone : ∀ own ∈ ([] : List String), Apart path own := by simp
  have hfolders := write_stays hnone disk (Text.encode text) disk ⟨.refl _, by simp⟩
  refine (hfolders.and (write_octets path (Text.encode text) layout.trashPath disk)).mono
    (fun _ left hleft => ?_) fun _ left hleft => ?_
  · exact ⟨hopened.folders.of_same_folders hleft.1.1,
      hleft.2.elim hopened.trash.of_same_file readable_of_written⟩
  · exact ⟨hopened.folders.of_same_folders hleft.1.1, hopened.trash.of_same_file hleft.2⟩

/-- Writing a file of an exchange leaves the trash alone. -/
theorem write_exchange_keeps_opened {path : String} (hpath : path ∈ layout.exchangeFiles)
    (octets : ByteArray) : (write path octets).Keeps fun disk => disk.Opened layout := by
  intro disk hopened
  have hapart : ∀ own ∈ [layout.trashPath], Apart path own := by
    simpa using Layout.apart_exchange (by simp [Layout.storeFiles]) hpath
  have hkept (left : Disk) (hleft : disk.SameFolders left ∧
      ∀ own ∈ [layout.trashPath], left.octets? own = disk.octets? own) : left.Opened layout :=
    ⟨hopened.folders.of_same_folders hleft.1, hopened.trash.of_same_file (hleft.2 _ (by simp))⟩
  exact (write_stays hapart disk octets disk ⟨.refl _, fun _ _ => rfl⟩).mono
    (fun _ left hleft => hkept left hleft) fun _ left hleft => hkept left hleft

/-- Making folders that stand changes nothing. -/
theorem make_folders_keeps_opened {folder : String}
    (h : folder ∈ [layout.home, layout.backups, layout.exchange]) :
    (makeFolders folder).Keeps fun disk => disk.Opened layout := by
  intro disk hopened
  rw [Attempt.meets_of_run (hopened.folders folder h disk (.refl _))]
  exact hopened

end Disk

namespace Notebook

/-- A notebook that has been opened: the stores know their files and have their notes under their ids,
the versions of the primary store are not above its clock, the folders stand, and the trash can be
read. -/
structure Standing (notebook : Notebook) : Prop extends notebook.Rooted where
  capped : notebook.notes.Capped
  trash_text : notebook.disk.Readable notebook.layout.trashPath

variable {layout : Layout} {disk : Disk} {supply : Supply} {notebook : Notebook}

/-- What holds of the primary store of an opened notebook. -/
def OwnsNotes (layout : Layout) (store : Store) : Prop :=
  (store.path? = some layout.notesPath ∧ store.Keyed) ∧ store.Capped

/-- What holds of the trash of an opened notebook. -/
def OwnsTrash (layout : Layout) (store : Store) : Prop :=
  store.path? = some layout.trashPath ∧ store.Keyed

/-- What holds of an opened notebook lasts. -/
theorem standing_lasting (layout : Layout) :
    Lasting layout (OwnsNotes layout) (OwnsTrash layout) fun disk => disk.Opened layout where
  notes := ((Store.path_lasting _).and Store.keyed_stable.toLasting).and
    Store.capped_stable.toLasting
  trash := (Store.path_lasting _).and Store.keyed_stable.toLasting
  notes_fresh := ⟨⟨rfl, Store.keyed_stable.fresh _⟩, Store.capped_stable.fresh _⟩
  trash_fresh := ⟨rfl, Store.keyed_stable.fresh _⟩
  text := Disk.write_text_keeps_opened
  exchange := fun _ hpath octets => Disk.write_exchange_keeps_opened hpath octets
  folders := fun _ hfolder => Disk.make_folders_keeps_opened hfolder

/-- An opening that succeeds leaves a notebook whose folders stand and whose trash can be read. -/
theorem opens_conforming (layout : Layout) (disk : Disk) (supply : Supply) :
    openStores.Meets (unread layout disk supply)
      (fun _ left => Conforms layout (OwnsNotes layout) (OwnsTrash layout)
        (fun disk => disk.Opened layout) left)
      fun _ _ => True := by
  have hlasting := standing_lasting layout
  refine open_meets_of_made (fun _ => trivial) fun made _ hfolders _ => ?_
  have hunread : Conforms layout (OwnsNotes layout) (OwnsTrash layout) (fun disk => disk = made)
      (unread layout made supply) := ⟨rfl, hlasting.notes_fresh, hlasting.trash_fresh, rfl⟩
  have hread {left : Notebook}
      (hleft : Conforms layout (OwnsNotes layout) (OwnsTrash layout) (fun disk => disk = made) left)
      (htrash : made.Readable layout.trashPath) :
      Conforms layout (OwnsNotes layout) (OwnsTrash layout) (fun disk => disk.Opened layout) left :=
    ⟨hleft.layout, hleft.notes, hleft.trash, by rw [hleft.disk]; exact ⟨hfolders, htrash⟩⟩
  refine open_meets_of_folders hfolders
    (Conforms layout (OwnsNotes layout) (OwnsTrash layout) fun disk => disk = made)
    (Conforms layout (OwnsNotes layout) (OwnsTrash layout) fun disk => disk.Opened layout)
    (fun _ => ?_) (fun _ => hunread) (fun half hhalf _ => ?_) (fun half hhalf hnone => ?_)
    fun read hread => ?_
  · exact (on_notes_keeps hlasting.enduring.notes.load _ hunread).mono
      (fun _ _ hleft => hleft) fun _ _ _ => trivial
  · have hreadable : (onTrash Store.load).Meets half (fun _ _ => made.Readable layout.trashPath)
        fun _ _ => True := by
      unfold onTrash
      rw [Attempt.meets_within, hhalf.disk]
      exact Store.load_meets_readable hhalf.trash.1 half.supply
    exact ((on_trash_keeps hlasting.enduring.trash.load half hhalf).and hreadable).mono
      (fun _ _ hleft => hread hleft.1 hleft.2) fun _ _ _ => trivial
  · refine hread hhalf fun octets hoctets => ?_
    rw [hhalf.disk, Disk.isFile, hoctets] at hnone
    cases hnone
  · split
    · exact (hlasting.enduring.back_up_both none read hread).mono (fun _ _ hleft => hleft) fun _ _ _ => trivial
    · exact hread

/-- A notebook at a layout that conforms to what lasts stands. -/
theorem Conforms.standing (h : Conforms layout (OwnsNotes layout) (OwnsTrash layout)
    (fun disk => disk.Opened layout) notebook) : notebook.Standing := by
  obtain ⟨rfl, ⟨⟨hnotes_path, hnotes_keyed⟩, hcapped⟩, ⟨htrash_path, htrash_keyed⟩, hfolders,
    htrash⟩ := h
  exact ⟨⟨hnotes_path, htrash_path, hnotes_keyed, htrash_keyed, hfolders⟩, hcapped, htrash⟩

/-- A notebook that could be opened stands, whatever has been done with it since. -/
theorem Reached.standing (hreached : Reached layout disk supply notebook)
    (hopens : openStores.fault? (unread layout disk supply) = none) : notebook.Standing :=
  (hreached.conforms (standing_lasting layout)
    ((opens_conforming layout disk supply).after_of_none hopens)).standing

/-- What is kept at every layout is kept of notebooks that have been opened. -/
theorem Standing.keeps {result : Type} {attempt : Attempt Notebook result}
    (h : ∀ layout, attempt.Keeps
      (Conforms layout (OwnsNotes layout) (OwnsTrash layout) fun disk => disk.Opened layout)) :
    attempt.Keeps Standing := by
  intro before hbefore
  exact (h before.layout before ⟨rfl, ⟨⟨hbefore.notes_path, hbefore.notes_keyed⟩, hbefore.capped⟩,
    ⟨hbefore.trash_path, hbefore.trash_keyed⟩, hbefore.folders, hbefore.trash_text⟩).mono
    (fun _ _ hleft => hleft.standing) fun _ _ hleft => hleft.standing

/-- An import leaves a notebook that has been opened such a one. -/
theorem Standing.import_keeps (mode : ImportMode) : (importPackage mode).Keeps Standing :=
  Standing.keeps fun layout => (standing_lasting layout).enduring.import_package mode

/-- A notebook whose files hold its primary store, and whose trash can be read, is opened again with
the same notes. That can fail only where it makes backups that the disk does not take. -/
theorem Standing.reopens (h : notebook.Standing)
    (hnotes : notebook.notes.Saved notebook.disk notebook.layout.notesPath)
    (hdiff : notebook.disk.Readable (Store.diffPath notebook.layout.trashPath)) (supply : Supply) :
    openStores.Meets (unread notebook.layout notebook.disk supply)
      (fun _ left => left.notes.notes = notebook.notes.notes)
      fun fault _ => DiskFault { notebook with supply := supply } fault ∧
        notebook.layout.backsUpOnOpen = true := by
  let same (left : Notebook) : Prop :=
    FilesStay [] { notebook with supply := supply } left ∧ left.disk = notebook.disk ∧
      left.notes.notes = notebook.notes.notes
  have hsame {left : Notebook} (hlayout : left.layout = notebook.layout)
      (hdisk : left.disk = notebook.disk) (hsupply : supply.LeadsTo left.supply)
      (hleft : left.notes.notes = notebook.notes.notes) : same left :=
    ⟨⟨hlayout, hsupply, hdisk ▸ .refl _, by simp⟩, hdisk, hleft⟩
  refine open_meets_of_folders h.folders
    (fun left => same left ∧ left.trash.path? = some notebook.layout.trashPath) same
    (fun hfile => ?_) (fun hnone => ⟨hsame rfl rfl (.refl _) ?_, rfl⟩) (fun half hhalf hfile => ?_)
    (fun half hhalf _ => hhalf.1) fun read hread => ?_
  · unfold onNotes
    rw [Attempt.meets_within]
    exact (Store.load_meets hnotes hfile supply).mono
      (fun _ _ hshelf => ⟨hsame rfl hshelf.1 hshelf.2.1 (by rw [hshelf.2.2]), rfl⟩)
      fun _ _ hfalse => hfalse.elim
  · have hempty := congrArg Store.notes (hnotes.eq_of_no_file hnone)
    exact hempty
  · obtain ⟨⟨hstay, hdisk, hleft⟩, hpath⟩ := hhalf
    rw [hdisk] at hfile
    unfold onTrash
    rw [Attempt.meets_within, hdisk]
    exact (Store.load_succeeds hpath hfile h.trash_text hdiff half.supply).mono
      (fun _ _ hshelf => hsame hstay.layout hshelf.1 (hstay.supply.trans hshelf.2) hleft)
      fun _ _ hfalse => hfalse.elim
  · obtain ⟨hstay, hdisk, hleft⟩ := hread
    cases hbacks : notebook.layout.backsUpOnOpen with
    | false => exact hleft
    | true =>
        refine (back_up_both_meets (hstay.has_folders h.folders) none).mono
          (fun _ left hbacked => ?_) fun _ _ hfault => ⟨hstay.disk_fault
            ⟨hfault.1, hfault.2 (by simp [ownSuffixes])⟩, rfl⟩
        have hdefaults := congrArg Store.notes hnotes.storable.defaults
        rw [hbacked.2.1, ← hdefaults]
        simp only [Store.withDefaults, Store.editAll, hleft]

end Notebook

end Notekeeper
