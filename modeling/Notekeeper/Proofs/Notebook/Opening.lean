import Notekeeper.Proofs.Notebook.Saving

/-!
# Opening a notebook whose folders stand

Opening makes the folders, reads both stores and backs them up if the layout asks for that. Where the
folders stand it comes down to reading and backing up (`Notebook.open_meets_of_folders`). A store is
read from its files exactly if these are texts (`Store.load_succeeds`, `Store.load_meets_readable`).
-/

namespace Notekeeper

namespace Disk

/-- The file at a path, if there is one, is a text. -/
def Readable (disk : Disk) (path : String) : Prop :=
  ∀ octets, disk.octets? path = some octets → ∃ text, Text.decode? octets = some text

variable {disk later : Disk} {path : String}

/-- A text that is read at a path is one. -/
theorem readable_of_text {text : String} (h : (disk.octets? path).bind Text.decode? = some text) :
    disk.Readable path := by
  intro octets hoctets
  rw [hoctets, Option.bind_some] at h
  exact ⟨text, h⟩

/-- A file that is a text can be read. -/
theorem Readable.text (h : disk.Readable path) (hfile : disk.isFile path = true) :
    ∃ text, (disk.octets? path).bind Text.decode? = some text := by
  obtain ⟨octets, hoctets⟩ := Option.isSome_iff_exists.1 hfile
  rw [hoctets, Option.bind_some]
  exact h octets hoctets

/-- A file that is a text is one as long as it stays. -/
theorem Readable.of_same_file (h : disk.Readable path)
    (hfile : later.octets? path = disk.octets? path) : later.Readable path :=
  fun octets hoctets => h octets (hfile.symm.trans hoctets)

/-- A file that has been written with a text is one. -/
theorem readable_of_written {text : String} (h : disk.octets? path = some (Text.encode text)) :
    disk.Readable path :=
  readable_of_text (by rw [h, Option.bind_some, Text.decode_encode])

end Disk

namespace Store

variable {store : Store} {disk : Disk} {path : String}

/-- Where the files of a store are texts the store is read from them. -/
theorem load_succeeds (hpath : store.path? = some path) (hfile : disk.isFile path = true)
    (hmain : disk.Readable path) (hdiff : disk.Readable (diffPath path)) (supply : Supply) :
    load.Meets ⟨store, disk, supply⟩ (fun _ left => left.disk = disk ∧ supply.LeadsTo left.supply)
      fun _ _ => False := by
  obtain ⟨text, htext⟩ := hmain.text hfile
  unfold load loadFrom
  simp only [Shelf.getStore, Shelf.change, Attempt.meets_bind, Attempt.meets_get,
    Attempt.meets_pure, Attempt.meets_modify, hpath]
  refine (read_file_meets path _).mono (fun _ middle hmiddle => ?_) fun _ _ hfault => ?_
  · obtain ⟨hdisk, hsupply, -⟩ := hmiddle
    have hdisk : middle.disk = disk := hdisk
    split
    next hthere =>
      rw [hdisk] at hthere
      obtain ⟨more, hmore⟩ := hdiff.text hthere
      simp only [Attempt.meets_bind, Attempt.meets_modify]
      refine (read_file_meets (diffPath path) middle).mono (fun _ left hleft =>
        ⟨hleft.1.trans hdisk, hsupply.trans hleft.2.1⟩) fun _ _ hfault => ?_
      rw [hdisk, hmore] at hfault
      cases hfault.2.2
    next => exact ⟨hdisk, hsupply⟩
  · rw [htext] at hfault
    cases hfault.2.2

/-- A store is read only from a main file that is a text. -/
theorem load_meets_readable (hpath : store.path? = some path) (supply : Supply) :
    load.Meets ⟨store, disk, supply⟩ (fun _ _ => disk.Readable path) fun _ _ => True := by
  unfold load loadFrom
  simp only [Shelf.getStore, Shelf.change, Attempt.meets_bind, Attempt.meets_get,
    Attempt.meets_pure, Attempt.meets_modify, hpath]
  refine (read_file_meets path _).mono (fun _ middle hmiddle => ?_) fun _ _ _ => trivial
  obtain ⟨-, -, text, htext, -⟩ := hmiddle
  exact Attempt.meets_of_forall (fun _ _ => Disk.readable_of_text htext) fun _ _ => trivial

end Store

namespace Notebook

variable {layout : Layout} {disk : Disk} {supply : Supply}

/-- Where the folders stand, opening a notebook is reading both stores, each if it has a file, and
backing them up if the layout asks for that. -/
theorem open_meets_of_folders (hfolders : disk.HasFolders layout) (half read : Notebook → Prop)
    {success : Unit → Notebook → Prop} {failure : Fault → Notebook → Prop}
    (hnotes : disk.isFile layout.notesPath = true →
      (onNotes Store.load).Meets (unread layout disk supply) (fun _ => half) failure)
    (hno_notes : disk.isFile layout.notesPath = false → half (unread layout disk supply))
    (htrash : ∀ left, half left → left.disk.isFile layout.trashPath = true →
      (onTrash Store.load).Meets left (fun _ => read) failure)
    (hno_trash : ∀ left, half left → left.disk.isFile layout.trashPath = false → read left)
    (hrest : ∀ left, read left →
      Attempt.Meets (if layout.backsUpOnOpen then backUpBoth none else pure ()) left success
        failure) :
    openStores.Meets (unread layout disk supply) success failure := by
  have hstand : (unread layout disk supply).disk.HasFolders (unread layout disk supply).layout :=
    hfolders
  have hmade {folder : String}
      (hfolder : folder ∈ [layout.home, layout.backups, layout.exchange]) :
      (onDisk (Disk.makeFolders folder)).Meets (unread layout disk supply)
        (fun _ left => left = unread layout disk supply) fun _ _ => False :=
    make_folders_meets hstand hfolder
  unfold openStores
  simp only [Attempt.meets_bind, Attempt.meets_get]
  refine (hmade (by simp [unread])).mono (fun _ left hleft => ?_) fun _ _ hfalse => hfalse.elim
  subst hleft
  refine (hmade (by simp [unread])).mono (fun _ left hleft => ?_) fun _ _ hfalse => hfalse.elim
  subst hleft
  refine (hmade (by simp [unread])).mono (fun _ left hleft => ?_) fun _ _ hfalse => hfalse.elim
  subst hleft
  refine Attempt.meets_when half hnotes (fun hnone => hno_notes (by simpa [unread] using hnone))
    fun middle hhalf => ?_
  simp only [Attempt.meets_bind, Attempt.meets_get]
  exact Attempt.meets_when read (htrash middle hhalf)
    (fun hnone => hno_trash middle hhalf (by simpa [unread] using hnone)) hrest

end Notebook

end Notekeeper
