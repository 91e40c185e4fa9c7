import Notekeeper.Proofs.Notebook.Change
import Notekeeper.Proofs.Notebook.Files
import Notekeeper.Proofs.Store.Stable

/-!
# What all operations on a notebook keep

Conditions on the two stores and on the disk of a notebook are `Notebook.Lasting` if every change of a
store and every write of the program keeps them. They hold of a notebook however it has been worked
on: every operation keeps them, whether it succeeds or fails, and at whichever write of the disk it
fails (`Lasting.perform`). In particular a condition on stores that every change of a store keeps
(`Store.Stable`) holds of both stores (`Operation.perform_keeps`). Where only a revision of a note
breaks a condition (`Notebook.Enduring`), what operations on notes end with is left to be shown; so it
is with names and folders (`Reached.named`).
-/

namespace Notekeeper

namespace Notebook

/-- Conditions on the primary store, the trash and the disk of a notebook that lives at a layout,
which hold of unread stores and which everything that is done with a notebook keeps. -/
structure Lasting (layout : Layout) (kept keptTrash : Store → Prop) (keptDisk : Disk → Prop) :
    Prop where
  notes : Store.Lasting kept
  trash : Store.Lasting keptTrash
  notes_fresh : kept { path? := some layout.notesPath }
  trash_fresh : keptTrash { path? := some layout.trashPath }
  text : ∀ path text, (Disk.writeText path text).Keeps keptDisk
  exchange : ∀ path ∈ layout.exchangeFiles, ∀ octets, (Disk.write path octets).Keeps keptDisk
  folders : ∀ folder ∈ [layout.home, layout.backups, layout.exchange],
    (Disk.makeFolders folder).Keeps keptDisk

/-- Conditions as in `Lasting`, but that a revision of a note in the primary store need not keep. -/
structure Enduring (layout : Layout) (kept keptTrash : Store → Prop) (keptDisk : Disk → Prop) :
    Prop where
  notes : Store.Enduring kept
  trash : Store.Enduring keptTrash
  notes_fresh : kept { path? := some layout.notesPath }
  trash_fresh : keptTrash { path? := some layout.trashPath }
  text : ∀ path text, (Disk.writeText path text).Keeps keptDisk
  exchange : ∀ path ∈ layout.exchangeFiles, ∀ octets, (Disk.write path octets).Keeps keptDisk
  folders : ∀ folder ∈ [layout.home, layout.backups, layout.exchange],
    (Disk.makeFolders folder).Keeps keptDisk

/-- What lasts endures. -/
theorem Lasting.enduring {layout : Layout} {kept keptTrash : Store → Prop} {keptDisk : Disk → Prop}
    (h : Lasting layout kept keptTrash keptDisk) : Enduring layout kept keptTrash keptDisk :=
  ⟨h.notes.enduring, h.trash.enduring, h.notes_fresh, h.trash_fresh, h.text, h.exchange, h.folders⟩

/-- A notebook lives at a layout, and its stores and its disk are as conditions say. -/
structure Conforms (layout : Layout) (kept keptTrash : Store → Prop) (keptDisk : Disk → Prop)
    (notebook : Notebook) : Prop where
  layout : notebook.layout = layout
  notes : kept notebook.notes
  trash : keptTrash notebook.trash
  disk : keptDisk notebook.disk

variable {layout : Layout} {kept keptTrash : Store → Prop} {keptDisk : Disk → Prop}
  {notebook left : Notebook} {result : Type}

/-! ## The parts of operations -/

/-- What is kept of the primary store and the disk is kept of the notebook. -/
theorem on_notes_keeps {attempt : Attempt Shelf result}
    (h : attempt.Keeps (Shelf.Conforms kept keptDisk)) :
    (onNotes attempt).Keeps (Conforms layout kept keptTrash keptDisk) :=
  h.within (fun _ hconforms => ⟨hconforms.notes, hconforms.disk⟩) fun _ _ hconforms hshelf =>
    ⟨hconforms.layout, hshelf.store, hconforms.trash, hshelf.disk⟩

/-- What is kept of the trash and the disk is kept of the notebook. -/
theorem on_trash_keeps {attempt : Attempt Shelf result}
    (h : attempt.Keeps (Shelf.Conforms keptTrash keptDisk)) :
    (onTrash attempt).Keeps (Conforms layout kept keptTrash keptDisk) :=
  h.within (fun _ hconforms => ⟨hconforms.trash, hconforms.disk⟩) fun _ _ hconforms hshelf =>
    ⟨hconforms.layout, hconforms.notes, hshelf.store, hshelf.disk⟩

/-- What is kept of the disk is kept of the notebook. -/
theorem on_disk_keeps {attempt : Attempt Disk result} (h : attempt.Keeps keptDisk) :
    (onDisk attempt).Keeps (Conforms layout kept keptTrash keptDisk) :=
  h.within (fun _ hconforms => hconforms.disk)
    fun _ _ hconforms hdisk => ⟨hconforms.layout, hconforms.notes, hconforms.trash, hdisk⟩

/-- A change of the primary store. -/
theorem change_notes_keeps {change : Store → Store} (h : ∀ store, kept store → kept (change store)) :
    (changeNotes change).Keeps (Conforms layout kept keptTrash keptDisk) :=
  .modify fun notebook hconforms =>
    ⟨hconforms.layout, h notebook.notes hconforms.notes, hconforms.trash, hconforms.disk⟩

/-- An accepted import only raises clocks. -/
theorem accept_import_keeps (h : Store.Enduring kept) (remotes store : Store) (hstore : kept store) :
    kept (store.acceptImport remotes.exportClock) :=
  h.clocks _ store.exportClock _ (h.raise _ _ hstore)

/-- A snapshot that replaces the primary store changes no disk. -/
theorem replace_by_keeps (h : Store.Enduring kept) (path : String) (remotes : Store) :
    (replaceBy path remotes).Keeps (Conforms layout kept keptTrash keptDisk) := by
  have hclear (store : Store) (hstore : kept store) : kept store.clear :=
    h.marks _ _ _ (h.drop _ hstore)
  unfold replaceBy
  refine .bind (change_notes_keeps hclear) fun _ => ?_
  exact .bind (on_notes_keeps (h.load_from path))
    fun _ => change_notes_keeps (accept_import_keeps h remotes)

/-- A snapshot that is merged, or found to be stale, changes no disk. -/
theorem merge_in_keeps (h : Store.Enduring kept) (htrash : Store.Enduring keptTrash)
    (remotes : Store) : (mergeIn remotes).Keeps (Conforms layout kept keptTrash keptDisk) := by
  unfold mergeIn
  refine .get_bind fun value hvalue => ?_
  refine Attempt.Keeps.bind (.of_except _) (fun _ => ?_) value hvalue
  refine .bind (change_notes_keeps (accept_import_keeps h remotes)) fun _ =>
    .modify_get fun before hconforms => ?_
  have hmerged := Sync.merge_keeps kept keptTrash h.restore h.add h.without htrash.restore htrash.add
    _ _ remotes hconforms.notes hconforms.trash before.supply
  exact ⟨hconforms.layout, h.marks _ _ _ hmerged.1, htrash.marks _ _ _ hmerged.2.1, hconforms.disk⟩

/-- A snapshot is read into a store of its own, of which nothing in particular is needed. -/
theorem read_snapshot_keeps (path : String) :
    (readSnapshot path).Keeps (Conforms layout kept keptTrash keptDisk) := by
  have hload : (do Store.loadFrom path; Shelf.getStore : Attempt Shelf Store).Keeps
      (Shelf.Conforms Store.Keyed keptDisk) :=
    .bind (Store.keyed_stable.enduring.load_from path) fun _ => .get_bind fun _ hshelf => hshelf
  exact hload.within (fun _ hconforms => ⟨Store.keyed_stable.fresh _, hconforms.disk⟩)
    fun _ _ hconforms hshelf => ⟨hconforms.layout, hconforms.notes, hconforms.trash, hshelf.disk⟩

namespace Enduring

/-- A save of the primary store keeps what endures. -/
theorem save_notes (h : Enduring layout kept keptTrash keptDisk) :
    (onNotes Store.save).Keeps (Conforms layout kept keptTrash keptDisk) :=
  on_notes_keeps (h.notes.save h.text)

/-- A save keeps what endures. -/
theorem save (h : Enduring layout kept keptTrash keptDisk) :
    Notebook.save.Keeps (Conforms layout kept keptTrash keptDisk) :=
  .bind h.save_notes fun _ =>
    .bind (on_trash_keeps (h.trash.save h.text)) fun _ => .pure _

/-- A backup keeps what endures. -/
theorem back_up (h : Enduring layout kept keptTrash keptDisk) (kind : StoreKind)
    (suffix? : Option String) (file : String) :
    (backUp kind suffix? file).Keeps (Conforms layout kept keptTrash keptDisk) := by
  unfold backUp look
  refine .bind (.modify_get fun _ hconforms =>
    ⟨hconforms.layout, hconforms.notes, hconforms.trash, hconforms.disk⟩) fun moment => ?_
  refine .get_bind fun value hvalue => ?_
  cases kind with
  | notes =>
      refine Attempt.Keeps.bind ?_ (fun _ => .pure _) value hvalue
      exact on_notes_keeps (h.notes.save_to h.text _)
  | trash =>
      refine Attempt.Keeps.bind ?_ (fun _ => .pure _) value hvalue
      exact on_trash_keeps (h.trash.save_to h.text _)

/-- Backups keep what endures. -/
theorem back_up_both (h : Enduring layout kept keptTrash keptDisk) (suffix? : Option String) :
    (backUpBoth suffix?).Keeps (Conforms layout kept keptTrash keptDisk) := by
  unfold backUpBoth
  refine .get_bind fun value hvalue => ?_
  have hfolder := h.folders value.layout.backups (by simp [hvalue.layout])
  refine Attempt.Keeps.bind (on_disk_keeps hfolder) (fun _ => ?_) value hvalue
  exact .bind (h.back_up .notes _ _) fun _ => h.back_up .trash _ _

/-- Opening keeps what endures. -/
theorem open_stores (h : Enduring layout kept keptTrash keptDisk) :
    openStores.Keeps (Conforms layout kept keptTrash keptDisk) := by
  unfold openStores
  refine .get_bind fun value hvalue => ?_
  have hfolder (folder : String)
      (hfolder : folder ∈ [value.layout.home, value.layout.backups, value.layout.exchange]) :
      (onDisk (Disk.makeFolders folder)).Keeps (Conforms layout kept keptTrash keptDisk) :=
    on_disk_keeps (h.folders folder (by rwa [← hvalue.layout]))
  refine Attempt.Keeps.bind (hfolder _ (by simp)) (fun _ => ?_) value hvalue
  refine .bind (hfolder _ (by simp)) fun _ => .bind (hfolder _ (by simp)) fun _ => .get_bind ?_
  refine fun first => Attempt.Keeps.when (on_notes_keeps h.notes.load)
    (fun _ => .get_bind ?_) first
  refine fun second => Attempt.Keeps.when (on_trash_keeps h.trash.load)
    (fun _ => ?_) second
  split
  · exact h.back_up_both none
  · exact .pure _

/-! ## Operations -/

/-- An export keeps what endures. -/
theorem export_package (h : Enduring layout kept keptTrash keptDisk) :
    exportPackage.Keeps (Conforms layout kept keptTrash keptDisk) := by
  unfold exportPackage
  refine .bind (h.back_up_both none) fun _ => .bind (change_notes_keeps h.notes.stamp) fun _ => ?_
  refine .bind h.save fun _ => .get_bind fun value hvalue => ?_
  refine Attempt.Keeps.bind (on_notes_keeps (h.notes.save_to h.text _))
    (fun _ => on_disk_keeps ?_) value hvalue
  have hread (path : String) : (Disk.read path).Keeps keptDisk := by
    intro disk hdisk
    unfold Attempt.Meets Disk.read
    cases disk.octets? path <;> exact hdisk
  unfold Disk.packSnapshot
  refine .bind (hread _) fun content =>
    .bind (h.folders _ (by simp [hvalue.layout])) fun _ => h.exchange _ ?_ _
  simp [hvalue.layout, Layout.exchangeFiles]

/-- An import keeps what endures. -/
theorem import_package (h : Enduring layout kept keptTrash keptDisk) (mode : ImportMode) :
    (importPackage mode).Keeps (Conforms layout kept keptTrash keptDisk) := by
  have hextract (package : String) {path : String} (hpath : path ∈ layout.exchangeFiles) :
      (Disk.extractSnapshot package path).Keeps keptDisk := by
    unfold Disk.extractSnapshot
    refine .get_bind fun disk hdisk => ?_
    split
    · split
      · refine Attempt.Keeps.bind (h.exchange _ hpath _) (fun _ => ?_) disk hdisk
        split
        · exact .throw _
        · exact .pure _
      · exact hdisk
    · exact hdisk
    · exact hdisk
  have htake : (takeImport mode).Keeps (Conforms layout kept keptTrash keptDisk) := by
    unfold takeImport
    refine .bind h.save fun _ => .bind (h.back_up_both _) fun _ => ?_
    refine .get_bind fun value hvalue => ?_
    have hpath : value.layout.snapshotPath ∈ layout.exchangeFiles := by
      simp [hvalue.layout, Layout.exchangeFiles]
    refine Attempt.Keeps.bind (on_disk_keeps (hextract _ hpath)) (fun _ => ?_) value hvalue
    refine .bind (read_snapshot_keeps _) fun remotes => ?_
    cases mode with
    | replace => exact .bind (replace_by_keeps h.notes _ _) fun _ => .pure _
    | merge =>
        refine .bind (merge_in_keeps h.notes h.trash _) fun report => ?_
        exact .bind (h.back_up_both _) fun _ => .pure _
  exact .bind htake fun report => .bind h.save fun _ => .pure report

/-- Every operation keeps what endures, whatever its outcome, if those on notes do. -/
theorem perform (h : Enduring layout kept keptTrash keptDisk)
    (hnote : ∀ operation : NoteOperation,
      operation.perform.Keeps (Conforms layout kept keptTrash keptDisk))
    (operation : Operation) :
    operation.perform.Keeps (Conforms layout kept keptTrash keptDisk) := by
  cases operation with
  | note operation => exact hnote operation
  | backUp suffix? => exact h.back_up_both suffix?
  | exportPackage => exact h.export_package
  | importPackage mode => exact .bind (h.import_package mode) fun _ => .pure _
  | save => exact h.save
  | reopen =>
      refine .bind (.modify fun notebook hconforms => ?_) fun _ => h.open_stores
      refine ⟨hconforms.layout, ?_, ?_, hconforms.disk⟩
      · exact hconforms.layout ▸ h.notes_fresh
      · exact hconforms.layout ▸ h.trash_fresh
  | receive package =>
      refine .get_bind fun value hvalue => ?_
      refine on_disk_keeps (h.exchange _ ?_ package) value hvalue
      simp [hvalue.layout, Layout.exchangeFiles]

end Enduring

namespace Lasting

/-- Changes keep what is lasting. -/
theorem changes (h : Lasting layout kept keptTrash keptDisk) (hchanges : notebook.Changes left)
    (hconforms : Conforms layout kept keptTrash keptDisk notebook) :
    Conforms layout kept keptTrash keptDisk left := by
  induction hchanges with
  | refl => exact hconforms
  | tail _ hchange ih =>
      cases hchange with
      | add note later => exact ⟨ih.layout, h.notes.add _ note ih.notes, ih.trash, ih.disk⟩
      | revise id note edited later hfound hid hversion =>
          exact ⟨ih.layout, h.notes.revise _ id note edited ih.notes hfound hid hversion, ih.trash,
            ih.disk⟩
      | discard id note =>
          exact ⟨ih.layout, h.notes.without _ id ih.notes, h.trash.add _ note ih.trash, ih.disk⟩

/-- Operations on notes keep what is lasting. -/
theorem perform_note (h : Lasting layout kept keptTrash keptDisk) (operation : NoteOperation) :
    operation.perform.Keeps (Conforms layout kept keptTrash keptDisk) := by
  intro before hbefore
  refine operation.perform_meets ⟨hbefore, fun _ => hbefore, fun middle hchanges _ => ?_,
    fun middle hchanges => ?_⟩ fun _ _ left hchanges => h.changes hchanges hbefore
  · exact h.enduring.save_notes middle (h.changes hchanges hbefore)
  · exact h.enduring.save middle (h.changes hchanges hbefore)

/-- Every operation keeps what is lasting, whatever its outcome. -/
theorem perform (h : Lasting layout kept keptTrash keptDisk) (operation : Operation) :
    operation.perform.Keeps (Conforms layout kept keptTrash keptDisk) :=
  h.enduring.perform h.perform_note operation

end Lasting

/-! ## Both stores -/

/-- Both stores are as a condition says. -/
structure Both (kept : Store → Prop) (notebook : Notebook) : Prop where
  notes : kept notebook.notes
  trash : kept notebook.trash

/-- A condition that every change of a store keeps lasts in both stores. -/
theorem lasting_of_stable (h : Store.Stable kept) (layout : Layout) :
    Lasting layout kept kept fun _ => True where
  notes := h.toLasting
  trash := h.toLasting
  notes_fresh := h.fresh _
  trash_fresh := h.fresh _
  text := fun _ _ => Attempt.Keeps.trivial _
  exchange := fun _ _ _ => Attempt.Keeps.trivial _
  folders := fun _ _ => Attempt.Keeps.trivial _

/-- What is kept at every layout is kept of both stores. -/
theorem Both.keeps {attempt : Attempt Notebook result}
    (h : ∀ layout, attempt.Keeps (Conforms layout kept kept fun _ => True)) :
    attempt.Keeps (Both kept) :=
  fun before hboth => (h before.layout before ⟨rfl, hboth.notes, hboth.trash, trivial⟩).mono
    (fun _ _ hleft => ⟨hleft.notes, hleft.trash⟩) fun _ _ hleft => ⟨hleft.notes, hleft.trash⟩

/-- Opening keeps what is stable. -/
theorem open_stores_keeps (h : Store.Stable kept) : openStores.Keeps (Both kept) :=
  Both.keeps fun layout => (lasting_of_stable h layout).enduring.open_stores

/-- An export keeps what is stable. -/
theorem export_keeps (h : Store.Stable kept) : exportPackage.Keeps (Both kept) :=
  Both.keeps fun layout => (lasting_of_stable h layout).enduring.export_package

/-- An import keeps what is stable. -/
theorem import_keeps (h : Store.Stable kept) (mode : ImportMode) :
    (importPackage mode).Keeps (Both kept) :=
  Both.keeps fun layout => (lasting_of_stable h layout).enduring.import_package mode

/-- Operations on notes keep what is stable. -/
theorem NoteOperation.perform_keeps (operation : NoteOperation) (h : Store.Stable kept) :
    operation.perform.Keeps (Both kept) :=
  Both.keeps fun layout => (lasting_of_stable h layout).perform_note operation

/-- Every operation keeps what is stable, whatever its outcome. -/
theorem Operation.perform_keeps (operation : Operation) (h : Store.Stable kept) :
    operation.perform.Keeps (Both kept) :=
  Both.keeps fun layout => (lasting_of_stable h layout).perform operation

/-! ## Reached notebooks -/

/-- A notebook that comes of opening one and performing operations, each of which may succeed or
fail in any way. -/
inductive Reached (layout : Layout) (disk : Disk) (supply : Supply) : Notebook → Prop
  | opened : Reached layout disk supply (openStores.after (unread layout disk supply))
  | performed (operation : Operation) (notebook : Notebook)
      (h : Reached layout disk supply notebook) :
      Reached layout disk supply (operation.perform.after notebook)

/-- What is lasting and holds of an opened notebook holds of every notebook that is reached from it. -/
theorem Reached.conforms {disk : Disk} {supply : Supply}
    (hreached : Reached layout disk supply notebook) (h : Lasting layout kept keptTrash keptDisk)
    (hopened : Conforms layout kept keptTrash keptDisk
      (openStores.after (unread layout disk supply))) :
    Conforms layout kept keptTrash keptDisk notebook := by
  induction hreached with
  | opened => exact hopened
  | performed operation notebook _ ih => exact (h.perform operation).after ih

/-- What is stable holds of both stores of every notebook that is reached. -/
theorem Reached.both {disk : Disk} {supply : Supply}
    (hreached : Reached layout disk supply notebook) (h : Store.Stable kept) :
    Both kept notebook := by
  induction hreached with
  | opened => exact (open_stores_keeps h).after ⟨h.fresh _, h.fresh _⟩
  | performed operation notebook _ ih => exact (operation.perform_keeps h).after ih

/-! ## Names and folders -/

/-- Notes have names and folders when nothing has been read yet. -/
theorem named_fresh (path? : Option String) : ({ path? := path? } : Store).Named :=
  fun id note hfound => by simp [Store.get?] at hfound

/-- Everything but operations on notes keeps names and folders. -/
theorem named_enduring (layout : Layout) :
    Enduring layout Store.Named Store.Named fun _ => True where
  notes := Store.named_enduring
  trash := Store.named_enduring
  notes_fresh := named_fresh _
  trash_fresh := named_fresh _
  text := fun _ _ => Attempt.Keeps.trivial _
  exchange := fun _ _ _ => Attempt.Keeps.trivial _
  folders := fun _ _ => Attempt.Keeps.trivial _

/-- Changes move no notebook. -/
theorem Changes.layout_eq (h : notebook.Changes left) : left.layout = notebook.layout := by
  induction h with
  | refl => rfl
  | tail _ hchange ih => cases hchange <;> exact ih

/-- Changes keep names and folders in the trash. -/
theorem Changes.trash_named (h : notebook.Changes left) (hnamed : notebook.trash.Named) :
    left.trash.Named := by
  induction h with
  | refl => exact hnamed
  | tail _ hchange ih =>
      cases hchange with
      | add | revise => exact ih
      | discard id note => exact ih.add note

/-- A save of the primary store gives its notes names and folders, whether the disk takes it or not. -/
theorem save_notes_names (h : notebook.trash.Named) :
    (onNotes Store.save).Meets notebook
      (fun _ left => Conforms notebook.layout Store.Named Store.Named (fun _ => True) left)
      fun _ left => Conforms notebook.layout Store.Named Store.Named (fun _ => True) left := by
  unfold onNotes
  rw [Attempt.meets_within]
  exact (Store.save_names _).mono (fun _ _ hstore => ⟨rfl, hstore, h, trivial⟩)
    fun _ _ hstore => ⟨rfl, hstore, h, trivial⟩

/-- The lookup of virtual folders adds at most one note, which has a name and a folder. -/
theorem virtual_folders_names (layout : Layout) :
    virtualFolders.Keeps (Conforms layout Store.Named Store.Named fun _ => True) := by
  have hsave := (named_enduring layout).save_notes
  unfold virtualFolders
  refine .get_bind fun before hbefore => ?_
  refine Attempt.Keeps.bind (.modify_get fun notebook hconforms => ?_) (fun folders => ?_) before
    hbefore
  · unfold VirtualFolders.ofStore
    cases VirtualFolders.configNote? notebook.notes with
    | some note => exact hconforms
    | none => exact ⟨hconforms.layout, hconforms.notes.add _, hconforms.trash, trivial⟩
  · refine .get_bind fun middle hmiddle => ?_
    dsimp only
    split
    · exact Attempt.Keeps.bind hsave (fun _ => .pure _) middle hmiddle
    · exact hmiddle

/-- Operations on notes keep names and folders: what takes them away is followed by a save. -/
theorem NoteOperation.perform_names (operation : NoteOperation) (layout : Layout) :
    operation.perform.Keeps (Conforms layout Store.Named Store.Named fun _ => True) := by
  intro before hbefore
  by_cases hlookup : operation = .virtualFolders
  · subst hlookup
    exact Attempt.Keeps.bind (virtual_folders_names layout) (fun _ => .pure _) before hbefore
  · have hsave (middle : Notebook) (hchanges : before.Changes middle) :
        (onNotes Store.save).Meets middle
          (fun _ => Conforms layout Store.Named Store.Named fun _ => True)
          fun _ => Conforms layout Store.Named Store.Named fun _ => True := by
      have hstay : middle.layout = layout := hchanges.layout_eq.trans hbefore.layout
      exact hstay ▸ save_notes_names (hchanges.trash_named hbefore.trash)
    refine operation.perform_meets ⟨hbefore, fun _ => hbefore, fun middle hchanges _ =>
      hsave middle hchanges, fun middle hchanges => ?_⟩ fun heq => absurd heq hlookup
    unfold Notebook.save
    simp only [Attempt.meets_bind, Attempt.meets_pure]
    refine (hsave middle hchanges).mono (fun _ half hhalf => ?_) fun _ _ hleft => hleft
    exact on_trash_keeps (Store.named_enduring.save fun _ _ => Attempt.Keeps.trivial _) half hhalf

/-- Both stores of every notebook that is reached have names and folders in their notes. -/
theorem Reached.named {disk : Disk} {supply : Supply}
    (hreached : Reached layout disk supply notebook) : Both Store.Named notebook := by
  have hconforms : Conforms layout Store.Named Store.Named (fun _ => True) notebook := by
    induction hreached with
    | opened =>
        exact (named_enduring layout).open_stores.after
          ⟨rfl, named_fresh _, named_fresh _, trivial⟩
    | performed operation notebook _ ih =>
        exact ((named_enduring layout).perform (fun noted => noted.perform_names layout)
          operation).after ih
  exact ⟨hconforms.notes, hconforms.trash⟩

end Notebook

end Notekeeper
