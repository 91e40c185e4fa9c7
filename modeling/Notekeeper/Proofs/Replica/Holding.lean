import Notekeeper.Proofs.Replica.Basic
import Notekeeper.Proofs.Sync.Alike

/-!
# Following replicas by their stores

A ready notebook holds like stores to given ones (`Notebook.Holds`), and what it holds after it has
been worked on, exported or merged into can be told from the given stores alone. So a run of
replicas can be followed on stores, without files, packages and supplies, as long as the merges in
it make no copies.
-/

namespace Notekeeper

namespace Store

variable {store other : Store}

/-- Like stores fit into packages alike. -/
theorem Alike.packable (h : store.Alike other) (hpackable : store.Packable) : other.Packable := by
  rw [Packable, h.text_eq]
  exact hpackable

/-- Like stores have the same package. -/
theorem Alike.package_eq (h : store.Alike other) : other.package = store.package := by
  rw [package, h.text_eq, package]

/-- The store that an export leaves. -/
def exported (store : Store) : Store :=
  store.stampExport.withDefaults

/-- A new store can be exported, and is read without a note. -/
theorem exported_new :
    ({} : Store).exported.Storable ∧ ({} : Store).exported.Packable ∧
      ({} : Store).exported.notes = ∅ ∧ ({} : Store).exported.asRead.notes = ∅ := by
  decide +kernel

/-- The merge of another store into a store and its trash. It is told by any supply if it makes no
copies. -/
def mergedWith (store trash remote : Store) : Sync.Merging :=
  Sync.merge (store.acceptImport remote.exportClock) trash remote.asRead .tally

/-- The store after a note has been put into another folder. -/
def moved (store : Store) (id folder : String) : Store :=
  match store.get? id with
  | none => store
  | some note => (store.revise id { note with folder := folder }).withDefaults

end Store

namespace Notebook

variable {notebook : Notebook} {notes trash : Store}

/-- A ready notebook holds like stores to given ones. -/
structure Holds (notebook : Notebook) (notes trash : Store) : Prop where
  ready : notebook.Ready
  notes : notes.Alike notebook.notes
  trash : trash.Alike notebook.trash

/-- A new notebook holds nothing. -/
theorem New.holds (h : New notebook) : notebook.Holds {} {} :=
  ⟨h.ready.1, h.ready.2.1, h.ready.2.2⟩

namespace Holds

/-- What a notebook holds fits into its files. -/
theorem storable (h : notebook.Holds notes trash) : notebook.Storable :=
  ⟨h.ready.durable.notes.storable, h.ready.durable.trash.storable⟩

/-- What a notebook holds has its defaults. -/
theorem defaults (h : notebook.Holds notes trash) :
    notes.withDefaults = notes ∧ trash.withDefaults = trash :=
  ⟨(h.notes.symm.storable h.storable.notes).defaults,
    (h.trash.symm.storable h.storable.trash).defaults⟩

/-- What a ready notebook holds after it has been settled. -/
theorem of_settled {left : Notebook} (h : notebook.Holds notes trash)
    (hsettles : SettlesTo notebook left) {leftNotes leftTrash : Store}
    (hnotes : leftNotes.Alike left.notes) (htrash : leftTrash.Alike left.trash)
    (hstorable : leftNotes.Storable ∧ leftTrash.Storable) : left.Holds leftNotes leftTrash :=
  ⟨h.ready.settle hsettles ⟨hnotes.storable hstorable.1, htrash.storable hstorable.2⟩, hnotes, htrash⟩

/-- What a notebook holds after an export, and what it has put into its package. -/
theorem exports (h : notebook.Holds notes trash) (hstorable : notes.exported.Storable) :
    (exportPackage.after notebook).Holds notes.exported trash ∧
      (exportPackage.after notebook).disk.octets?
        (exportPackage.after notebook).layout.packagePath = some notes.exported.package := by
  obtain ⟨hnotes, htrash⟩ := h.defaults
  have hexported := h.ready.export_succeeds.1
  have hleft : notes.exported.Alike (exportPackage.after notebook).notes := by
    have halike := h.notes.with_defaults.stamp_export.with_defaults
    rw [hnotes] at halike
    exact halike.trans hexported.notes
  have hleft_trash : trash.Alike (exportPackage.after notebook).trash := by
    have halike := h.trash.with_defaults
    rw [htrash] at halike
    exact halike.trans hexported.trash
  have htrash_storable := h.trash.symm.storable h.storable.trash
  refine ⟨h.of_settled hexported.settles hleft hleft_trash ⟨hstorable, htrash_storable⟩, ?_⟩
  rw [hexported.package, hleft.package_eq]

/-- What a notebook holds after the package of a store has been merged, if that makes no copies. -/
theorem takes_in (h : notebook.Holds notes trash) {remote : Store} (hremote : remote.Storable)
    (hkeyed : remote.Keyed) (hpackable : remote.Packable)
    (hfresh : notes.exportClock ≤ remote.importClock)
    (hcopies : (notes.mergedWith trash remote).report.CopiesNothing)
    (hstorable : (notes.mergedWith trash remote).locals.withDefaults.Storable ∧
      (notes.mergedWith trash remote).trash.withDefaults.Storable) :
    notebook.Accepts remote.package ∧
      ((takeIn remote.package).after notebook).Holds
        (notes.mergedWith trash remote).locals.withDefaults
        (notes.mergedWith trash remote).trash.withDefaults := by
  have hsaved := h.notes.trans h.storable.notes.alike_saved
  have hsaved_trash := h.trash.trans h.storable.trash.alike_saved
  have haccepts : notebook.Accepts remote.package := by
    rw [h.ready.accepts_iff hremote hkeyed hpackable, h.notes.export_clock]
    exact hfresh
  rcases h.ready.takes_in hremote hkeyed hpackable with ⟨-, hmerged⟩ | ⟨hfault, -⟩
  · obtain ⟨hsettles, -, supply, -, -, hleft, hleft_trash⟩ := hmerged
    have halike := Sync.merge_alike (hsaved.accept_import remote.exportClock) hsaved_trash
      (.refl remote.asRead) hcopies supply
    exact ⟨haccepts, h.of_settled hsettles (halike.locals.with_defaults.trans hleft)
      (halike.trash.with_defaults.trans hleft_trash) hstorable⟩
  · rw [Accepts, hfault] at haccepts
    cases haccepts

/-- A note of a ready notebook is put into another folder. -/
theorem move_meets (h : notebook.Ready) {id : String} {note : Note}
    (hfound : notebook.notes.get? id = some note) (folder : String) :
    (moveTo [id] folder).Meets notebook
      (fun _ left => SettlesTo notebook left ∧
        left.notes = (notebook.notes.revise id { note with folder := folder }).saved ∧
        left.trash = notebook.trash)
      fun fault _ => notebook.DiskFault fault := by
  have hchange : Change notebook
      { notebook with notes := notebook.notes.revise id { note with folder := folder } } :=
    .revise_in_place hfound rfl rfl rfl
  have hsave := Changes.save_notes_meets (.single hchange) h.durable rfl
  have hcheck : [id].find? (fun id => !notebook.notes.contains id) = none := by
    simp [Store.contains_eq, hfound]
  have hone (edit : String → Attempt Notebook Unit) :
      [id].forM edit = (edit id >>= fun _ => pure ()) := rfl
  unfold moveTo editEach checkIds editOne
  simp only [hone, Attempt.meets_bind, Attempt.meets_get, hcheck, Attempt.meets_pure, hfound,
    changeNotes, Attempt.meets_modify, if_true, touch, Attempt.meets_of_except,
    Store.touch_edit hfound]
  exact hsave.mono (fun _ left hleft => ⟨hleft.1, hleft.2.2⟩) fun _ _ hfault => hfault

/-- What a notebook holds after a note that it holds has been put into another folder. -/
theorem moves (h : notebook.Holds notes trash) {id : String} (hfound : (notes.get? id).isSome)
    (folder : String) (hstorable : (notes.moved id folder).Storable) :
    ((NoteOperation.moveTo [id] folder).perform.after notebook).Holds (notes.moved id folder)
      trash := by
  obtain ⟨note, hnote⟩ := Option.isSome_iff_exists.1 hfound
  have hmoved : notes.moved id folder =
      (notes.revise id { note with folder := folder }).withDefaults := by
    rw [Store.moved, hnote]
  have hthere : notebook.notes.get? id = some note := (h.notes.get_eq id).trans hnote
  obtain ⟨-, hsettles, hleft, hleft_trash⟩ :=
    (move_meets h.ready hthere folder).succeeds fun _ _ hfault => hfault.2 h.ready.willing
  show ((moveTo [id] folder).after notebook).Holds _ _
  refine h.of_settled hsettles ?_ (hleft_trash ▸ h.trash)
    ⟨hstorable, h.trash.symm.storable h.storable.trash⟩
  rw [hmoved, hleft]
  exact (h.notes.revise id _).with_defaults.trans (Store.alike_saved _)

end Holds

end Notebook

end Notekeeper
