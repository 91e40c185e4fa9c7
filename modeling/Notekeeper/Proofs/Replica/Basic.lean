import Notekeeper.Proofs.Notebook.Following

/-!
# Replicas

A replica is a notebook that works on its notes, publishes snapshots of them and merges snapshots of
other replicas. What each of these does is told here without files: a notebook that is `Ready` is
left `Ready`, and publishes the store that the other replica then merges.
-/

namespace Notekeeper

namespace Notebook

variable {notebook left : Notebook}

/-- A notebook whose files hold its stores, on a disk that takes every file. -/
structure Ready (notebook : Notebook) : Prop where
  durable : notebook.Durable
  willing : notebook.Willing

/-- What settles a notebook leaves it ready, if files can hold its stores. -/
theorem Ready.settle (h : notebook.Ready) (hsettles : SettlesTo notebook left)
    (hstorable : left.Storable) : left.Ready :=
  ⟨hsettles.1.durable hstorable, hsettles.2.willing h.willing⟩

/-- A ready notebook can be closed and opened again: it has the same stores, with other clocks. -/
theorem Ready.reopens (h : notebook.Ready) :
    reopen.fault? notebook = none ∧ (reopen.after notebook).Ready ∧
      HasStoresOf notebook (reopen.after notebook) ∧
      notebook.supply.LeadsTo (reopen.after notebook).supply := by
  have hopens : reopen.Meets notebook
      (fun _ left => left.Durable ∧ HasStoresOf notebook left ∧
        FilesStay notebook.layout.storeFiles notebook left)
      fun fault _ => notebook.DiskFault fault ∧ notebook.layout.backsUpOnOpen = true := by
    unfold reopen
    rw [Attempt.meets_bind, Attempt.meets_modify]
    exact h.durable.opens notebook.supply
  obtain ⟨hnone, hdurable, hstores, hstay⟩ := hopens.succeeds fun _ _ hfault => hfault.1.2 h.willing
  exact ⟨hnone, ⟨hdurable, hstay.willing h.willing⟩, hstores, hstay.supply⟩

/-- A ready notebook can receive a package: its stores stay, and an import finds the package. -/
theorem Ready.receives (h : notebook.Ready) (package : ByteArray) :
    (receive package).fault? notebook = none ∧ ((receive package).after notebook).Ready ∧
      ((receive package).after notebook).notes = notebook.notes ∧
      ((receive package).after notebook).trash = notebook.trash ∧
      ((receive package).after notebook).disk.octets?
        ((receive package).after notebook).layout.packagePath = some package := by
  obtain ⟨hnone, hfiles, hnotes, htrash, hoctets⟩ :=
    (receive_meets package).succeeds fun _ _ hfault => hfault.2 h.willing
  exact ⟨hnone, ⟨h.durable.of_files_stay hfiles hnotes htrash, hfiles.willing h.willing⟩, hnotes,
    htrash, hfiles.layout ▸ hoctets⟩

/-- A notebook that has been opened where there was none, on a disk that takes every file. -/
inductive New : Notebook → Prop
  | opened (layout : Layout) (disk : Disk) (supply : Supply) (hvacant : layout.Vacant disk)
      (hopens : openStores.fault? (unread layout disk supply) = none)
      (hwilling : (openStores.after (unread layout disk supply)).Willing) :
      New (openStores.after (unread layout disk supply))

/-- A new notebook is ready and holds nothing. -/
theorem New.ready (h : New notebook) :
    notebook.Ready ∧ ({} : Store).Alike notebook.notes ∧ ({} : Store).Alike notebook.trash := by
  cases h with
  | opened layout disk supply hvacant hopens hwilling =>
      have hopen := (first_open_meets hvacant supply).after_of_none hopens
      exact ⟨⟨hopen.1, hwilling⟩, hopen.2.2.2.2⟩

/-- A new notebook uses no ids. -/
theorem New.unused (h : New notebook) (id : String) : ¬ notebook.Uses id := by
  obtain ⟨-, hnotes, htrash⟩ := h.ready
  have hnone : ¬ ({} : Store).Has id := by simp [Store.Has, Store.get?]
  exact not_or.2 ⟨fun hhas => hnone (hnotes.has_iff.1 hhas),
    fun hhas => hnone (htrash.has_iff.1 hhas)⟩

/-- The clocks of a new notebook. -/
theorem New.clocks (h : New notebook) :
    notebook.notes.exportClock = -1 ∧ notebook.notes.importClock = -1 ∧
      notebook.notes.clock = 1 ∧ notebook.trash.clock = 1 :=
  ⟨h.ready.2.1.export_clock, h.ready.2.1.import_clock, h.ready.2.1.clock, h.ready.2.2.clock⟩

/-- A new notebook for examples, whose tokens are strokes of one kind. -/
def empty (char : Char) : Notebook :=
  openStores.after (unread (.inFolder "notes") .empty (.strokes char))

/-- The new notebooks for examples can be opened. -/
theorem empty_opened {char : Char} (hchar : char ∈ ['i', 'j']) :
    openStores.fault? (unread (.inFolder "notes") .empty (.strokes char)) = none ∧
      (empty char).layout = .inFolder "notes" ∧ Disk.empty.FoldersStay (empty char).disk ∧
      (Supply.strokes char).LeadsTo (empty char).supply := by
  have hopens : openStores.fault? (unread (.inFolder "notes") .empty (.strokes char)) = none := by
    simp only [List.mem_cons, List.not_mem_nil, or_false] at hchar
    rcases hchar with rfl | rfl <;> decide +kernel
  obtain ⟨-, hlayout, hfolders, hsupply, -⟩ :=
    (first_open_meets Layout.vacant_empty (.strokes char)).after_of_none hopens
  exact ⟨hopens, hlayout, hfolders, hsupply⟩

/-- The new notebooks for examples are new. -/
theorem empty_new {char : Char} (hchar : char ∈ ['i', 'j']) : New (empty char) := by
  obtain ⟨hopens, hlayout, hfolders, hsupply⟩ := empty_opened hchar
  have hrefuses (number : Nat) : (empty char).disk.refuses number = false :=
    congrFun hfolders.refuses number
  have htakes : (∀ path ∈ (Layout.inFolder "notes").storeFiles ++
        (Layout.inFolder "notes").exchangeFiles,
        ((empty char).disk.filePlace? path).isSome = true) ∧
      ∀ suffix? ∈ ownSuffixes, ∀ file ∈ [Layout.notesName, Layout.trashName],
        ((empty char).disk.filePlace? ((Layout.inFolder "notes").backupPath
          (Supply.tally.moments 0) suffix? file)).isSome = true := by
    simp only [List.mem_cons, List.not_mem_nil, or_false] at hchar
    rcases hchar with rfl | rfl <;> decide +kernel
  have hwilling : (empty char).Willing := by
    refine ⟨fun path hpath => ⟨?_, hrefuses⟩,
      fun number suffix? hsuffix file hfile => ⟨?_, hrefuses⟩⟩
    · rw [hlayout] at hpath
      exact htakes.1 path hpath
    · rw [hlayout, hsupply.moments]
      exact htakes.2 suffix? hsuffix file hfile
  exact .opened _ _ _ Layout.vacant_empty hopens hwilling

/-- The tokens of the new notebooks for examples are different. -/
theorem empty_distinct {char : Char} (hchar : char ∈ ['i', 'j']) :
    (empty char).supply.Distinct := by
  have hfresh : (Supply.strokes char).FreshFor fun _ => False := Supply.fresh_for_strokes nofun
  exact (hfresh.leads_to (empty_opened hchar).2.2.2).distinct

/-- The tokens of one of the new notebooks for examples are not those of the other. -/
theorem empty_apart : (empty 'i').supply.Apart (empty 'j').supply := by
  have hstrokes : (Supply.strokes 'j').Apart (.strokes 'i') := by
    have hfresh : (Supply.strokes 'i').FreshFor (Supply.strokes 'j').Issues := by
      refine Supply.fresh_for_strokes fun text hissues => ?_
      obtain ⟨other, rfl⟩ := hissues
      simp [Supply.token, Supply.strokes]
    exact hfresh.unused
  exact hstrokes.symm.leads_to (empty_opened (by decide)).2.2.2 (empty_opened (by decide)).2.2.2

/-- What a notebook that has been exported leaves and has put into its package. -/
structure Exported (notebook left : Notebook) : Prop where
  settles : SettlesTo notebook left
  notes : notebook.notes.withDefaults.stampExport.withDefaults.Alike left.notes
  trash : notebook.trash.withDefaults.Alike left.trash
  package : left.disk.octets? left.layout.packagePath = some left.notes.package

/-- An export of a ready notebook does not fail. -/
theorem Ready.export_succeeds (h : notebook.Ready) :
    Exported notebook (exportPackage.after notebook) ∧ exportPackage.fault? notebook = none := by
  obtain ⟨hnone, hstay, hnotes, htrash, hsettled, hpackage⟩ :=
    (export_meets h.durable.kept).succeeds fun _ _ hfault => hfault.2 h.willing
  refine ⟨⟨⟨hsettled, hstay⟩, ?_, ?_, ?_⟩, hnone⟩
  · rw [hnotes]
    exact Store.alike_saved _
  · rw [htrash]
    have halike := notebook.trash.withDefaults.alike_saved
    rwa [Store.with_defaults_idem] at halike
  · rw [hstay.layout, hpackage, hnotes]
    rfl

/-- An export takes the own clock for the export clock and leaves the others. -/
theorem Exported.clocks (h : Exported notebook left) :
    left.notes.exportClock = notebook.notes.clock ∧
      left.notes.importClock = notebook.notes.importClock ∧
      left.notes.clock = notebook.notes.clock :=
  ⟨h.notes.export_clock, h.notes.import_clock, h.notes.clock⟩

/-- An export leaves the notes with its stamp. -/
theorem Exported.get (h : Exported notebook left) (hdurable : notebook.Durable) (id : String) :
    left.notes.get? id = (notebook.notes.get? id).map fun note =>
      { note with exportVersion := notebook.notes.clock } := by
  have hstorable := hdurable.notes.storable
  rw [Store.get?, h.notes.notes, Store.get_with_defaults, Store.get_stamp_export,
    hstorable.defaults, ← Store.get?]
  cases hfound : notebook.notes.get? id with
  | none => rfl
  | some note =>
      have hdefaults := (hstorable.notes id note hfound).with_defaults
      have hstamped : { note with exportVersion := notebook.notes.clock }.withDefaults =
          { note with exportVersion := notebook.notes.clock } :=
        calc { note with exportVersion := notebook.notes.clock }.withDefaults
          _ = { note.withDefaults with exportVersion := notebook.notes.clock } := rfl
          _ = { note with exportVersion := notebook.notes.clock } := by rw [hdefaults]
      rw [Option.map_some, Option.map_some, hstamped]

/-- An export leaves all notes where they are. -/
theorem Exported.has (h : Exported notebook left) (hdurable : notebook.Durable) {id : String} :
    left.notes.Has id ↔ notebook.notes.Has id := by
  rw [Store.Has, h.get hdurable, Option.isSome_map, Store.Has]

/-- An export leaves all ids in use. -/
theorem Exported.uses (h : Exported notebook left) (hdurable : notebook.Durable) {id : String} :
    left.Uses id ↔ notebook.Uses id :=
  or_congr (h.has hdurable) (Store.has_of_alike_defaults h.trash)

/-- A package is accepted if receiving and merging it does not fail. -/
def Accepts (notebook : Notebook) (package : ByteArray) : Prop :=
  (takeIn package).fault? notebook = none

instance (notebook : Notebook) (package : ByteArray) : Decidable (notebook.Accepts package) :=
  inferInstanceAs (Decidable (_ = _))

/-- A ready notebook accepts the package of a store exactly if the store is not stale, and fails
for no other cause. -/
theorem Ready.takes_in {remote : Store} (h : notebook.Ready) (hremote : remote.Storable)
    (hkeyed : remote.Keyed) (hpackable : remote.Packable) :
    (notebook.Accepts remote.package ∧ Merged notebook remote
        ((takeIn remote.package).after notebook)) ∨
      (takeIn remote.package).fault? notebook =
          some (.stale notebook.notes.exportClock remote.importClock) ∧
        Refused notebook remote ((takeIn remote.package).after notebook) := by
  have htake := Attempt.meets_iff.1 (take_in_meets h.durable h.willing hremote hkeyed hpackable)
  unfold Accepts
  cases hfault : (takeIn remote.package).fault? notebook with
  | none =>
      rw [hfault] at htake
      exact .inl ⟨rfl, htake⟩
  | some fault =>
      rw [hfault] at htake
      obtain ⟨rfl, hrefused⟩ := htake
      exact .inr ⟨rfl, hrefused⟩

/-- A ready notebook accepts the package of a store exactly if the store is not stale. -/
theorem Ready.accepts_iff {remote : Store} (h : notebook.Ready) (hremote : remote.Storable)
    (hkeyed : remote.Keyed) (hpackable : remote.Packable) :
    notebook.Accepts remote.package ↔ notebook.notes.exportClock ≤ remote.importClock := by
  rcases h.takes_in hremote hkeyed hpackable with ⟨haccepts, hmerged⟩ | ⟨hfault, hrefused⟩
  · exact iff_of_true haccepts hmerged.fresh
  · have hstale := hrefused.stale
    refine iff_of_false (fun haccepts => ?_) (by omega)
    rw [Accepts, hfault] at haccepts
    cases haccepts

end Notebook

end Notekeeper
