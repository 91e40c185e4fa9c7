import Notekeeper.Proofs.Note.RoundTrip
import Notekeeper.Proofs.Notebook.History
import Notekeeper.Proofs.Notebook.Merging
import Notekeeper.Proofs.Notebook.Standing

/-!
# Exports are copies

An export stamps the notes of a notebook and packs them, and whoever lets the package replace the own
notes, or merges it into no notes at all, holds exactly the stamped notes afterwards
(`Notebook.replace_copies`, `Notebook.merge_copies`). None of them is a local change on either side,
and the files of the copy bring them back (`Notebook.export_is_copied`). A merge needs more than an
empty store: one that was exported while it was empty refuses a snapshot that does not know of that
export (`Notebook.empty_refuses_package`).
-/

namespace Notekeeper

/-- The clocks of a store are 64-bit numbers. -/
structure Store.ClocksInRange (store : Store) : Prop where
  clock : Decimal.InRange store.clock
  export_clock : Decimal.InRange store.exportClock
  import_clock : Decimal.InRange store.importClock

namespace Notebook

variable {notebook left : Notebook} {remote copy : Store}

/-! ## What is exported -/

/-- An export leaves notes that have names and folders with its stamp. -/
theorem get_exported (h : notebook.notes.Named) (id : String) :
    notebook.exported.get? id = (notebook.notes.get? id).map fun note =>
      { note with exportVersion := notebook.notes.clock } := by
  rw [exported, h.with_defaults_eq, Store.get?, (Store.saved_eq _).2.1, Store.get_with_defaults,
    Store.get_stamp_export, ← Store.get?]
  cases hfound : notebook.notes.get? id with
  | none => rfl
  | some note =>
      have hstamped : { note with exportVersion := notebook.notes.clock }.withDefaults =
          { note.withDefaults with exportVersion := notebook.notes.clock } := rfl
      rw [Option.map_some, Option.map_some, hstamped, h.with_defaults hfound]

/-- The clocks that an export leaves. -/
theorem exported_clocks (notebook : Notebook) :
    notebook.exported.clock = notebook.notes.clock ∧
      notebook.exported.exportClock = notebook.notes.clock ∧
      notebook.exported.importClock = notebook.notes.importClock := by
  obtain ⟨-, -, hclock, hexport, himport⟩ := notebook.notes.withDefaults.stampExport.saved_eq
  exact ⟨hclock, hexport, himport⟩

/-- Files can hold what is exported of notes that they can hold. -/
theorem exported_storable (hclocks : notebook.notes.ClocksInRange)
    (h : ∀ (id : String) (note : Note), notebook.notes.get? id = some note → note.Storable) :
    notebook.exported.Storable := by
  obtain ⟨-, hexport, himport⟩ := notebook.exported_clocks
  have hnamed : notebook.notes.Named :=
    fun id note hfound => ⟨(h id note hfound).name_ne, (h id note hfound).folder_ne⟩
  refine ⟨fun id note hfound => ?_, hexport ▸ hclocks.clock, himport ▸ hclocks.import_clock⟩
  rw [← Store.get?, get_exported hnamed, Option.map_eq_some_iff] at hfound
  obtain ⟨old, hold, rfl⟩ := hfound
  exact { h id old hold with export_version_range := hclocks.clock }

/-- No note counts as changed after an export if no version is above the clock. -/
theorem exported_unchanged (hnamed : notebook.notes.Named) (hcapped : notebook.notes.Capped)
    (id : String) (note : Note) (hfound : notebook.exported.get? id = some note) :
    Sync.localChange note = false := by
  rw [get_exported hnamed, Option.map_eq_some_iff] at hfound
  obtain ⟨old, hold, rfl⟩ := hfound
  have hbelow := hcapped id old hold
  rw [Sync.localChange, decide_eq_false_iff_not]
  exact Int.not_lt.2 hbelow

/-! ## What is imported -/

/-- A notebook whose files hold the notes of a store, under a clock that is not below the export clock
of that store. -/
structure Copied (remote : Store) (left : Notebook) : Prop where
  notes : left.notes.notes = remote.notes
  clock : remote.exportClock ≤ left.notes.clock
  saved : left.notes.Saved left.disk left.layout.notesPath
  trash_diff : left.disk.Readable (Store.diffPath left.layout.trashPath)

/-- A store with the notes of another is saved as a copy, if it is saved as a whole. -/
theorem save_copies (remote : Store) (h : notebook.Rooted) (hdue : notebook.notes.fullSaveDue = true)
    (hcopy : copy.Alike notebook.notes) (hstorable : copy.Storable)
    (hnotes : copy.notes = remote.notes) (hclock : remote.exportClock ≤ copy.clock) :
    save.Meets notebook (fun _ left => Copied remote left)
      fun fault _ => notebook.DiskFault fault := by
  have hfits := hcopy.storable hstorable
  have hsaved := hcopy.trans hfits.alike_saved
  refine (save_writes h.notes_path h.trash_path).mono (fun _ left hleft => ?_)
    fun _ _ hfault => hfault
  obtain ⟨-, hstay, hleft_notes, -, hwritten, hwritten_trash⟩ := hleft
  refine ⟨?_, ?_, ?_, ?_⟩
  · rw [hleft_notes, hsaved.notes, hnotes]
  · rw [hleft_notes, hsaved.clock]
    exact hclock
  · rw [hleft_notes, hstay.layout]
    exact hwritten.saved (.of_due h.notes_path h.notes_keyed hdue) hfits.saved
  · rw [hstay.layout]
    exact Disk.readable_of_written hwritten_trash.diff

/-- A store that the text of another replaces has the notes of that one. -/
theorem replacing_text (notebook : Notebook) (hremote : remote.Storable) (hkeyed : remote.Keyed)
    (supply : Supply) :
    let clock := max (Store.highest notebook.notes.clock remote.all) remote.exportClock
    ({ remote with clock := clock, importClock := clock } : Store).Alike
      (replacing notebook remote.text remote.asRead supply) := by
  have hclock : notebook.notes.saved.clock = notebook.notes.clock := notebook.notes.saved_eq.2.2.1
  have hoverlay := Store.overlay_all hkeyed fun note hmem => (hremote.mem_all note hmem).with_defaults
  have hread := Store.read_text_of remote hremote.mem_all hremote.export_range hremote.import_range
    notebook.notes.saved.clear.requireFullSave supply
  rw [replacing, Store.text, hread]
  refine Store.Alike.trans ?_ ((Store.alike_foldl_restore _ _).accept_import _)
  refine ⟨hoverlay, ?_, rfl, ?_⟩ <;>
    simp [Store.acceptImport, Store.raiseClock, Store.withClocks, Store.clear, Store.requireFullSave,
      Store.asRead, hclock]

/-- A package that replaces the primary store makes it a copy of what was packed. -/
theorem replace_copies (h : notebook.Rooted) (hremote : remote.Storable) (hkeyed : remote.Keyed)
    (hpackage : notebook.Packaged remote.text) (hclock : Decimal.InRange notebook.notes.clock) :
    (importPackage .replace).Meets notebook (fun _ left => Copied remote left)
      fun fault _ => notebook.DiskFault fault := by
  unfold importPackage
  simp only [Attempt.meets_bind, Attempt.meets_pure]
  refine take_packaged_meets h hremote hkeyed hpackage .replace (fun _ _ hfault => hfault)
    fun middle hunpacked => ?_
  refine (absorb_replace_meets h hunpacked).mono (fun _ replaced hreplaced => ?_)
    fun _ _ hfalse => hfalse.elim
  obtain ⟨supply, hnotes⟩ := hreplaced.notes
  have hcopy := replacing_text notebook hremote hkeyed supply
  rw [← hnotes] at hcopy
  have hrange := (Store.highest_in_range hclock fun note hmem =>
    (hremote.mem_all note hmem).version_range).max hremote.export_range
  exact (save_copies remote hreplaced.rooted hreplaced.notes_due hcopy
    ⟨hremote.notes, hremote.export_range, hrange⟩ rfl (Int.le_max_right _ _)).mono
    (fun _ _ hleft => hleft) fun _ _ hfault => hreplaced.stay.disk_fault hfault

/-- A store without notes into which another is merged has the notes of that one, unless some of them
are in the trash. -/
theorem merging_into_empty (hremote : remote.Storable) (hkeyed : remote.Keyed)
    (hempty : notebook.notes.notes = ∅) (htrash : ∀ id, remote.Has id → ¬ notebook.trash.Has id)
    (supply : Supply) :
    let clock := max notebook.notes.clock remote.exportClock
    ({ remote with
        clock := Store.highest clock remote.all
        exportClock := notebook.notes.exportClock
        importClock := clock } : Store).Alike
      (merging notebook remote.asRead supply).locals := by
  obtain ⟨-, hnotes, hclock, hexport, -⟩ := notebook.notes.saved_eq
  have haccepted : (notebook.notes.saved.acceptImport remote.asRead.exportClock).notes = ∅ := by
    apply Std.ExtTreeMap.ext_getElem?
    intro id
    simp [Store.acceptImport, Store.raiseClock, hnotes, Store.get_with_defaults, hempty]
  have hnot_trashed (there : Note) (hmem : there ∈ remote.asRead.all) :
      notebook.trash.saved.contains there.id = false := by
    have hfound := hkeyed.mem_all.1 hmem
    rw [Store.contains_eq, Store.not_has_iff.1
      (mt Store.has_saved.1 (htrash there.id (Store.has_of_get hfound)))]
    rfl
  have hoverlay := Store.overlay_all hkeyed fun note hmem => (hremote.mem_all note hmem).with_defaults
  rw [merging, Sync.merge_into_empty haccepted hnot_trashed]
  refine Store.Alike.trans ?_ (Store.alike_foldl_restore _ _)
  refine ⟨?_, ?_, hexport, ?_⟩
  · dsimp only
    rw [haccepted]
    exact hoverlay
  · simp [Store.acceptImport, Store.raiseClock, Store.asRead, hclock, Store.all]
  · simp [Store.acceptImport, Store.raiseClock, Store.asRead, hclock]

/-- A package that is merged into a store without notes makes it a copy of what was packed, if none
of that is in the trash and the snapshot is not stale. -/
theorem merge_copies (h : notebook.Rooted) (hremote : remote.Storable) (hkeyed : remote.Keyed)
    (hpackage : notebook.Packaged remote.text) (hclocks : notebook.notes.ClocksInRange)
    (hempty : notebook.notes.notes = ∅) (htrash : ∀ id, remote.Has id → ¬ notebook.trash.Has id)
    (hfresh : notebook.notes.exportClock ≤ remote.importClock) :
    (importPackage .merge).Meets notebook (fun _ left => Copied remote left)
      fun fault _ => notebook.DiskFault fault := by
  unfold importPackage
  simp only [Attempt.meets_bind, Attempt.meets_pure]
  refine take_packaged_meets h hremote hkeyed hpackage .merge (fun _ _ hfault => hfault)
    fun middle hunpacked => ?_
  refine (absorb_merge_meets h hunpacked).mono (fun report merged hmerged => ?_)
    fun fault _ hleft => ?_
  · obtain ⟨hdue, hstay, -, supply, -, -, -, hnotes, -⟩ := hmerged
    have hlocals := merging_into_empty hremote hkeyed hempty htrash supply
    have hrange := hclocks.clock.max hremote.export_range
    have hbounds := Store.highest_le_iff.1
      (Int.le_refl (Store.highest (max notebook.notes.clock remote.exportClock) remote.all))
    have hstorable : Store.Storable { remote with
        clock := Store.highest (max notebook.notes.clock remote.exportClock) remote.all
        exportClock := notebook.notes.exportClock
        importClock := max notebook.notes.clock remote.exportClock } :=
      ⟨hremote.notes, hclocks.export_clock, hrange⟩
    -- what is left is to be saved as a whole, but holds the same notes under the same clocks
    have hdue_alike : (merging notebook remote.asRead supply).locals.Alike
        (merging notebook remote.asRead supply).locals.requireFullSave := ⟨rfl, rfl, rfl, rfl⟩
    have hcopy := (hlocals.trans hdue_alike).with_defaults
    rw [hstorable.defaults, ← hnotes] at hcopy
    exact (save_copies remote hdue.toRooted hdue.notes_due hcopy hstorable rfl
      (Int.le_trans (Int.le_max_right _ _) hbounds.1)).mono (fun _ _ hleft => hleft)
      fun _ _ hfault => hstay.disk_fault hfault
  · refine hleft.resolve_right fun hrefused => ?_
    have hstale := (((check_import_iff _ _).2 fault).1 hrefused.2).1
    rw [notebook.notes.saved_eq.2.2.2.1] at hstale
    exact absurd hfresh (Int.not_le.2 hstale)

/-! ## From one notebook to another -/

/-- A notebook holds exactly the notes of another one. None of them is a local change, the clock is not
below the export clock of the other notebook, and opening the notebook again gives the same notes;
that can fail only where backups are made that the disk does not take. -/
structure Mirrors (source left : Notebook) : Prop where
  notes : left.notes.notes = source.notes.notes
  unchanged : ∀ (id : String) (note : Note), left.notes.get? id = some note →
    Sync.localChange note = false
  clock : source.notes.exportClock ≤ left.notes.clock
  reopens : ∀ supply, openStores.Meets (unread left.layout left.disk supply)
    (fun _ again => again.notes.notes = source.notes.notes)
    fun fault _ => DiskFault { left with supply := supply } fault ∧ left.layout.backsUpOnOpen = true

/-- The exchange package of a notebook is that of another one. -/
def HasPackageOf (notebook source : Notebook) : Prop :=
  notebook.disk.octets? notebook.layout.packagePath =
    source.disk.octets? source.layout.packagePath

/-- A copy of what a notebook holds mirrors that notebook. -/
theorem Copied.mirrors {source : Notebook} (h : Copied source.notes left) (hstanding : left.Standing)
    (hunchanged : ∀ (id : String) (note : Note), source.notes.get? id = some note →
      Sync.localChange note = false) : Mirrors source left where
  notes := h.notes
  unchanged := fun id note hfound => hunchanged id note (by rwa [Store.get?, ← h.notes])
  clock := h.clock
  reopens := fun supply => h.notes ▸ hstanding.reopens h.saved h.trash_diff supply

/-- Whoever has opened a notebook and lets the package of an export replace its notes mirrors the
notebook that was exported, and so does whoever has no notes, none of the exported ones in the trash
and no export that is not known to that notebook, and merges the package. Nothing of this fails but
where the disk does not take a file. -/
theorem export_is_copied {layout : Layout} {disk : Disk} {supply : Supply} {source : Notebook}
    (hopens : openStores.fault? (unread layout disk supply) = none)
    (hreached : Reached layout disk supply source)
    (hstorable : ∀ (id : String) (note : Note), source.notes.get? id = some note →
      ∃ blank, Note.ofRecord? blank note.record = some note)
    (hclocks : source.notes.ClocksInRange)
    (hentry : Package.Archive.extract? Layout.snapshotName source.exported.package =
      some ⟨Text.encode source.exported.text, true⟩) :
    exportPackage.Meets source
      (fun _ exported =>
        (∀ id, exported.notes.get? id = (source.notes.get? id).map fun note =>
          { note with exportVersion := source.notes.clock }) ∧
        (∀ (id : String) (note : Note), exported.notes.get? id = some note →
          Sync.localChange note = false) ∧
        ∀ (layout : Layout) (disk : Disk) (supply : Supply) (target : Notebook),
          openStores.fault? (unread layout disk supply) = none →
          Reached layout disk supply target → target.HasPackageOf exported →
          target.notes.ClocksInRange →
          (importPackage .replace).Meets target (fun _ => Mirrors exported)
              (fun fault _ => target.DiskFault fault) ∧
            (target.notes.notes = ∅ → (∀ id, exported.notes.Has id → ¬ target.trash.Has id) →
              target.notes.exportClock ≤ exported.notes.importClock →
              (importPackage .merge).Meets target (fun _ => Mirrors exported)
                fun fault _ => target.DiskFault fault))
      fun fault _ => source.DiskFault fault := by
  have hsource := hreached.standing hopens
  have hnotes (id : String) (note : Note) (hfound : source.notes.get? id = some note) :
      note.Storable := by
    obtain ⟨blank, hread⟩ := hstorable id note hfound
    exact (Note.of_record_iff blank).1 hread
  have hnamed : source.notes.Named :=
    fun id note hfound => ⟨(hnotes id note hfound).name_ne, (hnotes id note hfound).folder_ne⟩
  have hremote := exported_storable hclocks hnotes
  have hkeyed : source.exported.Keyed := hsource.notes_keyed.with_defaults.stamp_export.saved
  have hunchanged := exported_unchanged hnamed hsource.capped
  refine (export_writes hsource.toRooted).mono (fun _ exported hexported => ?_)
    fun _ _ hfault => hfault
  obtain ⟨hsaved, hpacked⟩ := hexported
  have hleft : exported.notes = source.exported := hsaved.notes_eq
  rw [← hleft] at hremote hkeyed hunchanged hentry
  refine ⟨fun id => by rw [hleft, get_exported hnamed], hunchanged,
    fun layout disk supply target hopens hreached hpackage hrange => ?_⟩
  have htarget := hreached.standing hopens
  have hpackaged : target.Packaged exported.notes.text := by
    refine ⟨exported.notes.package, _, ?_, hentry, rfl, Text.decode_encode _⟩
    rw [hpackage, hsaved.stay.layout, hpacked, ← hleft]
    rfl
  have hmirrors (mode : ImportMode) (hcopied : (importPackage mode).Meets target
      (fun _ left => Copied exported.notes left) fun fault _ => target.DiskFault fault) :
      (importPackage mode).Meets target (fun _ => Mirrors exported)
        fun fault _ => target.DiskFault fault :=
    (hcopied.and (Standing.import_keeps mode target htarget)).mono
      (fun _ _ hleft => hleft.1.mirrors hleft.2 hunchanged) fun _ _ hfault => hfault.1
  exact ⟨hmirrors _ (replace_copies htarget.toRooted hremote hkeyed hpackaged hrange.clock),
    fun hempty htrash hfresh =>
      hmirrors _ (merge_copies htarget.toRooted hremote hkeyed hpackaged hrange hempty htrash hfresh)⟩

/-! ## Examples -/

/-- A new notebook to which the package of another one has been brought. -/
def receiver : Notebook :=
  (Operation.receive exportedOnce.notes.package).perform.after (empty 'j')

/-- A notebook that was exported while it held nothing, has been opened again since, and to which the
package of another one has been brought. -/
def forgetful : Notebook :=
  (Operation.receive exportedOnce.notes.package).perform.after
    (Operation.reopen.perform.after (Operation.exportPackage.perform.after (empty 'j')))

/-- What is needed of the notebook that is exported in the examples. -/
theorem before_export_eq :
    beforeExport.notes.Storable ∧ Decimal.InRange beforeExport.notes.clock ∧
      beforeExport.notes.importClock = -1 ∧ beforeExport.notes.Has "i" ∧
      beforeExport.exported.Packable ∧ exportPackage.fault? beforeExport = none := by
  decide +kernel

/-- The notebook that is exported in the examples has been opened and worked on. -/
theorem before_export_reached :
    Reached (.inFolder "notes") .empty (.strokes 'i') beforeExport :=
  .performed (.note (.create { name := "X" })) _ .opened

/-- What the export leaves and packs in the examples. -/
theorem exported_once_eq :
    exportedOnce.notes = beforeExport.exported ∧
      exportedOnce.disk.octets? exportedOnce.layout.packagePath =
        some exportedOnce.notes.package := by
  have hstanding := before_export_reached.standing (empty_opened (by decide)).1
  obtain ⟨hsaved, hpacked⟩ :=
    (export_writes hstanding.toRooted).after_of_none before_export_eq.2.2.2.2.2
  have hleft : exportedOnce.notes = beforeExport.exported := hsaved.notes_eq
  have hlayout : exportedOnce.layout = beforeExport.layout := hsaved.stay.layout
  refine ⟨hleft, ?_⟩
  rw [hlayout, hleft]
  exact hpacked

/-- A new notebook mirrors another one by either import of what that one has exported. -/
theorem new_notebook_copies_export :
    exportPackage.fault? beforeExport = none ∧ exportedOnce.notes.Has "i" ∧
      (importPackage .replace).Meets receiver (fun _ => Mirrors exportedOnce) (fun _ _ => False) ∧
      (importPackage .merge).Meets receiver (fun _ => Mirrors exportedOnce) fun _ _ => False := by
  obtain ⟨hstorable, hclock, himport, hhas, hpackable, hnone⟩ := before_export_eq
  obtain ⟨hleft, hpacked⟩ := exported_once_eq
  have hnew : New (empty 'j') := empty_new (by decide)
  obtain ⟨hget, -, hcopies⟩ := (export_is_copied (empty_opened (by decide)).1 before_export_reached
    (fun id note hfound => ⟨.blank .tally, (hstorable.notes id note hfound).of_record _⟩)
    ⟨hclock, hstorable.export_range, hstorable.import_range⟩
    hpackable.extract).after_of_none hnone
  obtain ⟨-, hready, hnotes, htrash, hoctets⟩ := hnew.ready.1.receives exportedOnce.notes.package
  have hreceiver_notes : receiver.notes = (empty 'j').notes := hnotes
  have hreceiver_trash : receiver.trash = (empty 'j').trash := htrash
  obtain ⟨hexport_clock, himport_clock, hnew_clock, -⟩ := hnew.clocks
  have hrange : receiver.notes.ClocksInRange := by
    rw [hreceiver_notes]
    exact ⟨hnew_clock ▸ by decide, hexport_clock ▸ by decide, himport_clock ▸ by decide⟩
  obtain ⟨hreplace, hmerge⟩ := hcopies (.inFolder "notes") .empty (.strokes 'j') receiver
    (empty_opened (by decide)).1 (.performed (.receive _) _ .opened) (hoctets.trans hpacked.symm)
    hrange
  have hsucceeds {mode : ImportMode} (h : (importPackage mode).Meets receiver
      (fun _ => Mirrors exportedOnce) fun fault _ => receiver.DiskFault fault) :
      (importPackage mode).Meets receiver (fun _ => Mirrors exportedOnce) fun _ _ => False :=
    h.mono (fun _ _ hleft => hleft) fun _ _ hfault => hfault.2 hready.willing
  refine ⟨hnone, ?_, hsucceeds hreplace, hsucceeds (hmerge ?_ ?_ ?_)⟩
  · have hkept := congrArg Option.isSome (hget "i")
    rw [Option.isSome_map] at hkept
    exact hkept.trans hhas
  · rw [hreceiver_notes]
    exact hnew.ready.2.1.notes
  · rw [hreceiver_trash]
    exact fun id _ htrashed => hnew.unused id (.inr htrashed)
  · have hclocks : exportedOnce.notes.importClock = -1 := by
      rw [hleft, beforeExport.exported_clocks.2.2, himport]
    rw [hreceiver_notes, hexport_clock]
    exact Int.le_of_eq hclocks.symm

/-- A store that was exported while it held nothing can be held by a file and holds nothing. -/
theorem empty_stamped_eq :
    ({} : Store).withDefaults.stampExport.withDefaults.Storable ∧
      ({} : Store).withDefaults.stampExport.withDefaults.notes = ∅ ∧
      ({} : Store).withDefaults.Storable ∧ ({} : Store).withDefaults.notes = ∅ := by
  decide +kernel

/-- A notebook that was exported while it held nothing, and that has been opened again since, refuses
to merge what another one has exported without having imported that. -/
theorem empty_refuses_package :
    exportPackage.fault? beforeExport = none ∧ beforeExport.notes.Storable ∧
      Reached (.inFolder "notes") .empty (.strokes 'j') forgetful ∧ forgetful.Willing ∧
      forgetful.HasPackageOf exportedOnce ∧ forgetful.notes.notes = ∅ ∧
      forgetful.trash.notes = ∅ ∧ (importPackage .merge).fault? forgetful = some (.stale 1 (-1)) := by
  obtain ⟨hstorable, hclock, himport, -, hpackable, hnone⟩ := before_export_eq
  obtain ⟨hleft, hpacked⟩ := exported_once_eq
  obtain ⟨hfits, hno_notes, hfits_trash, hno_trash⟩ := empty_stamped_eq
  have hnew : New (empty 'j') := empty_new (by decide)
  have hexported := hnew.ready.1.export_succeeds.1
  have hstamped := hnew.ready.2.1.with_defaults.stamp_export.with_defaults.trans hexported.notes
  have hstamped_trash := hnew.ready.2.2.with_defaults.trans hexported.trash
  have hexported_ready := hnew.ready.1.settle hexported.settles
    ⟨hstamped.storable hfits, hstamped_trash.storable hfits_trash⟩
  obtain ⟨-, hopened_ready, hstores, -⟩ := hexported_ready.reopens
  obtain ⟨-, hready, hnotes, htrash, hoctets⟩ := hopened_ready.receives exportedOnce.notes.package
  have hnotes : forgetful.notes = (reopen.after (exportPackage.after (empty 'j'))).notes := hnotes
  have htrash : forgetful.trash = (reopen.after (exportPackage.after (empty 'j'))).trash := htrash
  have hexport_clock : forgetful.notes.exportClock = 1 := by
    rw [hnotes, hstores.notes]
    exact hexported.clocks.1.trans hnew.clocks.2.2.1
  have himport_clock : exportedOnce.notes.importClock = -1 := by
    rw [hleft, beforeExport.exported_clocks.2.2, himport]
  have hremote : exportedOnce.notes.Storable := by
    rw [hleft]
    exact exported_storable ⟨hclock, hstorable.export_range, hstorable.import_range⟩
      fun id note hfound => hstorable.notes id note hfound
  have hkeyed : exportedOnce.notes.Keyed := by
    rw [hleft]
    exact (before_export_reached.standing
      (empty_opened (by decide)).1).notes_keyed.with_defaults.stamp_export.saved
  rw [← hleft] at hpackable
  have hpackaged : forgetful.Packaged exportedOnce.notes.text :=
    ⟨_, _, hoctets, hpackable.extract, rfl, Text.decode_encode _⟩
  have hready : forgetful.Ready := hready
  refine ⟨hnone, hstorable, .performed (.receive _) _ (.performed .reopen _
    (.performed .exportPackage _ .opened)), hready.willing, hoctets.trans hpacked.symm, ?_, ?_, ?_⟩
  · rw [hnotes, hstores.notes]
    exact hstamped.notes.trans hno_notes
  · rw [htrash, hstores.trash]
    exact hstamped_trash.notes.trans hno_trash
  · have hrefused := merge_import_refused hready.durable hready.willing hremote hkeyed hpackaged
      (by rw [hexport_clock, himport_clock]; decide)
    rw [hrefused, hexport_clock, himport_clock]

end Notebook

end Notekeeper
