import Notekeeper.Proofs.Notebook.Durability
import Notekeeper.Proofs.Package.Archive
import Notekeeper.Proofs.Sync.Outcome

/-!
# What comes of a package that another replica exported

A package made of a store brings that store to whoever receives it (`Notebook.take_in_meets`). Its
merge fails only because the package is stale, and otherwise leaves what the merge of that store
makes of the stores. With this, what is exchanged can be told without files, packages and texts.
-/

namespace Notekeeper

namespace Store

/-- A store as it is read from its own text. -/
def asRead (store : Store) : Store where
  notes := store.notes
  clock := store.rebuiltClock
  exportClock := store.exportClock
  importClock := store.importClock
  fullSaveDue := true

/-- The text of a store is short enough for a package. -/
def Packable (store : Store) : Prop :=
  (Text.encode store.text).size < 2 ^ 32 - 64

instance (store : Store) : Decidable store.Packable :=
  inferInstanceAs (Decidable (_ < _))

/-- The package of a store. -/
def package (store : Store) : ByteArray :=
  Package.Archive.pack Layout.snapshotName (Text.encode store.text)

/-- The text of a store is taken out of its package. -/
theorem Packable.extract {store : Store} (h : store.Packable) :
    Package.Archive.extract? Layout.snapshotName store.package =
      some ⟨Text.encode store.text, true⟩ :=
  Package.Archive.extract_pack _ _ (by decide +kernel) h

end Store

namespace Notebook

variable {notebook left : Notebook} {remotes : Store} {report : Sync.Report}

/-- The text of a store is read as the store. -/
theorem snapshot_of_text {store : Store} (h : store.Storable) (hkeyed : store.Keyed)
    (supply : Supply) : snapshotOf store.text supply = store.asRead := by
  have hread := Store.read_text_of store h.mem_all h.export_range h.import_range
    (Store.requireFullSave {}) supply
  have hoverlay := Store.overlay_all hkeyed fun note hmem => (h.mem_all note hmem).with_defaults
  rw [snapshotOf, Store.text, hread, Store.foldl_restore_eq _ _ rfl]
  simp only [Store.requireFullSave, Store.withClocks, hoverlay]
  rfl

/-- A package is received and merged. -/
def takeIn (package : ByteArray) : Attempt Notebook Unit := do
  receive package
  let _ ← importPackage .merge

/-- What a merge of a store leaves. -/
structure Merged (notebook : Notebook) (remote : Store) (left : Notebook) : Prop where
  settles : SettlesTo notebook left
  fresh : notebook.notes.exportClock ≤ remote.importClock
  stores : ∃ supply, notebook.supply.LeadsTo supply ∧
    (merging notebook remote.asRead supply).supply.LeadsTo left.supply ∧
    (merging notebook remote.asRead supply).locals.withDefaults.Alike left.notes ∧
    (merging notebook remote.asRead supply).trash.withDefaults.Alike left.trash

/-- A store has been merged into a notebook, with a report. -/
structure Absorbed (notebook : Notebook) (remotes : Store) (report : Sync.Report)
    (left : Notebook) : Prop where
  settles : SettlesTo notebook left
  fresh : notebook.notes.exportClock ≤ remotes.importClock
  stores : ∃ supply, notebook.supply.LeadsTo supply ∧
    (merging notebook remotes supply).supply.LeadsTo left.supply ∧
    report = (merging notebook remotes supply).report ∧
    (merging notebook remotes supply).locals.withDefaults.Alike left.notes ∧
    (merging notebook remotes supply).trash.withDefaults.Alike left.trash

/-- A merge of the package of a store is one of the store. -/
theorem Merged.absorbed {remote : Store} (h : Merged notebook remote left) :
    ∃ report, Absorbed notebook remote.asRead report left := by
  obtain ⟨hsettles, hfresh, supply, hsupply, hlater, hnotes, htrash⟩ := h
  exact ⟨_, hsettles, hfresh, supply, hsupply, hlater, rfl, hnotes, htrash⟩

/-- What is left where a store is refused because it is stale. -/
structure Refused (notebook : Notebook) (remote : Store) (left : Notebook) : Prop where
  settles : SettlesTo notebook left
  stale : remote.importClock < notebook.notes.exportClock
  notes : notebook.notes.withDefaults.Alike left.notes
  trash : notebook.trash.withDefaults.Alike left.trash

/-- A snapshot passes the check if its import clock is not below the export clock. -/
theorem check_import_iff (locals remotes : Store) :
    (Sync.checkImport locals remotes = .ok () ↔ locals.exportClock ≤ remotes.importClock) ∧
      ∀ fault, Sync.checkImport locals remotes = .error fault ↔
        remotes.importClock < locals.exportClock ∧
          fault = .stale locals.exportClock remotes.importClock := by
  unfold Sync.checkImport
  split
  next hstale =>
    refine ⟨by simp [hstale], fun fault => ?_⟩
    simp [hstale, eq_comm]
  next hfresh => simp_all

/-- What a merge leaves to be saved as a whole is saved as it is. -/
theorem alike_saved_due (store : Store) :
    store.withDefaults.Alike store.requireFullSave.withDefaults.saved := by
  have halike := store.requireFullSave.withDefaults.alike_saved
  rw [Store.with_defaults_idem] at halike
  exact ⟨halike.notes, halike.clock, halike.export_clock, halike.import_clock⟩

/-- An import of a package that holds the text of a store takes that store in. Before that it fails
only where the disk does not take a file. -/
theorem take_packaged_meets {remote : Store} (h : notebook.Rooted) (hremote : remote.Storable)
    (hkeyed : remote.Keyed) (hpackage : notebook.Packaged remote.text) (mode : ImportMode)
    {success : Option Sync.Report → Notebook → Prop} {failure : Fault → Notebook → Prop}
    (hrefused : ∀ fault left, notebook.DiskFault fault → failure fault left)
    (habsorb : ∀ middle, Unpacked notebook remote.text remote.asRead middle →
      (absorb mode remote.asRead).Meets middle success failure) :
    (takeImport mode).Meets notebook success failure := by
  refine take_import_meets h mode hrefused (fun fault left _ hcause => ?_)
    fun text remotes middle hunpacked => ?_
  · rcases hcause with ⟨hfault, hnot⟩ | hnone
    · exact hrefused fault left ⟨hfault, fun hwilling => hnot hwilling _ hpackage⟩
    · obtain ⟨octets, extraction, hoctets, hextract, -⟩ := hpackage
      rw [hnone octets hoctets] at hextract
      cases hextract
  · obtain rfl := hunpacked.package.unique hpackage
    obtain ⟨reading, hremotes⟩ := hunpacked.remotes
    rw [snapshot_of_text hremote hkeyed] at hremotes
    subst hremotes
    exact habsorb middle hunpacked

/-- A package that holds the text of a store is merged as that store, unless it is stale. -/
theorem merge_import_meets {remote : Store} (h : notebook.Durable) (hwilling : notebook.Willing)
    (hremote : remote.Storable) (hkeyed : remote.Keyed) (hpackage : notebook.Packaged remote.text) :
    (importPackage .merge).Meets notebook (fun _ => Merged notebook remote)
      fun fault left => fault = .stale notebook.notes.exportClock remote.importClock ∧
        Refused notebook remote left := by
  have hexport : notebook.notes.saved.exportClock = notebook.notes.exportClock :=
    (Store.saved_eq _).2.2.2.1
  unfold importPackage
  simp only [Attempt.meets_bind, Attempt.meets_pure]
  refine take_packaged_meets h.kept.rooted hremote hkeyed hpackage .merge
    (fun fault left hfault => absurd hwilling hfault.2) fun middle hunpacked => ?_
  obtain ⟨haccept, hrefuse⟩ := check_import_iff notebook.notes.saved remote.asRead
  refine (absorb_merge_meets h.kept.rooted hunpacked).mono (fun report merged hmerged => ?_)
    fun fault left hleft => ?_
  · obtain ⟨hdue, hstay, hcheck, supply, hsupply, hlater, -, hnotes, htrash⟩ := hmerged
    refine (save_meets hdue.kept).mono (fun _ left hleft => ?_)
      fun _ _ hfault => absurd (hstay.willing hwilling) hfault.2
    obtain ⟨hfiles, hleft_notes, hleft_trash, hsettled⟩ := hleft
    refine ⟨⟨hsettled, hstay.trans (hfiles.mono (by simp))⟩, ?_, supply, hsupply, ?_, ?_, ?_⟩
    · have hfresh := haccept.1 hcheck
      rwa [hexport] at hfresh
    · exact hlater.trans hfiles.supply
    · rw [hleft_notes, hnotes]
      exact alike_saved_due _
    · rw [hleft_trash, htrash]
      exact alike_saved_due _
  · rcases hleft with hfault | ⟨rfl, hcheck⟩
    · exact absurd hwilling hfault.2
    · obtain ⟨hstale, rfl⟩ := (hrefuse fault).1 hcheck
      rw [hexport] at hstale ⊢
      refine ⟨rfl, hunpacked.saved.settles_to h.kept, hstale, ?_, ?_⟩
      · rw [hunpacked.saved.notes_eq]
        exact Store.alike_saved _
      · rw [hunpacked.saved.trash_eq]
        exact Store.alike_saved _

/-- A package that is stale is refused. -/
theorem merge_import_refused {remote : Store} (h : notebook.Durable) (hwilling : notebook.Willing)
    (hremote : remote.Storable) (hkeyed : remote.Keyed) (hpackage : notebook.Packaged remote.text)
    (hstale : remote.importClock < notebook.notes.exportClock) :
    (importPackage .merge).fault? notebook =
      some (.stale notebook.notes.exportClock remote.importClock) := by
  have hmerge := Attempt.meets_iff.1 (merge_import_meets h hwilling hremote hkeyed hpackage)
  cases hfault : (importPackage .merge).fault? notebook with
  | none =>
      rw [hfault] at hmerge
      exact absurd hmerge.fresh (Int.not_le.2 hstale)
  | some fault =>
      rw [hfault] at hmerge
      rw [hmerge.1]

/-- A package of a store that is received is merged as that store, unless it is stale. -/
theorem take_in_meets {remote : Store} (h : notebook.Durable) (hwilling : notebook.Willing)
    (hremote : remote.Storable) (hkeyed : remote.Keyed) (hpackable : remote.Packable) :
    (takeIn remote.package).Meets notebook (fun _ => Merged notebook remote)
      fun fault left => fault = .stale notebook.notes.exportClock remote.importClock ∧
        Refused notebook remote left := by
  unfold takeIn
  simp only [Attempt.meets_bind, Attempt.meets_pure]
  refine (receive_meets remote.package).mono (fun _ received hreceived => ?_)
    fun _ _ hfault => absurd hwilling hfault.2
  obtain ⟨hfiles, hnotes, htrash, hoctets⟩ := hreceived
  have hpackaged : received.Packaged remote.text := by
    refine ⟨remote.package, _, ?_, hpackable.extract, rfl, Text.decode_encode _⟩
    rw [hfiles.layout]
    exact hoctets
  have hstay : FilesStay [] notebook received := hfiles.mono (by simp)
  have hmerge := merge_import_meets (h.of_files_stay hfiles hnotes htrash)
    (hfiles.willing hwilling) hremote hkeyed hpackaged
  rw [hnotes] at hmerge
  refine hmerge.mono (fun _ left hleft => ?_) fun fault left hleft => ?_
  · obtain ⟨⟨hsettled, hrest⟩, hfresh, supply, hsupply, hlater, hleft_notes, hleft_trash⟩ := hleft
    rw [merging, hnotes, htrash] at hlater hleft_notes hleft_trash
    rw [hnotes] at hfresh
    exact ⟨⟨hsettled, hstay.trans hrest⟩, hfresh, supply, hstay.supply.trans hsupply, hlater,
      hleft_notes, hleft_trash⟩
  · obtain ⟨hfault, ⟨hsettled, hrest⟩, hstale, hleft_notes, hleft_trash⟩ := hleft
    rw [hnotes] at hstale hleft_notes
    rw [htrash] at hleft_trash
    exact ⟨hfault, ⟨hsettled, hstay.trans hrest⟩, hstale, hleft_notes, hleft_trash⟩

/-- A merge leaves the export clock alone, takes the own clock or the export clock of the other store,
whichever is higher, for its import clock, and never turns the own clock back. -/
theorem Absorbed.clocks (h : Absorbed notebook remotes report left) :
    left.notes.exportClock = notebook.notes.exportClock ∧
      left.notes.importClock = max notebook.notes.clock remotes.exportClock ∧
      max notebook.notes.clock remotes.exportClock ≤ left.notes.clock := by
  obtain ⟨-, -, supply, -, -, -, hnotes, -⟩ := h
  have haccepted :
      (notebook.notes.saved.acceptImport remotes.exportClock).exportClock =
          notebook.notes.exportClock ∧
        (notebook.notes.saved.acceptImport remotes.exportClock).importClock =
          max notebook.notes.clock remotes.exportClock ∧
        max notebook.notes.clock remotes.exportClock ≤
          (notebook.notes.saved.acceptImport remotes.exportClock).clock := by
    obtain ⟨-, -, hclock, hexport, -⟩ := notebook.notes.saved_eq
    simp [Store.acceptImport, Store.raiseClock, hclock, hexport]
  have hkeeps := (Sync.merge_keeps
    (fun store => store.exportClock = notebook.notes.exportClock ∧
      store.importClock = max notebook.notes.clock remotes.exportClock ∧
      max notebook.notes.clock remotes.exportClock ≤ store.clock)
    (fun _ => True)
    (fun store note hstore => ⟨hstore.1, hstore.2.1,
      Int.le_trans hstore.2.2 (Int.le_max_left store.clock note.version)⟩)
    (fun store note hstore => ⟨hstore.1, hstore.2.1, by simp only [Store.add]; omega⟩)
    (fun store id hstore => ⟨hstore.1, hstore.2.1, by simp only [Store.without]; omega⟩)
    (fun _ _ _ => trivial) (fun _ _ _ => trivial) _ notebook.trash.saved remotes haccepted trivial
    supply).1
  rw [hnotes.export_clock, hnotes.import_clock, hnotes.clock]
  exact hkeeps

/-- A merge of the package of a store leaves the clocks that a merge of the store leaves. -/
theorem Merged.clocks {remote : Store} (h : Merged notebook remote left) :
    left.notes.exportClock = notebook.notes.exportClock ∧
      left.notes.importClock = max notebook.notes.clock remote.exportClock ∧
      max notebook.notes.clock remote.exportClock ≤ left.notes.clock :=
  h.absorbed.elim fun _ habsorbed => habsorbed.clocks

/-- What a merge leaves of the notes of an id that is no token still to come. -/
theorem Merged.get {remote : Store} (h : Merged notebook remote left) (hdurable : notebook.Durable)
    (hkeyed : remote.Keyed) {id : String} (havoids : notebook.supply.Avoids id) :
    left.notes.get? id =
      Sync.outcome (notebook.notes.get? id) (remote.get? id) (notebook.trash.contains id)
        notebook.notes.exportClock := by
  obtain ⟨-, -, supply, hsupply, -, hnotes, -⟩ := h
  have hstorable := hdurable.notes.storable
  have hlocals := hstorable.alike_saved.accept_import remote.exportClock
  have htrash := hdurable.trash.storable.alike_saved
  have haccepted : (notebook.notes.saved.acceptImport remote.exportClock).Keyed :=
    hdurable.notes.keyed.saved
  have hread : remote.asRead.Keyed := hkeyed
  have hmerged : (merging notebook remote.asRead supply).locals.get? id =
      Sync.outcome (notebook.notes.get? id) (remote.get? id) (notebook.trash.contains id)
        notebook.notes.exportClock :=
    calc (merging notebook remote.asRead supply).locals.get? id
      _ = Sync.outcome ((notebook.notes.saved.acceptImport remote.exportClock).get? id)
            (remote.asRead.get? id) (notebook.trash.saved.contains id)
            (notebook.notes.saved.acceptImport remote.exportClock).exportClock :=
          Sync.get_merge haccepted hread (havoids.leads_to hsupply)
      _ = _ := by
          rw [hlocals.get_eq, htrash.contains_eq, hlocals.export_clock]
          rfl
  rw [Store.get?, hnotes.notes, Store.get_with_defaults, ← Store.get?, hmerged]
  exact Sync.outcome_with_defaults
    (fun note hfound => (hstorable.notes id note hfound).with_defaults) _ _

/-- What holds of all notes on both sides, and of no note that counts as changed here, holds of all
notes that a merge leaves. -/
theorem Merged.of_unchanged {remote : Store} (h : Merged notebook remote left)
    (hdurable : notebook.Durable) (kept : Note → Prop)
    (hdefaults : ∀ note, kept note → kept note.withDefaults)
    (hunchanged : ∀ note, kept note → Sync.localChange note = false)
    (hlocals : ∀ (id : String) (note : Note), notebook.notes.get? id = some note → kept note)
    (hremotes : ∀ (id : String) (note : Note), remote.get? id = some note → kept note) (id : String)
    (note : Note) (hfound : left.notes.get? id = some note) : kept note := by
  obtain ⟨-, -, supply, -, -, hnotes, -⟩ := h
  rw [Store.get?, hnotes.notes, Store.get_with_defaults, Option.map_eq_some_iff] at hfound
  obtain ⟨merged, hmerged, rfl⟩ := hfound
  refine hdefaults merged (Sync.merge_of_unchanged hdefaults hunchanged ?_ ?_ supply id merged hmerged)
  · intro other here hhere
    exact hlocals other here ((hdurable.notes.storable.alike_saved.get_eq other).symm.trans hhere)
  · intro there hmem
    obtain ⟨other, hthere⟩ := Store.mem_all.1 hmem
    exact hremotes other there hthere

end Notebook

end Notekeeper
