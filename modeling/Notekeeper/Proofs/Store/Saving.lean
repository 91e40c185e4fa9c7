import Notekeeper.Proofs.Disk.Frame
import Notekeeper.Proofs.Store.Basic
import Notekeeper.Proofs.Store.Reading
import Notekeeper.Store.Saving

/-!
# Saved stores are loaded as they were

A store is `Tracked` if its touched notes tell all in which it differs from its main file, unless a
save of everything is due; every change of a store keeps that. A save of a tracked store makes it
`Saved` (`Store.save_writes`, `Store.Written.saved`): its two files together hold it. Loading a saved
store gives it back (`Store.load_meets`).
-/

namespace Notekeeper

namespace Store

/-- The store that a save leaves in memory. -/
def saved (store : Store) : Store :=
  if store.withDefaults.savesDiff then store.withDefaults else store.withDefaults.settled

/-- The text in the diff file of a saved store. -/
def diffText (store : Store) : String :=
  if store.touched.isEmpty then "" else store.touchedText

/-- A store as the main file at a path holds it. -/
structure MainFile (base : Store) (disk : Disk) (path : String) : Prop where
  keyed : base.Keyed
  storable : base.Storable
  octets : disk.octets? path = some (Text.encode base.text)

/-- A store differs from another in touched notes alone, which have higher versions in it. -/
structure DiffersInTouched (base store : Store) : Prop where
  export_clock : store.exportClock = base.exportClock
  import_clock : store.importClock = base.importClock
  touched : ∀ id ∈ store.touched, id ∈ store.notes
  others : ∀ id : String, id ∉ store.touched → store.notes[id]? = base.notes[id]?
  versions : ∀ (id : String) (old note : Note), base.notes[id]? = some old →
    store.notes[id]? = some note → old.version ≤ note.version

/-- The touched notes of a store tell all in which it differs from its main file, unless a save of
everything is due or the store has never held anything. -/
structure Tracked (store : Store) (disk : Disk) (path : String) : Prop where
  path_eq : store.path? = some path
  keyed : store.Keyed
  main : store.fullSaveDue = false → (store.notes = ∅ ∧ store.touched = ∅) ∨
    ∃ base, MainFile base disk path ∧ DiffersInTouched base store

/-- The files of a store hold it: there is none yet for a store that has never held anything, and
otherwise the diff file holds what is not as in the main file. -/
inductive InFiles (store : Store) (disk : Disk) (path : String) : Prop
  | unwritten (hnotes : store.notes = ∅) (hexport : store.exportClock = -1)
      (himport : store.importClock = -1) (htouched : store.touched = ∅)
      (hfile : disk.octets? path = none)
  | written (base : Store) (hmain : MainFile base disk path) (hdiffers : DiffersInTouched base store)
      (hdiff : disk.octets? (diffPath path) = some (Text.encode store.diffText))

/-- A store that its files hold and that nothing has changed since. -/
structure Saved (store : Store) (disk : Disk) (path : String) : Prop where
  path_eq : store.path? = some path
  keyed : store.Keyed
  storable : store.Storable
  settled : store.fullSaveDue = false
  files : InFiles store disk path

variable {store : Store} {disk later : Disk} {path : String}

/-- The touched notes tell all in which a saved store differs from its main file. -/
theorem Saved.tracked (h : store.Saved disk path) : store.Tracked disk path := by
  refine ⟨h.path_eq, h.keyed, fun _ => ?_⟩
  cases h.files with
  | unwritten hnotes _ _ htouched => exact .inl ⟨hnotes, htouched⟩
  | written base hmain hdiffers _ => exact .inr ⟨base, hmain, hdiffers⟩

/-- A store is tracked as long as its main file stays. -/
theorem Tracked.of_same_file (h : store.Tracked disk path)
    (hfile : later.octets? path = disk.octets? path) : store.Tracked later path := by
  refine ⟨h.path_eq, h.keyed, fun hdue => ?_⟩
  rcases h.main hdue with hnothing | ⟨base, hmain, hdiffers⟩
  · exact .inl hnothing
  · exact .inr ⟨base, ⟨hmain.keyed, hmain.storable, hfile.trans hmain.octets⟩, hdiffers⟩

/-- A store stays saved as long as its files stay. -/
theorem Saved.of_same_files (h : store.Saved disk path)
    (hfile : later.octets? path = disk.octets? path)
    (hdiff : later.octets? (diffPath path) = disk.octets? (diffPath path)) :
    store.Saved later path := by
  refine ⟨h.path_eq, h.keyed, h.storable, h.settled, ?_⟩
  cases h.files with
  | unwritten hnotes hexport himport htouched hnone =>
      exact .unwritten hnotes hexport himport htouched (hfile.trans hnone)
  | written base hmain hdiffers hwritten =>
      exact .written base ⟨hmain.keyed, hmain.storable, hfile.trans hmain.octets⟩ hdiffers
        (hdiff.trans hwritten)

/-! ## Saving -/

/-- The paths of the main file and the diff file lead to different files. -/
theorem apart_diff_path (h : 2 < (Path.lastName path).length) :
    Disk.Apart path (diffPath path) := by
  have hslash : '/' ∉ (".diffnew" : String).toList := by decide
  have hname := Path.last_name_append path hslash
  have hlength : (".diffnew" : String).toList.length = 8 := rfl
  refine ⟨h, ?_, ?_⟩
  · rw [diffPath, hname, List.length_append]
    omega
  · rw [diffPath, hname]
    simp

/-- Defaults change neither the clocks nor what is touched. -/
theorem DiffersInTouched.with_defaults {base : Store} (hbase : base.Storable)
    (h : DiffersInTouched base store) : DiffersInTouched base store.withDefaults := by
  refine ⟨h.export_clock, h.import_clock, fun id hmem => ?_, fun id hnot => ?_,
    fun id old note hold hnote => ?_⟩
  · simpa [withDefaults, editAll] using h.touched id hmem
  · rw [get_with_defaults, h.others id hnot]
    cases hfound : base.notes[id]? with
    | none => rfl
    | some note => simp [(hbase.notes id note hfound).with_defaults]
  · rw [get_with_defaults, Option.map_eq_some_iff] at hnote
    obtain ⟨found, hfound, rfl⟩ := hnote
    exact h.versions id old found hold hfound

/-- A store differs in nothing from itself, once it is remembered as written. -/
theorem DiffersInTouched.of_settled (store : Store) : DiffersInTouched store store.settled :=
  ⟨rfl, rfl, by simp [Store.settled], fun _ _ => rfl, fun _ old note hold hnote => by
    obtain rfl := Option.some.inj (hold.symm.trans hnote)
    exact Int.le_refl _⟩

/-- Only a store with touched notes is saved by its diff file. -/
theorem touched_of_saves_diff (h : store.savesDiff = true) :
    store.fullSaveDue = false ∧ store.touched ≠ ∅ := by
  simp only [savesDiff, Bool.and_eq_true, Bool.not_eq_true'] at h
  refine ⟨h.1.1, ?_⟩
  simpa [Std.ExtTreeSet.isEmpty_iff] using h.1.2

/-- What a save of a store has made of its files. The diff file tells what the touched notes are, and
the main file is as it was if they are all that had to be written. -/
structure Written (store : Store) (disk later : Disk) (path : String) : Prop where
  main : later.octets? path = if store.withDefaults.savesDiff then disk.octets? path else
    some (Text.encode store.saved.text)
  diff : later.octets? (diffPath path) = some (Text.encode store.saved.diffText)

/-- A save writes the files of the store and no others, and fails only where the disk does not take
one of them. -/
theorem save_writes (hproper : 2 < (Path.lastName path).length) (hpath : store.path? = some path)
    (disk : Disk) (supply : Supply) :
    save.Meets ⟨store, disk, supply⟩
      (fun _ left => left.store = store.saved ∧ left.supply = supply ∧
        disk.SameFolders left.disk ∧ store.Written disk left.disk path ∧
        ∀ other, Disk.Apart path other → Disk.Apart (diffPath path) other →
          left.disk.octets? other = disk.octets? other)
      fun fault _ => fault = .disk ∧ ¬ (disk.Takes path ∧ disk.Takes (diffPath path)) := by
  have hdefaults : store.withDefaults.path? = some path := hpath
  have happart := apart_diff_path hproper
  unfold save
  simp only [Shelf.change, Shelf.getStore, Attempt.meets_bind, Attempt.meets_modify,
    Attempt.meets_get, Attempt.meets_pure, hdefaults, Shelf.onDisk]
  cases hdiff : store.withDefaults.savesDiff with
  | true =>
      have hsaved : store.saved = store.withDefaults := by simp [saved, hdiff]
      simp only [if_true, Attempt.meets_bind, Attempt.meets_within, Attempt.meets_pure]
      refine (Disk.write_meets _ _ _).mono (fun _ left hleft => ?_)
        fun _ _ hfault => ⟨hfault.1, fun htakes => hfault.2.2 htakes.2⟩
      obtain ⟨hfolders, hwritten, hothers⟩ := hleft
      refine ⟨hsaved.symm, trivial, hfolders, ⟨?_, ?_⟩, fun other _ hother => hothers other hother⟩
      · rw [if_pos hdiff]
        exact hothers path happart.symm
      · have hne : store.withDefaults.touched.isEmpty = false := by
          simpa [Std.ExtTreeSet.isEmpty_iff] using (touched_of_saves_diff hdiff).2
        rw [hwritten, hsaved, diffText, hne]
        rfl
  | false =>
      have hsaved : store.saved = store.withDefaults.settled := by simp [saved, hdiff]
      simp only [Bool.false_eq_true, if_false, Attempt.meets_bind, Attempt.meets_within,
        Attempt.meets_pure, Attempt.meets_modify]
      refine (Disk.write_meets _ _ _).mono (fun _ middle hmiddle => ?_)
        fun _ _ hfault => ⟨hfault.1, fun htakes => hfault.2.2 htakes.1⟩
      obtain ⟨hfolders, hmain, hothers⟩ := hmiddle
      refine (Disk.write_meets _ _ _).mono (fun _ left hleft => ?_)
        fun _ _ hfault => ⟨hfault.1, fun htakes => hfault.2.2 (htakes.2.of_same_folders hfolders)⟩
      obtain ⟨hlast, hempty, hrest⟩ := hleft
      refine ⟨hsaved.symm, trivial, hfolders.trans hlast, ⟨?_, ?_⟩,
        fun other hone htwo => (hrest other htwo).trans (hothers other hone)⟩
      · rw [hdiff, if_neg Bool.false_ne_true, hrest path happart.symm, hmain, hsaved]
        rfl
      · have htext : store.withDefaults.settled.diffText = "" := by
          simp [diffText, Store.settled]
        rw [hempty, hsaved, htext]

/-- What has been written stays written as long as the files stay. -/
theorem Written.of_same_files {last : Disk} (h : store.Written disk later path)
    (hfile : last.octets? path = later.octets? path)
    (hdiff : last.octets? (diffPath path) = later.octets? (diffPath path)) :
    store.Written disk last path :=
  ⟨hfile.trans h.main, hdiff.trans h.diff⟩

/-- What has been written over a main file is written over the same one on another disk. -/
theorem Written.of_same_before {before : Disk} (h : store.Written disk later path)
    (hfile : disk.octets? path = before.octets? path) : store.Written before later path := by
  refine ⟨?_, h.diff⟩
  rw [← hfile]
  exact h.main

/-- A tracked store that has been written is saved if a file can hold it. -/
theorem Written.saved (h : store.Written disk later path) (htracked : store.Tracked disk path)
    (hstorable : store.saved.Storable) : store.saved.Saved later path := by
  obtain ⟨hmain, hwritten⟩ := h
  have hdefaults : store.withDefaults.path? = some path := htracked.path_eq
  cases hdiff : store.withDefaults.savesDiff with
  | true =>
      have hsaved : store.saved = store.withDefaults := by simp [Store.saved, hdiff]
      obtain ⟨hdue, htouched⟩ := touched_of_saves_diff hdiff
      rw [hdiff, if_pos rfl] at hmain
      obtain ⟨base, hbase, hdiffers⟩ :=
        (htracked.main hdue).resolve_left fun hnone => htouched hnone.2
      rw [hsaved] at hwritten hstorable ⊢
      exact ⟨hdefaults, htracked.keyed.with_defaults, hstorable, hdue, .written base
        ⟨hbase.keyed, hbase.storable, hmain.trans hbase.octets⟩
        (hdiffers.with_defaults hbase.storable) hwritten⟩
  | false =>
      have hsaved : store.saved = store.withDefaults.settled := by simp [Store.saved, hdiff]
      rw [hdiff, if_neg Bool.false_ne_true] at hmain
      rw [hsaved] at hmain hwritten hstorable ⊢
      exact ⟨hdefaults, htracked.keyed.with_defaults, hstorable, rfl, .written store.withDefaults
        ⟨htracked.keyed.with_defaults, ⟨hstorable.notes, hstorable.export_range,
          hstorable.import_range⟩, hmain⟩ (.of_settled _) hwritten⟩

/-- A store is written to another file as a whole. -/
theorem save_to_meets (path : String) (shelf : Shelf) :
    (saveTo path).Meets shelf
      (fun _ left => left.store = shelf.store.withDefaults ∧ left.supply = shelf.supply ∧
        shelf.disk.SameFolders left.disk ∧
        left.disk.octets? path = some (Text.encode shelf.store.withDefaults.text) ∧
        shelf.disk.SameBut left.disk path)
      fun fault _ => fault = .disk ∧ ¬ shelf.disk.Takes path := by
  unfold saveTo
  simp only [Shelf.change, Shelf.getStore, Attempt.meets_bind, Attempt.meets_modify,
    Attempt.meets_get, Attempt.meets_pure, Shelf.onDisk, Attempt.meets_within]
  exact (Disk.write_meets _ _ _).mono (fun _ _ hleft => ⟨trivial, trivial, hleft⟩)
    fun _ _ hfault => ⟨hfault.1, hfault.2.2⟩

/-- Writing a store with defaults to another file changes nothing but that file, also if it fails. -/
theorem save_to_stays {path : String} {files : List String}
    (hfiles : ∀ own ∈ files, Disk.Apart path own) (before : Shelf)
    (hdefaults : before.store.withDefaults = before.store) :
    (saveTo path).Keeps fun left => left.store = before.store ∧
      before.supply.LeadsTo left.supply ∧ before.disk.SameFolders left.disk ∧
      ∀ own ∈ files, left.disk.octets? own = before.disk.octets? own := by
  rintro shelf ⟨hstore, hsupply, hfolders, hothers⟩
  unfold saveTo
  simp only [Shelf.change, Shelf.getStore, Attempt.meets_bind, Attempt.meets_modify,
    Attempt.meets_get, Attempt.meets_pure, Shelf.onDisk, Attempt.meets_within]
  have hsame : shelf.store.withDefaults = before.store := by rw [hstore, hdefaults]
  exact (Disk.write_stays hfiles before.disk _ shelf.disk ⟨hfolders, hothers⟩).mono
    (fun _ _ hleft => ⟨hsame, hsupply, hleft⟩) fun _ _ hleft => ⟨hsame, hsupply, hleft⟩

/-- Defaults are given once. -/
theorem with_defaults_idem (store : Store) :
    store.withDefaults.withDefaults = store.withDefaults := by
  have hnotes : store.withDefaults.withDefaults.notes = store.withDefaults.notes := by
    apply Std.ExtTreeMap.ext_getElem?
    intro id
    cases hfound : store.notes[id]? with
    | none => simp [get_with_defaults, hfound]
    | some note => simp [get_with_defaults, hfound, Note.with_defaults_idem]
  calc store.withDefaults.withDefaults =
      { store.withDefaults with notes := store.withDefaults.withDefaults.notes } := rfl
    _ = store.withDefaults := by rw [hnotes]

/-- Saving gives defaults. -/
theorem saved_with_defaults (store : Store) : store.saved.withDefaults = store.saved := by
  unfold saved
  split
  · exact store.with_defaults_idem
  · have hsettled : store.withDefaults.settled.withDefaults =
        store.withDefaults.withDefaults.settled := rfl
    rw [hsettled, with_defaults_idem]

/-- Saving changes neither the path nor what lies under which id, but for defaults. -/
theorem saved_eq (store : Store) :
    store.saved.path? = store.path? ∧ store.saved.notes = store.withDefaults.notes ∧
      store.saved.clock = store.clock ∧ store.saved.exportClock = store.exportClock ∧
      store.saved.importClock = store.importClock := by
  unfold saved
  split <;> exact ⟨rfl, rfl, rfl, rfl, rfl⟩

/-- A store that a file can hold is saved as one. -/
theorem Storable.saved (h : store.Storable) : store.saved.Storable := by
  obtain ⟨-, hnotes, -, hexport, himport⟩ := store.saved_eq
  rw [h.defaults] at hnotes
  exact ⟨by rw [hnotes]; exact h.notes, by rw [hexport]; exact h.export_range,
    by rw [himport]; exact h.import_range⟩

/-- Saving moves no note. -/
theorem Keyed.saved (h : store.Keyed) : store.saved.Keyed := by
  intro id note hfound
  rw [store.saved_eq.2.1] at hfound
  exact h.with_defaults id note hfound

/-- Defaults keep a store tracked. -/
theorem Tracked.with_defaults (h : store.Tracked disk path) :
    store.withDefaults.Tracked disk path := by
  refine ⟨h.path_eq, h.keyed.with_defaults, fun hdue => ?_⟩
  rcases h.main hdue with ⟨hnotes, htouched⟩ | ⟨base, hmain, hdiffers⟩
  · refine .inl ⟨?_, htouched⟩
    apply Std.ExtTreeMap.ext_getElem?
    intro id
    simp [get_with_defaults, hnotes]
  · exact .inr ⟨base, hmain, hdiffers.with_defaults hmain.storable⟩

/-! ## Loading -/

/-- The ids of the touched notes are what is touched. -/
theorem map_id_touched_notes (hkeyed : store.Keyed) (h : ∀ id ∈ store.touched, id ∈ store.notes) :
    store.touchedNotes.map Note.id = store.touched.toList := by
  have hlist (ids : List String) (hids : ∀ id ∈ ids, id ∈ store.notes) :
      (ids.filterMap store.get?).map Note.id = ids := by
    induction ids with
    | nil => rfl
    | cons id ids ih =>
        have hmem := hids id (by simp)
        rw [Std.ExtTreeMap.mem_iff_isSome_getElem?, Option.isSome_iff_exists] at hmem
        obtain ⟨note, hfound⟩ := hmem
        have hget : store.get? id = some note := hfound
        rw [List.filterMap_cons_some hget, List.map_cons, hkeyed id note hfound,
          ih fun other hother => hids other (by simp [hother])]
  exact hlist store.touched.toList fun id hmem => h id (by simpa using hmem)

/-- The touched notes of a store over other notes: the touched ones are found as they are in the store,
and the others as they are below. -/
theorem get_overlay_touched (hkeyed : store.Keyed) (hstorable : store.Storable)
    (h : ∀ id ∈ store.touched, id ∈ store.notes) (under : Std.ExtTreeMap String Note) (id : String) :
    (overlay under store.touchedNotes)[id]? =
      if id ∈ store.touched then store.notes[id]? else under[id]? := by
  have hids := map_id_touched_notes hkeyed h
  have hnodup : (store.touchedNotes.map Note.id).Nodup := by
    rw [hids]
    refine Std.ExtTreeSet.distinct_toList.imp fun hne heq => hne ?_
    simpa using heq
  split
  next htouched =>
    have hmem := h id htouched
    rw [Std.ExtTreeMap.mem_iff_isSome_getElem?, Option.isSome_iff_exists] at hmem
    obtain ⟨note, hfound⟩ := hmem
    have hnote : note ∈ store.touchedNotes :=
      List.mem_filterMap.2 ⟨id, by simpa using htouched, hfound⟩
    have hid := hkeyed id note hfound
    subst hid
    rw [get_overlay_of_mem hnodup hnote, hfound, (hstorable.notes _ note hfound).with_defaults]
  next htouched => rw [get_overlay_of_not_mem (by simpa [hids] using htouched)]

/-- The touched notes of a store over the notes of its main file are its notes. -/
theorem overlay_touched_notes {base : Store} (hkeyed : store.Keyed) (hstorable : store.Storable)
    (h : DiffersInTouched base store) : overlay base.notes store.touchedNotes = store.notes := by
  apply Std.ExtTreeMap.ext_getElem?
  intro id
  rw [get_overlay_touched hkeyed hstorable h.touched]
  split
  · rfl
  next htouched => rw [h.others id htouched]

/-- A store with files, as the text of its main file and the text of its diff file tell it. -/
theorem Saved.read_files (h : store.Saved disk path) (hfile : disk.isFile path = true) :
    ∃ base : Store, (disk.octets? path).bind Text.decode? = some base.text ∧
      (disk.octets? (diffPath path)).bind Text.decode? = some store.diffText ∧
      MainFile base disk path ∧ DiffersInTouched base store := by
  cases h.files with
  | unwritten _ _ _ _ hnone => simp [Disk.isFile, hnone] at hfile
  | written base hmain hdiffers hdiff =>
      refine ⟨base, ?_, ?_, hmain, hdiffers⟩
      · rw [hmain.octets]
        exact Text.decode_encode _
      · rw [hdiff]
        exact Text.decode_encode _

/-- The text of a main file gives its store to one that holds nothing. -/
theorem read_main_file {base : Store} (h : MainFile base disk path) (supply : Supply) :
    ∃ left, (requireFullSave { path? := some path }).read supply base.text =
      ({ base with
          path? := some path
          clock := highest 1 base.all
          touched := ∅
          fullSaveDue := true }, left, base.all.map Note.id) := by
  have hread := read_text_of base h.storable.mem_all h.storable.export_range
    h.storable.import_range (requireFullSave { path? := some path }) supply
  have hoverlay := overlay_all h.keyed fun note hmem =>
    (h.storable.mem_all note hmem).with_defaults
  refine ⟨base.all.foldl (fun supply _ => supply.afterBlank) supply, ?_⟩
  rw [text, hread, foldl_restore_eq _ _ rfl]
  simp only [requireFullSave, withClocks, hoverlay]

/-- The text of a diff file brings forth the store that was saved out of that of the main file. -/
theorem read_diff_file {base : Store} (h : store.Saved disk path)
    (hdiffers : DiffersInTouched base store) (clock : Int) (supply : Supply) :
    ∃ left,
      Store.read
        { base with
          path? := some path
          clock := clock
          touched := ∅
          fullSaveDue := true } supply store.diffText =
        ({ store with
            clock := highest clock store.touchedNotes
            touched := ∅
            fullSaveDue := true }, left, store.touched.toList) := by
  have hpath := h.path_eq
  have hoverlay := overlay_touched_notes h.keyed h.storable hdiffers
  have hids := map_id_touched_notes h.keyed hdiffers.touched
  have hexport := hdiffers.export_clock
  have himport := hdiffers.import_clock
  unfold diffText
  split
  next hempty =>
    have htouched : store.touched = ∅ := Std.ExtTreeSet.isEmpty_iff.1 hempty
    have hnone : store.touchedNotes = [] := by simp [touchedNotes, htouched]
    rw [hnone] at hoverlay ⊢
    refine ⟨supply, ?_⟩
    rw [read_empty]
    simp_all [highest, overlay]
  next =>
    have hnotes : ∀ note ∈ store.touchedNotes, note.Storable := by
      intro note hmem
      obtain ⟨id, _, hfound⟩ := List.mem_filterMap.1 hmem
      exact h.storable.notes id note hfound
    refine ⟨store.touchedNotes.foldl (fun supply _ => supply.afterBlank) supply, ?_⟩
    rw [touchedText, read_text_of store hnotes h.storable.export_range h.storable.import_range,
      foldl_restore_eq _ _ rfl, hids]
    simp only [withClocks, hoverlay, hpath]

/-- What the text at a path gives to a store. -/
theorem read_file_meets (path : String) (shelf : Shelf) :
    (readFile path).Meets shelf
      (fun ids left => left.disk = shelf.disk ∧ shelf.supply.LeadsTo left.supply ∧
        ∃ text, (shelf.disk.octets? path).bind Text.decode? = some text ∧
          shelf.store.read shelf.supply text = (left.store, left.supply, ids))
      fun fault left => fault = .disk ∧ left = shelf ∧
        (shelf.disk.octets? path).bind Text.decode? = none := by
  unfold readFile
  simp only [Shelf.onDisk, Attempt.meets_bind, Attempt.meets_within, Attempt.meets_modify_get]
  unfold Attempt.Meets Disk.readText
  cases (shelf.disk.octets? path).bind Text.decode? with
  | none => simp
  | some text => simp [shelf.store.read_leads_to shelf.supply text]

/-- The clock of a store as it is found when the store is read: the highest version of a note. -/
def rebuiltClock (store : Store) : Int :=
  highest 1 store.all

/-- The clock that comes of the versions in a main file and a diff file. -/
theorem rebuilt_clock_eq {base : Store} (h : DiffersInTouched base store) :
    highest (highest 1 base.all) store.touchedNotes = store.rebuiltClock := by
  have hstore := highest_le_iff.1 (Int.le_refl store.rebuiltClock)
  have hfiles := highest_le_iff.1 (Int.le_refl (highest (highest 1 base.all) store.touchedNotes))
  have hbase := highest_le_iff.1 hfiles.1
  apply Int.le_antisymm
  · refine highest_le_iff.2 ⟨highest_le_iff.2 ⟨hstore.1, fun old hold => ?_⟩, fun note hnote => ?_⟩
    · obtain ⟨id, hfound⟩ := mem_all.1 hold
      by_cases htouched : id ∈ store.touched
      · have hmem := h.touched id htouched
        rw [Std.ExtTreeMap.mem_iff_isSome_getElem?, Option.isSome_iff_exists] at hmem
        obtain ⟨note, hnote⟩ := hmem
        exact Int.le_trans (h.versions id old note hfound hnote)
          (hstore.2 note (mem_all.2 ⟨id, hnote⟩))
      · rw [← h.others id htouched] at hfound
        exact hstore.2 old (mem_all.2 ⟨id, hfound⟩)
    · obtain ⟨id, -, hfound⟩ := List.mem_filterMap.1 hnote
      exact hstore.2 note (mem_all.2 ⟨id, hfound⟩)
  · refine highest_le_iff.2 ⟨hbase.1, fun note hnote => ?_⟩
    obtain ⟨id, hfound⟩ := mem_all.1 hnote
    by_cases htouched : id ∈ store.touched
    · exact hfiles.2 note (List.mem_filterMap.2 ⟨id, by simpa using htouched, hfound⟩)
    · rw [h.others id htouched] at hfound
      exact hbase.2 note (mem_all.2 ⟨id, hfound⟩)

/-- Loading a saved store that has files gives it back, under the highest version of its notes. -/
theorem load_meets (h : store.Saved disk path) (hfile : disk.isFile path = true)
    (supply : Supply) :
    load.Meets ⟨{ path? := some path }, disk, supply⟩
      (fun _ left => left.disk = disk ∧ supply.LeadsTo left.supply ∧
        left.store = { store with clock := store.rebuiltClock })
      fun _ _ => False := by
  obtain ⟨base, htext, hdiff, hmain, hdiffers⟩ := h.read_files hfile
  have hdiff_file : disk.isFile (diffPath path) = true := by
    cases hoctets : disk.octets? (diffPath path) with
    | none => simp [hoctets] at hdiff
    | some octets => simp [Disk.isFile, hoctets]
  unfold load loadFrom
  simp only [Shelf.getStore, Shelf.change, Attempt.meets_bind, Attempt.meets_get,
    Attempt.meets_pure, Attempt.meets_modify]
  refine (read_file_meets path _).mono (fun _ middle hmiddle => ?_) fun _ _ hfault => ?_
  · obtain ⟨hdisk, hleads, text, hfound, hread⟩ := hmiddle
    obtain rfl := Option.some.inj (htext.symm.trans hfound)
    obtain ⟨next, hmain_read⟩ := read_main_file hmain supply
    obtain ⟨hstore, hsupply, -⟩ : _ ∧ _ ∧ _ := by simpa using hmain_read.symm.trans hread
    simp only [hdisk, hdiff_file, if_true, Attempt.meets_bind, Attempt.meets_modify]
    refine (read_file_meets (diffPath path) middle).mono (fun ids left hleft => ?_)
      fun _ _ hfault => ?_
    · obtain ⟨hlast, hleads_on, text, hfound, hread⟩ := hleft
      rw [hdisk] at hfound
      obtain rfl := Option.some.inj (hdiff.symm.trans hfound)
      obtain ⟨final, hdiff_read⟩ := read_diff_file h hdiffers (highest 1 base.all) middle.supply
      rw [hstore] at hdiff_read
      obtain ⟨hleft, -, rfl⟩ : _ ∧ _ ∧ _ := by simpa using hdiff_read.symm.trans hread
      refine ⟨hlast.trans hdisk, hleads.trans hleads_on, ?_⟩
      have htouched : (∅ : TextSet).insertMany store.touched.toList = store.touched := by
        apply Std.ExtTreeSet.ext_mem
        simp [Std.ExtTreeSet.mem_insertMany_list]
      have hsettled := h.settled
      rw [← hleft, ← rebuilt_clock_eq hdiffers]
      simp [htouched, ← hsettled]
    · rw [hdisk, hdiff] at hfault
      simp at hfault
  · have hnone := hfault.2.2
    rw [htext] at hnone
    cases hnone

end Store

end Notekeeper
