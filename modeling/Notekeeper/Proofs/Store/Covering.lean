import Notekeeper.Proofs.Store.Alike
import Notekeeper.Proofs.Store.Told

/-!
# Stores that cover their files

A store covers its files if these can be read and tell no ids but those of its notes. That is less
than that the files hold the store, and needs less: a save makes a store of enclosed notes cover its
files (`Store.Written.covered`), whatever else becomes of the notes in them, and loading such files
brings no id that the store did not have (`Store.Covers.load_meets`).
-/

namespace Notekeeper

namespace Disk

variable {disk later : Disk} {path : String} {allowed more : String → Prop}

/-- The file at a path can be read and tells only ids that are allowed. -/
def TellsOnly (disk : Disk) (path : String) (allowed : String → Prop) : Prop :=
  ∃ text, (disk.octets? path).bind Text.decode? = some text ∧ ∀ id ∈ Store.told text, allowed id

/-- What tells only some ids tells only more. -/
theorem TellsOnly.mono (h : disk.TellsOnly path allowed) (hmore : ∀ id, allowed id → more id) :
    disk.TellsOnly path more := by
  obtain ⟨text, htext, hids⟩ := h
  exact ⟨text, htext, fun id hid => hmore id (hids id hid)⟩

/-- The same file tells the same. -/
theorem TellsOnly.of_same_file (h : disk.TellsOnly path allowed)
    (hfile : later.octets? path = disk.octets? path) : later.TellsOnly path allowed := by
  rw [TellsOnly, hfile]
  exact h

/-- A file into which a text has been written tells what the text tells. -/
theorem tells_only_of_text {text : String} (h : disk.octets? path = some (Text.encode text))
    (hids : ∀ id ∈ Store.told text, allowed id) : disk.TellsOnly path allowed := by
  refine ⟨text, ?_, hids⟩
  rw [h]
  exact Text.decode_encode text

end Disk

namespace Store

variable {store other : Store} {disk later : Disk} {path : String} {allowed : String → Prop}

/-- If the store has a main file, the files of the store can be read and tell no ids but its own. -/
def Covers (store : Store) (disk : Disk) (path : String) : Prop :=
  disk.isFile path = true → disk.TellsOnly path store.Has ∧
    (disk.isFile (diffPath path) = true → disk.TellsOnly (diffPath path) store.Has)

/-- A store that covers its files. -/
structure Covered (store : Store) (disk : Disk) (path : String) : Prop where
  path_eq : store.path? = some path
  keyed : store.Keyed
  named : store.Named
  covers : store.Covers disk path

/-- A store that covers its files unless a save of everything is due. -/
structure Covering (store : Store) (disk : Disk) (path : String) : Prop where
  path_eq : store.path? = some path
  keyed : store.Keyed
  covers : store.fullSaveDue = false → store.Covers disk path

/-- A store with more notes covers the same files. -/
theorem Covers.mono (h : store.Covers disk path) (hmore : ∀ id, store.Has id → other.Has id) :
    other.Covers disk path := fun hfile =>
  ⟨(h hfile).1.mono hmore, fun hdiff => ((h hfile).2 hdiff).mono hmore⟩

/-- A store covers its files as long as they stay. -/
theorem Covers.of_same_files (h : store.Covers disk path)
    (hfile : later.octets? path = disk.octets? path)
    (hdiff : later.octets? (diffPath path) = disk.octets? (diffPath path)) :
    store.Covers later path := by
  intro hmain
  rw [Disk.isFile, hfile] at hmain
  refine ⟨(h hmain).1.of_same_file hfile, fun hthere => ?_⟩
  rw [Disk.isFile, hdiff] at hthere
  exact ((h hmain).2 hthere).of_same_file hdiff

theorem Covered.covering (h : store.Covered disk path) : store.Covering disk path :=
  ⟨h.path_eq, h.keyed, fun _ => h.covers⟩

/-- A store goes on covering its files as long as they stay. -/
theorem Covered.of_same_files (h : store.Covered disk path)
    (hfile : later.octets? path = disk.octets? path)
    (hdiff : later.octets? (diffPath path) = disk.octets? (diffPath path)) :
    store.Covered later path :=
  ⟨h.path_eq, h.keyed, h.named, h.covers.of_same_files hfile hdiff⟩

/-! ## Changes -/

/-- A store of which everything is to be saved need not cover its files. -/
theorem Covering.of_due (hpath : store.path? = some path) (hkeyed : store.Keyed)
    (hdue : store.fullSaveDue = true) : store.Covering disk path :=
  ⟨hpath, hkeyed, fun hnot => by simp [hdue] at hnot⟩

/-- A note that is revised was there. -/
theorem Covering.revise (h : store.Covering disk path) {id : String} {note edited : Note}
    (hfound : store.get? id = some note) (hid : edited.id = note.id) :
    (store.revise id edited).Covering disk path :=
  ⟨h.path_eq, h.keyed.revise (hid.trans (h.keyed id note hfound)), fun hdue =>
    (h.covers hdue).mono fun _ hhas => has_revise.2 (.inr hhas)⟩

/-- Defaults change nothing about what a store covers. -/
theorem Covering.with_defaults (h : store.Covering disk path) :
    store.withDefaults.Covering disk path :=
  ⟨h.path_eq, h.keyed.with_defaults, fun hdue =>
    (h.covers hdue).mono fun _ hhas => has_with_defaults.2 hhas⟩

/-! ## Saving -/

/-- The diff file of a saved store tells no ids but those of its notes. -/
theorem Enclosed.has_of_diff_text (h : store.Enclosed) (hkeyed : store.Keyed) {id : String}
    (hmem : id ∈ told store.diffText) : store.Has id := by
  unfold diffText at hmem
  split at hmem
  · exact absurd hmem List.not_mem_nil
  · exact h.has_of_touched hkeyed hmem

/-- A save makes a store of enclosed notes cover its files. -/
theorem Written.covered (h : store.Written disk later path) (hcovering : store.Covering disk path)
    (henclosed : store.saved.Enclosed) : store.saved.Covered later path := by
  have hkeyed := hcovering.keyed.saved
  refine ⟨store.saved_eq.1.trans hcovering.path_eq, hkeyed,
    named_of_defaults store.saved_with_defaults, fun hfile => ⟨?_, fun _ => ?_⟩⟩
  · have hmain := h.main
    split at hmain
    next hdiff =>
      -- A save of the touched notes alone leaves the main file, which told only ids of the store.
      rw [Disk.isFile, hmain] at hfile
      have hdue : store.fullSaveDue = false := (touched_of_saves_diff hdiff).1
      have htells := (hcovering.covers hdue hfile).1.of_same_file hmain
      exact htells.mono fun _ hhas => has_saved.2 hhas
    next => exact Disk.tells_only_of_text hmain fun _ hmem => henclosed.has_of_told hkeyed hmem
  · exact Disk.tells_only_of_text h.diff fun _ hmem => henclosed.has_of_diff_text hkeyed hmem

/-- The notes that a file can hold are enclosed. -/
theorem Storable.enclosed (h : store.Storable) : store.Enclosed :=
  fun note hmem => (h.mem_all note hmem).enclosed

/-- A store that its files hold covers them. -/
theorem Saved.covered (h : store.Saved disk path) : store.Covered disk path := by
  refine ⟨h.path_eq, h.keyed, h.storable.named, fun hfile => ?_⟩
  obtain ⟨base, hmain, hdiff, hbase, hdiffers⟩ := h.read_files hfile
  refine ⟨⟨base.text, hmain, fun id hmem => ?_⟩, fun _ => ⟨store.diffText, hdiff, fun id hmem => ?_⟩⟩
  · have hhas := hbase.storable.enclosed.has_of_told hbase.keyed hmem
    by_cases htouched : id ∈ store.touched
    · exact Std.ExtTreeMap.mem_iff_isSome_getElem?.1 (hdiffers.touched id htouched)
    · rwa [Has, get?, hdiffers.others id htouched]
  · exact h.storable.enclosed.has_of_diff_text h.keyed hmem

/-! ## Loading -/

/-- Reading a file that tells only ids that are allowed brings only such ids. -/
theorem read_file_tells (h : disk.TellsOnly path allowed) (store : Store) (supply : Supply)
    (kept : Store → Prop) (hrestore : ∀ store note, kept store → kept (store.restore note))
    (hclocks : ∀ store exportClock importClock, kept store →
      kept (store.withClocks exportClock importClock)) (hkept : kept store) :
    (readFile path).Meets ⟨store, disk, supply⟩
      (fun _ left => left.disk = disk ∧ supply.LeadsTo left.supply ∧ kept left.store ∧
        (∀ id, left.store.Has id → store.Has id ∨ allowed id) ∧
        (∀ id, store.Has id → left.store.Has id) ∧ disk.TellsOnly path left.store.Has)
      fun _ _ => False := by
  obtain ⟨text, htext, hids⟩ := h
  refine (read_file_meets path ⟨store, disk, supply⟩).mono (fun ids left hleft => ?_)
    fun _ _ hfault => ?_
  · obtain ⟨hdisk, hleads, found, hfound, hread⟩ := hleft
    obtain rfl := Option.some.inj (htext.symm.trans hfound)
    have hkeeps := (read_keeps kept hrestore hclocks store hkept supply text).1
    have hhas := has_read store supply text
    rw [hread] at hkeeps hhas
    exact ⟨hdisk, hleads, hkeeps, fun id hmem => ((hhas id).1 hmem).imp_right (hids id),
      fun id hmem => (hhas id).2 (.inl hmem), text, htext, fun id hmem => (hhas id).2 (.inr hmem)⟩
  · cases htext.symm.trans hfault.2.2

/-- Loading the files that a store covers brings no id that the store does not have. -/
theorem Covers.load_meets (h : store.Covers disk path) (hfile : disk.isFile path = true)
    (supply : Supply) :
    load.Meets ⟨{ path? := some path }, disk, supply⟩
      (fun _ left => left.disk = disk ∧ supply.LeadsTo left.supply ∧
        left.store.Covered disk path ∧ ∀ id, left.store.Has id → store.Has id)
      fun _ _ => False := by
  obtain ⟨hmain, hdiff⟩ := h hfile
  let kept (store : Store) : Prop := store.path? = some path ∧ store.Keyed ∧ store.Named
  have hrestore (store : Store) (note : Note) (hstore : kept store) : kept (store.restore note) :=
    ⟨hstore.1, hstore.2.1.restore note, hstore.2.2.restore note⟩
  have hclocks (store : Store) (exportClock importClock : Int) (hstore : kept store) :
      kept (store.withClocks exportClock importClock) := hstore
  have hstart : kept (requireFullSave { path? := some path }) := by
    refine ⟨rfl, fun id note hfound => ?_, fun id note hfound => ?_⟩ <;>
    · simp [requireFullSave, get?] at hfound
  unfold load loadFrom
  simp only [Shelf.getStore, Shelf.change, Attempt.meets_bind, Attempt.meets_get,
    Attempt.meets_pure, Attempt.meets_modify]
  refine (read_file_tells hmain _ supply kept hrestore hclocks hstart).mono (fun _ middle hmiddle => ?_)
    fun _ _ hfalse => hfalse
  obtain ⟨hdisk, hleads, hkept, hids, -, htells⟩ := hmiddle
  have hids (id : String) (hhas : middle.store.Has id) : store.Has id := by
    refine (hids id hhas).resolve_left fun hnone => ?_
    simp [Has, requireFullSave, get?] at hnone
  rw [hdisk]
  split
  next hthere =>
    simp only [Attempt.meets_bind, Attempt.meets_modify]
    have hread := read_file_tells (hdiff hthere) middle.store middle.supply kept hrestore hclocks hkept
    rw [← hdisk] at hread
    refine hread.mono (fun ids left hleft => ?_) fun _ _ hfalse => hfalse
    rw [hdisk] at hleft
    obtain ⟨hlast, hleads_on, hkept, hmore, hstay, htells_diff⟩ := hleft
    exact ⟨hlast, hleads.trans hleads_on, ⟨hkept.1, hkept.2.1, hkept.2.2, fun _ =>
      ⟨htells.mono hstay, fun _ => htells_diff⟩⟩,
      fun id hhas => (hmore id hhas).elim (hids id) fun hhas => hhas⟩
  next hnone =>
    exact ⟨hdisk, hleads, ⟨hkept.1, hkept.2.1, hkept.2.2, fun _ => ⟨htells, fun hthere =>
      absurd hthere hnone⟩⟩, hids⟩

end Store

end Notekeeper
