import Notekeeper.Proofs.Store.Saving

/-!
# Changes of a store

The changes that operations make to a store in closed form: a note is added (`Store.add`), revised
under a new version (`Store.revise`) or taken out (`Store.without`). Each keeps notes under their
ids, and a store that is tracked stays tracked.
-/

namespace Notekeeper

namespace Store

/-- A note takes the place of another, under a new version, and counts as touched. -/
def revise (store : Store) (id : String) (note : Note) : Store :=
  let version := 1 + max store.clock note.version
  { store with
    clock := version
    notes := store.notes.insert id { note with version := version }
    touched := store.touched.insert id }

/-- The store without a note, and with a clock advanced by one. -/
def without (store : Store) (id : String) : Store :=
  { store with
    clock := store.clock + 1
    notes := store.notes.erase id
    touched := ∅
    fullSaveDue := true }

variable {store : Store} {id : String} {note : Note} {disk : Disk} {path : String}

/-- An edit and a touch together are a revision. -/
theorem touch_edit (h : store.get? id = some note) (edited : Note) :
    (store.edit id fun _ => edited).touch id = .ok (store.revise id edited) := by
  have hinsert (version : Int) :
      (store.notes.insert id edited).insert id { edited with version := version } =
        store.notes.insert id { edited with version := version } := by
    apply Std.ExtTreeMap.ext_getElem?
    intro other
    simp only [Std.ExtTreeMap.getElem?_insert]
    split <;> rfl
  have hedit : (store.edit id fun _ => edited) =
      { store with notes := store.notes.insert id edited } := by
    simp only [edit, h]
  have hthere : (store.edit id fun _ => edited).get? id = some edited := by
    simp [hedit, get?]
  simp only [touch, hthere]
  simp [hedit, revise, hinsert]

/-- An edit that leaves a note as it is changes nothing. -/
theorem edit_self (h : store.get? id = some note) : (store.edit id fun _ => note) = store := by
  have hinsert : store.notes.insert id note = store.notes := by
    apply Std.ExtTreeMap.ext_getElem?
    intro other
    rw [Std.ExtTreeMap.getElem?_insert]
    split
    next heq =>
      obtain rfl : id = other := by simpa using heq
      exact h.symm
    next => rfl
  simp [edit, h, hinsert]

/-- A note that is there can be taken out. -/
theorem remove_eq (h : store.get? id = some note) :
    store.remove id = .ok (note, store.without id) := by
  simp [remove, h, without]

/-! ## Where notes lie afterwards -/

/-- The notes after one has been added. -/
theorem get_add (store : Store) (note : Note) (id : String) :
    (store.add note).notes[id]? =
      if note.id = id then
        some { note.withDefaults with version := 1 + max store.clock note.version }
      else store.notes[id]? := by
  simp [add, Std.ExtTreeMap.getElem?_insert]

/-- The notes after one has been put in. -/
theorem get_restore (store : Store) (note : Note) (id : String) :
    (store.restore note).notes[id]? =
      if note.id = id then some note.withDefaults else store.notes[id]? := by
  simp [restore, Std.ExtTreeMap.getElem?_insert]

/-- The notes after one has been revised. -/
theorem get_revise (store : Store) (id : String) (note : Note) (other : String) :
    (store.revise id note).notes[other]? =
      if id = other then some { note with version := 1 + max store.clock note.version }
      else store.notes[other]? := by
  simp [revise, Std.ExtTreeMap.getElem?_insert]

/-- The notes after one has been taken out. -/
theorem get_without (store : Store) (id other : String) :
    (store.without id).notes[other]? = if id = other then none else store.notes[other]? := by
  simp [without, Std.ExtTreeMap.getElem?_erase]

/-- A note that is added under another id changes nothing about an id. -/
theorem get_add_of_ne (h : note.id ≠ id) :
    (store.add note).get? id = store.get? id := by
  rw [get?, get_add, if_neg h, get?]

/-- A note that is put in under another id changes nothing about an id. -/
theorem get_restore_of_ne (h : note.id ≠ id) :
    (store.restore note).get? id = store.get? id := by
  rw [Store.get?, Store.get_restore, if_neg h, get?]

/-- A note that is put in lies under its id. -/
theorem get_restore_self (store : Store) (note : Note) :
    (store.restore note).get? note.id = some note.withDefaults := by
  rw [Store.get?, Store.get_restore, if_pos rfl]

/-- An added note is there, and the others stay. -/
theorem has_add : (store.add note).Has id ↔ note.id = id ∨ store.Has id := by
  rw [Has, get?, get_add]
  by_cases hid : note.id = id
  · simp [hid]
  · simp [hid, Has, get?]

/-- A note that is put in is there, and the others stay. -/
theorem has_restore : (store.restore note).Has id ↔ note.id = id ∨ store.Has id := by
  rw [Has, get?, get_restore]
  by_cases hid : note.id = id
  · simp [hid]
  · simp [hid, Has, get?]

/-- A revised note is there, and the others stay. -/
theorem has_revise {revised : String} : (store.revise revised note).Has id ↔
    revised = id ∨ store.Has id := by
  rw [Has, get?, get_revise]
  by_cases hid : revised = id
  · simp [hid]
  · simp [hid, Has, get?]

/-- A note that is taken out is not there, and the others stay. -/
theorem has_without {taken : String} : (store.without taken).Has id ↔ taken ≠ id ∧ store.Has id := by
  rw [Has, get?, get_without]
  by_cases hid : taken = id
  · simp [hid]
  · simp [hid, Has, get?]

/-- An added note lies under its id. -/
theorem Keyed.add (h : store.Keyed) (note : Note) : (store.add note).Keyed := by
  intro id found hfound
  rw [get_add] at hfound
  split at hfound
  next hid =>
    obtain rfl := Option.some.inj hfound
    exact hid
  next => exact h id found hfound

/-- A note that is put in lies under its id. -/
theorem Keyed.restore (h : store.Keyed) (note : Note) : (store.restore note).Keyed := by
  intro id found hfound
  rw [get_restore] at hfound
  split at hfound
  next hid =>
    obtain rfl := Option.some.inj hfound
    exact hid
  next => exact h id found hfound

/-- A revised note lies under its id. -/
theorem Keyed.revise (h : store.Keyed) (hid : note.id = id) : (store.revise id note).Keyed := by
  intro other found hfound
  rw [get_revise] at hfound
  split at hfound
  next heq =>
    obtain rfl := Option.some.inj hfound
    exact hid.trans heq
  next => exact h other found hfound

/-- Taking a note out moves no other. -/
theorem Keyed.without (h : store.Keyed) (id : String) : (store.without id).Keyed := by
  intro other found hfound
  rw [get_without] at hfound
  split at hfound
  · cases hfound
  · exact h other found hfound

/-! ## What stays tracked -/

/-- A store of which everything is to be saved is tracked. -/
theorem Tracked.of_due (hpath : store.path? = some path) (hkeyed : store.Keyed)
    (hdue : store.fullSaveDue = true) : store.Tracked disk path :=
  ⟨hpath, hkeyed, fun hnot => by simp [hdue] at hnot⟩

/-- A tracked store stays tracked when a note is added. -/
theorem Tracked.add (h : store.Tracked disk path) (note : Note) :
    (store.add note).Tracked disk path :=
  .of_due h.path_eq (h.keyed.add note) rfl

/-- A tracked store stays tracked when a note is taken out. -/
theorem Tracked.without (h : store.Tracked disk path) (id : String) :
    (store.without id).Tracked disk path :=
  .of_due h.path_eq (h.keyed.without id) rfl

/-- A tracked store stays tracked when one of its notes is revised. -/
theorem Tracked.revise (h : store.Tracked disk path) (hfound : store.get? id = some note)
    {edited : Note} (hid : edited.id = note.id) (hversion : edited.version = note.version) :
    (store.revise id edited).Tracked disk path := by
  have hkey : edited.id = id := hid.trans (h.keyed id note hfound)
  refine ⟨h.path_eq, h.keyed.revise hkey, fun hdue => .inr ?_⟩
  rcases h.main hdue with ⟨hnotes, -⟩ | ⟨base, hmain, hdiffers⟩
  · simp [get?, hnotes] at hfound
  · refine ⟨base, hmain, hdiffers.export_clock, hdiffers.import_clock, fun other hother => ?_,
      fun other hother => ?_, fun other old found hold hfound' => ?_⟩
    · rw [Std.ExtTreeMap.mem_iff_isSome_getElem?, get_revise]
      split
      · rfl
      next hne =>
        have hmem : other ∈ store.touched := by
          simpa [Store.revise, Std.ExtTreeSet.mem_insert, hne] using hother
        exact Std.ExtTreeMap.mem_iff_isSome_getElem?.1 (hdiffers.touched other hmem)
    · have hnot : id ≠ other ∧ other ∉ store.touched := by
        simpa [Store.revise, Std.ExtTreeSet.mem_insert] using hother
      rw [get_revise, if_neg hnot.1]
      exact hdiffers.others other hnot.2
    · rw [get_revise] at hfound'
      split at hfound'
      next heq =>
        subst heq
        obtain rfl := Option.some.inj hfound'
        have hle := hdiffers.versions id old note hold hfound
        dsimp only
        omega
      next => exact hdiffers.versions other old found hold hfound'

/-! ## Names and folders -/

/-- Every note has a name and a folder. -/
def Named (store : Store) : Prop :=
  ∀ (id : String) (note : Note), store.get? id = some note → note.name ≠ "" ∧ note.folder ≠ ""

/-- Whether every note has a name and a folder is decided by looking at them. -/
instance (store : Store) : Decidable store.Named :=
  decidable_of_iff (∀ note ∈ store.all, note.name ≠ "" ∧ note.folder ≠ "")
    ⟨fun h id note hfound => h note (mem_all.2 ⟨id, hfound⟩), fun h note hmem =>
      (mem_all.1 hmem).elim fun id hfound => h id note hfound⟩

/-- A note with a name and a folder needs no defaults. -/
theorem Named.with_defaults (h : store.Named) (hfound : store.get? id = some note) :
    note.withDefaults = note :=
  Note.with_defaults_of_ne (h id note hfound).1 (h id note hfound).2

/-- A note with a new version has a name and a folder if it had them. -/
theorem Named.add (h : store.Named) (note : Note) : (store.add note).Named := by
  intro id found hfound
  rw [get?, get_add] at hfound
  split at hfound
  · obtain rfl := Option.some.inj hfound
    exact note.with_defaults_ne
  · exact h id found hfound

/-- A note that is put in has a name and a folder. -/
theorem Named.restore (h : store.Named) (note : Note) : (store.restore note).Named := by
  intro id found hfound
  rw [get?, get_restore] at hfound
  split at hfound
  · obtain rfl := Option.some.inj hfound
    exact note.with_defaults_ne
  · exact h id found hfound

/-- The notes that are left have names and folders. -/
theorem Named.without (h : store.Named) (id : String) : (store.without id).Named := by
  intro other found hfound
  rw [get?, get_without] at hfound
  split at hfound
  · cases hfound
  · exact h other found hfound

/-- A store whose notes have names and folders needs no defaults. -/
theorem Named.defaults (h : store.Named) : store.withDefaults.notes = store.notes := by
  apply Std.ExtTreeMap.ext_getElem?
  intro id
  rw [get_with_defaults]
  cases hfound : store.notes[id]? with
  | none => rfl
  | some note => rw [Option.map_some, h.with_defaults hfound]

/-- A store whose notes have names and folders is the same with defaults. -/
theorem Named.with_defaults_eq (h : store.Named) : store.withDefaults = store :=
  calc store.withDefaults = { store with notes := store.withDefaults.notes } := rfl
    _ = store := by rw [h.defaults]

/-- A store that is the same with defaults has names and folders in its notes. -/
theorem named_of_defaults (h : store.withDefaults = store) : store.Named := by
  intro id note hfound
  rw [get?, ← h, get_with_defaults, Option.map_eq_some_iff] at hfound
  obtain ⟨old, -, rfl⟩ := hfound
  exact old.with_defaults_ne

/-- The notes that a file can hold have names and folders. -/
theorem Storable.named (h : store.Storable) : store.Named :=
  fun id note hfound => ⟨(h.notes id note hfound).name_ne, (h.notes id note hfound).folder_ne⟩

end Store

end Notekeeper
