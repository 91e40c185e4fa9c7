import Notekeeper.Proofs.Note.Record
import Notekeeper.Store.Basic

/-!
# Notes in a store

A store is `Keyed` if every note lies under its own id, and `Storable` if a file can hold its notes
and clocks. Putting notes in one after the other changes the notes, the clock and nothing else
(`Store.foldl_restore_eq`), and each note is then found under its id.
-/

namespace Notekeeper

/-- A map lists the values of its entries. -/
theorem values_eq_map_toList (notes : Std.ExtTreeMap String Note) :
    notes.values = notes.toList.map Prod.snd := by
  obtain ⟨⟨inner⟩⟩ := notes
  induction inner using Quotient.ind with
  | _ map =>
      change map.inner.values =
        (Std.DTreeMap.Internal.Impl.Const.toList map.inner).map Prod.snd
      rw [Std.DTreeMap.Internal.Impl.values_eq_map_snd,
        Std.DTreeMap.Internal.Impl.Const.toList_eq_toListModel_map, List.map_map]
      rfl

/-- A note that has its name and its folder needs no defaults. -/
theorem Note.with_defaults_of_ne {note : Note} (hname : note.name ≠ "") (hfolder : note.folder ≠ "") :
    note.withDefaults = note := by
  have hname : note.nameOrDefault = note.name := by simp [nameOrDefault, hname]
  have hfolder : note.folderOrDefault = note.folder := by simp [folderOrDefault, hfolder]
  simp [withDefaults, hname, hfolder]

/-- A note with defaults has its name and its folder. -/
theorem Note.with_defaults_ne (note : Note) :
    note.withDefaults.name ≠ "" ∧ note.withDefaults.folder ≠ "" := by
  have hchoose (text default : String) (hdefault : default ≠ "") :
      (if text.isEmpty then default else text) ≠ "" := by
    by_cases hempty : text = "" <;> simp [hempty, hdefault]
  exact ⟨hchoose _ _ (by decide), hchoose _ _ (by decide)⟩

/-- Defaults are given once. -/
theorem Note.with_defaults_idem (note : Note) : note.withDefaults.withDefaults = note.withDefaults :=
  with_defaults_of_ne note.with_defaults_ne.1 note.with_defaults_ne.2

namespace Store

/-- Every note lies under its own id. -/
def Keyed (store : Store) : Prop :=
  ∀ (id : String) (note : Note), store.notes[id]? = some note → note.id = id

/-- A file can hold the notes and the clocks of the store. -/
structure Storable (store : Store) : Prop where
  notes : ∀ (id : String) (note : Note), store.notes[id]? = some note → note.Storable
  export_range : Decimal.InRange store.exportClock
  import_range : Decimal.InRange store.importClock

variable {store : Store}

/-- The notes of a store are those that lie under some id. -/
theorem mem_all {note : Note} : note ∈ store.all ↔ ∃ id : String, store.notes[id]? = some note := by
  rw [all, values_eq_map_toList, List.mem_map]
  constructor
  · rintro ⟨⟨id, found⟩, hmem, rfl⟩
    exact ⟨id, Std.ExtTreeMap.mem_toList_iff_getElem?_eq_some.1 hmem⟩
  · rintro ⟨id, hfound⟩
    exact ⟨(id, note), Std.ExtTreeMap.mem_toList_iff_getElem?_eq_some.2 hfound, rfl⟩

/-- Whether a store holds an id is told by the note of the id. -/
theorem contains_eq (store : Store) (id : String) : store.contains id = (store.get? id).isSome :=
  Std.ExtTreeMap.contains_eq_isSome_getElem?

/-- The ids of a store are those under which it has a note. -/
theorem mem_ids {id : String} : id ∈ store.ids ↔ (store.get? id).isSome = true := by
  rw [Store.ids, Std.ExtTreeMap.mem_keys, Std.ExtTreeMap.mem_iff_isSome_getElem?, Store.get?]

/-- A store without notes has them under their ids. -/
theorem keyed_of_empty (h : store.notes = ∅) : store.Keyed := by
  intro id note hfound
  simp [h] at hfound

/-- In a keyed store the ids of the notes are the keys, in order. -/
theorem Keyed.map_id_all (h : store.Keyed) : store.all.map Note.id = store.ids := by
  rw [all, ids, values_eq_map_toList, ← Std.ExtTreeMap.map_fst_toList_eq_keys, List.map_map]
  apply List.map_congr_left
  rintro ⟨id, note⟩ hmem
  exact h id note (Std.ExtTreeMap.mem_toList_iff_getElem?_eq_some.1 hmem)

/-- The ids of a store are different. -/
theorem nodup_ids (store : Store) : store.ids.Nodup :=
  Std.ExtTreeMap.distinct_keys.imp fun hne heq => hne (by simpa using heq)

/-- No two notes of a keyed store have the same id. -/
theorem Keyed.nodup_all (h : store.Keyed) : (store.all.map Note.id).Nodup := by
  rw [h.map_id_all]
  exact store.nodup_ids

/-- Where a keyed store has no note of an id, none of its notes has that id. -/
theorem Keyed.not_mem_map_id (h : store.Keyed) {id : String} (hnone : store.get? id = none) :
    id ∉ store.all.map Note.id := by
  rw [h.map_id_all, mem_ids, hnone]
  decide

/-- The notes of a keyed store are those that lie under their ids. -/
theorem Keyed.mem_all (h : store.Keyed) {note : Note} :
    note ∈ store.all ↔ store.get? note.id = some note := by
  rw [Store.mem_all]
  constructor
  · rintro ⟨id, hfound⟩
    rwa [← h id note hfound] at hfound
  · intro hfound
    exact ⟨note.id, hfound⟩

/-- Every note of a storable store is storable. -/
theorem Storable.mem_all (h : store.Storable) : ∀ note ∈ store.all, note.Storable := by
  intro note hmem
  obtain ⟨id, hfound⟩ := Store.mem_all.1 hmem
  exact h.notes id note hfound

/-- Whether a file can hold a store is decided by looking at its notes and clocks. -/
instance (store : Store) : Decidable store.Storable :=
  decidable_of_iff
    ((∀ note ∈ store.all, note.Storable) ∧ Decimal.InRange store.exportClock ∧
      Decimal.InRange store.importClock)
    ⟨fun ⟨hnotes, hexport, himport⟩ =>
      ⟨fun id note hfound => hnotes note (Store.mem_all.2 ⟨id, hfound⟩), hexport, himport⟩,
    fun h => ⟨h.mem_all, h.export_range, h.import_range⟩⟩

/-- A store holds a note under an id. -/
def Has (store : Store) (id : String) : Prop :=
  (store.get? id).isSome = true

instance (store : Store) (id : String) : Decidable (store.Has id) :=
  inferInstanceAs (Decidable (_ = _))

theorem has_iff {id : String} : store.Has id ↔ ∃ note, store.get? id = some note :=
  Option.isSome_iff_exists

theorem has_of_get {id : String} {note : Note} (h : store.get? id = some note) : store.Has id :=
  has_iff.2 ⟨note, h⟩

theorem not_has_iff {id : String} : ¬ store.Has id ↔ store.get? id = none := by
  rw [Has, Bool.not_eq_true, Option.isSome_eq_false_iff, Option.isNone_iff_eq_none]

/-- The ids of a store are those it holds a note under. -/
theorem mem_ids_iff_has {id : String} : id ∈ store.ids ↔ store.Has id :=
  mem_ids

/-! ## Notes put in one after the other -/

/-- The highest of a clock and the versions of some notes. -/
def highest (clock : Int) (notes : List Note) : Int :=
  notes.foldl (fun clock note => max clock note.version) clock

/-- A number that is not below the highest of a clock and some versions is below none of them. -/
theorem highest_le_iff {clock bound : Int} {notes : List Note} :
    highest clock notes ≤ bound ↔ clock ≤ bound ∧ ∀ note ∈ notes, note.version ≤ bound := by
  induction notes generalizing clock with
  | nil => simp [highest]
  | cons note notes ih =>
      have hrest := @ih (max clock note.version)
      simp only [highest, List.foldl_cons] at hrest ⊢
      rw [hrest, Int.max_le]
      simp [and_assoc]

/-- The highest of a clock and some versions is within the range if all of them are. -/
theorem highest_in_range {clock : Int} {notes : List Note} (hclock : Decimal.InRange clock)
    (h : ∀ note ∈ notes, Decimal.InRange note.version) : Decimal.InRange (highest clock notes) := by
  induction notes generalizing clock with
  | nil => exact hclock
  | cons note notes ih =>
      exact ih (hclock.max (h note (by simp))) fun other hother => h other (by simp [hother])

/-- The notes of a map with others put in under their ids. -/
def overlay (under : Std.ExtTreeMap String Note) (notes : List Note) : Std.ExtTreeMap String Note :=
  notes.foldl (fun under note => under.insert note.id note.withDefaults) under

/-- Putting notes in changes the notes and the clock. -/
theorem foldl_restore_eq (notes : List Note) (store : Store) (h : store.touched = ∅) :
    notes.foldl restore store =
      { store with
        clock := highest store.clock notes
        notes := overlay store.notes notes } := by
  induction notes generalizing store with
  | nil => rfl
  | cons note notes ih =>
      rw [List.foldl_cons, ih _ rfl]
      simp [restore, highest, overlay, h]

/-- The notes after putting notes in. -/
theorem foldl_restore_notes (notes : List Note) (store : Store) :
    (notes.foldl restore store).notes = overlay store.notes notes := by
  induction notes generalizing store with
  | nil => rfl
  | cons note notes ih =>
      rw [List.foldl_cons, ih]
      rfl

/-- A note is found under an id that none of the notes put in has. -/
theorem get_overlay_of_not_mem {notes : List Note} {id : String}
    (h : id ∉ notes.map Note.id) (under : Std.ExtTreeMap String Note) :
    (overlay under notes)[id]? = under[id]? := by
  induction notes generalizing under with
  | nil => rfl
  | cons note notes ih =>
      simp only [List.map_cons, List.mem_cons, not_or] at h
      have hrest := ih h.2 (under.insert note.id note.withDefaults)
      simp only [overlay, List.foldl_cons] at hrest ⊢
      rw [hrest, Std.ExtTreeMap.getElem?_insert]
      simp [Ne.symm h.1]

/-- Of notes with different ids each is found under its id. -/
theorem get_overlay_of_mem {notes : List Note} (hnodup : (notes.map Note.id).Nodup)
    {note : Note} (h : note ∈ notes) (under : Std.ExtTreeMap String Note) :
    (overlay under notes)[note.id]? = some note.withDefaults := by
  induction notes generalizing under with
  | nil => simp at h
  | cons first notes ih =>
      simp only [List.map_cons, List.nodup_cons] at hnodup
      rcases List.mem_cons.1 h with rfl | h
      · have hrest := get_overlay_of_not_mem hnodup.1 (under.insert note.id note.withDefaults)
        simpa [overlay] using hrest
      · simpa [overlay] using ih hnodup.2 h (under.insert first.id first.withDefaults)

/-- A note that is found among notes over others is one of the upper notes, and otherwise one of the
lower. -/
theorem get_overlay (under : Std.ExtTreeMap String Note) (notes : List Note) (id : String) :
    (overlay under notes)[id]? = (overlay ∅ notes)[id]?.or under[id]? := by
  induction notes generalizing under with
  | nil => simp [overlay]
  | cons note notes ih =>
      let alone := (∅ : Std.ExtTreeMap String Note).insert note.id note.withDefaults
      have hfirst := ih (under.insert note.id note.withDefaults)
      have halone := ih alone
      change (overlay (under.insert note.id note.withDefaults) notes)[id]? =
        ((overlay alone notes)[id]?).or under[id]?
      rw [hfirst, halone, Std.ExtTreeMap.getElem?_insert, Std.ExtTreeMap.getElem?_insert,
        Option.or_assoc]
      split <;> simp

/-- The upper notes are found under their ids, and no others among them. -/
theorem overlay_isSome {notes : List Note} {id : String} :
    (overlay ∅ notes)[id]?.isSome = true ↔ id ∈ notes.map Note.id := by
  induction notes with
  | nil => simp [overlay]
  | cons note notes ih =>
      change ((overlay ((∅ : Std.ExtTreeMap String Note).insert note.id note.withDefaults)
        notes)[id]?).isSome = true ↔ _
      rw [get_overlay, Std.ExtTreeMap.getElem?_insert, Option.isSome_or, Bool.or_eq_true, ih,
        List.map_cons, List.mem_cons]
      split
      next heq =>
        obtain rfl : note.id = id := by simpa using heq
        simp
      next hne =>
        have hid : id ≠ note.id := fun heq => hne (by simp [heq])
        simp [hid]

/-- Notes that are put over others lie under their ids if the others do. -/
theorem overlay_keyed {under : Std.ExtTreeMap String Note} {notes : List Note}
    (h : ∀ (id : String) (note : Note), under[id]? = some note → note.id = id) :
    ∀ (id : String) (note : Note), (overlay under notes)[id]? = some note → note.id = id := by
  induction notes generalizing under with
  | nil => exact h
  | cons first notes ih =>
      refine @ih (under.insert first.id first.withDefaults) fun id note hfound => ?_
      rw [Std.ExtTreeMap.getElem?_insert] at hfound
      split at hfound
      next heq =>
        obtain rfl := Option.some.inj hfound
        have hid : first.id = id := by simpa using heq
        exact hid
      next => exact h id note hfound

/-- The notes of a keyed store that are put into nothing are the notes of the store. -/
theorem overlay_all (hkeyed : store.Keyed) (h : ∀ note ∈ store.all, note.withDefaults = note) :
    overlay ∅ store.all = store.notes := by
  apply Std.ExtTreeMap.ext_getElem?
  intro id
  cases hfound : store.notes[id]? with
  | none =>
      rw [get_overlay_of_not_mem]
      · simp
      · rw [hkeyed.map_id_all, ids, Std.ExtTreeMap.mem_keys]
        simp [Std.ExtTreeMap.mem_iff_isSome_getElem?, hfound]
  | some note =>
      have hmem : note ∈ store.all := mem_all.2 ⟨id, hfound⟩
      have hid := hkeyed id note hfound
      subst hid
      rw [get_overlay_of_mem hkeyed.nodup_all hmem, h note hmem]

/-! ## Defaults -/

/-- The notes of a store with defaults. -/
theorem get_with_defaults (store : Store) (id : String) :
    store.withDefaults.notes[id]? = store.notes[id]?.map Note.withDefaults := by
  simp [withDefaults, editAll, Std.ExtTreeMap.getElem?_map]

/-- Defaults change nothing in a storable store. -/
theorem Storable.defaults (h : store.Storable) : store.withDefaults = store := by
  have hnotes : store.withDefaults.notes = store.notes := by
    apply Std.ExtTreeMap.ext_getElem?
    intro id
    rw [get_with_defaults]
    cases hfound : store.notes[id]? with
    | none => rfl
    | some note => simp [(h.notes id note hfound).with_defaults]
  calc store.withDefaults = { store with notes := store.withDefaults.notes } := rfl
    _ = store := by rw [hnotes]

/-- Defaults change no id. -/
theorem Keyed.with_defaults (h : store.Keyed) : store.withDefaults.Keyed := by
  intro id note hfound
  rw [get_with_defaults, Option.map_eq_some_iff] at hfound
  obtain ⟨old, hold, rfl⟩ := hfound
  exact h id old hold

end Store

end Notekeeper
