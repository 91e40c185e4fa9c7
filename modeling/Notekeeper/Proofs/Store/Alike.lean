import Notekeeper.Proofs.Store.Change

/-!
# Like stores

Two stores are alike if they hold the same notes under the same clocks. What is to be saved of them
may differ, as may the files they are saved to. Whatever reads notes and clocks alone makes like
stores of like stores, and a store is saved as one like it (`Store.alike_saved`).
-/

namespace Notekeeper

namespace Store

/-- Two stores hold the same notes under the same clocks. -/
structure Alike (store other : Store) : Prop where
  notes : other.notes = store.notes
  clock : other.clock = store.clock
  export_clock : other.exportClock = store.exportClock
  import_clock : other.importClock = store.importClock

variable {store other last : Store}

theorem Alike.refl (store : Store) : store.Alike store :=
  ⟨rfl, rfl, rfl, rfl⟩

theorem Alike.symm (h : store.Alike other) : other.Alike store :=
  ⟨h.notes.symm, h.clock.symm, h.export_clock.symm, h.import_clock.symm⟩

theorem Alike.trans (h : store.Alike other) (hlast : other.Alike last) : store.Alike last :=
  ⟨hlast.notes.trans h.notes, hlast.clock.trans h.clock, hlast.export_clock.trans h.export_clock,
    hlast.import_clock.trans h.import_clock⟩

/-! ## What is the same of like stores -/

/-- Like stores have the same note under an id. -/
theorem Alike.get_eq (h : store.Alike other) (id : String) : other.get? id = store.get? id := by
  rw [get?, h.notes, get?]

/-- Like stores hold the same ids. -/
theorem Alike.contains_eq (h : store.Alike other) (id : String) :
    other.contains id = store.contains id := by
  rw [contains, h.notes, contains]

/-- Like stores hold the same ids. -/
theorem Alike.has_iff (h : store.Alike other) {id : String} : other.Has id ↔ store.Has id := by
  rw [Has, h.get_eq, Has]

/-- Like stores hold the same ids, also if one has been given its defaults. -/
theorem has_of_alike_defaults (h : store.withDefaults.Alike other) {id : String} :
    other.Has id ↔ store.Has id := by
  rw [Has, h.get_eq, get?, get_with_defaults, Option.isSome_map, Has, get?]

/-- Like stores have the same text. -/
theorem Alike.text_eq (h : store.Alike other) : other.text = store.text := by
  simp only [text, textOf, header, all, h.notes, h.export_clock, h.import_clock]

/-- A file can hold a store if it can hold one like it. -/
theorem Alike.storable (h : store.Alike other) (hstorable : store.Storable) : other.Storable := by
  refine ⟨?_, ?_, ?_⟩
  · rw [h.notes]
    exact hstorable.notes
  · rw [h.export_clock]
    exact hstorable.export_range
  · rw [h.import_clock]
    exact hstorable.import_range

/-! ## What stays alike -/

/-- Defaults are given to like stores alike. -/
theorem Alike.with_defaults (h : store.Alike other) :
    store.withDefaults.Alike other.withDefaults := by
  refine ⟨?_, h.clock, h.export_clock, h.import_clock⟩
  simp only [withDefaults, editAll, h.notes]

/-- Like stores stay alike when a note is put in. -/
theorem Alike.restore (h : store.Alike other) (note : Note) :
    (store.restore note).Alike (other.restore note) := by
  refine ⟨?_, ?_, h.export_clock, h.import_clock⟩
  · simp only [Store.restore, h.notes]
  · simp only [Store.restore, h.clock]

/-- Notes put in one after the other change the notes and the clock. -/
theorem alike_foldl_restore (notes : List Note) (store : Store) :
    ({ store with
        clock := highest store.clock notes
        notes := overlay store.notes notes } : Store).Alike (notes.foldl restore store) := by
  induction notes generalizing store with
  | nil => exact .refl store
  | cons note notes ih =>
      obtain ⟨hnotes, hclock, hexport, himport⟩ := ih (store.restore note)
      exact ⟨hnotes, hclock, hexport, himport⟩

/-- Like stores stay alike when a note is taken out. -/
theorem Alike.without (h : store.Alike other) (id : String) :
    (store.without id).Alike (other.without id) := by
  refine ⟨?_, ?_, h.export_clock, h.import_clock⟩
  · simp only [Store.without, h.notes]
  · simp only [Store.without, h.clock]

/-- Like stores stay alike when a note is revised. -/
theorem Alike.revise (h : store.Alike other) (id : String) (note : Note) :
    (store.revise id note).Alike (other.revise id note) := by
  refine ⟨?_, ?_, h.export_clock, h.import_clock⟩
  · simp only [Store.revise, h.notes, h.clock]
  · simp only [Store.revise, h.clock]

/-- Saving changes nothing but defaults. -/
theorem alike_saved (store : Store) : store.withDefaults.Alike store.saved := by
  obtain ⟨-, hnotes, hclock, hexport, himport⟩ := store.saved_eq
  exact ⟨hnotes, hclock, hexport, himport⟩

/-- A store that a file can hold is saved as one like it. -/
theorem Storable.alike_saved (h : store.Storable) : store.Alike store.saved := by
  have halike := store.alike_saved
  rwa [h.defaults] at halike

/-- Saving changes no id. -/
theorem has_saved {id : String} : store.saved.Has id ↔ store.Has id :=
  has_of_alike_defaults store.alike_saved

/-- Defaults change no id. -/
theorem has_with_defaults {id : String} : store.withDefaults.Has id ↔ store.Has id :=
  has_of_alike_defaults (.refl _)

end Store

end Notekeeper
