import Notekeeper.Proofs.Attempt
import Notekeeper.Proofs.Store.Change
import Notekeeper.Proofs.Sync.Merge
import Notekeeper.Notebook.Exchange

/-!
# What all changes of a store keep

A condition on stores is `Store.Lasting` if every change that a store goes through keeps it, and
`Store.Stable` if it also holds of a new store. Saves and loads then keep it whatever their outcome.
Stable are that notes lie under their ids (`Store.keyed_stable`) and that no version is above the
clock (`Store.capped_stable`); that the clock has come to some point is lasting
(`Store.clock_lasting`), and so is the path (`Store.path_lasting`). That notes have names and folders
is only `Store.Enduring` (`Store.named_enduring`): the revision of a note may take them away, and the
next save gives defaults (`Store.save_names`).
-/

namespace Notekeeper

/-- A store and the disk it has its files on are as conditions say. -/
structure Shelf.Conforms (kept : Store → Prop) (keptDisk : Disk → Prop) (shelf : Shelf) : Prop where
  store : kept shelf.store
  disk : keptDisk shelf.disk

namespace Store

/-- A condition on stores that every change of a store keeps. -/
structure Lasting (kept : Store → Prop) : Prop where
  add : ∀ store note, kept store → kept (store.add note)
  restore : ∀ store note, kept store → kept (store.restore note)
  revise : ∀ store id note edited, kept store → store.get? id = some note → edited.id = note.id →
    edited.version = note.version → kept (store.revise id edited)
  without : ∀ store id, kept store → kept (store.without id)
  /-- The store forgets or learns what is to be saved. -/
  marks : ∀ store touched due, kept store →
    kept { store with touched := touched, fullSaveDue := due }
  /-- The clocks of the last export and import are set. -/
  clocks : ∀ store exportClock importClock, kept store →
    kept (store.withClocks exportClock importClock)
  raise : ∀ store clock, kept store → kept (store.raiseClock clock)
  drop : ∀ store, kept store → kept { store with notes := ∅ }
  /-- All notes are edited in a way that keeps what the store knows them by. -/
  editAll : ∀ store change, kept store → (∀ note, (change note).id = note.id) →
    (∀ note, (change note).version = note.version) → kept (store.editAll change)

/-- A condition on stores that every change of a store keeps but the revision of a note that is in it. -/
structure Enduring (kept : Store → Prop) : Prop where
  add : ∀ store note, kept store → kept (store.add note)
  restore : ∀ store note, kept store → kept (store.restore note)
  without : ∀ store id, kept store → kept (store.without id)
  /-- The store forgets or learns what is to be saved. -/
  marks : ∀ store touched due, kept store →
    kept { store with touched := touched, fullSaveDue := due }
  /-- The clocks of the last export and import are set. -/
  clocks : ∀ store exportClock importClock, kept store →
    kept (store.withClocks exportClock importClock)
  raise : ∀ store clock, kept store → kept (store.raiseClock clock)
  drop : ∀ store, kept store → kept { store with notes := ∅ }
  defaults : ∀ store, kept store → kept store.withDefaults
  stamp : ∀ store, kept store → kept store.stampExport

/-- A condition on stores that holds of a new store and that every change of a store keeps. -/
structure Stable (kept : Store → Prop) : Prop extends Lasting kept where
  fresh : ∀ path?, kept { path? := path? }

/-- No version is above the clock. -/
def Capped (store : Store) : Prop :=
  ∀ (id : String) (note : Note), store.notes[id]? = some note → note.version ≤ store.clock

/-- Notes stay under their ids. -/
theorem keyed_stable : Stable Keyed where
  fresh := fun _ id note hfound => by simp at hfound
  add := fun _ note h => h.add note
  restore := fun _ note h => h.restore note
  revise := fun _ id note _ h hfound hid _ => h.revise (hid.trans (h id note hfound))
  without := fun _ id h => h.without id
  marks := fun _ _ _ h => h
  clocks := fun _ _ _ h => h
  raise := fun _ _ h => h
  drop := fun _ _ id note hfound => by simp at hfound
  editAll := by
    intro store change h hid _ id note hfound
    simp only [Store.editAll, Std.ExtTreeMap.getElem?_map, Option.map_eq_some_iff] at hfound
    obtain ⟨old, hold, rfl⟩ := hfound
    exact (hid old).trans (h id old hold)

/-- Versions stay below the clock. -/
theorem capped_stable : Stable Capped where
  fresh := fun _ id note hfound => by simp at hfound
  add := by
    intro store note h id found hfound
    rw [get_add] at hfound
    simp only [Store.add]
    split at hfound
    · obtain rfl := Option.some.inj hfound
      exact Int.le_refl _
    · have hle := h id found hfound
      omega
  restore := by
    intro store note h id found hfound
    rw [get_restore] at hfound
    simp only [Store.restore]
    split at hfound
    · obtain rfl := Option.some.inj hfound
      exact Int.le_max_right _ _
    · exact Int.le_trans (h id found hfound) (Int.le_max_left _ _)
  revise := by
    intro store id note edited h _ _ _ other found hfound
    rw [get_revise] at hfound
    simp only [Store.revise]
    split at hfound
    · obtain rfl := Option.some.inj hfound
      exact Int.le_refl _
    · have hle := h other found hfound
      omega
  without := by
    intro store id h other found hfound
    rw [get_without] at hfound
    simp only [Store.without]
    split at hfound
    · cases hfound
    · have hle := h other found hfound
      omega
  marks := fun _ _ _ h => h
  clocks := fun _ _ _ h => h
  raise := fun store clock h id note hfound =>
    Int.le_trans (h id note hfound) (Int.le_max_left store.clock clock)
  drop := fun _ _ id note hfound => by simp at hfound
  editAll := by
    intro store change h _ hversion id note hfound
    simp only [Store.editAll, Std.ExtTreeMap.getElem?_map, Option.map_eq_some_iff] at hfound
    obtain ⟨old, hold, rfl⟩ := hfound
    rw [hversion old]
    exact h id old hold

/-- The clock is never turned back. -/
theorem clock_lasting (bound : Int) : Lasting fun store => bound ≤ store.clock where
  add := by
    intro store note h
    simp only [Store.add]
    omega
  restore := fun store note h => Int.le_trans h (Int.le_max_left store.clock note.version)
  revise := by
    intro store id note edited h _ _ _
    simp only [Store.revise]
    omega
  without := by
    intro store id h
    simp only [Store.without]
    omega
  marks := fun _ _ _ h => h
  clocks := fun _ _ _ h => h
  raise := fun store clock h => Int.le_trans h (Int.le_max_left store.clock clock)
  drop := fun _ h => h
  editAll := fun _ _ h _ _ => h

/-- The clock starts at one and is never turned back beyond that. -/
theorem positive_stable : Stable fun store => 1 ≤ store.clock where
  toLasting := clock_lasting 1
  fresh := fun _ => Int.le_refl 1

/-- A store stays at its path. -/
theorem path_lasting (path? : Option String) : Lasting fun store => store.path? = path? where
  add := fun _ _ h => h
  restore := fun _ _ h => h
  revise := fun _ _ _ _ h _ _ _ => h
  without := fun _ _ h => h
  marks := fun _ _ _ h => h
  clocks := fun _ _ _ h => h
  raise := fun _ _ h => h
  drop := fun _ h => h
  editAll := fun _ _ h _ _ => h

/-- Two conditions that last do so together. -/
theorem Lasting.and {kept other : Store → Prop} (h : Lasting kept) (hother : Lasting other) :
    Lasting fun store => kept store ∧ other store where
  add := fun store note hboth => ⟨h.add store note hboth.1, hother.add store note hboth.2⟩
  restore := fun store note hboth => ⟨h.restore store note hboth.1, hother.restore store note hboth.2⟩
  revise := fun store id note edited hboth hfound hid hversion =>
    ⟨h.revise store id note edited hboth.1 hfound hid hversion,
      hother.revise store id note edited hboth.2 hfound hid hversion⟩
  without := fun store id hboth => ⟨h.without store id hboth.1, hother.without store id hboth.2⟩
  marks := fun store touched due hboth =>
    ⟨h.marks store touched due hboth.1, hother.marks store touched due hboth.2⟩
  clocks := fun store exportClock importClock hboth =>
    ⟨h.clocks store exportClock importClock hboth.1,
      hother.clocks store exportClock importClock hboth.2⟩
  raise := fun store clock hboth => ⟨h.raise store clock hboth.1, hother.raise store clock hboth.2⟩
  drop := fun store hboth => ⟨h.drop store hboth.1, hother.drop store hboth.2⟩
  editAll := fun store change hboth hid hversion =>
    ⟨h.editAll store change hboth.1 hid hversion, hother.editAll store change hboth.2 hid hversion⟩

variable {kept : Store → Prop} {keptDisk : Disk → Prop}

/-- What every change of a store keeps endures. -/
theorem Lasting.enduring (h : Lasting kept) : Enduring kept where
  add := h.add
  restore := h.restore
  without := h.without
  marks := h.marks
  clocks := h.clocks
  raise := h.raise
  drop := h.drop
  defaults := fun store hstore => h.editAll store _ hstore (fun _ => rfl) fun _ => rfl
  stamp := fun store hstore => h.marks _ _ _ (h.editAll _ _
    (h.clocks store store.clock store.importClock hstore) (fun _ => rfl) fun _ => rfl)

/-- Only revised notes may be without a name or a folder. -/
theorem named_enduring : Enduring Named where
  add := fun _ note h => h.add note
  restore := fun _ note h => h.restore note
  without := fun _ id h => h.without id
  marks := fun _ _ _ h => h
  clocks := fun _ _ _ h => h
  raise := fun _ _ h => h
  drop := fun _ _ id note hfound => by simp [get?] at hfound
  defaults := fun store _ => named_of_defaults store.with_defaults_idem
  stamp := by
    intro store h id note hfound
    simp only [stampExport, editAll, requireFullSave, get?, Std.ExtTreeMap.getElem?_map,
      Option.map_eq_some_iff] at hfound
    obtain ⟨old, hold, rfl⟩ := hfound
    exact h id old hold

/-! ## Saving and loading -/

/-- A change of the store. -/
theorem change_keeps {change : Store → Store} (h : ∀ store, kept store → kept (change store)) :
    (Shelf.change change).Keeps (Shelf.Conforms kept keptDisk) :=
  .modify fun shelf hshelf => ⟨h shelf.store hshelf.store, hshelf.disk⟩

/-- An attempt on the disk leaves the store alone. -/
theorem on_disk_keeps {result : Type} {attempt : Attempt Disk result} (h : attempt.Keeps keptDisk) :
    (Shelf.onDisk attempt).Keeps (Shelf.Conforms kept keptDisk) :=
  .within h (fun _ hshelf => hshelf.disk) fun _ _ hshelf hdisk => ⟨hshelf.store, hdisk⟩

/-- A save keeps what endures and what writing texts keeps. -/
theorem Enduring.save (h : Enduring kept)
    (htext : ∀ path text, (Disk.writeText path text).Keeps keptDisk) :
    save.Keeps (Shelf.Conforms kept keptDisk) := by
  unfold Store.save Shelf.getStore
  refine .bind (change_keeps h.defaults) fun _ => .bind (.get_bind fun _ hshelf => hshelf) ?_
  intro store
  split
  · exact .throw _
  · split
    · exact .bind (on_disk_keeps (htext _ _)) fun _ => .pure _
    · refine .bind (change_keeps fun store hstore => h.marks store ∅ false hstore) fun _ => ?_
      exact .bind (on_disk_keeps (htext _ _)) fun _ =>
        .bind (on_disk_keeps (htext _ _)) fun _ => .pure _

/-- A save begins with giving defaults, so it does the same for a store that has been given them. -/
theorem save_of_defaults (shelf : Shelf) :
    save { shelf with store := shelf.store.withDefaults } = save shelf := by
  simp only [save, Shelf.change, bind, EStateM.bind, modify, modifyGet, MonadStateOf.modifyGet,
    EStateM.modifyGet, with_defaults_idem]

/-- A save gives the notes names and folders, whether the disk takes it or not. -/
theorem save_names (shelf : Shelf) :
    save.Meets shelf (fun _ left => left.store.Named) fun _ left => left.store.Named := by
  rw [← Attempt.meets_congr (save_of_defaults shelf)]
  have hkeeps : save.Keeps (Shelf.Conforms Named fun _ => True) :=
    named_enduring.save fun _ _ => Attempt.Keeps.trivial _
  exact (hkeeps _ ⟨named_of_defaults shelf.store.with_defaults_idem, trivial⟩).mono
    (fun _ _ hleft => hleft.store) fun _ _ hleft => hleft.store

/-- Writing a store to another file keeps what endures and what writing texts keeps. -/
theorem Enduring.save_to (h : Enduring kept)
    (htext : ∀ path text, (Disk.writeText path text).Keeps keptDisk) (path : String) :
    (saveTo path).Keeps (Shelf.Conforms kept keptDisk) := by
  unfold Store.saveTo Shelf.getStore
  refine .bind (change_keeps h.defaults) fun _ => .bind (.get_bind fun _ hshelf => hshelf) ?_
  exact fun store => .bind (on_disk_keeps (htext _ _)) fun _ => .pure _

/-- Reading a text changes no disk. -/
theorem read_text_keeps (path : String) : (Disk.readText path).Keeps keptDisk := by
  intro disk hdisk
  unfold Attempt.Meets Disk.readText
  cases (disk.octets? path).bind Text.decode? <;> exact hdisk

/-- Reading a file keeps what endures and changes no disk. -/
theorem Enduring.read_file (h : Enduring kept) (path : String) :
    (readFile path).Keeps (Shelf.Conforms kept keptDisk) := by
  unfold readFile
  refine .bind (on_disk_keeps (read_text_keeps path)) fun text => .modify_get fun shelf hshelf => ?_
  exact ⟨(read_keeps kept h.restore h.clocks shelf.store hshelf.store shelf.supply text).1,
    hshelf.disk⟩

/-- Loading a main file keeps what endures and changes no disk. -/
theorem Enduring.load_from (h : Enduring kept) (path : String) :
    (loadFrom path).Keeps (Shelf.Conforms kept keptDisk) := by
  unfold loadFrom
  refine .bind (change_keeps fun store hstore => h.marks store ∅ true hstore) fun _ => ?_
  exact .bind (h.read_file path) fun _ => .pure _

/-- Loading both files keeps what endures and changes no disk. -/
theorem Enduring.load (h : Enduring kept) : load.Keeps (Shelf.Conforms kept keptDisk) := by
  unfold Store.load Shelf.getStore
  refine .bind (.get_bind fun _ hshelf => hshelf) fun store => ?_
  split
  · exact .throw _
  next path _ =>
    refine .bind (h.load_from path) fun _ => .get_bind fun shelf hshelf => ?_
    split
    · refine Attempt.Keeps.bind (h.read_file (diffPath path)) (fun ids => ?_) shelf hshelf
      exact change_keeps fun store hstore => h.marks store _ false hstore
    · exact hshelf

end Store

end Notekeeper
