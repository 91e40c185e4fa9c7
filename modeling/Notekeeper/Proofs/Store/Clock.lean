import Notekeeper.Proofs.Store.Stable

/-!
# Versions and the clock of a store in use

A store is used by operations in any order, each of which may succeed or fail in any way, while
others may change its files (`Shelf.perform`). Its clock is never turned back and never below a
version, whatever was read from the files, so that a note that is added or touched gets the highest
version of all (`Store.clock_bounds_versions`).
-/

namespace Notekeeper

namespace Store

/-- An edit of a note that leaves alone what a store knows the note by. -/
structure Edit where
  change : Note → Note
  id_eq : ∀ note, (change note).id = note.id
  version_eq : ∀ note, (change note).version = note.version

/-- What is done with a store or its files. -/
inductive Operation where
  | add (note : Note)
  | restore (note : Note)
  | touch (id : String)
  | remove (id : String)
  | raiseClock (clock : Int)
  | clear
  | requireFullSave
  | edit (id : String) (made : Edit)
  | save
  | saveTo (path : String)
  | load
  | loadFrom (path : String)
  /-- Others change the files. -/
  | overwrite (disk : Disk)

/-- A change of the store of a shelf that may fail. -/
def tryChange (change : Store → Except Fault Store) : Attempt Shelf Unit := do
  let left ← Attempt.ofExcept (change (← Shelf.getStore))
  Shelf.change fun _ => left

/-- An operation is performed. -/
def Operation.perform : Operation → Attempt Shelf Unit
  | .add note => Shelf.change fun store => store.add note
  | .restore note => Shelf.change fun store => store.restore note
  | .touch id => tryChange fun store => store.touch id
  | .remove id => tryChange fun store => (store.remove id).map Prod.snd
  | .raiseClock clock => Shelf.change fun store => store.raiseClock clock
  | .clear => Shelf.change Store.clear
  | .requireFullSave => Shelf.change Store.requireFullSave
  | .edit id made => Shelf.change fun store => store.edit id made.change
  | .save => do let _ ← Store.save
  | .saveTo path => do let _ ← Store.saveTo path
  | .load => Store.load
  | .loadFrom path => Store.loadFrom path
  | .overwrite disk => modify fun shelf => { shelf with disk := disk }

/-- What is left of a shelf by operations one after the other, whether they succeed or fail. -/
def performAll (operations : List Operation) (shelf : Shelf) : Shelf :=
  operations.foldl (fun shelf operation => operation.perform.after shelf) shelf

variable {kept : Store → Prop} {keptDisk : Disk → Prop} {store : Store} {id : String} {note : Note}

/-! ## What operations keep -/

/-- A note that is there can be touched. -/
theorem touch_eq (h : store.get? id = some note) : store.touch id = .ok (store.revise id note) := by
  have htouch := touch_edit h note
  rw [edit_self h] at htouch
  exact htouch

/-- To edit one note is to edit all notes, the others without effect. -/
theorem Keyed.edit_eq (h : store.Keyed) (change : Note → Note) :
    store.edit id change = store.editAll fun note => if note.id = id then change note else note := by
  have hnotes : (store.edit id change).notes =
      store.notes.map fun _ note => if note.id = id then change note else note := by
    apply Std.ExtTreeMap.ext_getElem?
    intro other
    rw [Std.ExtTreeMap.getElem?_map]
    cases hfound : store.get? id with
    | none =>
        simp only [edit, hfound]
        cases hother : store.notes[other]? with
        | none => rfl
        | some note =>
            have hne : note.id ≠ id := by
              rintro rfl
              rw [get?, h other note hother, hother] at hfound
              cases hfound
            rw [Option.map_some, if_neg hne]
    | some note =>
        simp only [edit, hfound, Std.ExtTreeMap.getElem?_insert]
        split
        next heq =>
          obtain rfl : id = other := by simpa using heq
          rw [show store.notes[id]? = some note from hfound, Option.map_some,
            if_pos (h id note hfound)]
        next hne =>
          cases hother : store.notes[other]? with
          | none => rfl
          | some held =>
              have hid : held.id ≠ id := by
                rw [h other held hother]
                rintro rfl
                simp at hne
              rw [Option.map_some, if_neg hid]
  calc store.edit id change = { store with notes := (store.edit id change).notes } := by
        unfold edit
        split <;> rfl
    _ = _ := by rw [hnotes]; rfl

/-- An edit of one note keeps what is lasting. -/
theorem Lasting.edit (h : Lasting kept) (hkeyed : store.Keyed) (hstore : kept store) (id : String)
    (made : Edit) : kept (store.edit id made.change) := by
  rw [hkeyed.edit_eq]
  refine h.editAll store _ hstore (fun note => ?_) fun note => ?_
  · split
    · exact made.id_eq note
    · rfl
  · split
    · exact made.version_eq note
    · rfl

/-- A change that may fail keeps what it keeps when it succeeds. -/
theorem try_change_keeps {change : Store → Except Fault Store}
    (h : ∀ store left, kept store → change store = .ok left → kept left) :
    (tryChange change).Keeps (Shelf.Conforms kept keptDisk) := by
  unfold tryChange Shelf.getStore
  refine .get_bind fun shelf hshelf => ?_
  rw [Attempt.meets_bind, Attempt.meets_of_except]
  cases hchange : change shelf.store with
  | error fault => exact hshelf
  | ok left => exact ⟨h shelf.store left hshelf.store hchange, hshelf.disk⟩

/-- Every operation keeps what is lasting and says that notes lie under their ids, whatever is on the
disk. -/
theorem Lasting.perform (h : Lasting kept) (hkeyed : ∀ store, kept store → store.Keyed)
    (operation : Operation) : operation.perform.Keeps (Shelf.Conforms kept fun _ => True) := by
  have htext (path text : String) : (Disk.writeText path text).Keeps fun _ => True :=
    Attempt.Keeps.trivial _
  cases operation with
  | add note => exact change_keeps fun store hstore => h.add store note hstore
  | restore note => exact change_keeps fun store hstore => h.restore store note hstore
  | touch id =>
      refine try_change_keeps fun store left hstore htouch => ?_
      cases hfound : store.get? id with
      | none => simp [touch, hfound] at htouch
      | some note =>
          rw [touch_eq hfound] at htouch
          obtain rfl := Except.ok.inj htouch
          exact h.revise store id note note hstore hfound rfl rfl
  | remove id =>
      refine try_change_keeps fun store left hstore hremove => ?_
      cases hfound : store.get? id with
      | none => simp [remove, hfound, Except.map] at hremove
      | some note =>
          rw [remove_eq hfound] at hremove
          obtain rfl := Except.ok.inj hremove
          exact h.without store id hstore
  | raiseClock clock => exact change_keeps fun store hstore => h.raise store clock hstore
  | clear => exact change_keeps fun store hstore => h.marks _ ∅ true (h.drop store hstore)
  | requireFullSave => exact change_keeps fun store hstore => h.marks store ∅ true hstore
  | edit id made => exact change_keeps fun store hstore => h.edit (hkeyed store hstore) hstore id made
  | save => exact .bind (h.enduring.save htext) fun _ => .pure _
  | saveTo path => exact .bind (h.enduring.save_to htext path) fun _ => .pure _
  | load => exact h.enduring.load
  | loadFrom path => exact h.enduring.load_from path
  | overwrite disk => exact .modify fun _ hshelf => ⟨hshelf.store, trivial⟩

/-- Operations one after the other keep what each of them keeps. -/
theorem Lasting.perform_all (h : Lasting kept) (hkeyed : ∀ store, kept store → store.Keyed)
    (operations : List Operation) {shelf : Shelf} (hshelf : kept shelf.store) :
    kept (performAll operations shelf).store := by
  induction operations generalizing shelf with
  | nil => exact hshelf
  | cons operation operations ih =>
      exact ih ((h.perform hkeyed operation).after ⟨hshelf, trivial⟩).store

/-! ## New versions -/

/-- The note under an id has the clock as its version, and all other notes have lower ones. -/
def Newest (store : Store) (id : String) : Prop :=
  ∃ note, store.get? id = some note ∧ note.version = store.clock ∧
    ∀ other held, other ≠ id → store.get? other = some held → held.version < note.version

/-- A note that is added has the highest version. -/
theorem Capped.newest_add (h : store.Capped) (note : Note) : (store.add note).Newest note.id := by
  refine ⟨{ note.withDefaults with version := 1 + max store.clock note.version },
    by rw [get?, get_add, if_pos rfl], rfl, fun other held hne hheld => ?_⟩
  rw [get_add_of_ne (Ne.symm hne)] at hheld
  have hle := h other held hheld
  dsimp only
  omega

/-- A note that is revised has the highest version. -/
theorem Capped.newest_revise (h : store.Capped) (id : String) (note : Note) :
    (store.revise id note).Newest id := by
  refine ⟨{ note with version := 1 + max store.clock note.version },
    by rw [get?, get_revise, if_pos rfl], rfl, fun other held hne hheld => ?_⟩
  rw [get?, get_revise, if_neg (Ne.symm hne)] at hheld
  have hle := h other held hheld
  dsimp only
  omega

/-- However a store is used, notes lie under their ids, no version is above the clock, the clock is
never turned back, and a note that is added or touched gets the new clock as its version, above the
versions of all others. -/
theorem clock_bounds_versions (path? : Option String) (disk : Disk) (supply : Supply)
    (earlier later : List Operation) :
    let now := performAll earlier ⟨{ path? := path? }, disk, supply⟩
    now.store.Keyed ∧ now.store.Capped ∧
      now.store.clock ≤ (performAll later now).store.clock ∧
      (∀ note, (Operation.add note).perform.Meets now
        (fun _ left => left.store.Newest note.id ∧ now.store.clock < left.store.clock)
        fun _ _ => False) ∧
      (∀ id, (Operation.touch id).perform.Meets now
        (fun _ left => left.store.Newest id ∧ now.store.clock < left.store.clock)
        fun fault left => fault = .notFound id ∧ left = now ∧ now.store.get? id = none) := by
  intro now
  have hbounds : now.store.Keyed ∧ now.store.Capped :=
    (keyed_stable.and capped_stable.toLasting).perform_all (fun _ h => h.1) earlier
      ⟨keyed_stable.fresh path?, capped_stable.fresh path?⟩
  have hlater := (keyed_stable.and (clock_lasting now.store.clock)).perform_all (fun _ h => h.1) later
    ⟨hbounds.1, Int.le_refl _⟩
  refine ⟨hbounds.1, hbounds.2, hlater.2, fun note => ?_, fun id => ?_⟩
  · refine ⟨hbounds.2.newest_add note, ?_⟩
    change now.store.clock < 1 + max now.store.clock note.version
    omega
  · simp only [Operation.perform, tryChange, Shelf.getStore, Attempt.meets_bind, Attempt.meets_get,
      Attempt.meets_pure, Attempt.meets_of_except]
    cases hfound : now.store.get? id with
    | none => simp [touch, hfound]
    | some note =>
        rw [touch_eq hfound]
        refine ⟨hbounds.2.newest_revise id note, ?_⟩
        change now.store.clock < 1 + max now.store.clock note.version
        omega

end Store

end Notekeeper
