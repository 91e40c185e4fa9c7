import Notekeeper.Proofs.Store.Room
import Notekeeper.Sync.Merge

/-!
# Versions that a merge gives

A merge gives a version to every copy it makes, and counts the clock up for every note that it takes
out. With room for as many in the stores and in the snapshot, all versions it leaves are those of
clocks (`Sync.merge_room`).
-/

namespace Notekeeper

namespace Sync

/-- How many versions a merge has given. -/
def Report.versionsGiven (report : Report) : Nat :=
  report.conflicts.length + report.trashBackups.length + report.trashed.length

namespace Merging

/-- Of the room for some versions, what a merge under way has not taken up is left in the stores; in
the trash it is if there was any. -/
def LeavesRoom (total : Nat) (trash : Store) (merging : Merging) : Prop :=
  ∀ steps, total = steps + merging.report.versionsGiven →
    merging.locals.HasRoom steps ∧ (trash.HasRoom total → merging.trash.HasRoom steps)

variable {total : Nat} {trash : Store} {merging : Merging} {there : Note}

/-- The first pass takes up room for the copies it makes. -/
theorem LeavesRoom.meet (h : merging.LeavesRoom total trash)
    (hthere : Decimal.HasRoom there.version total) :
    (merging.meet there).LeavesRoom total trash := by
  unfold Merging.meet
  split
  · exact h
  next here hhere =>
    dsimp only
    split
    · intro steps htotal
      obtain ⟨hlocals, htrash⟩ := h steps htotal
      exact ⟨hlocals.restore (hthere.mono (by omega)), htrash⟩
    · split
      · intro steps htotal
        simp only [Report.versionsGiven, List.length_append, List.length_singleton] at htotal
        obtain ⟨hlocals, htrash⟩ := h (steps + 1) (by rw [Report.versionsGiven]; omega)
        have hadded : (merging.locals.add (datedCopy conflictSuffix here merging.supply)).HasRoom
            steps := hlocals.add (hlocals.versions there.id here hhere)
        exact ⟨hadded.restore (hthere.mono (by omega)),
          fun hroom => (htrash hroom).mono (Nat.le_succ steps)⟩
      · exact h

/-- The second pass takes up room for the copies it makes. -/
theorem LeavesRoom.take_over (h : merging.LeavesRoom total trash)
    (hthere : Decimal.HasRoom there.version total) :
    (merging.takeOver there).LeavesRoom total trash := by
  unfold Merging.takeOver
  split
  · exact h
  · split
    · intro steps htotal
      simp only [Report.versionsGiven, List.length_append, List.length_singleton] at htotal
      obtain ⟨hlocals, htrash⟩ := h (steps + 1) (by rw [Report.versionsGiven]; omega)
      exact ⟨hlocals.mono (Nat.le_succ steps),
        fun hroom => (htrash hroom).add (hthere.mono (by omega))⟩
    · intro steps htotal
      obtain ⟨hlocals, htrash⟩ := h steps htotal
      exact ⟨hlocals.restore (hthere.mono (by omega)), htrash⟩

/-- The third pass takes up room for the notes it takes out. -/
theorem LeavesRoom.discard (h : merging.LeavesRoom total trash) (remotes : Store) (id : String) :
    (merging.discard remotes id).LeavesRoom total trash := by
  unfold Merging.discard
  split
  · exact h
  · cases hfound : merging.locals.get? id with
    | none => exact h
    | some here =>
        simp only [Store.remove_eq hfound]
        split
        · intro steps htotal
          simp only [Report.versionsGiven, List.length_append, List.length_singleton] at htotal
          obtain ⟨hlocals, htrash⟩ := h (steps + 1) (by rw [Report.versionsGiven]; omega)
          have hhere := (hlocals.versions id here hfound).mono (Nat.le_succ steps)
          exact ⟨hlocals.without id,
            fun hroom => ((htrash hroom).mono (Nat.le_succ steps)).restore hhere⟩
        · exact h

end Merging

/-- With room for the versions that a merge gives, and for more, the room for those is left. -/
theorem merge_room {locals trash remotes : Store} {supply : Supply} {steps : Nat}
    (hlocals : locals.HasRoom (steps + (merge locals trash remotes supply).report.versionsGiven))
    (hremotes : remotes.HasRoom
      (steps + (merge locals trash remotes supply).report.versionsGiven)) :
    (merge locals trash remotes supply).locals.HasRoom steps ∧
      (trash.HasRoom (steps + (merge locals trash remotes supply).report.versionsGiven) →
        (merge locals trash remotes supply).trash.HasRoom steps) := by
  generalize htotal : steps + (merge locals trash remotes supply).report.versionsGiven = total at *
  have hthere (there : Note) (hmem : there ∈ remotes.all) : Decimal.HasRoom there.version total := by
    obtain ⟨id, hfound⟩ := Store.mem_all.1 hmem
    exact hremotes.versions id there hfound
  have hstart : Merging.LeavesRoom total trash
      { locals := locals, trash := trash, supply := supply } := by
    rintro steps rfl
    exact ⟨hlocals, id⟩
  have hleft : (merge locals trash remotes supply).LeavesRoom total trash :=
    List.foldlRecOn _ _
      (List.foldlRecOn _ _
        (List.foldlRecOn _ _ hstart fun _ h there hmem => h.meet (hthere there hmem))
        fun _ h there hmem => h.take_over (hthere there hmem))
      fun _ h id _ => h.discard remotes id
  exact hleft steps htotal.symm

end Sync

end Notekeeper
