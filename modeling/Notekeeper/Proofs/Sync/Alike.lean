import Notekeeper.Proofs.Store.Alike
import Notekeeper.Proofs.Sync.Merge

/-!
# Merges of like stores

A merge reads the notes and the clocks of the stores it is given and nothing else, and it takes from
the supply only what copies need. So merges of like stores that make no copies come to like stores,
whatever their supplies are (`Sync.merge_alike`).
-/

namespace Notekeeper

namespace Sync

/-- A merge with this report has made no copies. -/
structure Report.CopiesNothing (report : Report) : Prop where
  conflicts : report.conflicts = []
  backups : report.trashBackups = []

instance (report : Report) : Decidable report.CopiesNothing :=
  decidable_of_iff (report.conflicts = [] ∧ report.trashBackups = [])
    ⟨fun ⟨hconflicts, hbackups⟩ => ⟨hconflicts, hbackups⟩,
      fun h => ⟨h.conflicts, h.backups⟩⟩

namespace Merging

/-- Two merges under way have come equally far, with like stores. -/
structure Alike (merging other : Merging) : Prop where
  locals : merging.locals.Alike other.locals
  trash : merging.trash.Alike other.trash
  report : other.report = merging.report
  met : other.met = merging.met

variable {merging other : Merging}

/-- A step of a merge takes nothing back from the report, and if it makes no copy it keeps merges
alike. -/
structure Faithful (step : Merging → Merging) : Prop where
  report : ∀ merging, (step merging).report.CopiesNothing → merging.report.CopiesNothing
  alike : ∀ merging other, merging.Alike other → (step merging).report.CopiesNothing →
    (step merging).Alike (step other)

/-- The first pass takes faithful steps. -/
theorem faithful_meet (there : Note) : Faithful (meet · there) := by
  refine ⟨fun merging h => ?_, fun merging other halike h => ?_⟩
  · unfold meet at h
    split at h
    · exact h
    · dsimp only at h
      split at h
      · exact ⟨h.conflicts, h.backups⟩
      · split at h
        · have hnone := h.conflicts
          simp at hnone
        · exact h
  · unfold meet at h ⊢
    rw [halike.locals.get_eq]
    cases hfound : merging.locals.get? there.id with
    | none => exact halike
    | some here =>
        simp only [hfound] at h
        dsimp only
        split
        · refine ⟨halike.locals.restore there, halike.trash, ?_, ?_⟩
          · simp only [halike.report]
          · simp only [halike.met]
        next hremote =>
          rw [if_neg hremote] at h
          split
          next hboth =>
            rw [if_pos hboth] at h
            have hnone := h.conflicts
            simp at hnone
          next => exact ⟨halike.locals, halike.trash, halike.report, by simp only [halike.met]⟩

/-- The second pass takes faithful steps. -/
theorem faithful_take_over (there : Note) : Faithful (takeOver · there) := by
  refine ⟨fun merging h => ?_, fun merging other halike h => ?_⟩
  · unfold takeOver at h
    split at h
    · exact h
    · split at h
      · have hnone := h.backups
        simp at hnone
      · exact ⟨h.conflicts, h.backups⟩
  · unfold takeOver at h ⊢
    rw [halike.met, halike.trash.contains_eq]
    split
    · exact halike
    next hmet =>
      rw [if_neg hmet] at h
      split
      next htrashed =>
        rw [if_pos htrashed] at h
        have hnone := h.backups
        simp at hnone
      next =>
        refine ⟨halike.locals.restore there, halike.trash, ?_, rfl⟩
        simp only [halike.report]

/-- The third pass takes faithful steps, also for like stores of the other replica. -/
theorem discard_alike {remotes others : Store} (hremotes : remotes.Alike others)
    (halike : merging.Alike other) (id : String) :
    (merging.discard remotes id).Alike (other.discard others id) := by
  have htrashed (here : Note) : remotelyTrashed here other.locals others =
      remotelyTrashed here merging.locals remotes := by
    rw [remotelyTrashed, hremotes.contains_eq, halike.locals.export_clock, remotelyTrashed]
  unfold discard
  rw [halike.met, halike.locals.get_eq]
  split
  · exact halike
  · cases hfound : merging.locals.get? id with
    | none => exact halike
    | some here =>
        have hother := (halike.locals.get_eq id).trans hfound
        simp only [Store.remove_eq hfound, Store.remove_eq hother, htrashed]
        split
        · refine ⟨halike.locals.without id, halike.trash.restore here, ?_, rfl⟩
          simp only [halike.report]
        · exact halike

/-- The third pass makes no copies and takes none back. -/
theorem discard_copies (merging : Merging) (remotes : Store) (id : String) :
    (merging.discard remotes id).report.CopiesNothing ↔ merging.report.CopiesNothing := by
  unfold discard
  split
  · exact Iff.rfl
  · cases hfound : merging.locals.get? id with
    | none => exact Iff.rfl
    | some here =>
        simp only [Store.remove_eq hfound]
        split
        · exact ⟨fun h => ⟨h.conflicts, h.backups⟩, fun h => ⟨h.conflicts, h.backups⟩⟩
        · exact Iff.rfl

/-- Faithful steps make up faithful passes. -/
theorem Faithful.foldl {item : Type} {step : Merging → item → Merging}
    (hstep : ∀ item, Faithful (step · item)) (items : List item) :
    Faithful (items.foldl step ·) := by
  induction items with
  | nil => exact ⟨fun _ h => h, fun _ _ halike _ => halike⟩
  | cons item items ih =>
      refine ⟨fun merging h => (hstep item).report merging (ih.report _ h),
        fun merging other halike h => ?_⟩
      exact ih.alike _ _ ((hstep item).alike merging other halike (ih.report _ h)) h

end Merging

/-- Merges of like stores that make no copies come to like stores. -/
theorem merge_alike {locals trash remotes otherLocals otherTrash otherRemotes : Store}
    {supply : Supply} (hlocals : locals.Alike otherLocals) (htrash : trash.Alike otherTrash)
    (hremotes : remotes.Alike otherRemotes)
    (h : (merge locals trash remotes supply).report.CopiesNothing) (otherSupply : Supply) :
    (merge locals trash remotes supply).Alike
      (merge otherLocals otherTrash otherRemotes otherSupply) := by
  have hall : otherRemotes.all = remotes.all := by rw [Store.all, hremotes.notes, Store.all]
  have hids : otherLocals.ids = locals.ids := by rw [Store.ids, hlocals.notes, Store.ids]
  have hdiscard (ids : List String) {merging other : Merging} (halike : merging.Alike other) :
      (ids.foldl (Merging.discard remotes) merging).Alike
        (ids.foldl (Merging.discard otherRemotes) other) := by
    induction ids generalizing merging other with
    | nil => exact halike
    | cons id ids ih => exact ih (Merging.discard_alike hremotes halike id)
  have hcopies (ids : List String) (merging : Merging)
      (h : (ids.foldl (Merging.discard remotes) merging).report.CopiesNothing) :
      merging.report.CopiesNothing := by
    induction ids generalizing merging with
    | nil => exact h
    | cons id ids ih => exact (Merging.discard_copies merging remotes id).1 (ih _ h)
  have hmeet := Merging.Faithful.foldl Merging.faithful_meet remotes.all
  have htake := Merging.Faithful.foldl Merging.faithful_take_over remotes.all
  have htaken := hcopies locals.ids _ h
  unfold merge
  dsimp only
  rw [hall, hids]
  have hstart : Merging.Alike { locals := locals, trash := trash, supply := supply }
      { locals := otherLocals, trash := otherTrash, supply := otherSupply } :=
    ⟨hlocals, htrash, rfl, rfl⟩
  have hmet := hmeet.alike _ _ hstart (htake.report _ htaken)
  exact hdiscard locals.ids (htake.alike _ _ hmet htaken)

end Sync

end Notekeeper
