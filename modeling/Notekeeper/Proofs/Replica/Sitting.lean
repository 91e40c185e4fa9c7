import Notekeeper.Proofs.Notebook.Stable
import Notekeeper.Proofs.Replica.Basic

/-!
# Sitting at a notebook

Between two exchanges the notes of a replica are worked on, and the notebook may be closed and opened
again in the meantime, which may turn its clock back. What is known after that (`Notebook.Sits.sat`)
is where each note comes from, and that what has been deleted is in the trash and nowhere else.
-/

namespace Notekeeper

namespace Notebook

variable {notebook middle left : Notebook} {gone : List String}

/-- Notes that have been deleted are in the trash and nowhere else. -/
theorem delete_meets (h : notebook.Durable) (ids : List String) :
    (delete ids).Meets notebook
      (fun _ left => ∀ id ∈ ids, ¬ left.notes.Has id ∧ left.trash.Has id) fun _ _ => True := by
  unfold Notebook.delete
  simp only [Attempt.meets_bind]
  refine (check_ids_meets (distinct ids)).mono (fun _ checked hchecked => ?_) fun _ _ _ => trivial
  obtain ⟨rfl, hthere⟩ := hchecked
  refine (discard_each_meets (distinct ids) (nodup_distinct ids) hthere).mono
    (fun _ discarded hdiscarded => ?_) fun _ _ _ => trivial
  have hsave : save.Meets discarded
      (fun _ left => ∀ id ∈ ids, ¬ left.notes.Has id ∧ left.trash.Has id) fun _ _ => True := by
    refine (hdiscarded.changes.save_meets h).mono (fun _ left hleft id hmem => ?_)
      fun _ _ _ => trivial
    obtain ⟨-, -, hnotes, htrash⟩ := hleft
    rw [hnotes, htrash, Store.has_of_alike_defaults discarded.notes.alike_saved,
      Store.has_of_alike_defaults discarded.trash.alike_saved]
    have hmem := mem_distinct.2 hmem
    exact ⟨fun hhas => (hdiscarded.notes id hhas).2 hmem,
      hdiscarded.trash h.notes.keyed id (.inr hmem)⟩
  simpa [save] using hsave

/-- The ids that an operation on notes deletes. -/
def NoteOperation.deletes (operation : NoteOperation) (notebook : Notebook) : List String :=
  match operation with
  | .delete ids => if (Notebook.delete ids).fault? notebook = none then ids else []
  | _ => []

/-- What an operation deletes is in the trash then and nowhere else. -/
theorem NoteOperation.deletes_gone (operation : NoteOperation) (h : notebook.Durable) {id : String}
    (hmem : id ∈ operation.deletes notebook) :
    ¬ (operation.perform.after notebook).notes.Has id ∧
      (operation.perform.after notebook).trash.Has id := by
  cases operation with
  | delete ids =>
      have hafter := Attempt.meets_iff.1 (delete_meets h ids)
      rw [deletes] at hmem
      split at hmem
      next hnone =>
        rw [hnone] at hafter
        exact hafter id hmem
      next => cases hmem
  | _ => cases hmem

/-- Any number of operations on the notes of a notebook, in the course of which it may be closed and
opened again. The ids that are deleted are told. Files can hold what is held after each operation. -/
inductive Sits (notebook : Notebook) : List String → Notebook → Prop
  | nothing : Sits notebook [] notebook
  | work (gone : List String) (middle : Notebook) (operation : NoteOperation)
      (h : Sits notebook gone middle) (hstorable : (operation.perform.after middle).Storable) :
      Sits notebook (gone ++ operation.deletes middle) (operation.perform.after middle)
  | reopen (gone : List String) (middle : Notebook) (h : Sits notebook gone middle) :
      Sits notebook gone (Notebook.reopen.after middle)

/-- What is known of a notebook after somebody has been sitting at it. -/
structure Sat (notebook : Notebook) (gone : List String) (left : Notebook) : Prop where
  ready : left.Ready
  capped : Both Store.Capped left
  export_clock : left.notes.exportClock = notebook.notes.exportClock
  import_clock : left.notes.importClock = notebook.notes.importClock
  follows : Follows notebook left
  fresh : left.supply.FreshFor left.Uses
  gone : ∀ id ∈ gone, ¬ left.notes.Has id ∧ left.trash.Has id

/-- What can be followed back to a sitting belongs to it. -/
theorem Sat.follow (h : Sat notebook gone middle) (hready : left.Ready)
    (hcapped : Both Store.Capped left) (hfollows : Follows middle left)
    (hexport : left.notes.exportClock = middle.notes.exportClock)
    (himport : left.notes.importClock = middle.notes.importClock) : Sat notebook gone left := by
  have hfresh : middle.supply.FreshFor fun id => middle.Uses id ∨ False :=
    h.fresh.mono fun _ hused => hused.resolve_right not_false
  refine ⟨hready, hcapped, hexport.trans h.export_clock, himport.trans h.import_clock,
    h.follows.trans hfollows, (hfollows.fresh hfresh).mono fun _ => .inl, fun id hmem => ?_⟩
  obtain ⟨hnot, htrash⟩ := h.gone id hmem
  -- An id in the trash is no token, so no new note gets it.
  have havoids := h.fresh.unused id (.inr htrash)
  exact ⟨fun hhas => hnot (hfollows.has_of_avoids havoids hhas), hfollows.trash_stays id htrash⟩

/-- A sitting leaves a ready notebook ready, and its notes where they were, unless they have been
deleted. -/
theorem Sits.sat (h : Sits notebook gone left) (hready : notebook.Ready)
    (hcapped : Both Store.Capped notebook) (hfresh : notebook.supply.FreshFor notebook.Uses) :
    Sat notebook gone left := by
  induction h with
  | nothing => exact ⟨hready, hcapped, rfl, rfl, .refl _, hfresh, nofun⟩
  | work gone middle operation _ hstorable ih =>
      have hworked := operation.work ih.ready.durable ih.ready.willing fun _ => next_vacant ih.fresh
      obtain ⟨hexport, himport, -⟩ := hworked.clocks
      have hsat := ih.follow (ih.ready.settle hworked.settles hstorable)
        ((operation.perform_keeps Store.capped_stable).after ih.capped)
        (hworked.follows ih.ready.durable) hexport himport
      refine { hsat with gone := fun id hmem => ?_ }
      exact (List.mem_append.1 hmem).elim (hsat.gone id) (operation.deletes_gone ih.ready.durable)
  | reopen gone middle _ ih =>
      obtain ⟨-, hready, hstores, hsupply⟩ := ih.ready.reopens
      exact ih.follow hready ((Operation.reopen.perform_keeps Store.capped_stable).after ih.capped)
        (hstores.follows hsupply) (by rw [hstores.notes]) (by rw [hstores.notes])

end Notebook

end Notekeeper
