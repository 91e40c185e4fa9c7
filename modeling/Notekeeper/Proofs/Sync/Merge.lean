import Notekeeper.Proofs.Store.Change
import Notekeeper.Proofs.Supply
import Notekeeper.Sync.Merge

/-!
# Merging

A merge puts notes into stores, adds notes and takes notes out, so it keeps what these three keep
(`Sync.merge_keeps`). Into a store without notes it puts all notes that are not in the trash
(`Sync.merge_into_empty`).
-/

namespace Notekeeper

namespace Sync

/-- A merge keeps what the changes it is made of keep: of the store putting notes in, adding notes
and taking notes out, of the trash putting notes in and adding notes. -/
theorem merge_keeps (kept keptTrash : Store → Prop)
    (hrestore : ∀ store note, kept store → kept (store.restore note))
    (hadd : ∀ store note, kept store → kept (store.add note))
    (hwithout : ∀ store id, kept store → kept (store.without id))
    (hrestore_trash : ∀ store note, keptTrash store → keptTrash (store.restore note))
    (hadd_trash : ∀ store note, keptTrash store → keptTrash (store.add note))
    (locals trash remotes : Store) (hlocals : kept locals) (htrash : keptTrash trash)
    (supply : Supply) :
    kept (merge locals trash remotes supply).locals ∧
      keptTrash (merge locals trash remotes supply).trash ∧
      supply.LeadsTo (merge locals trash remotes supply).supply := by
  let both (merging : Merging) : Prop :=
    kept merging.locals ∧ keptTrash merging.trash ∧ supply.LeadsTo merging.supply
  have hcopy (later : Supply) : later.LeadsTo (afterCopy later) :=
    (later.leads_to_drop 1).trans (Supply.leads_to_reading _)
  have hmeet (merging : Merging) (there : Note) (h : both merging) : both (merging.meet there) := by
    unfold Merging.meet
    split
    · exact h
    · dsimp only
      split
      · exact ⟨hrestore _ _ h.1, h.2⟩
      · split
        · exact ⟨hrestore _ _ (hadd _ _ h.1), h.2.1, h.2.2.trans (hcopy _)⟩
        · exact h
  have htake (merging : Merging) (there : Note) (h : both merging) :
      both (merging.takeOver there) := by
    unfold Merging.takeOver
    split
    · exact h
    · split
      · exact ⟨h.1, hadd_trash _ _ h.2.1, h.2.2.trans (hcopy _)⟩
      · exact ⟨hrestore _ _ h.1, h.2⟩
  have hdiscard (merging : Merging) (id : String) (h : both merging) :
      both (merging.discard remotes id) := by
    unfold Merging.discard
    split
    · exact h
    · cases hfound : merging.locals.get? id with
      | none => exact h
      | some here =>
          simp only [Store.remove_eq hfound]
          split
          · exact ⟨hwithout _ _ h.1, hrestore_trash _ _ h.2.1, h.2.2⟩
          · exact h
  have hmet : both
      (remotes.all.foldl Merging.meet { locals := locals, trash := trash, supply := supply }) :=
    List.foldlRecOn _ _ ⟨hlocals, htrash, .refl _⟩ fun merging h there _ => hmeet merging there h
  have htaken : both (remotes.all.foldl Merging.takeOver _) :=
    List.foldlRecOn _ _ hmet fun merging h there _ => htake merging there h
  exact List.foldlRecOn (motive := both) _ _ htaken fun merging h id _ => hdiscard merging id h

/-! ## A store without notes -/

variable {locals trash remotes : Store}

/-- Where no notes are met the first pass does nothing. -/
theorem foldl_meet_of_empty (theres : List Note) {merging : Merging}
    (h : merging.locals.notes = ∅) : theres.foldl Merging.meet merging = merging := by
  induction theres with
  | nil => rfl
  | cons there theres ih =>
      have hmeet : merging.meet there = merging := by simp [Merging.meet, Store.get?, h]
      rw [List.foldl_cons, hmeet, ih]

/-- Notes none of which has been met or is in the trash are taken over one after the other. -/
theorem foldl_take_over (theres : List Note) (merging : Merging) (hmet : merging.met = ∅)
    (htrash : ∀ there ∈ theres, merging.trash.contains there.id = false) :
    theres.foldl Merging.takeOver merging =
      { merging with
        locals := theres.foldl Store.restore merging.locals
        report :=
          { merging.report with imported := merging.report.imported ++ theres.map Note.id } } := by
  induction theres generalizing merging with
  | nil => simp
  | cons there theres ih =>
      have htake : merging.takeOver there =
          { merging with
            locals := merging.locals.restore there
            report :=
              { merging.report with imported := merging.report.imported ++ [there.id] } } := by
        simp [Merging.takeOver, hmet, htrash there (by simp)]
      rw [List.foldl_cons, htake, ih]
      · simp
      · exact hmet
      · exact fun other hother => htrash other (by simp [hother])

/-- A store without notes takes over all notes of a snapshot, if none of them is in the trash. -/
theorem merge_into_empty (hlocals : locals.notes = ∅)
    (htrash : ∀ there ∈ remotes.all, trash.contains there.id = false) (supply : Supply) :
    merge locals trash remotes supply =
      { locals := remotes.all.foldl Store.restore locals
        trash := trash
        supply := supply
        report := { imported := remotes.all.map Note.id } } := by
  have hids : locals.ids = [] := by simp [Store.ids, hlocals]
  have hmeet : remotes.all.foldl Merging.meet { locals := locals, trash := trash, supply := supply } =
      { locals := locals, trash := trash, supply := supply } := foldl_meet_of_empty _ hlocals
  simp only [merge, hmeet, hids, List.foldl_nil]
  rw [foldl_take_over _ _ rfl htrash]
  rfl

end Sync

end Notekeeper
