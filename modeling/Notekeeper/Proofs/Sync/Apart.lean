import Notekeeper.Proofs.Sync.Effect

/-!
# A merge keeps the store and the trash apart

With tokens that are distinct and unused no pass of a merge puts a note into the trash under an id
that the store has, or the other way round: an id that is in both afterwards was in both before
(`Sync.Effect.both`). Nothing that is in the trash alone is written over (`Sync.Effect.trash_alone`).
-/

namespace Notekeeper

namespace Sync

variable {locals trash remotes : Store} {supply : Supply} {left : Merging} {id : String}

/-- What is in neither store nor snapshot does not come of them. -/
theorem outcome_of_unused (h : ¬ UsedIn locals trash remotes id) :
    outcome (locals.get? id) (remotes.get? id) (trash.contains id) locals.exportClock = none := by
  simp only [UsedIn, not_or, Store.not_has_iff] at h
  rw [h.1, h.2.2]
  rfl

/-- An id that is in the store and in the trash after a merge was in both before. -/
theorem Effect.both (h : Effect locals trash remotes supply left) (hkeyed : locals.Keyed)
    (hfresh : supply.FreshFor (UsedIn locals trash remotes)) (hlocal : left.locals.Has id)
    (htrash : left.trash.Has id) : locals.Has id ∧ trash.Has id := by
  obtain ⟨-, hunused, hlater⟩ := fresh_copies hfresh (contested locals remotes.all).length
  obtain ⟨-, hbackups, -⟩ := fresh_copies hlater (comebacks locals trash remotes.all).length
  rw [Store.Has] at hlocal htrash
  by_cases hcopy : id ∈ copyIds supply (contested locals remotes.all).length
  · -- The copies in the trash have other ids, and nothing else has come there under this one.
    rw [h.trash id fun hmem => hbackups id hmem (.inr hcopy)] at htrash
    split at htrash
    · exact absurd (.inl htrash) (hunused id hcopy)
    · exact absurd (.inr (.inl htrash)) (hunused id hcopy)
  · rw [h.notes id hcopy] at hlocal
    by_cases hbackup : id ∈ copyIds (afterCopies supply (contested locals remotes.all).length)
        (comebacks locals trash remotes.all).length
    · rw [outcome_of_unused fun hused => hbackups id hbackup (.inl hused)] at hlocal
      cases hlocal
    · rw [h.trash id hbackup] at htrash
      split at htrash
      next hdrop =>
        obtain ⟨hthere, here, hhere, hstamp⟩ := (mem_dropped hkeyed).1 hdrop
        rw [hhere, hthere, outcome, if_pos hstamp] at hlocal
        cases hlocal
      next =>
        refine ⟨?_, htrash⟩
        by_contra hnot
        rw [Store.not_has_iff.1 hnot, Store.contains_eq, htrash] at hlocal
        cases hthere : remotes.get? id <;> simp [hthere, outcome] at hlocal

/-- A merge leaves what is in the trash alone. -/
theorem Effect.trash_alone (h : Effect locals trash remotes supply left) (hkeyed : locals.Keyed)
    (hfresh : supply.FreshFor (UsedIn locals trash remotes)) (hnot : ¬ locals.Has id)
    (htrash : trash.Has id) : left.trash.get? id = trash.get? id := by
  obtain ⟨-, -, hlater⟩ := fresh_copies hfresh (contested locals remotes.all).length
  obtain ⟨-, hbackups, -⟩ := fresh_copies hlater (comebacks locals trash remotes.all).length
  rw [h.trash id fun hmem => hbackups id hmem (.inl (.inr (.inl htrash))), if_neg fun hdrop => ?_]
  obtain ⟨-, here, hhere, -⟩ := (mem_dropped hkeyed).1 hdrop
  exact hnot (Store.has_of_get hhere)

end Sync

end Notekeeper
