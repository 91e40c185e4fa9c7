import Notekeeper.Proofs.Notebook.Work

/-!
# Following notes by their ids

Whatever is done with a notebook on its own, its notes can be followed back: a note was there before
with the same stamp, or is new under a token taken on the way and has never been exported
(`Notebook.Follows`). No id gets lost either: what leaves the primary store is in the trash. So ids
that are fresh for the stores before are fresh for those after (`Notebook.Follows.fresh`).
-/

namespace Notekeeper

namespace Notebook

/-- An id that one of the two stores has a note of. -/
def Uses (notebook : Notebook) (id : String) : Prop :=
  notebook.notes.Has id ∨ notebook.trash.Has id

/-- A new note gets in the way of none if tokens are fresh. -/
theorem next_vacant {notebook : Notebook} (h : notebook.supply.FreshFor notebook.Uses) :
    notebook.notes.contains (notebook.supply.token 0) = false := by
  refine Bool.eq_false_iff.2 fun hclash => ?_
  rw [Store.contains_eq] at hclash
  exact h.unused _ (.inl hclash) 0 rfl

/-- The notes of a notebook can be followed back to an earlier one. -/
structure Follows (notebook left : Notebook) : Prop where
  supply : notebook.supply.LeadsTo left.supply
  /-- A note was there with the same stamp, or is new and has never been exported. -/
  notes : ∀ id after, left.notes.get? id = some after →
    (∃ before, notebook.notes.get? id = some before ∧ after.exportVersion = before.exportVersion) ∨
      notebook.supply.Spends left.supply id ∧ after.exportVersion = -1
  trash : ∀ id, left.trash.Has id →
    notebook.Uses id ∨ notebook.supply.Spends left.supply id
  /-- What is not in the primary store any more is in the trash. -/
  stays : ∀ id, notebook.notes.Has id → left.Uses id
  trash_stays : ∀ id, notebook.trash.Has id → left.trash.Has id

variable {notebook left last : Notebook} {others : String → Prop}

theorem Follows.refl (notebook : Notebook) : Follows notebook notebook :=
  ⟨.refl _, fun _ after hafter => .inl ⟨after, hafter, rfl⟩, fun _ h => .inl (.inr h),
    fun _ h => .inl h, fun _ h => h⟩

/-- A note that is there was there before, or its id is a token taken on the way. -/
theorem Follows.has (h : Follows notebook left) {id : String} (hhas : left.notes.Has id) :
    notebook.notes.Has id ∨ notebook.supply.Spends left.supply id := by
  obtain ⟨after, hafter⟩ := Store.has_iff.1 hhas
  rcases h.notes id after hafter with ⟨before, hbefore, -⟩ | ⟨hspent, -⟩
  · exact .inl (Store.has_of_get hbefore)
  · exact .inr hspent

/-- No note comes back under an id that no token can have. -/
theorem Follows.has_of_avoids (h : Follows notebook left) {id : String}
    (havoids : notebook.supply.Avoids id) (hhas : left.notes.Has id) : notebook.notes.Has id :=
  (h.has hhas).resolve_right fun hspent => hspent.issues.elim havoids

/-- An id in use was in use before, or is a token taken on the way. -/
theorem Follows.used (h : Follows notebook left) {id : String} (hused : left.Uses id) :
    notebook.Uses id ∨ notebook.supply.Spends left.supply id := by
  rcases hused with hnotes | htrash
  · exact (h.has hnotes).imp_left .inl
  · exact h.trash id htrash

theorem Follows.trans (h : Follows notebook left) (hlast : Follows left last) :
    Follows notebook last := by
  refine ⟨h.supply.trans hlast.supply, fun id after hafter => ?_, fun id htrash => ?_,
    fun id hhas => ?_, fun id hhas => hlast.trash_stays id (h.trash_stays id hhas)⟩
  · rcases hlast.notes id after hafter with ⟨between, hbetween, hstamp⟩ | ⟨hspent, hstamp⟩
    · rcases h.notes id between hbetween with ⟨before, hbefore, hsame⟩ | ⟨hspent, hnever⟩
      · exact .inl ⟨before, hbefore, hstamp.trans hsame⟩
      · exact .inr ⟨hspent.leads_to hlast.supply, hstamp.trans hnever⟩
    · exact .inr ⟨h.supply.spends hspent, hstamp⟩
  · rcases hlast.trash id htrash with hused | hspent
    · exact (h.used hused).imp_right (·.leads_to hlast.supply)
    · exact .inr (h.supply.spends hspent)
  · rcases h.stays id hhas with hnotes | htrash
    · exact hlast.stays id hnotes
    · exact .inr (hlast.trash_stays id htrash)

/-- Tokens that are fresh stay fresh, also for what has come into use. -/
theorem Follows.fresh (h : Follows notebook left)
    (hfresh : notebook.supply.FreshFor fun id => notebook.Uses id ∨ others id) :
    left.supply.FreshFor fun id => left.Uses id ∨ others id := by
  refine (hfresh.leads_to h.supply).mono fun id hused => ?_
  rcases hused with hused | hother
  · exact (h.used hused).imp_left .inl
  · exact .inl (.inr hother)

/-! ## Work and reopening -/

/-- A change can be followed. -/
theorem Change.follows (h : Change notebook left) (hkeyed : notebook.notes.Keyed) :
    Follows notebook left := by
  cases h with
  | add note later hid _ hexport hsupply =>
      have hspent : notebook.supply.Spends later note.id := by
        refine ⟨0, ?_, hid.symm⟩
        have htaken := hsupply.taken
        simp only [Supply.dropTokens] at htaken
        omega
      refine ⟨(notebook.supply.leads_to_drop 1).trans hsupply, fun id after hafter => ?_,
        fun _ h => .inl (.inr h), fun id hhas => .inl (Store.has_add.2 (.inr hhas)), fun _ h => h⟩
      rw [Store.get?, Store.get_add] at hafter
      split at hafter
      next heq =>
        obtain rfl := Option.some.inj hafter
        exact .inr ⟨heq ▸ hspent, hexport⟩
      next => exact .inl ⟨after, hafter, rfl⟩
  | revise id note edited later hfound _ _ hexport hsupply =>
      refine ⟨hsupply, fun other after hafter => ?_, fun _ h => .inl (.inr h),
        fun other hhas => .inl (Store.has_revise.2 (.inr hhas)), fun _ h => h⟩
      rw [Store.get?, Store.get_revise] at hafter
      split at hafter
      next heq =>
        subst heq
        obtain rfl := Option.some.inj hafter
        exact .inl ⟨note, hfound, hexport⟩
      next => exact .inl ⟨after, hafter, rfl⟩
  | discard id note hfound =>
      -- The trash gets the note under the id that it bears, so that has to be the one it lies under.
      have hid : note.id = id := hkeyed id note hfound
      refine ⟨.refl _, fun other after hafter => ?_, fun other htrash => ?_, fun other hhas => ?_,
        fun other hhas => Store.has_add.2 (.inr hhas)⟩
      · rw [Store.get?, Store.get_without] at hafter
        split at hafter
        · cases hafter
        · exact .inl ⟨after, hafter, rfl⟩
      · rcases Store.has_add.1 htrash with rfl | htrash
        · exact .inl (.inl (hid ▸ Store.has_of_get hfound))
        · exact .inl (.inr htrash)
      · by_cases heq : id = other
        · exact .inr (Store.has_add.2 (.inl (hid.trans heq)))
        · exact .inl (Store.has_without.2 ⟨heq, hhas⟩)

/-- Changes leave the notes under their ids. -/
theorem Changes.keyed (h : notebook.Changes left) (hkeyed : notebook.notes.Keyed) :
    left.notes.Keyed := by
  induction h with
  | refl => exact hkeyed
  | tail _ hchange ih =>
      cases hchange with
      | add note later => exact ih.add note
      | revise id note edited later hfound hid => exact ih.revise (hid.trans (ih id note hfound))
      | discard id note => exact ih.without id

/-- Any number of changes can be followed. -/
theorem Changes.follows (h : notebook.Changes left) (hkeyed : notebook.notes.Keyed) :
    Follows notebook left := by
  induction h with
  | refl => exact .refl notebook
  | tail hchanges hchange ih => exact ih.trans (hchange.follows (Changes.keyed hchanges hkeyed))

/-- Work on notes can be followed. -/
theorem Worked.follows (h : Worked notebook left) (hdurable : notebook.Durable) :
    Follows notebook left := by
  obtain ⟨-, middle, hchanges, hsupply, hnotes, htrash⟩ := h
  have hfollows := hchanges.follows hdurable.notes.keyed
  refine hfollows.trans ⟨hsupply, fun id after hafter => ?_, fun id hhas => ?_, fun id hhas => ?_,
    fun id hhas => (Store.has_of_alike_defaults htrash).2 hhas⟩
  · rw [Store.get?, hnotes.notes, Store.get_with_defaults, Option.map_eq_some_iff] at hafter
    obtain ⟨before, hbefore, rfl⟩ := hafter
    exact .inl ⟨before, hbefore, rfl⟩
  · exact .inl (.inr ((Store.has_of_alike_defaults htrash).1 hhas))
  · exact .inl ((Store.has_of_alike_defaults hnotes).2 hhas)

/-- A notebook that has been opened over the files of another can be followed back to it. -/
theorem HasStoresOf.follows (h : HasStoresOf notebook left)
    (hsupply : notebook.supply.LeadsTo left.supply) : Follows notebook left := by
  have hnotes (id : String) : left.notes.get? id = notebook.notes.get? id := by rw [h.notes]; rfl
  have htrash (id : String) : left.trash.get? id = notebook.trash.get? id := by rw [h.trash]; rfl
  refine ⟨hsupply, fun id after hafter => .inl ⟨after, (hnotes id).symm.trans hafter, rfl⟩,
    fun id hhas => .inl (.inr ?_), fun id hhas => .inl ?_, fun id hhas => ?_⟩
  · rwa [Store.Has, htrash] at hhas
  · rwa [Store.Has, hnotes]
  · rwa [Store.Has, htrash]

end Notebook

end Notekeeper
