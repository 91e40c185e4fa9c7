import Notekeeper.Proofs.Notebook.Merging

/-!
# What work on notes leaves

A replica does three things: it works on its notes, exports them and merges what another replica has
exported. For the first, `NoteOperation.work_meets` says that the stores that are left are those after
some changes, with defaults and saved.
-/

namespace Notekeeper

namespace Notebook

variable {notebook left : Notebook}

/-- An operation on notes has been performed: the stores are those after some changes. -/
structure Worked (notebook left : Notebook) : Prop where
  settles : SettlesTo notebook left
  stores : ∃ middle, notebook.Changes middle ∧ middle.supply.LeadsTo left.supply ∧
    middle.notes.withDefaults.Alike left.notes ∧ middle.trash.withDefaults.Alike left.trash

/-- A notebook that is left as it is has seen no change. -/
theorem Worked.refl (h : notebook.Durable) : Worked notebook notebook := by
  refine ⟨⟨h.settled, .refl _⟩, notebook, .refl, .refl _, ?_, ?_⟩
  · rw [h.notes.storable.defaults]
    exact .refl _
  · rw [h.trash.storable.defaults]
    exact .refl _

/-- What has to be shown for every operation on notes to be work. -/
theorem Durable.works (h : notebook.Durable) :
    Settles notebook (Worked notebook)
      fun fault left => notebook.DiskFault fault ∨ Worked notebook left where
  unchanged := .refl h
  unknown := fun _ => .inr (.refl h)
  notes := by
    intro middle hchanges htrash
    refine (hchanges.save_notes_meets h htrash).mono (fun _ left hleft => ?_)
      fun _ _ hfault => .inl hfault
    obtain ⟨hsettles, hsupply, hnotes, htrashed⟩ := hleft
    refine ⟨hsettles, middle, hchanges, hsupply, ?_, ?_⟩
    · rw [hnotes]
      exact middle.notes.alike_saved
    · rw [htrashed, htrash, h.trash.storable.defaults]
      exact .refl _
  both := by
    intro middle hchanges
    refine (hchanges.save_meets h).mono (fun _ left hleft => ?_) fun _ _ hfault => .inl hfault
    obtain ⟨hsettles, hsupply, hnotes, htrash⟩ := hleft
    refine ⟨hsettles, middle, hchanges, hsupply, ?_, ?_⟩
    · rw [hnotes]
      exact middle.notes.alike_saved
    · rw [htrash]
      exact middle.trash.alike_saved

/-- Operations on notes are work, on a disk that takes every file. -/
theorem NoteOperation.work (operation : NoteOperation) (h : notebook.Durable)
    (hwilling : notebook.Willing)
    (hfresh : operation = .virtualFolders →
      notebook.notes.contains (notebook.supply.token 0) = false) :
    Worked notebook (operation.perform.after notebook) := by
  have hmeets := operation.perform_meets h.works fun heq hclash => by
    rw [hfresh heq] at hclash
    cases hclash
  have hafter := Attempt.meets_iff.1 hmeets
  split at hafter
  · exact hafter
  · exact hafter.resolve_left fun hfault => hfault.2 hwilling

/-- Changes leave the clocks of exports and imports alone and never turn the clock back. -/
theorem Changes.clocks (h : notebook.Changes left) :
    left.notes.exportClock = notebook.notes.exportClock ∧
      left.notes.importClock = notebook.notes.importClock ∧
      notebook.notes.clock ≤ left.notes.clock := by
  induction h with
  | refl => exact ⟨rfl, rfl, Int.le_refl _⟩
  | @tail middle last _ hchange ih =>
      obtain ⟨hexport, himport, hclock⟩ := ih
      have hstep : last.notes.exportClock = middle.notes.exportClock ∧
          last.notes.importClock = middle.notes.importClock ∧
          middle.notes.clock ≤ last.notes.clock := by
        cases hchange with
        | add note later =>
            refine ⟨rfl, rfl, ?_⟩
            simp only [Store.add]
            omega
        | revise id note edited later =>
            refine ⟨rfl, rfl, ?_⟩
            simp only [Store.revise]
            omega
        | discard id note =>
            refine ⟨rfl, rfl, ?_⟩
            simp only [Store.without]
            omega
      exact ⟨hstep.1.trans hexport, hstep.2.1.trans himport, Int.le_trans hclock hstep.2.2⟩

/-- Work leaves the clocks of exports and imports alone and never turns the clock back. -/
theorem Worked.clocks (h : Worked notebook left) :
    left.notes.exportClock = notebook.notes.exportClock ∧
      left.notes.importClock = notebook.notes.importClock ∧
      notebook.notes.clock ≤ left.notes.clock := by
  obtain ⟨-, middle, hchanges, -, hnotes, -⟩ := h
  obtain ⟨hexport, himport, hclock⟩ := hchanges.clocks
  refine ⟨hnotes.export_clock.trans hexport, hnotes.import_clock.trans himport, ?_⟩
  rw [hnotes.clock]
  exact hclock

/-- A note comes out of an edit under the same id with a version above the clock. -/
def Edits (clock : Int) (before after : Note) : Prop :=
  clock < after.version ∧ after.exportVersion = before.exportVersion

/-- A note that is there after some changes was there before them, unless its id is a token that was
still to come. It is as it was, or has been edited. -/
theorem Changes.get (h : notebook.Changes left) {id : String} (havoids : notebook.supply.Avoids id)
    {after : Note} (hafter : left.notes.get? id = some after) :
    ∃ before, notebook.notes.get? id = some before ∧
      (after = before ∨ Edits notebook.notes.clock before after) := by
  induction h generalizing after with
  | refl => exact ⟨after, hafter, .inl rfl⟩
  | @tail middle last hchanges hchange ih =>
      have hchanges : notebook.Changes middle := hchanges
      obtain ⟨-, -, hclock⟩ := hchanges.clocks
      have hstay : FilesStay [] notebook middle := hchanges.stay
      cases hchange with
      | add note later hid =>
          have hne : note.id ≠ id := by
            rw [hid]
            exact havoids.leads_to hstay.supply 0
          rw [Store.get_add_of_ne hne] at hafter
          exact ih hafter
      | revise other note edited later hfound _ hversion hexport =>
          rw [Store.get?, Store.get_revise] at hafter
          split at hafter
          next heq =>
            subst heq
            obtain ⟨before, hbefore, hcase⟩ := ih hfound
            obtain rfl := Option.some.inj hafter
            refine ⟨before, hbefore, .inr ⟨by dsimp only; omega, ?_⟩⟩
            rcases hcase with rfl | hedits
            · exact hexport
            · exact hexport.trans hedits.2
          next => exact ih hafter
      | discard other note =>
          rw [Store.get?, Store.get_without] at hafter
          split at hafter
          · cases hafter
          · exact ih hafter

/-- A note that is there after work was there before it, unless its id is a token that was still to
come. It is as it was, or has been edited. -/
theorem Worked.get (h : Worked notebook left) (hdurable : notebook.Durable) {id : String}
    (havoids : notebook.supply.Avoids id) {after : Note} (hafter : left.notes.get? id = some after) :
    ∃ before, notebook.notes.get? id = some before ∧
      (after = before ∨ Edits notebook.notes.clock before after) := by
  obtain ⟨-, middle, hchanges, -, hnotes, -⟩ := h
  rw [Store.get?, hnotes.notes, Store.get_with_defaults, Option.map_eq_some_iff] at hafter
  obtain ⟨found, hfound, rfl⟩ := hafter
  obtain ⟨before, hbefore, hcase⟩ := hchanges.get havoids hfound
  refine ⟨before, hbefore, ?_⟩
  rcases hcase with rfl | hedits
  · exact .inl (hdurable.notes.storable.notes id found hbefore).with_defaults
  · exact .inr hedits

end Notebook

end Notekeeper
