import Notekeeper.Proofs.Sync.Effect

/-!
# Merging a snapshot twice

After a snapshot has been merged, every note of it is in the store as it is there, or unchanged by
it, or in the trash, so another merge of it finds nothing to update, to copy or to take over. But it
takes the copies that the first merge made for conflicts for notes that the other replica has deleted
if the notes they are copies of had the stamp of the last export, for a copy inherits the stamp
(`Sync.merge_again`).
-/

namespace Notekeeper

namespace Sync

variable {locals trash remotes : Store} {supply : Supply} {left : Merging}

/-- A note that is found here after a merge, under the id of a note of the snapshot, has not changed
there by its own stamp. -/
theorem Outcomes.no_remote_change (h : Outcomes locals trash remotes supply left) {id : String}
    {there here : Note} (hthere : remotes.get? id = some there)
    (hexported : there.version ≤ there.exportVersion) (hhere : left.locals.get? id = some here) :
    remoteChange here there = false := by
  have hsame : remoteChange there there = false := by simpa [remoteChange] using hexported
  cases hold : locals.get? id with
  | none =>
      cases hburied : trash.get? id with
      | none =>
          obtain rfl := Option.some.inj (hhere.symm.trans (h.arrives id there hold hthere hburied))
          exact hsame
      | some note =>
          rw [(h.stays_out id there hold hthere (Store.has_of_get hburied)).1] at hhere
          cases hhere
  | some old =>
      obtain rfl := Option.some.inj (hhere.symm.trans (h.both id old there hold hthere))
      split
      · exact hsame
      next hchange => simpa using hchange

/-- A note of the snapshot is here or in the trash after a merge. -/
theorem Outcomes.here_or_trashed (h : Outcomes locals trash remotes supply left) {id : String}
    (hhas : remotes.Has id) : left.locals.Has id ∨ left.trash.Has id := by
  obtain ⟨there, hthere⟩ := Store.has_iff.1 hhas
  cases hold : locals.get? id with
  | none =>
      cases hburied : trash.get? id with
      | none => exact .inl (Store.has_of_get (h.arrives id there hold hthere hburied))
      | some note =>
          have hstays := (h.stays_out id there hold hthere (Store.has_of_get hburied)).2
          exact .inr (Store.has_of_get (hstays.trans hburied))
  | some old => exact .inl (Store.has_of_get (h.both id old there hold hthere))

/-- The notes that the snapshot lacks and that have the stamp of the last export after a merge are
copies that it has made of notes with that stamp. -/
theorem Outcomes.stamped_iff (h : Outcomes locals trash remotes supply left) (id : String) :
    (remotes.get? id = none ∧
        ∃ here, left.locals.get? id = some here ∧ here.exportVersion = locals.exportClock) ↔
      ∃ original here, (original, id) ∈ left.report.conflicts ∧ locals.get? original = some here ∧
        here.exportVersion = locals.exportClock := by
  constructor
  · rintro ⟨habsent, note, hnote, hstamp⟩
    cases hfound : locals.get? id with
    | some here =>
        -- The merge would have trashed it.
        have halone := h.alone id here hfound habsent
        split at halone
        · rw [halone.1] at hnote
          cases hnote
        next hother =>
          obtain rfl := Option.some.inj (hnote.symm.trans halone.1)
          exact absurd hstamp hother
    | none =>
        have hcopy : id ∈ left.report.conflicts.map Prod.snd := by
          by_contra hnot
          rw [h.no_other id hfound habsent hnot] at hnote
          cases hnote
        obtain ⟨⟨original, _⟩, hconflict, rfl⟩ := List.mem_map.1 hcopy
        obtain ⟨-, here, ahead, version, hhere, -, hheld⟩ := h.conflict_copies original _ hconflict
        obtain rfl := Option.some.inj (hnote.symm.trans hheld)
        exact ⟨original, here, hconflict, hhere, hstamp⟩
  · rintro ⟨original, here, hconflict, hfound, hstamp⟩
    obtain ⟨hunused, note, ahead, version, hnote, -, hheld⟩ := h.conflict_copies original id hconflict
    obtain rfl := Option.some.inj (hfound.symm.trans hnote)
    exact ⟨Store.not_has_iff.1 fun hhas => hunused (.inr (.inr hhas)), _, hheld, hstamp⟩

/-- A merge of a snapshot in which nothing is new only drops notes. -/
theorem Outcomes.only_drops (h : Outcomes locals trash remotes supply left)
    (hunchanged : ∀ id here there, locals.get? id = some here → remotes.get? id = some there →
      remoteChange here there = false)
    (hknown : ∀ id, remotes.Has id → locals.Has id ∨ trash.Has id) :
    left.report.updated = [] ∧ left.report.conflicts = [] ∧ left.report.imported = [] ∧
      ∀ id, left.locals.get? id = if id ∈ left.report.trashed then none else locals.get? id := by
  have hconflicts : left.report.conflicts = [] := by
    refine h.conflicts_eq_nil fun id here there hhere hthere => ?_
    rw [bothChange, hunchanged id here there hhere hthere, Bool.and_false]
  refine ⟨?_, hconflicts, ?_, fun id => ?_⟩
  · rw [List.eq_nil_iff_forall_not_mem]
    intro id hmem
    obtain ⟨here, there, hhere, hthere, hchange⟩ := (h.updated.2 id).1 hmem
    simp [remoteChangeOnly, hunchanged id here there hhere hthere] at hchange
  · rw [List.eq_nil_iff_forall_not_mem]
    intro id hmem
    obtain ⟨hhere, hburied, hthere⟩ := (h.imported.2 id).1 hmem
    exact (hknown id hthere).elim (Store.not_has_iff.2 hhere) (Store.not_has_iff.2 hburied)
  · split
    next hdrop =>
      obtain ⟨hthere, here, hhere, hstamp⟩ := (h.trashed.2 id).1 hdrop
      have halone := h.alone id here hhere hthere
      rw [if_pos hstamp] at halone
      exact halone.1
    next hdrop =>
      cases hhere : locals.get? id with
      | none =>
          cases hthere : remotes.get? id with
          | none => exact h.no_other id hhere hthere (by rw [hconflicts]; exact List.not_mem_nil)
          | some there =>
              have hburied := (hknown id (Store.has_of_get hthere)).resolve_left
                (Store.not_has_iff.2 hhere)
              exact (h.stays_out id there hhere hthere hburied).1
      | some here =>
          cases hthere : remotes.get? id with
          | none =>
              have halone := h.alone id here hhere hthere
              rw [if_neg fun hstamp => hdrop ((h.trashed.2 id).2 ⟨hthere, here, hhere, hstamp⟩)]
                at halone
              exact halone.1
          | some there =>
              have hboth := h.both id here there hhere hthere
              rw [hunchanged id here there hhere hthere, if_neg Bool.false_ne_true] at hboth
              exact hboth

/-- After a snapshot in which every note has a stamp that is not below its version has been merged,
another merge of it updates nothing, finds no conflict and takes nothing over. It trashes the copies
that the first one has made for conflicts of notes with the stamp of the last export, and leaves
everything else in the store as it is. So it leaves all as it is exactly if no note in conflict had
that stamp. -/
theorem merge_again {once twice : Merging} (honce : once = merge locals trash remotes supply)
    (htwice : twice = merge once.locals once.trash remotes once.supply)
    (hlocals : locals.Keyed) (hlocals_named : locals.Named)
    (hremotes : remotes.Keyed) (hremotes_named : remotes.Named)
    (hexported : ∀ there ∈ remotes.all,
      there.exportVersion = remotes.exportClock ∧ there.version ≤ remotes.exportClock)
    (hfresh : supply.FreshFor (UsedIn locals trash remotes)) :
    twice.report.updated = [] ∧ twice.report.conflicts = [] ∧ twice.report.imported = [] ∧
      (Names twice.report.trashed fun id => ∃ original here,
        (original, id) ∈ once.report.conflicts ∧ locals.get? original = some here ∧
          here.exportVersion = locals.exportClock) ∧
      (∀ id, twice.locals.get? id =
        if id ∈ twice.report.trashed then none else once.locals.get? id) ∧
      ((twice.report.trashed = [] ∧ ∀ id, twice.locals.get? id = once.locals.get? id) ↔
        ∀ id here there, locals.get? id = some here → remotes.get? id = some there →
          bothChange here there = true → here.exportVersion ≠ locals.exportClock) := by
  have heffect := merge_effect hlocals hlocals_named hremotes hremotes_named hfresh
  obtain ⟨hkeyed, hnamed, hclock⟩ := merge_locals hlocals hlocals_named trash remotes supply
  have hfirst : Outcomes locals trash remotes supply once := by
    rw [honce]
    exact heffect.outcomes hlocals hremotes hremotes_named hfresh
  have hsecond : Outcomes once.locals once.trash remotes once.supply twice := by
    rw [htwice, honce]
    exact (merge_effect hkeyed hnamed hremotes hremotes_named (heffect.fresh_again hfresh)).outcomes
      hkeyed hremotes hremotes_named (heffect.fresh_again hfresh)
  rw [← honce] at hclock
  -- Nothing of the snapshot is new to the second merge.
  have hunchanged (id : String) (here there : Note) (hhere : once.locals.get? id = some here)
      (hthere : remotes.get? id = some there) : remoteChange here there = false := by
    obtain ⟨hstamp, hversion⟩ := hexported there (Store.mem_all.2 ⟨id, hthere⟩)
    exact hfirst.no_remote_change hthere (hstamp ▸ hversion) hhere
  obtain ⟨hupdated, hconflicts, himported, hget⟩ :=
    hsecond.only_drops hunchanged fun _ => hfirst.here_or_trashed
  have htrashed (id : String) : id ∈ twice.report.trashed ↔ ∃ original here,
      (original, id) ∈ once.report.conflicts ∧ locals.get? original = some here ∧
        here.exportVersion = locals.exportClock := by
    rw [hsecond.trashed.2, hclock]
    exact hfirst.stamped_iff id
  refine ⟨hupdated, hconflicts, himported, ⟨hsecond.trashed.1, htrashed⟩, hget, ?_, ?_⟩
  · rintro ⟨hnothing, -⟩ id here there hhere hthere hboth hstamp
    obtain ⟨⟨_, copy⟩, hconflict, rfl⟩ :=
      List.mem_map.1 ((hfirst.conflicts.2 id).2 ⟨here, there, hhere, hthere, hboth⟩)
    have hmem := (htrashed copy).2 ⟨_, here, hconflict, hhere, hstamp⟩
    rw [hnothing] at hmem
    exact List.not_mem_nil hmem
  · intro hother
    have hnothing : twice.report.trashed = [] := by
      rw [List.eq_nil_iff_forall_not_mem]
      intro id hmem
      obtain ⟨original, here, hconflict, hhere, hstamp⟩ := (htrashed id).1 hmem
      obtain ⟨note, there, hnote, hthere, hboth⟩ :=
        (hfirst.conflicts.2 original).1 (List.mem_map_of_mem hconflict)
      obtain rfl := Option.some.inj (hhere.symm.trans hnote)
      exact hother original here there hhere hthere hboth hstamp
    refine ⟨hnothing, fun id => ?_⟩
    rw [hget, hnothing, if_neg List.not_mem_nil]

/-- The first merge of the snapshot of the example. -/
def mergedSamples : Merging :=
  merge sampleLocals sampleTrash sampleRemotes .tally

/-- The second merge of the snapshot of the example. -/
def mergedSamplesAgain : Merging :=
  merge mergedSamples.locals mergedSamples.trash sampleRemotes mergedSamples.supply

/-- The notes of the snapshot of the example have its stamp. -/
theorem sample_exported : ∀ there ∈ sampleRemotes.all,
    there.exportVersion = sampleRemotes.exportClock ∧ there.version ≤ sampleRemotes.exportClock := by
  decide +kernel

/-- What the second merge of the example does is told by the first one. -/
theorem merge_again_of_samples :
    mergedSamplesAgain.report.updated = [] ∧ mergedSamplesAgain.report.conflicts = [] ∧
      mergedSamplesAgain.report.imported = [] ∧
      (Names mergedSamplesAgain.report.trashed fun id => ∃ original here,
        (original, id) ∈ mergedSamples.report.conflicts ∧
          sampleLocals.get? original = some here ∧
          here.exportVersion = sampleLocals.exportClock) ∧
      (∀ id, mergedSamplesAgain.locals.get? id =
        if id ∈ mergedSamplesAgain.report.trashed then none else mergedSamples.locals.get? id) ∧
      ((mergedSamplesAgain.report.trashed = [] ∧
          ∀ id, mergedSamplesAgain.locals.get? id = mergedSamples.locals.get? id) ↔
        ∀ id here there, sampleLocals.get? id = some here → sampleRemotes.get? id = some there →
          bothChange here there = true → here.exportVersion ≠ sampleLocals.exportClock) :=
  merge_again rfl rfl sample_keyed.1 sample_named.1 sample_keyed.2 sample_named.2 sample_exported
    sample_fresh

/-- The second merge of the example trashes the copy that the first one has made for a conflict. -/
theorem copy_trashed_again :
    sampleLocals.Keyed ∧ sampleLocals.Named ∧ sampleRemotes.Keyed ∧ sampleRemotes.Named ∧
      (∀ there ∈ sampleRemotes.all, there.exportVersion = sampleRemotes.exportClock ∧
        there.version ≤ sampleRemotes.exportClock) ∧
      Supply.tally.FreshFor (UsedIn sampleLocals sampleTrash sampleRemotes) ∧
      mergedSamples.report.conflicts = [("edited", "i")] ∧
      mergedSamplesAgain.report.trashed = ["i"] ∧
      (mergedSamples.locals.get? "i").isSome = true ∧ mergedSamplesAgain.locals.get? "i" = none := by
  refine ⟨sample_keyed.1, sample_named.1, sample_keyed.2, sample_named.2, sample_exported,
    sample_fresh, ?_⟩
  decide +kernel

end Sync

end Notekeeper
