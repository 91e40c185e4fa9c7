import Notekeeper.Proofs.Sync.Merge
import Notekeeper.Proofs.Sync.Numbering
import Notekeeper.Proofs.Sync.Passes

/-!
# What a merge does as a whole

With tokens that are distinct and unused the three passes of a merge do not interfere: each does what
it would do to the stores as they were before the merge (`Sync.merge_effect`). From this follows what
becomes of every note, which copies are made, and what the report names; and with room for them the
versions of the copies are above the stamps of their notes (`Sync.merge_outcomes`).
-/

namespace Notekeeper

namespace Store

variable {store : Store}

/-- Whether a keyed store has a note of an id is told by its notes. -/
theorem Keyed.any_id (h : store.Keyed) (id : String) :
    store.all.any (·.id == id) = store.contains id := by
  have hmem : id ∈ store.all.map Note.id ↔ (store.get? id).isSome = true := by
    rw [h.map_id_all, mem_ids]
  rw [contains_eq, Bool.eq_iff_iff, ← hmem]
  simp

end Store

namespace Sync

/-- An id that one of three stores has a note of. -/
def UsedIn (locals trash remotes : Store) (id : String) : Prop :=
  locals.Has id ∨ trash.Has id ∨ remotes.Has id

/-- What a merge has done, as told by the stores before it. -/
structure Effect (locals trash remotes : Store) (supply : Supply) (left : Merging) : Prop where
  tokens : left.supply =
    afterCopies supply
      ((contested locals remotes.all).length + (comebacks locals trash remotes.all).length)
  report : left.report =
    { updated := (replacements locals remotes.all).map Note.id
      conflicts := ((contested locals remotes.all).map Note.id).zip
        (copyIds supply (contested locals remotes.all).length)
      imported := (arrivals locals trash remotes.all).map Note.id
      trashBackups := copyIds (afterCopies supply (contested locals remotes.all).length)
        (comebacks locals trash remotes.all).length
      trashed := dropped locals remotes locals.ids }
  conflicts : Copied conflictSuffix left.locals (contested locals remotes.all) supply
  backups : Copied backupSuffix left.trash (comebacks locals trash remotes.all)
    (afterCopies supply (contested locals remotes.all).length)
  notes : ∀ id, id ∉ copyIds supply (contested locals remotes.all).length →
    left.locals.get? id =
      outcome (locals.get? id) (remotes.get? id) (trash.contains id) locals.exportClock
  trash : ∀ id, id ∉ copyIds (afterCopies supply (contested locals remotes.all).length)
      (comebacks locals trash remotes.all).length →
    left.trash.get? id =
      if id ∈ dropped locals remotes locals.ids then locals.get? id else trash.get? id

variable {locals trash remotes : Store} {supply : Supply} {left : Merging}

/-- The passes of a merge do not interfere: each finds what it needs of the stores as it was before the
merge. -/
theorem merge_passes (hlocals : locals.Keyed) (hlocals_named : locals.Named)
    (hremotes : remotes.Keyed) (hremotes_named : remotes.Named)
    (hfresh : supply.FreshFor (UsedIn locals trash remotes)) :
    let start : Merging := { locals := locals, trash := trash, supply := supply }
    let met := remotes.all.foldl Merging.meet start
    let taken := remotes.all.foldl Merging.takeOver met
    Merging.MeetsAll locals remotes.all start met ∧
      Merging.TakesAll locals trash remotes.all met taken ∧
      Merging.DiscardsAll locals remotes locals.ids taken (merge locals trash remotes supply) := by
  intro start met taken
  have hfound : ∀ there ∈ remotes.all, remotes.get? there.id = some there :=
    fun there hmem => hremotes.mem_all.1 hmem
  have hused : ∀ there ∈ remotes.all, UsedIn locals trash remotes there.id :=
    fun there hmem => .inr (.inr (Store.has_of_get (hfound there hmem)))
  -- The first pass finds the stores as they were before the merge.
  have hmeets : Merging.MeetsAll locals remotes.all start met :=
    Merging.meets_all hlocals hlocals_named hfresh hremotes.nodup_all hused fun _ _ => rfl
  obtain ⟨-, hunused, hlater⟩ := fresh_copies hfresh (contested locals remotes.all).length
  have hmet (id : String) : met.met.contains id = (remotes.contains id && locals.contains id) := by
    rw [hmeets.met, hremotes.any_id]
    simp [start]
  have hmet_supply : met.supply.FreshFor (UsedIn locals trash remotes) := by
    rw [hmeets.supply]
    exact hlater.mono fun _ h => .inl h
  -- The second pass reads the trash, which the first one leaves alone, and what that one has met.
  have htakes : Merging.TakesAll locals trash remotes.all met taken := by
    refine Merging.takes_all hmet_supply hused
      (fun there hmem => hremotes_named there.id there (hfound there hmem))
      (fun there hmem => ?_) fun there _ => by rw [hmeets.trash]
    rw [hmet, Store.contains_eq remotes, hfound there hmem]
    exact Bool.true_and _
  refine ⟨hmeets, htakes, ?_⟩
  -- The third pass reads the notes that the snapshot lacks, and no pass before has put any there.
  refine Merging.discards_all hlocals hlocals_named locals.nodup_ids (fun _ => Store.mem_ids.1)
    (htakes.clock.trans hmeets.clock) (fun id hmem => ?_) fun id hmem habsent => ?_
  · rw [htakes.met, hmet, Store.contains_eq locals, Store.mem_ids.1 hmem, Bool.and_true]
  · have hnone : remotes.get? id = none := by
      rw [Store.contains_eq] at habsent
      exact Option.isNone_iff_eq_none.1 (by simpa using habsent)
    rw [htakes.others id (hremotes.not_mem_map_id hnone)]
    exact hmeets.others id (hremotes.not_mem_map_id hnone) fun hcopy =>
      hunused id hcopy (.inl (Store.mem_ids.1 hmem))

/-- What the passes of a merge have done together. -/
theorem merge_effect (hlocals : locals.Keyed) (hlocals_named : locals.Named)
    (hremotes : remotes.Keyed) (hremotes_named : remotes.Named)
    (hfresh : supply.FreshFor (UsedIn locals trash remotes)) :
    Effect locals trash remotes supply (merge locals trash remotes supply) := by
  obtain ⟨hmeets, htakes, hdiscards⟩ :=
    merge_passes hlocals hlocals_named hremotes hremotes_named hfresh
  obtain ⟨-, hunused, hlater⟩ := fresh_copies hfresh (contested locals remotes.all).length
  obtain ⟨-, hunused_backups, -⟩ := fresh_copies (hlater.mono fun _ h => .inl h)
    (comebacks locals trash remotes.all).length
  have hsupply := hmeets.supply
  have hnot_there {id : String} (hnone : remotes.get? id = none) := hremotes.not_mem_map_id hnone
  have hdropped {id : String} (hmem : id ∈ dropped locals remotes locals.ids) :
      (locals.get? id).isSome = true :=
    Store.mem_ids.1 (List.mem_of_mem_filter hmem)
  refine ⟨?_, ?_, ?_, ?_, fun id hcopy => ?_, fun id hcopy => ?_⟩
  · rw [hdiscards.supply, htakes.supply, hsupply, after_copies_append]
  · rw [hdiscards.report, htakes.report, hmeets.report, hsupply]
    simp
  · refine hmeets.copies.of_get_eq fun id hcopy => ?_
    have hnot := hunused id hcopy
    have hnone : remotes.get? id = none := by
      exact Store.not_has_iff.1 fun hhas => hnot (.inr (.inr hhas))
    rw [hdiscards.notes, if_neg fun hdrop => hnot (.inl (hdropped hdrop)),
      htakes.others id (hnot_there hnone)]
  · have hcopies := htakes.copies
    rw [hsupply] at hcopies
    refine hcopies.of_get_eq fun id hcopy => ?_
    rw [hdiscards.trash, if_neg fun hdrop => hunused_backups id hcopy (.inl (hdropped hdrop))]
  · by_cases hid : UsedIn locals trash remotes id
    · exact get_merge hlocals hremotes (hfresh.unused id hid)
    · -- Nothing is under an id that is in no store and belongs to no copy.
      simp only [UsedIn, not_or, Store.not_has_iff] at hid
      obtain ⟨hlocal, -, hremote⟩ := hid
      rw [hdiscards.notes, if_neg fun hdrop => ?_, htakes.others id (hnot_there hremote),
        hmeets.others id (hnot_there hremote) hcopy, hlocal, hremote]
      · exact rfl
      · have hsome := hdropped hdrop
        rw [hlocal] at hsome
        cases hsome
  · rw [hdiscards.trash, htakes.trash id (by rw [hsupply]; exact hcopy), hmeets.trash]

/-- What a merge leaves in place of a store is a store of the same kind. -/
theorem merge_locals (hlocals : locals.Keyed) (hnamed : locals.Named) (trash remotes : Store)
    (supply : Supply) :
    (merge locals trash remotes supply).locals.Keyed ∧
      (merge locals trash remotes supply).locals.Named ∧
      (merge locals trash remotes supply).locals.exportClock = locals.exportClock := by
  have hkeeps := merge_keeps
    (fun store => store.Keyed ∧ store.Named ∧ store.exportClock = locals.exportClock)
    (fun _ => True)
    (fun store note h => ⟨h.1.restore note, h.2.1.restore note, h.2.2⟩)
    (fun store note h => ⟨h.1.add note, h.2.1.add note, h.2.2⟩)
    (fun store id h => ⟨h.1.without id, h.2.1.without id, h.2.2⟩)
    (fun _ _ _ => trivial) (fun _ _ _ => trivial) locals trash remotes ⟨hlocals, hnamed, rfl⟩
    trivial supply
  exact hkeeps.1

/-- What a merge leaves in the trash has names and folders, as it had. -/
theorem merge_trash_named (locals remotes : Store) (hnamed : trash.Named) (supply : Supply) :
    (merge locals trash remotes supply).trash.Named := by
  have hkeeps := merge_keeps (fun _ => True) Store.Named (fun _ _ _ => trivial) (fun _ _ _ => trivial)
    (fun _ _ _ => trivial) (fun _ note h => h.restore note) (fun _ note h => h.add note) locals trash
    remotes trivial hnamed supply
  exact hkeeps.2.1

namespace Effect

/-- An id in use after a merge was in use before it, or is a token taken for a copy. -/
theorem used (h : Effect locals trash remotes supply left) {id : String}
    (hused : UsedIn left.locals left.trash remotes id) :
    UsedIn locals trash remotes id ∨ supply.Spends left.supply id := by
  by_cases hcopy : id ∈ copyIds supply
      ((contested locals remotes.all).length + (comebacks locals trash remotes.all).length)
  · rw [h.tokens]
    exact .inr (spends_copies hcopy)
  · left
    rw [copy_ids_append, List.mem_append, not_or] at hcopy
    rcases hused with hlocal | htrashed | hremote
    · rw [Store.Has, h.notes id hcopy.1] at hlocal
      cases hhere : locals.get? id with
      | some here => exact .inl (Store.has_of_get hhere)
      | none =>
          cases hthere : remotes.get? id with
          | some there => exact .inr (.inr (Store.has_of_get hthere))
          | none => simp [hhere, hthere, outcome] at hlocal
    · rw [Store.Has, h.trash id hcopy.2] at htrashed
      split at htrashed
      · exact .inl htrashed
      · exact .inr (.inl htrashed)
    · exact .inr (.inr hremote)

/-- A merge leads its supply on. -/
theorem leads_to (h : Effect locals trash remotes supply left) : supply.LeadsTo left.supply := by
  rw [h.tokens]
  exact leads_to_copies supply _

/-- The tokens after a merge are as good for another one. -/
theorem fresh_again (h : Effect locals trash remotes supply left)
    (hfresh : supply.FreshFor (UsedIn locals trash remotes)) :
    left.supply.FreshFor (UsedIn left.locals left.trash remotes) :=
  (hfresh.leads_to h.leads_to).mono fun _ hused => h.used hused

end Effect

/-! ## What the report names -/

/-- The ids of the notes of a keyed store for which something holds. -/
theorem mem_map_filter (h : remotes.Keyed) {test : Note → Bool} {id : String} :
    id ∈ (remotes.all.filter test).map Note.id ↔
      ∃ there, remotes.get? id = some there ∧ test there = true := by
  rw [List.mem_map]
  constructor
  · rintro ⟨there, hmem, rfl⟩
    obtain ⟨hmem, htest⟩ := List.mem_filter.1 hmem
    exact ⟨there, h.mem_all.1 hmem, htest⟩
  · rintro ⟨there, hfound, htest⟩
    have hid : there.id = id := h id there hfound
    subst hid
    exact ⟨there, List.mem_filter.2 ⟨h.mem_all.2 hfound, htest⟩, rfl⟩

/-- The notes of a keyed store for which something holds have different ids. -/
theorem nodup_map_filter (h : remotes.Keyed) (test : Note → Bool) :
    ((remotes.all.filter test).map Note.id).Nodup :=
  h.nodup_all.sublist (List.filter_sublist.map Note.id)

/-- A contested note is one here, and the snapshot has another version of it. -/
theorem mem_contested {theres : List Note} {here : Note} :
    here ∈ contested locals theres ↔
      ∃ there ∈ theres, locals.get? there.id = some here ∧ bothChange here there = true := by
  simp only [contested, List.mem_filterMap, Option.filter_eq_some_iff]

/-- The contested notes have the ids of notes of the snapshot. -/
theorem map_id_contested (h : locals.Keyed) (theres : List Note) :
    (contested locals theres).map Note.id =
      (theres.filter fun there => (locals.get? there.id).any (bothChange · there)).map Note.id := by
  induction theres with
  | nil => rfl
  | cons there theres ih =>
      have happend : contested locals (there :: theres) =
          contested locals [there] ++ contested locals theres :=
        List.filterMap_append (l := [there])
      rw [happend, List.map_append, ih, Merging.contested_one]
      cases hfound : locals.get? there.id with
      | none => simp [hfound]
      | some here =>
          have hid : here.id = there.id := h there.id here hfound
          by_cases hboth : bothChange here there = true <;>
            simp [hfound, hboth, hid, Option.filter]

/-- A conflict in the report is one of a contested note, and the copy of that is in the store. -/
theorem Effect.of_conflict (h : Effect locals trash remotes supply left)
    (hlocals : locals.Keyed) {original copy : String}
    (hmem : (original, copy) ∈ left.report.conflicts) :
    copy ∈ copyIds supply (contested locals remotes.all).length ∧
      ∃ here ∈ contested locals remotes.all, locals.get? original = some here ∧
        HoldsCopy conflictSuffix supply left.locals here copy := by
  rw [h.report, List.zip_map_left] at hmem
  obtain ⟨⟨here, _⟩, hpair, heq⟩ := List.mem_map.1 hmem
  obtain ⟨rfl, rfl⟩ := Prod.mk.inj heq
  obtain ⟨hcontested, hcopy⟩ := List.of_mem_zip hpair
  obtain ⟨there, -, hfound, -⟩ := mem_contested.1 hcontested
  rw [← hlocals there.id here hfound] at hfound
  exact ⟨hcopy, here, hcontested, hfound, (List.forall₂_iff_zip.1 h.conflicts).2 hpair⟩

/-- The copies in the report are all copies of contested notes. -/
theorem Effect.conflict_ids (h : Effect locals trash remotes supply left) :
    left.report.conflicts.map Prod.snd = copyIds supply (contested locals remotes.all).length := by
  have hlength : (copyIds supply (contested locals remotes.all).length).length =
      ((contested locals remotes.all).map Note.id).length := by
    rw [List.length_map, length_copy_ids]
  rw [h.report, List.map_snd_zip (Nat.le_of_eq hlength)]

/-- A list has each id of a case once and no other. -/
def Names (ids : List String) (case : String → Prop) : Prop :=
  ids.Nodup ∧ ∀ id, id ∈ ids ↔ case id

/-- The notes of a snapshot that have changed in some way, by comparison with the notes here. -/
theorem names_changed (h : remotes.Keyed) (change : Note → Note → Bool) :
    Names ((remotes.all.filter fun there => (locals.get? there.id).any (change · there)).map Note.id)
      fun id => ∃ here there, locals.get? id = some here ∧ remotes.get? id = some there ∧
        change here there = true := by
  refine ⟨nodup_map_filter h _, fun id => ?_⟩
  rw [mem_map_filter h]
  constructor
  · rintro ⟨there, hthere, hchange⟩
    have hid : there.id = id := h id there hthere
    rw [hid, Option.any_eq_true] at hchange
    obtain ⟨here, hhere, hchange⟩ := hchange
    exact ⟨here, there, hhere, hthere, hchange⟩
  · rintro ⟨here, there, hhere, hthere, hchange⟩
    have hid : there.id = id := h id there hthere
    exact ⟨there, hthere, by rw [hid, hhere]; exact hchange⟩

/-- The conflicts in the report are those of the notes that both sides have changed. -/
theorem Effect.names_conflicts (h : Effect locals trash remotes supply left)
    (hlocals : locals.Keyed) (hremotes : remotes.Keyed) :
    Names (left.report.conflicts.map Prod.fst) fun id => ∃ here there,
      locals.get? id = some here ∧ remotes.get? id = some there ∧ bothChange here there = true := by
  have hlength : ((contested locals remotes.all).map Note.id).length =
      (copyIds supply (contested locals remotes.all).length).length := by
    rw [List.length_map, length_copy_ids]
  rw [h.report, List.map_fst_zip (Nat.le_of_eq hlength), map_id_contested hlocals]
  exact names_changed hremotes bothChange

/-- The updates in the report are those of the notes that only the other side has changed. -/
theorem Effect.names_updated (h : Effect locals trash remotes supply left)
    (hremotes : remotes.Keyed) :
    Names left.report.updated fun id => ∃ here there, locals.get? id = some here ∧
      remotes.get? id = some there ∧ remoteChangeOnly here there = true := by
  rw [h.report]
  exact names_changed hremotes remoteChangeOnly

/-- The imports in the report are those of the notes of the snapshot that are nowhere here. -/
theorem Effect.names_imported (h : Effect locals trash remotes supply left)
    (hremotes : remotes.Keyed) :
    Names left.report.imported fun id => locals.get? id = none ∧ trash.get? id = none ∧
      (remotes.get? id).isSome = true := by
  rw [h.report]
  refine ⟨nodup_map_filter hremotes _, fun id => ?_⟩
  rw [arrivals, mem_map_filter hremotes]
  constructor
  · rintro ⟨there, hthere, htest⟩
    have hid : there.id = id := hremotes id there hthere
    simp only [hid, Store.contains_eq, Bool.and_eq_true, Bool.not_eq_true',
      Option.isSome_eq_false_iff, Option.isNone_iff_eq_none] at htest
    exact ⟨htest.1, htest.2, Store.has_of_get hthere⟩
  · rintro ⟨hhere, htrashed, hsome⟩
    obtain ⟨there, hthere⟩ := Option.isSome_iff_exists.1 hsome
    have hid : there.id = id := hremotes id there hthere
    exact ⟨there, hthere, by simp [hid, Store.contains_eq, hhere, htrashed]⟩

/-- What becomes of the notes of a store and its trash in a merge, and what the report names. The
copies are made under the next tokens, and each tells the moment that is read when it is made. -/
structure Outcomes (locals trash remotes : Store) (supply : Supply) (left : Merging) : Prop where
  /-- Of a note on both sides the other one is taken if it has changed. -/
  both : ∀ id here there, locals.get? id = some here → remotes.get? id = some there →
    left.locals.get? id = some (if remoteChange here there then there else here)
  /-- A note of the snapshot that is not in the trash is taken over. -/
  arrives : ∀ id there, locals.get? id = none → remotes.get? id = some there →
    trash.get? id = none → left.locals.get? id = some there
  /-- A note of the snapshot that is in the trash stays there as it is. -/
  stays_out : ∀ id there, locals.get? id = none → remotes.get? id = some there →
    (trash.get? id).isSome = true →
    left.locals.get? id = none ∧ left.trash.get? id = trash.get? id
  /-- A note of the store alone moves to the trash if it has the stamp of the last export. -/
  alone : ∀ id here, locals.get? id = some here → remotes.get? id = none →
    if here.exportVersion = locals.exportClock then
      left.locals.get? id = none ∧ left.trash.get? id = some here
    else left.locals.get? id = some here ∧ left.trash.get? id = trash.get? id
  /-- Of a note changed on both sides the one here is kept under an id that was not in use. Its name
  tells that it is a copy, from when, and of which note. -/
  conflict_copies : ∀ id copy, (id, copy) ∈ left.report.conflicts →
    ¬ UsedIn locals trash remotes copy ∧
      ∃ here ahead version, locals.get? id = some here ∧ copy = supply.token ahead ∧
        left.locals.get? copy = some
          { here with
            id := copy
            name := here.name ++ (" (conflicted local copy, conflict date " ++
              (supply.moments (supply.momentsTaken + ahead)).timestamp ++ ", orig ID " ++ id ++ ")")
            version := version }
  /-- Of each note of the snapshot that is in the trash one copy is put there. Its name tells that it
  is a backup, from when, and of which note. -/
  backups : ∃ backedUp : List Note, (backedUp.map Note.id).Nodup ∧
    (∀ there, there ∈ backedUp ↔ remotes.get? there.id = some there ∧
      locals.get? there.id = none ∧ (trash.get? there.id).isSome = true) ∧
    List.Forall₂ (fun there copy => ¬ UsedIn locals trash remotes copy ∧
      ∃ ahead version, copy = supply.token ahead ∧
        left.trash.get? copy = some
          { there with
            id := copy
            name := there.name ++ (" (remote backup of locally trashed note, backup date " ++
              (supply.moments (supply.momentsTaken + ahead)).timestamp ++ ", orig ID " ++ there.id ++
              ")")
            version := version }) backedUp left.report.trashBackups
  /-- Nothing else is in the store. -/
  no_other : ∀ id, locals.get? id = none → remotes.get? id = none →
    id ∉ left.report.conflicts.map Prod.snd → left.locals.get? id = none
  /-- Nothing else changes in the trash. -/
  no_other_in_trash : ∀ id, id ∉ left.report.trashBackups → id ∉ left.report.trashed →
    left.trash.get? id = trash.get? id
  updated : Names left.report.updated fun id => ∃ here there, locals.get? id = some here ∧
    remotes.get? id = some there ∧ remoteChangeOnly here there = true
  conflicts : Names (left.report.conflicts.map Prod.fst) fun id => ∃ here there,
    locals.get? id = some here ∧ remotes.get? id = some there ∧ bothChange here there = true
  conflict_ids : (left.report.conflicts.map Prod.snd).Nodup
  imported : Names left.report.imported fun id => locals.get? id = none ∧
    trash.get? id = none ∧ (remotes.get? id).isSome = true
  backup_ids : left.report.trashBackups.Nodup
  trashed : Names left.report.trashed fun id => remotes.get? id = none ∧
    ∃ here, locals.get? id = some here ∧ here.exportVersion = locals.exportClock

/-- The ids that a merge drops are those of notes of the store alone with the stamp of the last
export. -/
theorem mem_dropped (h : locals.Keyed) {id : String} :
    id ∈ dropped locals remotes locals.ids ↔ remotes.get? id = none ∧
      ∃ here, locals.get? id = some here ∧ here.exportVersion = locals.exportClock := by
  rw [dropped, List.mem_filter, Store.mem_ids]
  cases hfound : locals.get? id with
  | none => simp
  | some here =>
      have hid : here.id = id := h id here hfound
      simp [remotelyTrashed, hid, Store.contains_eq]

/-- What becomes of the notes follows from what the passes do. -/
theorem Effect.outcomes (h : Effect locals trash remotes supply left) (hlocals : locals.Keyed)
    (hremotes : remotes.Keyed) (hremotes_named : remotes.Named)
    (hfresh : supply.FreshFor (UsedIn locals trash remotes)) :
    Outcomes locals trash remotes supply left := by
  have hreport := h.report
  have hbackups := h.backups
  have hnotes := h.notes
  have htrash := h.trash
  obtain ⟨hnodup, hunused, hlater⟩ := fresh_copies hfresh (contested locals remotes.all).length
  obtain ⟨hnodup_backups, hunused_backups, -⟩ := fresh_copies (hlater.mono fun _ h => .inl h)
    (comebacks locals trash remotes.all).length
  have hget {id : String} (hused : UsedIn locals trash remotes id) := hnotes id fun hcopy =>
    hunused id hcopy hused
  have hget_trash {id : String} (hused : UsedIn locals trash remotes id) := htrash id fun hcopy =>
    hunused_backups id hcopy hused
  have hdefaults {id : String} {there : Note} (hthere : remotes.get? id = some there) :
      there.withDefaults = there := hremotes_named.with_defaults hthere
  constructor
  case both =>
    intro id here there hhere hthere
    rw [hget (.inl (Store.has_of_get hhere)), hhere, hthere, outcome, hdefaults hthere]
  case arrives =>
    intro id there hhere hthere htrashed
    rw [hget (.inr (.inr (Store.has_of_get hthere))), hhere, hthere, outcome, hdefaults hthere,
      Store.contains_eq, htrashed]
    rfl
  case stays_out =>
    intro id there hhere hthere htrashed
    refine ⟨?_, ?_⟩
    · rw [hget (.inr (.inl htrashed)), hhere, hthere, outcome, Store.contains_eq, htrashed, if_pos rfl]
    · rw [hget_trash (.inr (.inl htrashed)), if_neg fun hdrop => ?_]
      obtain ⟨-, here, hfound, -⟩ := (mem_dropped hlocals).1 hdrop
      rw [hhere] at hfound
      cases hfound
  case alone =>
    intro id here hhere hthere
    have hused : UsedIn locals trash remotes id := .inl (Store.has_of_get hhere)
    have hdrop : id ∈ dropped locals remotes locals.ids ↔ here.exportVersion = locals.exportClock := by
      rw [mem_dropped hlocals, hhere]
      simp [hthere]
    rw [hget hused, hget_trash hused, hhere, hthere, outcome]
    by_cases hstamp : here.exportVersion = locals.exportClock
    · rw [if_pos hstamp, if_pos hstamp, if_pos (hdrop.2 hstamp)]
      exact ⟨rfl, rfl⟩
    · rw [if_neg hstamp, if_neg hstamp, if_neg fun hmem => hstamp (hdrop.1 hmem)]
      exact ⟨rfl, rfl⟩
  case conflict_copies =>
    intro id copy hmem
    obtain ⟨hcopy, here, -, hfound, ahead, version, htoken, -, hheld⟩ := h.of_conflict hlocals hmem
    rw [hlocals id here hfound] at hheld
    exact ⟨hunused copy hcopy, here, ahead, version, hfound, htoken, hheld⟩
  case backups =>
    refine ⟨comebacks locals trash remotes.all, nodup_map_filter hremotes _, fun there => ?_, ?_⟩
    · rw [comebacks, List.mem_filter, hremotes.mem_all, Store.contains_eq, Store.contains_eq]
      simp
    · rw [hreport, List.forall₂_iff_zip]
      refine ⟨by rw [length_copy_ids], fun hmem => ?_⟩
      obtain ⟨ahead, version, htoken, -, hheld⟩ :=
        ((List.forall₂_iff_zip.1 hbackups).2 hmem).after_copies
      exact ⟨hunused_backups _ (List.of_mem_zip hmem).2, ahead, version, htoken, hheld⟩
  case no_other =>
    intro id hhere hthere hcopy
    rw [h.conflict_ids] at hcopy
    rw [hnotes id hcopy, hhere, hthere, outcome]
  case no_other_in_trash =>
    intro id hcopy hdrop
    rw [hreport] at hcopy hdrop
    rw [htrash id hcopy, if_neg hdrop]
  case updated => exact h.names_updated hremotes
  case conflicts => exact h.names_conflicts hlocals hremotes
  case conflict_ids =>
    rw [h.conflict_ids]
    exact hnodup
  case imported => exact h.names_imported hremotes
  case backup_ids =>
    rw [hreport]
    exact hnodup_backups
  case trashed =>
    rw [hreport]
    exact ⟨locals.nodup_ids.filter _, fun id => mem_dropped hlocals⟩

/-- The versions that a merge leaves, with room for some more. -/
structure Numbered (locals trash : Store) (steps : Nat) (left : Merging) : Prop where
  room : left.locals.HasRoom steps
  trash_room : trash.HasRoom (steps + left.report.versionsGiven) → left.trash.HasRoom steps
  /-- The copy of a note has a version above the export stamp of the note. -/
  conflict_copies : ∀ id copy here kept, (id, copy) ∈ left.report.conflicts →
    locals.get? id = some here → left.locals.get? copy = some kept →
      here.exportVersion < kept.version ∧ Decimal.InRange kept.version

/-- The copy of a note that both sides have changed has a version above its export stamp. -/
theorem Effect.above_stamp (h : Effect locals trash remotes supply left) (hlocals : locals.Keyed)
    {original copy : String} {here kept : Note}
    (hmem : (original, copy) ∈ left.report.conflicts) (hhere : locals.get? original = some here)
    (hkept : left.locals.get? copy = some kept) : here.exportVersion < kept.version := by
  obtain ⟨-, note, hcontested, hfound, ahead, version, -, hversion, hheld⟩ :=
    h.of_conflict hlocals hmem
  obtain rfl := Option.some.inj (hhere.symm.trans hfound)
  obtain rfl := Option.some.inj (hkept.symm.trans hheld)
  obtain ⟨there, -, -, hboth⟩ := mem_contested.1 hcontested
  simp only [bothChange, localChange, Bool.and_eq_true, decide_eq_true_eq] at hboth
  exact Int.lt_trans hboth.1 hversion

/-- Of every note a merge makes what the notes of its id, the trash and the export clock tell, no
copy gets in the way of another note, and the report names each case. If there is room for the
versions that it gives, all versions that it leaves are those of clocks, and those of copies are above
the export stamps of their notes. -/
theorem merge_outcomes (hlocals : locals.Keyed) (hlocals_named : locals.Named)
    (hremotes : remotes.Keyed) (hremotes_named : remotes.Named)
    (hfresh : supply.FreshFor (UsedIn locals trash remotes)) :
    Outcomes locals trash remotes supply (merge locals trash remotes supply) ∧
      ∀ steps,
        locals.HasRoom (steps + (merge locals trash remotes supply).report.versionsGiven) →
        remotes.HasRoom (steps + (merge locals trash remotes supply).report.versionsGiven) →
        Numbered locals trash steps (merge locals trash remotes supply) := by
  have heffect := merge_effect hlocals hlocals_named hremotes hremotes_named hfresh
  refine ⟨heffect.outcomes hlocals hremotes hremotes_named hfresh, fun steps hroom hthere => ?_⟩
  obtain ⟨hleft, hleft_trash⟩ := merge_room hroom hthere
  exact ⟨hleft, hleft_trash, fun id copy here kept hmem hhere hkept =>
    ⟨heffect.above_stamp hlocals hmem hhere hkept, hleft.in_range hkept⟩⟩

/-- The ids under which a merge has put notes into the store. -/
def Report.brought (report : Report) : List String :=
  report.updated ++ report.conflicts.map Prod.fst ++ report.conflicts.map Prod.snd ++ report.imported

/-- A note that a merge leaves was there before it, unless the merge has put it there. -/
theorem Outcomes.get_of_not_brought (h : Outcomes locals trash remotes supply left) {id : String}
    (hnot : id ∉ left.report.brought) {note : Note} (hfound : left.locals.get? id = some note) :
    locals.get? id = some note := by
  simp only [Report.brought, List.mem_append, not_or] at hnot
  obtain ⟨⟨⟨hupdated, hconflict⟩, hcopy⟩, himported⟩ := hnot
  rw [h.updated.2] at hupdated
  rw [h.conflicts.2] at hconflict
  rw [h.imported.2] at himported
  cases hhere : locals.get? id with
  | none =>
      exfalso
      cases hthere : remotes.get? id with
      | none =>
          rw [h.no_other id hhere hthere hcopy] at hfound
          cases hfound
      | some there =>
          cases htrashed : trash.get? id with
          | none => exact himported ⟨hhere, htrashed, Store.has_of_get hthere⟩
          | some buried =>
              rw [(h.stays_out id there hhere hthere (Store.has_of_get htrashed)).1] at hfound
              cases hfound
  | some here =>
      cases hthere : remotes.get? id with
      | none =>
          have halone := h.alone id here hhere hthere
          split at halone
          · rw [halone.1] at hfound
            cases hfound
          · exact halone.1.symm.trans hfound
      | some there =>
          have hsame : remoteChange here there = false := by
            by_contra hchange
            rw [Bool.not_eq_false] at hchange
            cases hlocal : localChange here with
            | false => exact hupdated ⟨here, there, hhere, hthere, by simp [remoteChangeOnly, *]⟩
            | true => exact hconflict ⟨here, there, hhere, hthere, by simp [bothChange, *]⟩
          have hboth := h.both id here there hhere hthere
          rw [hsame, if_neg (by decide)] at hboth
          exact hboth.symm.trans hfound

/-- Where no note has changed on both sides there are no conflicts. -/
theorem Outcomes.conflicts_eq_nil (h : Outcomes locals trash remotes supply left)
    (hnone : ∀ id here there, locals.get? id = some here → remotes.get? id = some there →
      bothChange here there = false) : left.report.conflicts = [] := by
  rw [← List.map_eq_nil_iff, List.eq_nil_iff_forall_not_mem]
  intro id hmem
  obtain ⟨here, there, hhere, hthere, hboth⟩ := (h.conflicts.2 id).1 hmem
  rw [hnone id here there hhere hthere] at hboth
  cases hboth

/-- A store whose notes have all been exported, and not changed since, is left with the notes of the
snapshot, except for those that are in the trash alone. -/
theorem Outcomes.has_iff (h : Outcomes locals trash remotes supply left)
    (hexported : ∀ id here, locals.get? id = some here →
      here.exportVersion = locals.exportClock ∧ localChange here = false) {id : String} :
    left.locals.Has id ↔ remotes.Has id ∧ (locals.Has id ∨ ¬ trash.Has id) := by
  have hconflicts : left.report.conflicts = [] := by
    refine h.conflicts_eq_nil fun other here there hhere _ => ?_
    rw [bothChange, (hexported other here hhere).2, Bool.false_and]
  have hlacks {store : Store} (hnone : store.get? id = none) : ¬ store.Has id :=
    Store.not_has_iff.2 hnone
  cases hhere : locals.get? id with
  | none =>
      cases hthere : remotes.get? id with
      | none =>
          have hnone := h.no_other id hhere hthere (by rw [hconflicts]; exact List.not_mem_nil)
          exact iff_of_false (hlacks hnone) fun hhas => hlacks hthere hhas.1
      | some there =>
          by_cases htrashed : trash.Has id
          · exact iff_of_false (hlacks (h.stays_out id there hhere hthere htrashed).1)
              fun hhas => hhas.2.elim (hlacks hhere) fun hnot => hnot htrashed
          · exact iff_of_true
              (Store.has_of_get (h.arrives id there hhere hthere (Store.not_has_iff.1 htrashed)))
              ⟨Store.has_of_get hthere, .inr htrashed⟩
  | some here =>
      cases hthere : remotes.get? id with
      | none =>
          have halone := h.alone id here hhere hthere
          rw [if_pos (hexported id here hhere).1] at halone
          exact iff_of_false (hlacks halone.1) fun hhas => hlacks hthere hhas.1
      | some there =>
          exact iff_of_true (Store.has_of_get (h.both id here there hhere hthere))
            ⟨Store.has_of_get hthere, .inl (Store.has_of_get hhere)⟩

/-- A note for examples. -/
def sampleNote (id : String) (version exportVersion : Int) : Note :=
  { Note.blank .tally with
    id := id
    name := id
    folder := "inbox"
    version := version
    exportVersion := exportVersion }

/-- A store for an example, exported at 2: one of its notes has been edited since. -/
def sampleLocals : Store :=
  (({ exportClock := 2 } : Store).restore (sampleNote "edited" 3 2)).restore (sampleNote "gone" 2 2)

/-- A trash for an example. -/
def sampleTrash : Store :=
  ({} : Store).restore (sampleNote "trashed" 2 (-1))

/-- A snapshot for an example: it has another version of the edited note, a note that is in the
trash, and a new one, and it lacks a note. -/
def sampleRemotes : Store :=
  ((({ exportClock := 5 } : Store).restore (sampleNote "edited" 4 5)).restore
    (sampleNote "new" 5 5)).restore (sampleNote "trashed" 5 5)

/-- The stores of the example keep their notes under their ids. -/
theorem sample_keyed : sampleLocals.Keyed ∧ sampleRemotes.Keyed := by
  have hempty (exportClock : Int) : ({ exportClock := exportClock } : Store).Keyed :=
    Store.keyed_of_empty rfl
  exact ⟨((hempty 2).restore _).restore _, (((hempty 5).restore _).restore _).restore _⟩

/-- The notes of the example have names and folders, none of them has strokes for its id, and there is
room for many more versions than a merge of the stores gives. -/
theorem samples_eq :
    (sampleLocals.Named ∧ sampleRemotes.Named) ∧
      (∀ id ∈ sampleLocals.ids ++ sampleTrash.ids ++ sampleRemotes.ids,
        id.toList.all (· == 'i') = false) ∧
      sampleLocals.HasRoom 1000 ∧ sampleTrash.HasRoom 1000 ∧ sampleRemotes.HasRoom 1000 ∧
      (merge sampleLocals sampleTrash sampleRemotes .tally).report =
        { conflicts := [("edited", "i")]
          imported := ["new"]
          trashBackups := ["ii"]
          trashed := ["gone"] } := by
  decide +kernel

/-- The notes of the example have names and folders. -/
theorem sample_named : sampleLocals.Named ∧ sampleRemotes.Named :=
  samples_eq.1

/-- Strokes are not in use in the example. -/
theorem sample_fresh :
    Supply.tally.FreshFor (UsedIn sampleLocals sampleTrash sampleRemotes) := by
  refine Supply.fresh_for_strokes fun id hused => samples_eq.2.1 id ?_
  simp only [UsedIn, ← Store.mem_ids_iff_has] at hused
  simpa only [List.mem_append, or_assoc] using hused

/-- What becomes of the notes of the example: an edited one is kept as a copy, a new one taken over,
a trashed one backed up, and one dropped. There is room for the three versions that this takes. -/
theorem merge_outcomes_of_samples :
    sampleLocals.Keyed ∧ sampleLocals.Named ∧ sampleRemotes.Keyed ∧ sampleRemotes.Named ∧
      Supply.tally.FreshFor (UsedIn sampleLocals sampleTrash sampleRemotes) ∧
      (merge sampleLocals sampleTrash sampleRemotes .tally).report =
        { conflicts := [("edited", "i")]
          imported := ["new"]
          trashBackups := ["ii"]
          trashed := ["gone"] } ∧
      Outcomes sampleLocals sampleTrash sampleRemotes .tally
        (merge sampleLocals sampleTrash sampleRemotes .tally) ∧
      Numbered sampleLocals sampleTrash 997
        (merge sampleLocals sampleTrash sampleRemotes .tally) ∧
      (merge sampleLocals sampleTrash sampleRemotes .tally).trash.HasRoom 997 := by
  obtain ⟨-, -, hlocals, htrash, hremotes, hreport⟩ := samples_eq
  have hgiven : 997 + (merge sampleLocals sampleTrash sampleRemotes .tally).report.versionsGiven =
      1000 := by
    rw [hreport]
    rfl
  rw [← hgiven] at hlocals htrash hremotes
  obtain ⟨houtcomes, hnumbered⟩ := merge_outcomes sample_keyed.1 sample_named.1 sample_keyed.2
    sample_named.2 sample_fresh
  have hleft := hnumbered 997 hlocals hremotes
  exact ⟨sample_keyed.1, sample_named.1, sample_keyed.2, sample_named.2, sample_fresh, hreport,
    houtcomes, hleft, hleft.trash_room htrash⟩

end Sync

end Notekeeper
