import Notekeeper.Proofs.Store.Basic
import Notekeeper.Proofs.Sync.Merge

/-!
# What a merge makes of one note

The three passes of a merge work on notes by their ids, and no pass reaches the notes of other ids,
unless a copy is made under a token that is one of them. So what becomes of a note in the primary
store is told by the two notes of its id, by whether the id is in the trash, and by the export clock
(`Sync.get_merge`).
-/

namespace Notekeeper

namespace Sync

/-- What a merge makes of the notes of one id: the one here and the one there. -/
def outcome (here? there? : Option Note) (isTrashed : Bool) (exportClock : Int) : Option Note :=
  match here?, there? with
  | some here, some there => some (if remoteChange here there then there.withDefaults else here)
  | none, some there => if isTrashed then none else some there.withDefaults
  | some here, none => if here.exportVersion = exportClock then none else some here
  | none, none => none

/-- If the note here has its defaults, what comes of both has them. -/
theorem outcome_with_defaults {here? there? : Option Note}
    (hhere : ∀ note ∈ here?, note.withDefaults = note) (isTrashed : Bool) (exportClock : Int) :
    (outcome here? there? isTrashed exportClock).map Note.withDefaults =
      outcome here? there? isTrashed exportClock := by
  unfold outcome
  split
  next here there =>
    rw [Option.map_some]
    split
    · rw [Note.with_defaults_idem]
    · rw [hhere here rfl]
  next there =>
    split
    · rfl
    · rw [Option.map_some, Note.with_defaults_idem]
  next here =>
    split
    · rfl
    · rw [Option.map_some, hhere here rfl]
  next => rfl

/-- What a merge under way holds of an id, as far as the merge looks at it. -/
structure Merging.At (merging : Merging) (id : String) (note? : Option Note)
    (isTrashed isMet : Bool) (exportClock : Int) : Prop where
  note : merging.locals.get? id = note?
  trashed : merging.trash.contains id = isTrashed
  met : merging.met.contains id = isMet
  clock : merging.locals.exportClock = exportClock
  avoids : merging.supply.Avoids id
  keyed : merging.locals.Keyed

namespace Merging

variable {merging : Merging} {id : String} {note? : Option Note} {isTrashed isMet : Bool}
  {exportClock : Int} {there : Note}

/-- After a copy has been made a text is still avoided. -/
theorem avoids_copy {supply : Supply} (h : supply.Avoids id) : (afterCopy supply).Avoids id :=
  h.leads_to ((supply.leads_to_drop 1).trans (Supply.leads_to_reading _))

/-- An id is met when a note is, if it is the id of that note or has been met before. -/
theorem contains_insert_met (met : TextSet) (other id : String) :
    (met.insert other).contains id = (decide (other = id) || met.contains id) := by
  rw [Std.ExtTreeSet.contains_insert, Bool.eq_iff_iff]
  simp

/-- The first pass leaves alone what has another id. -/
theorem At.meet_other (h : merging.At id note? isTrashed isMet exportClock)
    (hother : there.id ≠ id) : (merging.meet there).At id note? isTrashed isMet exportClock := by
  have hmet : (merging.met.insert there.id).contains id = isMet := by
    rw [contains_insert_met, h.met]
    simp [hother]
  unfold meet
  split
  · exact h
  · dsimp only
    split
    · exact ⟨(Store.get_restore_of_ne hother).trans h.note, h.trashed, hmet, h.clock, h.avoids,
        h.keyed.restore there⟩
    · split
      next here _ _ _ =>
        have hcopy : (datedCopy conflictSuffix here merging.supply).id ≠ id := h.avoids 0
        have hnote := ((Store.get_restore_of_ne hother).trans (Store.get_add_of_ne hcopy)).trans h.note
        exact ⟨hnote, h.trashed, hmet, h.clock, avoids_copy h.avoids,
          (h.keyed.add _).restore there⟩
      · exact ⟨h.note, h.trashed, hmet, h.clock, h.avoids, h.keyed⟩

/-- The first pass takes the newer one of two notes of an id. -/
theorem At.meet_self (h : merging.At there.id note? isTrashed false exportClock) :
    (merging.meet there).At there.id
      (note?.map fun here => if remoteChange here there then there.withDefaults else here) isTrashed
      note?.isSome exportClock := by
  unfold meet
  cases hfound : merging.locals.get? there.id with
  | none =>
      obtain rfl := h.note.symm.trans hfound
      exact h
  | some here =>
      obtain rfl := h.note.symm.trans hfound
      have hmet : (merging.met.insert there.id).contains there.id = true := by simp
      have hrestored (store : Store) := Store.get_restore_self store there
      dsimp only
      split
      next hremote =>
        have hchange : remoteChange here there = true := by
          simp only [remoteChangeOnly, Bool.and_eq_true] at hremote
          exact hremote.1
        refine ⟨?_, h.trashed, hmet, h.clock, h.avoids, h.keyed.restore there⟩
        simp [hchange, hrestored]
      next hremote =>
        split
        next hboth =>
          have hchange : remoteChange here there = true := by
            simp only [bothChange, Bool.and_eq_true] at hboth
            exact hboth.2
          refine ⟨?_, h.trashed, hmet, h.clock, avoids_copy h.avoids, (h.keyed.add _).restore there⟩
          simp [hchange, hrestored]
        next hboth =>
          have hchange : remoteChange here there = false := by
            simp only [remoteChangeOnly, bothChange, Bool.and_eq_true, Bool.not_eq_true'] at *
            grind
          refine ⟨?_, h.trashed, hmet, h.clock, h.avoids, h.keyed⟩
          simp [hchange, hfound]

/-- The second pass leaves alone what has another id. -/
theorem At.take_over_other (h : merging.At id note? isTrashed isMet exportClock)
    (hother : there.id ≠ id) : (merging.takeOver there).At id note? isTrashed isMet exportClock := by
  unfold takeOver
  split
  · exact h
  · split
    · refine ⟨h.note, ?_, h.met, h.clock, avoids_copy h.avoids, h.keyed⟩
      dsimp only
      rw [Store.contains_eq, Store.get_add_of_ne (h.avoids 0), ← Store.contains_eq]
      exact h.trashed
    · exact ⟨(Store.get_restore_of_ne hother).trans h.note, h.trashed, h.met, h.clock, h.avoids,
        h.keyed.restore there⟩

/-- The second pass takes a note over unless its id has been met or is in the trash. -/
theorem At.take_over_self (h : merging.At there.id note? isTrashed isMet exportClock) :
    (merging.takeOver there).At there.id
      (if isMet || isTrashed then note? else some there.withDefaults) isTrashed isMet
      exportClock := by
  unfold takeOver
  rw [h.met, h.trashed]
  cases isMet with
  | true => exact h
  | false =>
      cases isTrashed with
      | true =>
          refine ⟨h.note, ?_, h.met, h.clock, avoids_copy h.avoids, h.keyed⟩
          simp only [Bool.false_eq_true, if_false, if_true]
          rw [Store.contains_eq, Store.get_add_of_ne (h.avoids 0), ← Store.contains_eq]
          exact h.trashed
      | false =>
          exact ⟨Store.get_restore_self _ _, h.trashed, h.met, h.clock, h.avoids, h.keyed.restore there⟩

/-- The third pass leaves alone the notes of other ids. -/
theorem get_discard_of_ne {other : String} (remotes : Store) (hother : other ≠ id) :
    (merging.discard remotes other).locals.get? id = merging.locals.get? id := by
  unfold discard
  split
  · rfl
  · cases hfound : merging.locals.get? other with
    | none => rfl
    | some here =>
        simp only [Store.remove_eq hfound]
        split
        · rw [Store.get?, Store.get_without, if_neg hother, Store.get?]
        · rfl

/-- The third pass leaves alone what has another id. -/
theorem At.discard_other {other : String} (h : merging.At id note? isTrashed isMet exportClock)
    (remotes : Store) (hother : other ≠ id) :
    (merging.discard remotes other).At id note? isTrashed isMet exportClock := by
  unfold discard
  split
  · exact h
  · cases hfound : merging.locals.get? other with
    | none => exact h
    | some here =>
        have hid : here.id ≠ id := by rwa [h.keyed other here hfound]
        simp only [Store.remove_eq hfound]
        split
        · refine ⟨?_, ?_, h.met, h.clock, h.avoids, h.keyed.without other⟩
          · rw [Store.get?, Store.get_without, if_neg hother]
            exact h.note
          · dsimp only
            rw [Store.contains_eq, Store.get_restore_of_ne hid, ← Store.contains_eq]
            exact h.trashed
        · exact h

/-- The third pass takes a note out if its id has not been met and the other replica deleted it. -/
theorem At.discard_self (h : merging.At id note? isTrashed isMet exportClock) {remotes : Store}
    (hremote : isMet = false → remotes.contains id = false) :
    (merging.discard remotes id).locals.get? id =
      if isMet then note? else note?.filter fun here => here.exportVersion ≠ exportClock := by
  unfold discard
  rw [h.met]
  cases isMet with
  | true => exact h.note
  | false =>
      simp only [Bool.false_eq_true, if_false]
      cases hfound : merging.locals.get? id with
      | none =>
          obtain rfl := h.note.symm.trans hfound
          exact hfound
      | some here =>
          obtain rfl := h.note.symm.trans hfound
          have hid : here.id = id := h.keyed id here hfound
          simp only [Store.remove_eq hfound, remotelyTrashed, hid, hremote rfl, h.clock]
          by_cases hclock : here.exportVersion = exportClock
          · simp [hclock, Store.get?, Store.get_without, Option.filter]
          · simp [hclock, hfound, Option.filter]

end Merging

/-! ## The passes as a whole -/

section

variable {state item : Type} {key : item → String} {step : state → item → state} {id : String}

/-- Steps that keep something for items of other keys keep it for a list without a key. -/
theorem foldl_of_not_mem {kept : state → Prop}
    (hother : ∀ state item, key item ≠ id → kept state → kept (step state item))
    (items : List item) (h : id ∉ items.map key) (start : state) (hstart : kept start) :
    kept (items.foldl step start) :=
  List.foldlRecOn _ _ hstart fun state hstate item hmem =>
    hother state item (fun hkey => h (List.mem_map.2 ⟨item, hmem, hkey⟩)) hstate

/-- Of a list with different keys one item counts, if the steps for the others keep what holds before
and after its turn. -/
theorem foldl_of_mem {before after : state → Prop}
    (hbefore : ∀ state item, key item ≠ id → before state → before (step state item))
    (hafter : ∀ state item, key item ≠ id → after state → after (step state item))
    {items : List item} (hnodup : (items.map key).Nodup) {turn : item} (hmem : turn ∈ items)
    (hkey : key turn = id) (hturn : ∀ state, before state → after (step state turn))
    (start : state) (hstart : before start) : after (items.foldl step start) := by
  induction items generalizing start with
  | nil => cases hmem
  | cons item items ih =>
      simp only [List.map_cons, List.nodup_cons] at hnodup
      rw [List.foldl_cons]
      rcases List.mem_cons.1 hmem with rfl | hmem
      · rw [hkey] at hnodup
        exact foldl_of_not_mem hafter items hnodup.1 _ (hturn start hstart)
      · have hne : key item ≠ id := by
          rintro rfl
          exact hnodup.1 (List.mem_map.2 ⟨turn, hmem, hkey⟩)
        exact ih hnodup.2 hmem _ (hbefore start item hne hstart)

end

namespace Merging

variable {merging : Merging} {id : String} {note? : Option Note} {isTrashed isMet : Bool}
  {exportClock : Int} {remotes : Store}

/-- The first pass makes of an id what it makes of the note of that id. -/
theorem At.meet_all (h : merging.At id note? isTrashed false exportClock)
    (hremotes : remotes.Keyed) :
    (remotes.all.foldl meet merging).At id
      (match remotes.get? id with
        | some there =>
            note?.map fun here => if remoteChange here there then there.withDefaults else here
        | none => note?)
      isTrashed (note?.isSome && (remotes.get? id).isSome) exportClock := by
  have hother {note? : Option Note} {isMet : Bool} (merging : Merging) (there : Note)
      (hne : there.id ≠ id) (h : merging.At id note? isTrashed isMet exportClock) :
      (merging.meet there).At id note? isTrashed isMet exportClock :=
    h.meet_other hne
  cases hthere : remotes.get? id with
  | none =>
      have hnot := hremotes.not_mem_map_id hthere
      simpa using foldl_of_not_mem hother _ hnot merging h
  | some there =>
      have hid : there.id = id := hremotes id there hthere
      refine foldl_of_mem hother hother hremotes.nodup_all (Store.mem_all.2 ⟨id, hthere⟩) hid
        (fun merging h => ?_) merging h
      subst hid
      simpa using h.meet_self

/-- The second pass makes of an id what it makes of the note of that id. -/
theorem At.take_over_all (h : merging.At id note? isTrashed isMet exportClock)
    (hremotes : remotes.Keyed) :
    (remotes.all.foldl takeOver merging).At id
      (match remotes.get? id with
        | some there => if isMet || isTrashed then note? else some there.withDefaults
        | none => note?)
      isTrashed isMet exportClock := by
  have hother {note? : Option Note} (merging : Merging) (there : Note)
      (hne : there.id ≠ id) (h : merging.At id note? isTrashed isMet exportClock) :
      (merging.takeOver there).At id note? isTrashed isMet exportClock :=
    h.take_over_other hne
  cases hthere : remotes.get? id with
  | none =>
      have hnot := hremotes.not_mem_map_id hthere
      exact foldl_of_not_mem hother _ hnot merging h
  | some there =>
      have hid : there.id = id := hremotes id there hthere
      refine foldl_of_mem hother hother hremotes.nodup_all (Store.mem_all.2 ⟨id, hthere⟩) hid
        (fun merging h => ?_) merging h
      subst hid
      exact h.take_over_self

/-- The third pass makes of an id in its list what it makes of that id alone. -/
theorem At.discard_all (h : merging.At id note? isTrashed isMet exportClock) {ids : List String}
    (hnodup : ids.Nodup) (hremote : id ∈ ids → isMet = false → remotes.contains id = false) :
    (ids.foldl (discard remotes) merging).locals.get? id =
      if id ∈ ids ∧ isMet = false then note?.filter fun here => here.exportVersion ≠ exportClock
      else note? := by
  have hother (merging : Merging) (other : String) (hne : other ≠ id)
      (h : merging.At id note? isTrashed isMet exportClock) :
      (merging.discard remotes other).At id note? isTrashed isMet exportClock :=
    h.discard_other remotes hne
  have hfound {found? : Option Note} (merging : Merging) (other : String) (hne : other ≠ id)
      (h : merging.locals.get? id = found?) : (merging.discard remotes other).locals.get? id = found? :=
    (get_discard_of_ne remotes hne).trans h
  by_cases hmem : id ∈ ids
  · rw [← List.map_id ids] at hnodup
    have hturn := foldl_of_mem hother hfound hnodup hmem rfl
      (fun merging h => h.discard_self (hremote hmem)) merging h
    rw [hturn]
    cases isMet <;> simp [hmem]
  · rw [← List.map_id ids] at hmem
    have hkept := foldl_of_not_mem hother ids hmem merging h
    rw [List.map_id] at hmem
    simp [hmem, hkept.note]

end Merging

/-- What a merge makes of the notes of an id that is no token still to come. -/
theorem get_merge {locals trash remotes : Store} (hlocals : locals.Keyed) (hremotes : remotes.Keyed)
    {supply : Supply} {id : String} (havoids : supply.Avoids id) :
    (merge locals trash remotes supply).locals.get? id =
      outcome (locals.get? id) (remotes.get? id) (trash.contains id) locals.exportClock := by
  have hstart : Merging.At { locals := locals, trash := trash, supply := supply } id
      (locals.get? id) (trash.contains id) false locals.exportClock :=
    ⟨rfl, rfl, by simp, rfl, havoids, hlocals⟩
  have htaken := (hstart.meet_all hremotes).take_over_all hremotes
  have hmem : id ∈ locals.ids ↔ (locals.get? id).isSome = true := Store.mem_ids
  unfold merge
  dsimp only
  rw [htaken.discard_all locals.nodup_ids fun hhere hmet => ?_]
  · simp only [hmem]
    cases locals.get? id <;> cases remotes.get? id <;> cases trash.contains id <;>
      simp [outcome, Option.filter]
  · rw [Store.contains_eq]
    simpa [hmem.1 hhere] using hmet

/-! ## A merge in which nothing has changed here -/

/-- If no note on either side counts as changed by its own stamp, a merge makes no copies in the
primary store: every note in it is one of either side. -/
theorem merge_of_unchanged {kept : Note → Prop} (hdefaults : ∀ note, kept note → kept note.withDefaults)
    (hunchanged : ∀ note, kept note → localChange note = false) {locals trash remotes : Store}
    (hlocals : ∀ (id : String) (note : Note), locals.notes[id]? = some note → kept note)
    (hremotes : ∀ note ∈ remotes.all, kept note) (supply : Supply) (id : String) (note : Note)
    (hfound : (merge locals trash remotes supply).locals.notes[id]? = some note) : kept note := by
  let all (merging : Merging) : Prop :=
    ∀ (id : String) (note : Note), merging.locals.notes[id]? = some note → kept note
  have hrestore (store : Store) (there : Note) (hthere : kept there)
      (h : ∀ (id : String) (note : Note), store.notes[id]? = some note → kept note) (id : String)
      (note : Note) (hfound : (store.restore there).notes[id]? = some note) : kept note := by
    rw [Store.get_restore] at hfound
    split at hfound
    · obtain rfl := Option.some.inj hfound
      exact hdefaults there hthere
    · exact h id note hfound
  have hmeet (merging : Merging) (there : Note) (hthere : kept there) (h : all merging) :
      all (merging.meet there) := by
    unfold Merging.meet
    cases hhere : merging.locals.get? there.id with
    | none => exact h
    | some here =>
        have hlocal : localChange here = false := hunchanged here (h there.id here hhere)
        -- A copy would be made of a note that has changed here.
        have hnot : bothChange here there = false := by simp [bothChange, hlocal]
        simp only [hnot, Bool.false_eq_true, if_false]
        split
        · exact hrestore _ there hthere h
        · exact h
  have htake (merging : Merging) (there : Note) (hthere : kept there) (h : all merging) :
      all (merging.takeOver there) := by
    unfold Merging.takeOver
    split
    · exact h
    · split
      · exact h
      · exact hrestore _ there hthere h
  have hdiscard (merging : Merging) (id : String) (h : all merging) :
      all (merging.discard remotes id) := by
    unfold Merging.discard
    split
    · exact h
    · cases hhere : merging.locals.get? id with
      | none => exact h
      | some here =>
          simp only [Store.remove_eq hhere]
          split
          · intro other note hfound
            rw [Store.get_without] at hfound
            split at hfound
            · cases hfound
            · exact h other note hfound
          · exact h
  have hmet : all (remotes.all.foldl Merging.meet { locals := locals, trash := trash, supply := supply }) :=
    List.foldlRecOn _ _ hlocals fun merging h there hmem => hmeet merging there (hremotes there hmem) h
  have htaken : all (remotes.all.foldl Merging.takeOver _) :=
    List.foldlRecOn _ _ hmet fun merging h there hmem => htake merging there (hremotes there hmem) h
  have hleft : all (merge locals trash remotes supply) :=
    List.foldlRecOn _ _ htaken fun merging h id _ => hdiscard merging id h
  exact hleft id note hfound

end Sync

end Notekeeper
