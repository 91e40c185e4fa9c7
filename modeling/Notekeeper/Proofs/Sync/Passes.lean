import Notekeeper.Proofs.Sync.Copies
import Notekeeper.Proofs.Sync.Outcome

/-!
# The passes of a merge

Each pass of a merge goes through notes or ids that are distinct, and what it does at one turn
reaches no other turn. So a pass is told by the stores as they were before the merge: which notes it
meets, what it writes into the report, which copies it makes, and that it leaves everything else alone
(`Merging.meets_all`, `Merging.takes_all`, `Merging.discards_all`).
-/

namespace Notekeeper

namespace Sync

/-! ## What the passes find -/

/-- The notes of a snapshot that replace the ones here, which have not changed. -/
def replacements (locals : Store) (theres : List Note) : List Note :=
  theres.filter fun there => (locals.get? there.id).any (remoteChangeOnly · there)

/-- The notes here that both sides have changed. -/
def contested (locals : Store) (theres : List Note) : List Note :=
  theres.filterMap fun there => (locals.get? there.id).filter (bothChange · there)

/-- The notes of a snapshot that are neither here nor in the trash. -/
def arrivals (locals trash : Store) (theres : List Note) : List Note :=
  theres.filter fun there => !locals.contains there.id && !trash.contains there.id

/-- The notes of a snapshot that are in the trash and not here. -/
def comebacks (locals trash : Store) (theres : List Note) : List Note :=
  theres.filter fun there => !locals.contains there.id && trash.contains there.id

/-- The ids of notes that the other replica has dropped. -/
def dropped (locals remotes : Store) (ids : List String) : List String :=
  ids.filter fun id => (locals.get? id).any (remotelyTrashed · locals remotes)

namespace Merging

variable {locals trash remotes : Store} {merging middle left : Merging} {there : Note}
  {theres more : List Note} {used : String → Prop}

/-! ## Notes on both sides -/

/-- What the first pass does with some notes of a snapshot. -/
structure MeetsAll (locals : Store) (theres : List Note) (merging left : Merging) : Prop where
  trash : left.trash = merging.trash
  clock : left.locals.exportClock = merging.locals.exportClock
  supply : left.supply = afterCopies merging.supply (contested locals theres).length
  report : left.report =
    { merging.report with
      updated := merging.report.updated ++ (replacements locals theres).map Note.id
      conflicts := merging.report.conflicts ++ ((contested locals theres).map Note.id).zip
        (copyIds merging.supply (contested locals theres).length) }
  met : ∀ id, left.met.contains id =
    (merging.met.contains id || theres.any (·.id == id) && locals.contains id)
  copies : Copied conflictSuffix left.locals (contested locals theres) merging.supply
  others : ∀ id, id ∉ theres.map Note.id →
    id ∉ copyIds merging.supply (contested locals theres).length →
    left.locals.get? id = merging.locals.get? id

/-- The first pass goes on with other notes of the snapshot. -/
theorem MeetsAll.append (h : MeetsAll locals theres merging middle)
    (hmore : MeetsAll locals more middle left) (hfresh : merging.supply.FreshFor used)
    (hused : ∀ there ∈ more, used there.id) : MeetsAll locals (theres ++ more) merging left := by
  have hreplaced : replacements locals (theres ++ more) =
      replacements locals theres ++ replacements locals more := List.filter_append ..
  have hcontested : contested locals (theres ++ more) =
      contested locals theres ++ contested locals more := List.filterMap_append
  obtain ⟨hnodup, hunused, -⟩ :=
    fresh_copies hfresh ((contested locals theres).length + (contested locals more).length)
  rw [copy_ids_append] at hnodup hunused
  have hmore_supply := hmore.supply
  have hmore_report := hmore.report
  have hmore_copies := hmore.copies
  have hmore_others := hmore.others
  rw [h.supply] at hmore_supply hmore_report hmore_copies hmore_others
  rw [h.report] at hmore_report
  refine ⟨hmore.trash.trans h.trash, hmore.clock.trans h.clock, ?_, ?_, fun id => ?_, ?_,
    fun id hid hcopy => ?_⟩
  · rw [hmore_supply, hcontested, List.length_append, after_copies_append]
  · have hlength : ((contested locals theres).map Note.id).length =
        (copyIds merging.supply (contested locals theres).length).length := by
      rw [List.length_map, length_copy_ids]
    rw [hmore_report, hreplaced, hcontested, List.length_append, copy_ids_append, List.map_append,
      List.map_append, List.zip_append hlength, List.append_assoc, List.append_assoc]
  · rw [hmore.met, h.met, List.any_append, Bool.or_assoc, Bool.and_or_distrib_right]
  · rw [hcontested]
    -- The later notes change their own ids and those of later copies; no earlier copy has one of these.
    refine h.copies.append hmore_copies fun id hmem => hmore_others id (fun hid => ?_) fun hlater => ?_
    · obtain ⟨there, hthere, rfl⟩ := List.mem_map.1 hid
      exact hunused _ (List.mem_append_left _ hmem) (hused there hthere)
    · exact (List.nodup_append.1 hnodup).2.2 id hmem id hlater rfl
  · rw [hcontested, List.length_append, copy_ids_append] at hcopy
    simp only [List.map_append, List.mem_append, not_or] at hid hcopy
    exact (hmore_others id hid.2 hcopy.2).trans (h.others id hid.1 hcopy.1)

/-- What both sides have changed, of one note of a snapshot. -/
theorem contested_one (locals : Store) (there : Note) :
    contested locals [there] = ((locals.get? there.id).filter (bothChange · there)).toList := by
  simp only [contested, List.filterMap_cons, List.filterMap_nil]
  cases (locals.get? there.id).filter (bothChange · there) <;> rfl

/-- The first pass at one note of the snapshot. -/
theorem meets_one (hkeyed : locals.Keyed) (hnamed : locals.Named)
    (havoids : merging.supply.Avoids there.id)
    (hsame : merging.locals.get? there.id = locals.get? there.id) :
    MeetsAll locals [there] merging (merging.meet there) := by
  have hone (id : String) : [there].any (·.id == id) = (there.id == id) := by simp
  have hne {id : String} (h : id ∉ [there].map Note.id) : there.id ≠ id :=
    fun heq => h (by simp [heq])
  -- The cases are those of the pass: there is no note here, only the other side has changed it, both
  -- have, or the other side has not.
  unfold meet
  rw [hsame]
  cases hfound : locals.get? there.id with
  | none =>
      have hcontested : contested locals [there] = [] := by rw [contested_one, hfound]; rfl
      have hreplaced : replacements locals [there] = [] := by simp [replacements, hfound]
      have habsent : locals.contains there.id = false := by rw [Store.contains_eq, hfound]; rfl
      refine ⟨rfl, rfl, by rw [hcontested]; rfl, by simp [hcontested, hreplaced], fun id => ?_,
        by rw [hcontested]; exact .nil, fun _ _ _ => rfl⟩
      rw [hone]
      by_cases hid : there.id = id
      · subst hid
        rw [habsent, Bool.and_false, Bool.or_false]
      · rw [beq_false_of_ne hid, Bool.false_and, Bool.or_false]
  | some here =>
      have hthere : locals.contains there.id = true := by rw [Store.contains_eq, hfound]; rfl
      have hmet (id : String) : (merging.met.insert there.id).contains id =
          (merging.met.contains id || [there].any (·.id == id) && locals.contains id) := by
        rw [hone, contains_insert_met]
        by_cases hid : there.id = id
        · subst hid
          simp [hthere]
        · rw [beq_false_of_ne hid, decide_eq_false hid, Bool.false_and, Bool.or_false, Bool.false_or]
      dsimp only
      split
      next hremote =>
        have hboth : bothChange here there = false := by
          simp only [remoteChangeOnly, bothChange, Bool.and_eq_true, Bool.not_eq_true'] at hremote ⊢
          rw [hremote.2, Bool.false_and]
        have hcontested : contested locals [there] = [] := by
          rw [contested_one, hfound, Option.filter_some_neg (by simp [hboth]), Option.toList_none]
        have hreplaced : replacements locals [there] = [there] := by
          simp [replacements, hfound, hremote]
        refine ⟨rfl, rfl, by rw [hcontested]; rfl, by simp [hcontested, hreplaced], hmet,
          by rw [hcontested]; exact .nil, fun id hid _ => ?_⟩
        exact Store.get_restore_of_ne (hne hid)
      next hremote =>
        have hreplaced : replacements locals [there] = [] := by
          simp [replacements, hfound, hremote]
        split
        next hboth =>
          have hcontested : contested locals [there] = [here] := by
            rw [contested_one, hfound, Option.filter_some_pos (by simp [hboth]), Option.toList_some]
          have hid : here.id = there.id := hkeyed there.id here hfound
          have hids : copyIds merging.supply 1 = [merging.supply.token 0] := rfl
          have hcopy_id : (datedCopy conflictSuffix here merging.supply).id =
              merging.supply.token 0 := rfl
          obtain ⟨hname, hfolder⟩ := hnamed there.id here hfound
          have hcopy : HoldsCopy conflictSuffix merging.supply _ here (merging.supply.token 0) :=
            holds_copy_added merging.locals merging.supply hname hfolder
          refine ⟨rfl, rfl, by rw [hcontested]; rfl, ?_, hmet, ?_, fun id hother hnot => ?_⟩
          · simp [hcontested, hreplaced, hids, hid, hcopy_id]
          · -- The note of the snapshot is put in after the copy, under another id.
            rw [hcontested, Copied, List.length_singleton, hids]
            exact .cons (hcopy.of_get_eq (Store.get_restore_of_ne (Ne.symm (havoids 0)))) .nil
          · rw [hcontested, List.length_singleton, hids, List.mem_singleton] at hnot
            rw [Store.get_restore_of_ne (hne hother)]
            exact Store.get_add_of_ne fun heq => hnot (heq.symm.trans hcopy_id)
        next hboth =>
          have hcontested : contested locals [there] = [] := by
            rw [contested_one, hfound, Option.filter_some_neg (by simp [hboth]), Option.toList_none]
          exact ⟨rfl, rfl, by rw [hcontested]; rfl, by simp [hcontested, hreplaced], hmet,
            by rw [hcontested]; exact .nil, fun _ _ _ => rfl⟩

/-- The first pass goes through the notes of a snapshot, which have different ids. -/
theorem meets_all (hkeyed : locals.Keyed) (hnamed : locals.Named)
    (hfresh : merging.supply.FreshFor used) (hnodup : (theres.map Note.id).Nodup)
    (hused : ∀ there ∈ theres, used there.id)
    (hsame : ∀ there ∈ theres, merging.locals.get? there.id = locals.get? there.id) :
    MeetsAll locals theres merging (theres.foldl meet merging) := by
  induction theres generalizing merging with
  | nil =>
      exact ⟨rfl, rfl, rfl, by simp [replacements, contested], fun id => by simp, .nil,
        fun _ _ _ => rfl⟩
  | cons there theres ih =>
      rw [List.map_cons, List.nodup_cons] at hnodup
      have hthere := hused there List.mem_cons_self
      have hrest := fun there hmem => hused there (List.mem_cons_of_mem _ hmem)
      have hone := meets_one hkeyed hnamed (hfresh.unused _ hthere) (hsame there List.mem_cons_self)
      obtain ⟨-, hunused, hlater⟩ := fresh_copies hfresh (contested locals [there]).length
      rw [← hone.supply] at hlater
      -- The turn of one note reaches no note whose turn is still to come.
      have hkept (other : Note) (hmem : other ∈ theres) :
          (merging.meet there).locals.get? other.id = locals.get? other.id := by
        have hne : other.id ∉ [there].map Note.id := by
          rw [List.map_singleton, List.mem_singleton]
          intro heq
          exact hnodup.1 (heq ▸ List.mem_map_of_mem hmem)
        rw [hone.others other.id hne fun hcopy => hunused _ hcopy (hrest other hmem)]
        exact hsame other (List.mem_cons_of_mem _ hmem)
      have hmore := ih (hlater.mono fun _ h => .inl h) hnodup.2 hrest hkept
      exact hone.append hmore hfresh hrest

/-! ## Notes of the snapshot alone -/

/-- What the second pass does with some notes of a snapshot. -/
structure TakesAll (locals trash : Store) (theres : List Note) (merging left : Merging) : Prop where
  clock : left.locals.exportClock = merging.locals.exportClock
  met : left.met = merging.met
  supply : left.supply = afterCopies merging.supply (comebacks locals trash theres).length
  report : left.report =
    { merging.report with
      imported := merging.report.imported ++ (arrivals locals trash theres).map Note.id
      trashBackups := merging.report.trashBackups ++
        copyIds merging.supply (comebacks locals trash theres).length }
  copies : Copied backupSuffix left.trash (comebacks locals trash theres) merging.supply
  trash : ∀ id, id ∉ copyIds merging.supply (comebacks locals trash theres).length →
    left.trash.get? id = merging.trash.get? id
  others : ∀ id, id ∉ theres.map Note.id → left.locals.get? id = merging.locals.get? id

/-- The second pass goes on with other notes of the snapshot. -/
theorem TakesAll.append (h : TakesAll locals trash theres merging middle)
    (hmore : TakesAll locals trash more middle left) (hfresh : merging.supply.FreshFor used) :
    TakesAll locals trash (theres ++ more) merging left := by
  have harrived : arrivals locals trash (theres ++ more) =
      arrivals locals trash theres ++ arrivals locals trash more := List.filter_append ..
  have hreturned : comebacks locals trash (theres ++ more) =
      comebacks locals trash theres ++ comebacks locals trash more := List.filter_append ..
  obtain ⟨hnodup, -, -⟩ := fresh_copies hfresh
    ((comebacks locals trash theres).length + (comebacks locals trash more).length)
  rw [copy_ids_append] at hnodup
  have hmore_supply := hmore.supply
  have hmore_report := hmore.report
  have hmore_copies := hmore.copies
  have hmore_trash := hmore.trash
  rw [h.supply] at hmore_supply hmore_report hmore_copies hmore_trash
  rw [h.report] at hmore_report
  refine ⟨hmore.clock.trans h.clock, hmore.met.trans h.met, ?_, ?_, ?_, fun id hcopy => ?_,
    fun id hid => ?_⟩
  · rw [hmore_supply, hreturned, List.length_append, after_copies_append]
  · rw [hmore_report, harrived, hreturned, List.length_append, copy_ids_append, List.map_append,
      List.append_assoc, List.append_assoc]
  · rw [hreturned]
    refine h.copies.append hmore_copies fun id hmem => hmore_trash id fun hlater => ?_
    exact (List.nodup_append.1 hnodup).2.2 id hmem id hlater rfl
  · rw [hreturned, List.length_append, copy_ids_append] at hcopy
    simp only [List.mem_append, not_or] at hcopy
    exact (hmore_trash id hcopy.2).trans (h.trash id hcopy.1)
  · simp only [List.map_append, List.mem_append, not_or] at hid
    exact (hmore.others id hid.2).trans (h.others id hid.1)

/-- The second pass at one note of the snapshot. -/
theorem takes_one (hmet : merging.met.contains there.id = locals.contains there.id)
    (htrash : merging.trash.get? there.id = trash.get? there.id) (hname : there.name ≠ "")
    (hfolder : there.folder ≠ "") :
    TakesAll locals trash [there] merging (merging.takeOver there) := by
  have htrashed : merging.trash.contains there.id = trash.contains there.id := by
    rw [Store.contains_eq, htrash, Store.contains_eq]
  unfold takeOver
  rw [hmet, htrashed]
  cases hlocal : locals.contains there.id with
  | true =>
      have harrived : arrivals locals trash [there] = [] := by simp [arrivals, hlocal]
      have hreturned : comebacks locals trash [there] = [] := by simp [comebacks, hlocal]
      refine ⟨rfl, rfl, by rw [hreturned]; rfl, ?_, by rw [hreturned]; exact .nil, fun _ _ => rfl,
        fun _ _ => rfl⟩
      rw [harrived, hreturned]
      simp [copyIds]
  | false =>
      cases hthere : trash.contains there.id with
      | true =>
          have harrived : arrivals locals trash [there] = [] := by simp [arrivals, hlocal, hthere]
          have hreturned : comebacks locals trash [there] = [there] := by
            simp [comebacks, hlocal, hthere]
          have hids : copyIds merging.supply 1 = [merging.supply.token 0] := rfl
          have hcopy_id : (datedCopy backupSuffix there merging.supply).id =
              merging.supply.token 0 := rfl
          refine ⟨rfl, rfl, by rw [hreturned]; rfl, ?_, ?_, fun id hnot => ?_, fun _ _ => rfl⟩
          · simp [harrived, hreturned, hids, hcopy_id]
          · rw [hreturned, Copied, List.length_singleton, hids]
            exact .cons (holds_copy_added merging.trash merging.supply hname hfolder) .nil
          · rw [hreturned, List.length_singleton, hids, List.mem_singleton] at hnot
            exact Store.get_add_of_ne fun heq => hnot (heq.symm.trans hcopy_id)
      | false =>
          have harrived : arrivals locals trash [there] = [there] := by
            simp [arrivals, hlocal, hthere]
          have hreturned : comebacks locals trash [there] = [] := by simp [comebacks, hthere]
          refine ⟨rfl, rfl, by rw [hreturned]; rfl, ?_, by rw [hreturned]; exact .nil,
            fun _ _ => rfl, fun id hid => ?_⟩
          · simp [harrived, hreturned, copyIds]
          · rw [List.map_singleton, List.mem_singleton] at hid
            exact Store.get_restore_of_ne (Ne.symm hid)

/-- The second pass goes through the notes of a snapshot. -/
theorem takes_all (hfresh : merging.supply.FreshFor used)
    (hused : ∀ there ∈ theres, used there.id)
    (hnamed : ∀ there ∈ theres, there.name ≠ "" ∧ there.folder ≠ "")
    (hmet : ∀ there ∈ theres, merging.met.contains there.id = locals.contains there.id)
    (htrash : ∀ there ∈ theres, merging.trash.get? there.id = trash.get? there.id) :
    TakesAll locals trash theres merging (theres.foldl takeOver merging) := by
  induction theres generalizing merging with
  | nil =>
      exact ⟨rfl, rfl, rfl, by simp [arrivals, comebacks, copyIds], .nil, fun _ _ => rfl,
        fun _ _ => rfl⟩
  | cons there theres ih =>
      have hthere {what : Note → Prop} (h : ∀ note ∈ there :: theres, what note) :
          what there ∧ ∀ note ∈ theres, what note :=
        ⟨h there List.mem_cons_self, fun note hmem => h note (List.mem_cons_of_mem _ hmem)⟩
      obtain ⟨⟨hname, hfolder⟩, hnamed⟩ := hthere hnamed
      have hone := takes_one (hthere hmet).1 (hthere htrash).1 hname hfolder
      obtain ⟨-, hunused, hlater⟩ := fresh_copies hfresh (comebacks locals trash [there]).length
      rw [← hone.supply] at hlater
      -- A copy that is put into the trash gets none of the ids that are looked up there later.
      have hkept (other : Note) (hmem : other ∈ theres) :
          (merging.takeOver there).trash.get? other.id = trash.get? other.id := by
        rw [hone.trash other.id fun hcopy => hunused _ hcopy ((hthere hused).2 other hmem)]
        exact (hthere htrash).2 other hmem
      refine hone.append (ih (hlater.mono fun _ h => .inl h) (hthere hused).2 hnamed ?_ hkept) hfresh
      rw [hone.met]
      exact (hthere hmet).2

/-! ## Notes of the store alone -/

/-- What the third pass does with the notes of some ids. -/
structure DiscardsAll (locals remotes : Store) (ids : List String) (merging left : Merging) :
    Prop where
  clock : left.locals.exportClock = merging.locals.exportClock
  met : left.met = merging.met
  supply : left.supply = merging.supply
  report : left.report =
    { merging.report with
      trashed := merging.report.trashed ++ dropped locals remotes ids }
  notes : ∀ id, left.locals.get? id =
    if id ∈ dropped locals remotes ids then none else merging.locals.get? id
  trash : ∀ id, left.trash.get? id =
    if id ∈ dropped locals remotes ids then locals.get? id else merging.trash.get? id

/-- The third pass goes on with other ids. -/
theorem DiscardsAll.append {ids more : List String} (h : DiscardsAll locals remotes ids merging middle)
    (hmore : DiscardsAll locals remotes more middle left) :
    DiscardsAll locals remotes (ids ++ more) merging left := by
  have hdropped : dropped locals remotes (ids ++ more) =
      dropped locals remotes ids ++ dropped locals remotes more := List.filter_append ..
  refine ⟨hmore.clock.trans h.clock, hmore.met.trans h.met, hmore.supply.trans h.supply, ?_,
    fun id => ?_, fun id => ?_⟩
  · rw [hmore.report, h.report, hdropped, List.append_assoc]
  · rw [hmore.notes, h.notes, hdropped]
    by_cases hlater : id ∈ dropped locals remotes more <;> simp [hlater]
  · rw [hmore.trash, h.trash, hdropped]
    by_cases hlater : id ∈ dropped locals remotes more <;> simp [hlater]

/-- The third pass at the id of one note. -/
theorem discards_one {id : String} {here : Note} (hkeyed : locals.Keyed) (hnamed : locals.Named)
    (hfound : locals.get? id = some here)
    (hclock : merging.locals.exportClock = locals.exportClock)
    (hmet : merging.met.contains id = remotes.contains id)
    (hsame : remotes.contains id = false → merging.locals.get? id = locals.get? id) :
    DiscardsAll locals remotes [id] merging (merging.discard remotes id) := by
  have hid : here.id = id := hkeyed id here hfound
  have hnothing (h : remotelyTrashed here locals remotes = false) :
      dropped locals remotes [id] = [] := by
    simp [dropped, hfound, h]
  have hstays (h : remotelyTrashed here locals remotes = false) :
      DiscardsAll locals remotes [id] merging merging := by
    refine ⟨rfl, rfl, rfl, ?_, fun other => ?_, fun other => ?_⟩ <;> simp [hnothing h]
  unfold discard
  rw [hmet]
  cases hthere : remotes.contains id with
  | true => exact hstays (by simp [remotelyTrashed, hid, hthere])
  | false =>
      have hmiddle : merging.locals.get? id = some here := (hsame hthere).trans hfound
      have htrashed : remotelyTrashed here merging.locals remotes =
          remotelyTrashed here locals remotes := by
        rw [remotelyTrashed, remotelyTrashed, hclock]
      simp only [Bool.false_eq_true, if_false, hmiddle, Store.remove_eq hmiddle, htrashed]
      cases hdrops : remotelyTrashed here locals remotes with
      | false => exact hstays hdrops
      | true =>
          have hdropped : dropped locals remotes [id] = [id] := by simp [dropped, hfound, hdrops]
          have hmem (other : String) : other ∈ dropped locals remotes [id] ↔ id = other := by
            rw [hdropped, List.mem_singleton, eq_comm]
          have hrestored := merging.trash.get_restore here
          rw [hid, hnamed.with_defaults hfound] at hrestored
          refine ⟨rfl, rfl, rfl, by rw [hdropped]; rfl, fun other => ?_, fun other => ?_⟩
          · simp only [hmem]
            exact merging.locals.get_without id other
          · simp only [hmem, if_true, Store.get?, hrestored other]
            by_cases hother : id = other
            · rw [if_pos hother, if_pos hother, ← hother]
              exact hfound.symm
            · rw [if_neg hother, if_neg hother]

/-- The third pass goes through ids of notes, which are different. -/
theorem discards_all {ids : List String} (hkeyed : locals.Keyed) (hnamed : locals.Named)
    (hnodup : ids.Nodup) (hlocal : ∀ id ∈ ids, (locals.get? id).isSome = true)
    (hclock : merging.locals.exportClock = locals.exportClock)
    (hmet : ∀ id ∈ ids, merging.met.contains id = remotes.contains id)
    (hsame : ∀ id ∈ ids, remotes.contains id = false →
      merging.locals.get? id = locals.get? id) :
    DiscardsAll locals remotes ids merging (ids.foldl (discard remotes) merging) := by
  induction ids generalizing merging with
  | nil => exact ⟨rfl, rfl, rfl, by simp [dropped], fun id => by simp [dropped],
      fun id => by simp [dropped]⟩
  | cons id ids ih =>
      rw [List.nodup_cons] at hnodup
      have hfirst {what : String → Prop} (h : ∀ other ∈ id :: ids, what other) :
          what id ∧ ∀ other ∈ ids, what other :=
        ⟨h id List.mem_cons_self, fun other hmem => h other (List.mem_cons_of_mem _ hmem)⟩
      obtain ⟨here, hfound⟩ := Option.isSome_iff_exists.1 (hfirst hlocal).1
      have hone := discards_one hkeyed hnamed hfound hclock (hfirst hmet).1 (hfirst hsame).1
      have hdropped : ∀ other ∈ dropped locals remotes [id], other = id := fun other hmem =>
        List.mem_singleton.1 (List.mem_of_mem_filter hmem)
      refine hone.append (ih hnodup.2 (hfirst hlocal).2 (hone.clock.trans hclock) ?_ ?_)
      · rw [hone.met]
        exact (hfirst hmet).2
      · intro other hmem habsent
        rw [hone.notes, if_neg fun hdrop => hnodup.1 (hdropped other hdrop ▸ hmem)]
        exact (hfirst hsame).2 other hmem habsent

end Merging

end Sync

end Notekeeper
