import Notekeeper.Proofs.Attempt
import Notekeeper.Proofs.Notebook.Operation
import Notekeeper.Proofs.Store.Change
import Notekeeper.Proofs.Supply

/-!
# What note operations do

Every operation on notes makes changes of three kinds to the stores of a notebook (`Change`) and
saves them: it adds new notes, revises notes, or moves notes to the trash.
`NoteOperation.perform_meets` turns this into a rule: what saving makes of every outcome of such
changes holds after the operation.
-/

namespace Notekeeper

/-- A text that is not in a set is not missed when it is taken out. -/
theorem TextSet.erase_of_not_mem {texts : TextSet} {text : String} (h : text ∉ texts) :
    texts.erase text = texts := by
  apply Std.ExtTreeSet.ext_mem
  intro other
  rw [Std.ExtTreeSet.mem_erase]
  refine ⟨fun hmem => hmem.2, fun hmem => ⟨fun heq => h ?_, hmem⟩⟩
  obtain rfl : text = other := by simpa using heq
  exact hmem

/-- An input takes at most one token. -/
theorem NoteInput.leads_to (input : NoteInput) (note : Note) (supply : Supply) :
    supply.LeadsTo (input.applyTo note supply).2 := by
  unfold NoteInput.applyTo
  dsimp only
  split
  · exact .refl supply
  · exact supply.leads_to_drop 1

namespace Notebook

/-- One change to the stores of a notebook. -/
inductive Change : Notebook → Notebook → Prop
  /-- A note is added whose id is the next token. -/
  | add (notebook : Notebook) (note : Note) (later : Supply)
      (hid : note.id = notebook.supply.token 0) (hversion : note.version = 1)
      (hexport : note.exportVersion = -1) (hsupply : (notebook.supply.dropTokens 1).LeadsTo later) :
      Change notebook { notebook with notes := notebook.notes.add note, supply := later }
  /-- A note is given other values under a new version. -/
  | revise (notebook : Notebook) (id : String) (note edited : Note) (later : Supply)
      (hfound : notebook.notes.get? id = some note) (hid : edited.id = note.id)
      (hversion : edited.version = note.version) (hexport : edited.exportVersion = note.exportVersion)
      (hsupply : notebook.supply.LeadsTo later) :
      Change notebook { notebook with notes := notebook.notes.revise id edited, supply := later }
  /-- A note is moved to the trash. -/
  | discard (notebook : Notebook) (id : String) (note : Note)
      (hfound : notebook.notes.get? id = some note) :
      Change notebook
        { notebook with notes := notebook.notes.without id, trash := notebook.trash.add note }

/-- Any number of changes to the stores of a notebook. -/
def Changes : Notebook → Notebook → Prop :=
  Relation.ReflTransGen Change

variable {notebook : Notebook}

/-! ## The changes of single operations -/

/-- A note is revised without taking anything from the supply. -/
theorem Change.revise_in_place {id : String} {note edited : Note}
    (hfound : notebook.notes.get? id = some note) (hid : edited.id = note.id)
    (hversion : edited.version = note.version)
    (hexport : edited.exportVersion = note.exportVersion) :
    Change notebook { notebook with notes := notebook.notes.revise id edited } :=
  .revise notebook id note edited notebook.supply hfound hid hversion hexport (.refl _)

/-- All ids that are checked are there. -/
theorem check_ids_meets (ids : List String) :
    (checkIds ids).Meets notebook
      (fun _ left => left = notebook ∧ ∀ id ∈ ids, notebook.notes.contains id = true)
      fun fault left => left = notebook ∧ ∃ id, fault = .notFound id := by
  unfold checkIds
  simp only [Attempt.meets_bind, Attempt.meets_get]
  cases hfind : ids.find? fun id => !notebook.notes.contains id with
  | some id => exact ⟨rfl, id, rfl⟩
  | none =>
      refine ⟨rfl, fun id hmem => ?_⟩
      have hnot := List.find?_eq_none.1 hfind id hmem
      simpa using hnot

/-- Of equal ids one stays. -/
theorem nodup_distinct (ids : List String) : (distinct ids).Nodup := by
  have hfold (ids : List String) :
      (ids.foldr (fun id kept => if kept.contains id then kept else kept ++ [id]) []).Nodup := by
    induction ids with
    | nil => simp
    | cons id ids ih =>
        rw [List.foldr_cons]
        split
        · exact ih
        next hnot =>
          refine List.nodup_append.2 ⟨ih, by simp, fun first hfirst last hlast heq => ?_⟩
          obtain rfl : last = id := by simpa using hlast
          subst heq
          exact hnot (by simpa using hfirst)
  exact hfold ids.reverse

/-- Of equal ids one stays, and no other comes in. -/
theorem mem_distinct {ids : List String} {id : String} : id ∈ distinct ids ↔ id ∈ ids := by
  have hfold (ids : List String) :
      id ∈ ids.foldr (fun id kept => if kept.contains id then kept else kept ++ [id]) [] ↔
        id ∈ ids := by
    induction ids with
    | nil => rfl
    | cons first ids ih =>
        rw [List.foldr_cons, List.mem_cons, ← ih]
        split
        next hkept =>
          rw [or_iff_right_of_imp]
          rintro rfl
          simpa using hkept
        next => rw [List.mem_append, List.mem_singleton, or_comm]
  rw [distinct, hfold, List.mem_reverse]

/-- Notes have been moved to the trash. -/
structure Discarded (ids : List String) (notebook left : Notebook) : Prop where
  changes : notebook.Changes left
  notes : ∀ id, left.notes.Has id → notebook.notes.Has id ∧ id ∉ ids
  trash : notebook.notes.Keyed → ∀ id, notebook.trash.Has id ∨ id ∈ ids → left.trash.Has id

/-- One note has been moved to the trash and then others. -/
theorem Discarded.cons {id : String} {ids : List String} {note : Note} {left : Notebook}
    (hfound : notebook.notes.get? id = some note)
    (h : Discarded ids
      { notebook with notes := notebook.notes.without id, trash := notebook.trash.add note } left) :
    Discarded (id :: ids) notebook left := by
  refine ⟨.head (.discard notebook id note hfound) h.changes, fun other hhas => ?_,
    fun hkeyed other hcase => h.trash (hkeyed.without id) other ?_⟩
  · obtain ⟨hbefore, hnot⟩ := h.notes other hhas
    obtain ⟨hne, hbefore⟩ := Store.has_without.1 hbefore
    exact ⟨hbefore, List.not_mem_cons_of_ne_of_not_mem (Ne.symm hne) hnot⟩
  · rw [Store.has_add, hkeyed id note hfound]
    rcases hcase with hbefore | hmem
    · exact .inl (.inr hbefore)
    · exact (List.mem_cons.1 hmem).imp_left fun heq => .inl heq.symm

/-- What holds when nothing has been moved to the trash, and when one note has been moved before others
of which it holds, holds of all notes that are moved one after the other. -/
theorem discard_each_rule (moved : List String → Notebook → Notebook → Prop)
    (hnil : ∀ notebook, moved [] notebook notebook)
    (hcons : ∀ (notebook left : Notebook) (id : String) (ids : List String) (note : Note),
      notebook.notes.get? id = some note → id ∉ ids →
      moved ids
        { notebook with notes := notebook.notes.without id, trash := notebook.trash.add note } left →
      moved (id :: ids) notebook left)
    (ids : List String) (hnodup : ids.Nodup)
    (hthere : ∀ id ∈ ids, notebook.notes.contains id = true) :
    (ids.forM discard).Meets notebook (fun _ => moved ids notebook) fun _ _ => False := by
  induction ids generalizing notebook with
  | nil => exact hnil notebook
  | cons id ids ih =>
      have hcontains := hthere id (by simp)
      rw [Store.contains, Std.ExtTreeMap.contains_eq_isSome_getElem?,
        Option.isSome_iff_exists] at hcontains
      obtain ⟨note, hfound⟩ := hcontains
      have hrest (other : String) (hmem : other ∈ ids) :
          (notebook.notes.without id).contains other = true := by
        have hne : id ≠ other := by
          rintro rfl
          exact (List.nodup_cons.1 hnodup).1 hmem
        have hother := hthere other (by simp [hmem])
        rw [Store.contains, Std.ExtTreeMap.contains_eq_isSome_getElem?] at hother ⊢
        rw [Store.get_without, if_neg hne]
        exact hother
      change Attempt.Meets (discard id >>= fun _ => ids.forM discard) notebook _ _
      simp only [discard, Attempt.meets_bind, Attempt.meets_get, Attempt.meets_of_except,
        Store.remove_eq hfound, changeNotes, changeTrash, Attempt.meets_modify]
      exact (ih (List.nodup_cons.1 hnodup).2 hrest).mono
        (fun _ left hleft => hcons notebook left id ids note hfound (List.nodup_cons.1 hnodup).1 hleft)
        fun _ _ h => h

/-- Notes that are there are moved to the trash one after the other. -/
theorem discard_each_meets (ids : List String) (hnodup : ids.Nodup)
    (hthere : ∀ id ∈ ids, notebook.notes.contains id = true) :
    (ids.forM discard).Meets notebook (fun _ => Discarded ids notebook) fun _ _ => False :=
  discard_each_rule Discarded
    (fun _ => ⟨.refl, fun _ hhas => ⟨hhas, List.not_mem_nil⟩, fun _ _ hcase => hcase.resolve_right
      List.not_mem_nil⟩)
    (fun _ _ _ _ _ hfound _ hleft => .cons hfound hleft) ids hnodup hthere

/-- Notes are edited one after the other, in a way that keeps what identifies them. -/
theorem edit_each_meets (ids : List String) (change : Note → Note × Bool)
    (hkeeps : ∀ note, (change note).1.id = note.id ∧ (change note).1.version = note.version ∧
      (change note).1.exportVersion = note.exportVersion)
    (hsame : ∀ note, (change note).2 = false → (change note).1 = note) :
    (ids.forM (editOne change)).Meets notebook
      (fun _ left => notebook.Changes left ∧ left.trash = notebook.trash) fun _ _ => False := by
  refine Attempt.meets_for_each (fun left => notebook.Changes left ∧
    left.trash = notebook.trash) (fun id left hleft => ?_) ids notebook ⟨.refl, rfl⟩
  unfold editOne
  simp only [Attempt.meets_bind, Attempt.meets_get]
  cases hfound : left.notes.get? id with
  | none => exact hleft
  | some note =>
      obtain ⟨hid, hversion, hexport⟩ := hkeeps note
      simp only [changeNotes, Attempt.meets_bind, Attempt.meets_modify]
      cases hchanged : (change note).2 with
      | false =>
          have hedit : (left.notes.edit id fun _ => (change note).1) = left.notes := by
            rw [hsame note hchanged, Store.edit_self hfound]
          simpa [hedit] using hleft
      | true =>
          simp only [if_true, touch, Attempt.meets_bind, Attempt.meets_get,
            Attempt.meets_of_except, Store.touch_edit hfound, changeNotes, Attempt.meets_modify]
          exact ⟨hleft.1.tail (.revise_in_place hfound hid hversion hexport), hleft.2⟩

/-! ## The rule for note operations -/

/-- What has to be shown of a notebook for every operation on its notes to meet `done` if it
succeeds and `failure` if it fails. -/
structure Settles (notebook : Notebook) (done : Notebook → Prop)
    (failure : Fault → Notebook → Prop) : Prop where
  /-- The operation leaves the stores as they are. -/
  unchanged : done notebook
  /-- The operation fails before it has changed anything. -/
  unknown : ∀ id, failure (.notFound id) notebook
  /-- The operation changes the primary store and saves it. -/
  notes : ∀ middle, notebook.Changes middle → middle.trash = notebook.trash →
    (onNotes Store.save).Meets middle (fun _ => done) failure
  /-- The operation changes both stores and saves them. -/
  both : ∀ middle, notebook.Changes middle → save.Meets middle (fun _ => done) failure

variable {done : Notebook → Prop} {failure : Fault → Notebook → Prop}

/-- Notes are created. -/
theorem Settles.create (h : Settles notebook done failure) (input : NoteInput) :
    (create input).Meets notebook (fun _ => done) failure := by
  have hstep : Change notebook
      { notebook with
        notes := notebook.notes.add
          (input.applyTo (Note.blank notebook.supply) notebook.supply.afterBlank).1
        supply := (input.applyTo (Note.blank notebook.supply) notebook.supply.afterBlank).2 } := by
    have hblank := notebook.supply.leads_to_blank
    exact .add notebook _ _ rfl rfl rfl (hblank.trans (input.leads_to _ _))
  unfold Notebook.create
  simp only [changeNotes, Attempt.meets_bind, Attempt.meets_modify_get, Attempt.meets_modify,
    Attempt.meets_pure]
  exact h.notes _ (.single hstep) rfl

/-- Notes are given other values. -/
theorem Settles.update (h : Settles notebook done failure) (id : String) (input : NoteInput) :
    (update id input).Meets notebook (fun _ => done) failure := by
  unfold Notebook.update
  simp only [Attempt.meets_bind, Attempt.meets_get, Attempt.meets_of_except, find, store]
  cases hfound : notebook.notes.get? id with
  | none => exact h.unknown id
  | some note =>
      simp only [look, touch, changeNotes, Attempt.meets_bind, Attempt.meets_modify_get,
        Attempt.meets_modify, Attempt.meets_get, Attempt.meets_of_except,
        Store.touch_edit hfound, Attempt.meets_pure]
      have hsupply := (input.leads_to note notebook.supply).trans (Supply.leads_to_reading _)
      exact h.notes _ (.single (.revise notebook id note _ _ hfound rfl rfl rfl hsupply)) rfl

/-- Notes are moved to the trash. -/
theorem Settles.delete (h : Settles notebook done failure) (ids : List String) :
    (delete ids).Meets notebook (fun _ => done) failure := by
  unfold Notebook.delete
  simp only [Attempt.meets_bind]
  refine (check_ids_meets (distinct ids)).mono (fun _ left hleft => ?_) fun fault left hleft => ?_
  · obtain ⟨rfl, hthere⟩ := hleft
    refine (discard_each_meets (distinct ids) (nodup_distinct ids) hthere).mono
      (fun _ middle hmiddle => ?_) fun _ _ hfalse => hfalse.elim
    simpa [save] using h.both middle hmiddle.changes
  · obtain ⟨rfl, id, rfl⟩ := hleft
    exact h.unknown id

/-- Notes are edited. -/
theorem Settles.edit_each (h : Settles notebook done failure) (ids : List String)
    (change : Note → Note × Bool)
    (hkeeps : ∀ note, (change note).1.id = note.id ∧ (change note).1.version = note.version ∧
      (change note).1.exportVersion = note.exportVersion)
    (hsame : ∀ note, (change note).2 = false → (change note).1 = note) :
    (editEach ids change).Meets notebook (fun _ => done) failure := by
  unfold Notebook.editEach
  simp only [Attempt.meets_bind]
  refine (check_ids_meets ids).mono (fun _ left hleft => ?_) fun fault left hleft => ?_
  · obtain ⟨rfl, -⟩ := hleft
    refine (edit_each_meets ids change hkeeps hsame).mono (fun _ middle hmiddle => ?_)
      fun _ _ hfalse => hfalse.elim
    simpa using h.notes middle hmiddle.1 hmiddle.2
  · obtain ⟨rfl, id, rfl⟩ := hleft
    exact h.unknown id

/-- Virtual folders are looked up. Where a new note would take the place of one that has its id, the
store is not saved. -/
theorem Settles.virtual_folders (h : Settles notebook done failure)
    (hclash : notebook.notes.contains (notebook.supply.token 0) = true →
      ∀ left, notebook.Changes left → done left) :
    virtualFolders.Meets notebook (fun _ => done) failure := by
  unfold Notebook.virtualFolders
  simp only [Attempt.meets_bind, Attempt.meets_get, Attempt.meets_modify_get]
  unfold VirtualFolders.ofStore
  cases hconfig : VirtualFolders.configNote? notebook.notes with
  | some note => simpa using h.unchanged
  | none =>
      have hstep : Change notebook
          { notebook with
            notes := notebook.notes.add (VirtualFolders.defaultNote notebook.supply)
            supply := notebook.supply.afterBlank } :=
        .add notebook _ _ rfl rfl rfl notebook.supply.leads_to_blank
      dsimp only
      split
      · simpa using h.notes _ (.single hstep) rfl
      next hsize =>
        refine hclash ?_ _ (.single hstep)
        have hinsert : (notebook.notes.add (VirtualFolders.defaultNote notebook.supply)).size =
            if notebook.notes.contains (notebook.supply.token 0) then notebook.notes.size
            else notebook.notes.size + 1 :=
          Std.ExtTreeMap.size_insert
        cases hcontains : notebook.notes.contains (notebook.supply.token 0) with
        | true => rfl
        | false =>
            simp only [hcontains, Bool.false_eq_true, if_false] at hinsert
            omega

/-- Every operation on notes meets what saving makes of every outcome of its changes. -/
theorem NoteOperation.perform_meets (operation : NoteOperation)
    (h : Settles notebook done failure)
    (hclash : operation = .virtualFolders →
      notebook.notes.contains (notebook.supply.token 0) = true →
      ∀ left, notebook.Changes left → done left) :
    operation.perform.Meets notebook (fun _ => done) failure := by
  cases operation with
  | create input => simpa [perform] using h.create input
  | update id input => exact h.update id input
  | delete ids => exact h.delete ids
  | addTag ids tag =>
      exact h.edit_each ids _ (fun _ => ⟨rfl, rfl, rfl⟩) fun _ hfalse => by cases hfalse
  | removeTag ids tag =>
      refine h.edit_each ids _ (fun _ => ⟨rfl, rfl, rfl⟩) fun note hnot => ?_
      have hcontains : note.tags.contains tag = false := hnot
      have hmissing : tag ∉ note.tags := by
        rw [← Std.ExtTreeSet.contains_iff_mem, hcontains]
        exact Bool.false_ne_true
      simp [TextSet.erase_of_not_mem hmissing]
  | moveTo ids folder =>
      exact h.edit_each ids _ (fun _ => ⟨rfl, rfl, rfl⟩) fun _ hfalse => by cases hfalse
  | dismissReminders ids =>
      exact h.edit_each ids _ (fun _ => ⟨rfl, rfl, rfl⟩) fun _ hfalse => by cases hfalse
  | virtualFolders => simpa [perform] using h.virtual_folders (hclash rfl)

end Notebook

end Notekeeper
