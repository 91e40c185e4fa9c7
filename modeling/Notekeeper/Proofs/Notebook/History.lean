import Notekeeper.Proofs.Notebook.Apart
import Notekeeper.Proofs.Replica.Basic

/-!
# A note is live or trashed

In no state that a notebook comes to, however its operations turn out, are there notes of one id in
both stores, but for one exception: an import that replaces the primary store brings back what is in
the trash (`Notebook.stores_apart_unless_reinstated`). So nothing that is moved to the trash takes the
place of another note there, unless it had been brought back before.
-/

namespace Notekeeper

namespace Notebook

/-- An id that an import finds in the package. -/
def Operation.Brings (operation : Operation) (notebook : Notebook) (id : String) : Prop :=
  (∃ mode, operation = .importPackage mode) ∧ notebook.PackageTells id

/-- The disk refuses no write, and fresh tokens are unused: an operation that fails at a file does so
although the disk takes every write, and no id that it brings is a token that is still to come. -/
structure Operation.Admissible (operation : Operation) (notebook : Notebook) : Prop where
  taken : operation.perform.fault? notebook = some .disk → notebook.Willing
  unused : ∀ id, operation.Brings notebook id → notebook.supply.Avoids id

/-- The ids that were in the trash when the latest import that replaced the primary store brought them
back, after an operation and before it. -/
def Operation.reinstated (operation : Operation) (notebook : Notebook) (before : List String) :
    List String :=
  if operation = .importPackage .replace ∧ operation.perform.fault? notebook = none then
    (operation.perform.after notebook).notes.ids.filter notebook.trash.contains
  else before

/-- The states that a notebook comes to that is opened on a disk and on which operations are
performed, each of which may succeed or fail, with the ids that have been reinstated. The notes that
are held after an operation are kept apart in files. -/
inductive History (layout : Layout) (disk : Disk) (supply : Supply) :
    List Operation → List String → Notebook → Prop
  | opened (hopens : openStores.fault? (unread layout disk supply) = none) :
      History layout disk supply [] [] (openStores.after (unread layout disk supply))
  | performed (operations : List Operation) (reinstated : List String) (operation : Operation)
      (notebook : Notebook) (hhistory : History layout disk supply operations reinstated notebook)
      (hadmissible : operation.Admissible notebook)
      (henclosed : (operation.perform.after notebook).Enclosed) :
      History layout disk supply (operations ++ [operation])
        (operation.reinstated notebook reinstated) (operation.perform.after notebook)

/-! ## One operation -/

variable {notebook left : Notebook} {brought more : String → Prop} {operation : Operation}

/-- More may have been brought. -/
theorem Leaves.mono (h : Leaves brought notebook left) (hmore : ∀ id, brought id → more id) :
    Leaves more notebook left :=
  ⟨h.stay, h.covered, h.named, fun id hused => (h.uses id hused).imp_right (·.imp_right (hmore id))⟩

/-- After every operation but those that reopen the notebook or replace the primary store all goes
on. -/
theorem Operation.proceeds (operation : Operation) (h : notebook.Covered)
    (hfresh : notebook.supply.FreshFor notebook.Uses)
    (hunused : ∀ id, operation.Brings notebook id → notebook.supply.Avoids id)
    (hreopen : operation ≠ .reopen) (hreplace : operation ≠ .importPackage .replace) :
    operation.perform.Meets notebook
      (fun _ => Proceeds (operation.Brings notebook) notebook)
      fun fault left => notebook.DiskFault fault ∨
        Proceeds (operation.Brings notebook) notebook left := by
  cases operation with
  | note operation =>
      refine operation.perform_meets (h.settles hfresh) fun _ hclash => ?_
      rw [next_vacant hfresh] at hclash
      cases hclash
  | backUp suffix? =>
      have hkeeps := back_up_both_stays h.folders h.notes.named.with_defaults_eq
        h.trash.named.with_defaults_eq suffix?
      exact (hkeeps notebook (.refl notebook)).mono (fun _ _ hstays => h.proceeds hstays)
        fun _ _ hstays => .inr (h.proceeds hstays)
  | exportPackage => exact h.exports.mono (fun _ _ hleft => hleft) fun _ _ hfault => .inl hfault
  | importPackage mode =>
      cases mode with
      | replace => exact absurd rfl hreplace
      | merge =>
          have htells (left : Notebook) (hleft : Proceeds notebook.PackageTells notebook left) :
              Proceeds (Operation.Brings (.importPackage .merge) notebook) notebook left :=
            ⟨hleft.toLeaves.mono fun id hid => ⟨⟨.merge, rfl⟩, hid⟩, hleft.toKeepsApart⟩
          simp only [perform, Attempt.meets_bind, Attempt.meets_pure]
          exact (h.merges hfresh fun id hid => hunused id ⟨⟨.merge, rfl⟩, hid⟩).mono
            (fun _ left hleft => htells left hleft)
            fun _ left hleft => hleft.imp_right (htells left)
  | save =>
      exact (save_writes h.rooted.notes_path h.rooted.trash_path).mono
        (fun _ _ hleft => hleft.2.proceeds h.covering) fun _ _ hfault => .inl hfault
  | reopen => exact absurd rfl hreopen
  | receive package =>
      exact (receive_meets package).mono
        (fun _ _ hleft => h.proceeds ⟨hleft.1, hleft.2.1, hleft.2.2.1⟩) fun _ _ hfault => .inl hfault

/-- What an operation makes of the two stores. -/
structure Operation.Outcome (operation : Operation) (notebook left : Notebook) : Prop extends
    Leaves (operation.Brings notebook) notebook left where
  both : ∀ id, left.notes.Has id → left.trash.Has id → notebook.trash.Has id ∧
    (notebook.notes.Has id ∨
      operation = .importPackage .replace ∧ operation.perform.fault? notebook = none)
  alone : operation ≠ .reopen → ∀ id, ¬ notebook.notes.Has id → notebook.trash.Has id →
    left.trash.withDefaults.get? id = notebook.trash.withDefaults.get? id

/-- Where all goes on, no store has got what the other has. -/
theorem Proceeds.outcome (h : Proceeds (operation.Brings notebook) notebook left) :
    operation.Outcome notebook left :=
  ⟨h.toLeaves, fun id hnotes htrash => ⟨(h.both id hnotes htrash).2,
    .inl (h.both id hnotes htrash).1⟩, fun _ => h.alone⟩

/-- A notebook that has been opened over its own files has no id in a store that was not there. -/
theorem Recalled.outcome (h : Recalled notebook left) : Operation.reopen.Outcome notebook left :=
  ⟨⟨h.stay, fun _ => h.covered, h.covered.trash.named, fun id hused =>
      .inl (hused.imp (h.notes id) (h.trash id))⟩,
    fun id hnotes htrash => ⟨h.trash id htrash, .inl (h.notes id hnotes)⟩,
    fun hreopen => absurd rfl hreopen⟩

/-- An import that has replaced the primary store may have brought back what is in the trash. -/
theorem Replaces.outcome (h : Replaces notebook left)
    (hnone : (Operation.importPackage .replace).perform.fault? notebook = none) :
    (Operation.importPackage .replace).Outcome notebook left := by
  refine ⟨h.toLeaves.mono fun id hid => ⟨⟨.replace, rfl⟩, hid⟩, fun id _ htrash =>
    ⟨?_, .inr ⟨rfl, hnone⟩⟩, fun _ id _ _ => h.trash id⟩
  rw [← Store.has_with_defaults, Store.Has, h.trash, ← Store.Has, Store.has_with_defaults] at htrash
  exact htrash

/-- An import that replaces the primary store, with its result dropped. -/
theorem replace_meets (h : notebook.Covered) :
    (Operation.importPackage .replace).perform.Meets notebook (fun _ => Replaces notebook)
      fun fault left => notebook.DiskFault fault ∨
        Proceeds (Operation.Brings (.importPackage .replace) notebook) notebook left ∧
          (notebook.Willing → ∀ text, ¬ notebook.Packaged text) := by
  simp only [Operation.perform, Attempt.meets_bind, Attempt.meets_pure]
  exact h.replaces.mono (fun _ _ hleft => hleft) fun _ left hleft => hleft.imp_right fun hfailed =>
    ⟨⟨hfailed.1.toLeaves.mono fun id hid => ⟨⟨.replace, rfl⟩, hid⟩, hfailed.1.toKeepsApart⟩, hfailed.2⟩

/-- A package that holds a text replaces the primary store, on a disk that takes every file: the ids
that the text tells are in it then, and the trash has the ids that it had. -/
theorem Covered.replaced_by (h : notebook.Covered) (hwilling : notebook.Willing) {text : String}
    (hpackage : notebook.Packaged text) :
    (Operation.importPackage .replace).perform.fault? notebook = none ∧ ∀ id,
      (((Operation.importPackage .replace).perform.after notebook).notes.Has id ↔
        id ∈ Store.told text) ∧
      (((Operation.importPackage .replace).perform.after notebook).trash.Has id ↔
        notebook.trash.Has id) := by
  have hreplaces := Attempt.meets_iff.1 (replace_meets h)
  split at hreplaces
  next hnone =>
    refine ⟨hnone, fun id => ⟨?_, ?_⟩⟩
    · obtain ⟨other, hother, hnotes⟩ := hreplaces.notes
      rw [hnotes, hpackage.unique hother]
    · rw [← Store.has_with_defaults, Store.Has, hreplaces.trash, ← Store.Has,
        Store.has_with_defaults]
  next fault hfault =>
    rcases hreplaces with ⟨-, hnot⟩ | ⟨-, hnone⟩
    · exact absurd hwilling hnot
    · exact absurd hpackage (hnone hwilling text)

/-- What no write is refused in does not fail at the disk as one that refuses writes. -/
theorem Operation.Admissible.not_refused (h : operation.Admissible notebook) {fault : Fault}
    (hfault : operation.perform.fault? notebook = some fault) : ¬ notebook.DiskFault fault := by
  rintro ⟨rfl, hnot⟩
  exact hnot (h.taken hfault)

/-- Every operation has such an outcome, whether it succeeds or fails. -/
theorem Operation.outcome (h : notebook.Covered) (hfresh : notebook.supply.FreshFor notebook.Uses)
    (hadmissible : operation.Admissible notebook) :
    operation.Outcome notebook (operation.perform.after notebook) := by
  by_cases hreopen : operation = .reopen
  · subst hreopen
    have hopens := Attempt.meets_iff.1 (show Notebook.reopen.Meets notebook _ _ from h.opens)
    split at hopens
    · exact hopens.outcome
    next fault hfault => exact absurd hopens (hadmissible.not_refused hfault)
  · by_cases hreplace : operation = .importPackage .replace
    · subst hreplace
      have hreplaces := Attempt.meets_iff.1 (replace_meets h)
      split at hreplaces
      next hnone => exact hreplaces.outcome hnone
      next fault hfault =>
        exact (hreplaces.resolve_left (hadmissible.not_refused hfault)).1.outcome
    · have hproceeds := Attempt.meets_iff.1
        (operation.proceeds h hfresh hadmissible.unused hreopen hreplace)
      split at hproceeds
      · exact hproceeds.outcome
      next fault hfault =>
        exact (hproceeds.resolve_left (hadmissible.not_refused hfault)).outcome

/-! ## Histories -/

variable {layout : Layout} {disk : Disk} {supply : Supply} {operations : List Operation}
  {reinstated : List String}

/-- All along a history the stores cover their files, tokens are fresh for what is in use, and what is
in both stores has been reinstated. -/
theorem History.invariant (h : History layout disk supply operations reinstated notebook)
    (hvacant : layout.Vacant disk) (hdistinct : supply.Distinct) :
    notebook.Covered ∧ notebook.supply.FreshFor notebook.Uses ∧
      ∀ id, notebook.notes.Has id → notebook.trash.Has id → id ∈ reinstated := by
  induction h with
  | opened hopens =>
      obtain ⟨hdurable, -, -, hsupply, hnotes, htrash⟩ :=
        (first_open_meets hvacant supply).after_of_none hopens
      have hnone (id : String) : ¬ (openStores.after (unread layout disk supply)).Uses id := by
        rw [Uses, hnotes.has_iff, htrash.has_iff, or_self]
        simp [Store.Has, Store.get?]
      have hfresh : supply.FreshFor fun _ => False := ⟨hdistinct, fun _ hfalse => hfalse.elim⟩
      exact ⟨hdurable.covered, (hfresh.leads_to hsupply).mono fun id hused =>
        absurd hused (hnone id), fun id hhas _ => absurd (.inl hhas) (hnone id)⟩
  | performed operations reinstated operation notebook hhistory hadmissible henclosed ih =>
      obtain ⟨hcovered, hfresh, hboth⟩ := ih
      have houtcome := Operation.outcome hcovered hfresh hadmissible
      refine ⟨houtcome.covered henclosed, ?_, fun id hnotes htrash => ?_⟩
      · refine ((hfresh.or hadmissible.unused).leads_to houtcome.stay.supply).mono fun id hused => ?_
        rcases houtcome.uses id hused with hused | hspent | hbrought
        · exact .inl (.inl hused)
        · exact .inr hspent
        · exact .inl (.inr hbrought)
      · obtain ⟨hbefore, hcase⟩ := houtcome.both id hnotes htrash
        unfold Operation.reinstated
        split
        · rw [List.mem_filter, Store.mem_ids_iff_has, Store.contains_eq]
          exact ⟨hnotes, hbefore⟩
        next hnot => exact hboth id (hcase.resolve_right hnot) hbefore

/-- Nothing is reinstated without an import that replaces the primary store. -/
theorem History.reinstated_eq_nil (h : History layout disk supply operations reinstated notebook)
    (hreplace : .importPackage .replace ∉ operations) : reinstated = [] := by
  induction h with
  | opened => rfl
  | performed operations reinstated operation notebook hhistory hadmissible henclosed ih =>
      rw [List.mem_append, List.mem_singleton, not_or] at hreplace
      rw [Operation.reinstated, if_neg fun hcase => hreplace.2 hcase.1.symm]
      exact ih hreplace.1

/-- All along a history folders go on standing and the disk goes on taking files. -/
theorem History.stay (h : History layout disk supply operations reinstated notebook)
    (hvacant : layout.Vacant disk) (hdistinct : supply.Distinct) :
    FilesStay [] (openStores.after (unread layout disk supply)) notebook := by
  induction h with
  | opened => exact .refl _
  | performed operations reinstated operation notebook hhistory hadmissible henclosed ih =>
      obtain ⟨hcovered, hfresh, -⟩ := hhistory.invariant hvacant hdistinct
      exact ih.trans (Operation.outcome hcovered hfresh hadmissible).stay

/-- An operation that imports nothing and does not fail goes on with a history. -/
theorem History.performed_alone (h : History layout disk supply operations reinstated notebook)
    (operation : Operation) (hmode : ∀ mode, operation ≠ .importPackage mode)
    (hnone : operation.perform.fault? notebook = none)
    (henclosed : (operation.perform.after notebook).Enclosed) :
    History layout disk supply (operations ++ [operation]) reinstated
      (operation.perform.after notebook) := by
  have hadmissible : operation.Admissible notebook := by
    refine ⟨fun hsome => ?_, fun id hbrings => ?_⟩
    · rw [hnone] at hsome
      cases hsome
    · obtain ⟨⟨mode, heq⟩, -⟩ := hbrings
      exact absurd heq (hmode mode)
  have hsame : operation.reinstated notebook reinstated = reinstated :=
    if_neg fun hcase => hmode .replace hcase.1
  have hperformed := h.performed _ _ operation _ hadmissible henclosed
  rwa [hsame] at hperformed

/-- A note is either live or trashed. In every state that a notebook comes to from an empty directory,
on a disk that refuses no write and with fresh tokens that are unused, an id that is in both stores
has been brought back by the latest import that replaced the primary store, while it was in the trash.
Without such imports no id is in both. No operation but reopening changes or loses a note of the trash
whose id is not in the primary store too, so that what is moved to the trash never takes the place of
another note there unless that had been brought back. -/
theorem stores_apart_unless_reinstated (hvacant : layout.Vacant disk) (hdistinct : supply.Distinct)
    (h : History layout disk supply operations reinstated notebook) :
    (∀ id, notebook.notes.Has id → notebook.trash.Has id → id ∈ reinstated) ∧
      (.importPackage .replace ∉ operations →
        ∀ id, ¬ (notebook.notes.Has id ∧ notebook.trash.Has id)) ∧
      ∀ operation : Operation, operation ≠ .reopen → operation.Admissible notebook →
        ∀ id note, ¬ notebook.notes.Has id → notebook.trash.get? id = some note →
          (operation.perform.after notebook).trash.get? id = some note := by
  obtain ⟨hcovered, hfresh, hboth⟩ := h.invariant hvacant hdistinct
  refine ⟨hboth, fun hreplace id hhas => ?_, fun operation hreopen hadmissible id note hnot hfound => ?_⟩
  · have hmem := hboth id hhas.1 hhas.2
    rw [h.reinstated_eq_nil hreplace] at hmem
    exact List.not_mem_nil hmem
  · have houtcome := Operation.outcome hcovered hfresh hadmissible
    have hsame := houtcome.alone hreopen id hnot (Store.has_of_get hfound)
    rw [houtcome.named.with_defaults_eq, hcovered.trash.named.with_defaults_eq] at hsame
    exact hsame.trans hfound

/-- A notebook for examples: a note has been created. -/
def beforeExport : Notebook :=
  (Operation.note (.create { name := "X" })).perform.after (empty 'i')

/-- A notebook for examples: a note has been created and exported. -/
def exportedOnce : Notebook :=
  Operation.exportPackage.perform.after beforeExport

/-- A notebook for examples: a note has been moved to the trash after it was exported. -/
def discardedOnce : Notebook :=
  (Operation.note (.delete ["i"])).perform.after exportedOnce

/-- The supply of the examples never issues a token twice. -/
theorem strokes_distinct : (Supply.strokes 'i').Distinct :=
  (Supply.fresh_for_strokes fun _ hfalse => absurd hfalse not_false).distinct

/-- What the operations of the examples do: none of them fails, and each leaves notes that records keep
apart. The note is exported, and then it is in the trash. -/
theorem examples_performed :
    ((Operation.note (.create { name := "X" })).perform.fault? (empty 'i') = none ∧
        beforeExport.Enclosed) ∧
      (Operation.exportPackage.perform.fault? beforeExport = none ∧ exportedOnce.Enclosed ∧
        beforeExport.exported.Packable ∧ exportedOnce.notes.Storable ∧ exportedOnce.notes.Has "i") ∧
      (Operation.note (.delete ["i"])).perform.fault? exportedOnce = none ∧
        discardedOnce.Enclosed ∧ discardedOnce.trash.Has "i" := by
  decide +kernel

/-- The first operation of the examples. -/
theorem before_export_history :
    History (.inFolder "notes") .empty (.strokes 'i') [.note (.create { name := "X" })] []
      beforeExport := by
  have hopened : History (.inFolder "notes") .empty (.strokes 'i') [] [] (empty 'i') :=
    .opened (empty_opened (by decide)).1
  obtain ⟨⟨hnone, henclosed⟩, -⟩ := examples_performed
  exact hopened.performed_alone (.note (.create { name := "X" })) (by simp) hnone henclosed

/-- The operations of the examples up to the export. -/
theorem exported_once_history :
    History (.inFolder "notes") .empty (.strokes 'i')
      [.note (.create { name := "X" }), .exportPackage] [] exportedOnce := by
  obtain ⟨-, ⟨hnone, henclosed, -⟩, -⟩ := examples_performed
  exact before_export_history.performed_alone .exportPackage (by simp) hnone henclosed

/-- The operations of the examples. -/
theorem discarded_once_history :
    History (.inFolder "notes") .empty (.strokes 'i')
      [.note (.create { name := "X" }), .exportPackage, .note (.delete ["i"])] [] discardedOnce := by
  obtain ⟨-, -, hnone, henclosed, -⟩ := examples_performed
  exact exported_once_history.performed_alone (.note (.delete ["i"])) (by simp) hnone henclosed

/-- A note in the trash is there alone, and stays as long as nothing brings it back. -/
theorem discarded_once_apart :
    History (.inFolder "notes") .empty (.strokes 'i')
        [.note (.create { name := "X" }), .exportPackage, .note (.delete ["i"])] [] discardedOnce ∧
      discardedOnce.trash.Has "i" ∧
      (∀ id, discardedOnce.notes.Has id → discardedOnce.trash.Has id → id ∈ ([] : List String)) ∧
      (.importPackage .replace ∉ [Operation.note (.create { name := "X" }), .exportPackage,
          .note (.delete ["i"])] → ∀ id, ¬ (discardedOnce.notes.Has id ∧ discardedOnce.trash.Has id)) ∧
      ∀ operation : Operation, operation ≠ .reopen → operation.Admissible discardedOnce →
        ∀ id note, ¬ discardedOnce.notes.Has id → discardedOnce.trash.get? id = some note →
          (operation.perform.after discardedOnce).trash.get? id = some note :=
  ⟨discarded_once_history, examples_performed.2.2.2.2,
    stores_apart_unless_reinstated Layout.vacant_empty strokes_distinct discarded_once_history⟩

/-- Moving the note to the trash leaves the package of the examples alone. -/
theorem discarded_once_stays :
    FilesStay exportedOnce.layout.exchangeFiles exportedOnce discardedOnce := by
  obtain ⟨hexported, -, -⟩ := exported_once_history.invariant Layout.vacant_empty strokes_distinct
  exact ((NoteOperation.delete ["i"]).exchange_stays hexported.covering).after_of_none
    examples_performed.2.2.1

/-- The package of the examples goes on holding what was exported. -/
theorem discarded_once_packaged : discardedOnce.Packaged exportedOnce.notes.text := by
  obtain ⟨hcreated, -, -⟩ := before_export_history.invariant Layout.vacant_empty strokes_distinct
  obtain ⟨-, ⟨hnone, -, hpackable, -⟩, -⟩ := examples_performed
  obtain ⟨hnotes, hpackaged⟩ := hcreated.packs hpackable hnone
  have hsame : exportedOnce.notes = beforeExport.exported := hnotes
  rw [hsame]
  exact Packaged.of_files_stay hpackaged discarded_once_stays

/-- The package of the examples tells the ids that were exported. -/
theorem told_exported_once (id : String) :
    id ∈ Store.told exportedOnce.notes.text ↔ exportedOnce.notes.Has id := by
  obtain ⟨hexported, -, -⟩ := exported_once_history.invariant Layout.vacant_empty strokes_distinct
  obtain ⟨-, ⟨-, -, -, hstorable, -⟩, -⟩ := examples_performed
  have hread (store : Store) : store.asRead.Has id ↔ store.Has id := Iff.rfl
  rw [← has_snapshot_of, snapshot_of_text hstorable hexported.notes.keyed .tally]
  exact hread _

/-- An exported note that is in the trash is brought back by an import that replaces the primary
store, so that it is live and trashed. -/
theorem reinstated_in_both :
    History (.inFolder "notes") .empty (.strokes 'i')
        [.note (.create { name := "X" }), .exportPackage, .note (.delete ["i"])] [] discardedOnce ∧
      (Operation.importPackage .replace).Admissible discardedOnce ∧
      (Operation.importPackage .replace).perform.fault? discardedOnce = none ∧
      ((Operation.importPackage .replace).perform.after discardedOnce).notes.Has "i" ∧
      ((Operation.importPackage .replace).perform.after discardedOnce).trash.Has "i" := by
  obtain ⟨hcovered, -, -⟩ := discarded_once_history.invariant Layout.vacant_empty strokes_distinct
  obtain ⟨-, hfresh, -⟩ := exported_once_history.invariant Layout.vacant_empty strokes_distinct
  have hwilling : discardedOnce.Willing :=
    (discarded_once_history.stay Layout.vacant_empty strokes_distinct).willing
      (empty_new (by decide)).ready.1.willing
  obtain ⟨hnone, hreplaced⟩ := hcovered.replaced_by hwilling discarded_once_packaged
  -- the ids that the package brings were in use when it was made, so that no token is one of them
  have hunused (id : String) (hbrings : (Operation.importPackage .replace).Brings discardedOnce id) :
      discardedOnce.supply.Avoids id := by
    obtain ⟨-, text, hpackaged, htold⟩ := hbrings
    rw [hpackaged.unique discarded_once_packaged, told_exported_once] at htold
    exact (hfresh.unused id (.inl htold)).leads_to discarded_once_stays.supply
  obtain ⟨-, ⟨-, -, -, -, hexported⟩, -, -, htrashed⟩ := examples_performed
  exact ⟨discarded_once_history, ⟨fun _ => hwilling, hunused⟩, hnone,
    (hreplaced "i").1.2 ((told_exported_once "i").2 hexported), (hreplaced "i").2.2 htrashed⟩

end Notebook

end Notekeeper
