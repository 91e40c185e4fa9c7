import Notekeeper.Proofs.Notebook.Absorbing
import Notekeeper.Proofs.Replica.Exchange

/-!
# What a merge takes for deleted

A merge moves a note to the trash if the snapshot lacks it and its stamp is the export clock, which is
meant to tell the notes of the last export. It does so for every note that is in the primary store
since before that export or has been created here: such a note is taken for deleted exactly if it was
in the last export, or if there has been none, when the clock of no export is the stamp of every new
note (`Notebook.trashed_iff`). Notes that a merge has put there since the last export carry stamps of
the other replica, or those of notes they are copies of, and may be trashed by any coincidence.
-/

namespace Notekeeper

namespace Notebook

/-- A notebook with what is remembered of its exchanges. -/
structure Ledger where
  notebook : Notebook
  /-- The ids of the notes in the last export, if there has been one. -/
  sent? : Option (List String) := none
  /-- The ids under which merges have put notes into the primary store since then. -/
  brought : List String := []

namespace Ledger

/-- An id was in the last export. -/
def WasSent (ledger : Ledger) (id : String) : Prop :=
  ∃ ids, ledger.sent? = some ids ∧ id ∈ ids

/-- The ledger of a notebook that comes of opening a new one, working on its notes, opening it again,
exporting it and merging packages of any kind. Tokens are distinct, and no snapshot has a note under a
token that is still to come; files can hold what is held after each step. -/
inductive Recorded : Ledger → Prop
  | new (notebook : Notebook) (hnew : New notebook)
      (hdistinct : notebook.supply.Distinct) : Recorded { notebook := notebook }
  | work (ledger : Ledger) (operation : NoteOperation) (h : Recorded ledger)
      (hstorable : (operation.perform.after ledger.notebook).Storable) :
      Recorded { ledger with notebook := operation.perform.after ledger.notebook }
  | reopen (ledger : Ledger) (h : Recorded ledger) :
      Recorded { ledger with notebook := Notebook.reopen.after ledger.notebook }
  | export (ledger : Ledger) (h : Recorded ledger)
      (hstorable : (exportPackage.after ledger.notebook).Storable) :
      Recorded
        { notebook := exportPackage.after ledger.notebook
          sent? := some (exportPackage.after ledger.notebook).notes.ids }
  | merge (ledger : Ledger) (package : ByteArray) (report : Sync.Report) (left : Notebook)
      (h : Recorded ledger) (hruns : takeInReporting package ledger.notebook = .ok (some report) left)
      (hunused : ∀ remotes, Brings package remotes → ∀ id, remotes.Has id →
        ledger.notebook.supply.Avoids id)
      (hstorable : left.Storable) :
      Recorded
        { ledger with
          notebook := left
          brought := ledger.brought ++ report.brought }

/-- What holds of a ledger all along. -/
structure Sound (ledger : Ledger) : Prop where
  ready : ledger.notebook.Ready
  positive : Both (fun store => 1 ≤ store.clock) ledger.notebook
  fresh : ledger.notebook.supply.FreshFor fun id => ledger.notebook.Uses id ∨ ledger.WasSent id
  never_sent : ledger.sent? = none → ledger.notebook.notes.exportClock = -1
  sent : ledger.sent? ≠ none → 1 ≤ ledger.notebook.notes.exportClock
  /-- Of the notes that no merge has brought, those of the last export have its stamp, and the others
  have none. -/
  stamped : ∀ id note, ledger.notebook.notes.get? id = some note → id ∉ ledger.brought →
    ledger.WasSent id → note.exportVersion = ledger.notebook.notes.exportClock
  unstamped : ∀ id note, ledger.notebook.notes.get? id = some note → id ∉ ledger.brought →
    ¬ ledger.WasSent id → note.exportVersion = -1

variable {ledger : Ledger} {left : Notebook}

/-- A new notebook has exported nothing. -/
theorem sound_new {notebook : Notebook} (hnew : New notebook)
    (hdistinct : notebook.supply.Distinct) : Sound { notebook := notebook } := by
  obtain ⟨hexport, -, hclock, htrash_clock⟩ := hnew.clocks
  refine ⟨hnew.ready.1, ⟨Int.le_of_eq hclock.symm, Int.le_of_eq htrash_clock.symm⟩, ⟨hdistinct, ?_⟩,
    fun _ => hexport, fun hsent => absurd rfl hsent, ?_, ?_⟩
  · rintro id (hused | ⟨ids, hids, -⟩)
    · exact absurd hused (hnew.unused id)
    · cases hids
  · exact fun id note hfound => absurd (.inl (Store.has_of_get hfound)) (hnew.unused id)
  · exact fun id note hfound => absurd (.inl (Store.has_of_get hfound)) (hnew.unused id)

/-- What a notebook does on its own keeps its ledger sound. -/
theorem Sound.follow (h : Sound ledger) (hready : left.Ready)
    (hpositive : Both (fun store => 1 ≤ store.clock) left)
    (hfollows : Follows ledger.notebook left)
    (hexport : left.notes.exportClock = ledger.notebook.notes.exportClock) :
    Sound { ledger with notebook := left } := by
  refine ⟨hready, hpositive, hfollows.fresh h.fresh, fun hsent => hexport.trans (h.never_sent hsent),
    fun hsent => ?_, ?_, ?_⟩
  · dsimp only
    rw [hexport]
    exact h.sent hsent
  · intro id after hafter hbrought hsent
    rcases hfollows.notes id after hafter with ⟨before, hbefore, hstamp⟩ | ⟨⟨ahead, -, htoken⟩, -⟩
    · exact (hstamp.trans (h.stamped id before hbefore hbrought hsent)).trans hexport.symm
    · -- The id of a new note was in no export.
      exact absurd htoken (h.fresh.unused id (.inr hsent) ahead)
  · intro id after hafter hbrought hsent
    rcases hfollows.notes id after hafter with ⟨before, hbefore, hstamp⟩ | ⟨-, hnever⟩
    · exact hstamp.trans (h.unstamped id before hbefore hbrought hsent)
    · exact hnever

/-- An export keeps the ledger sound: all notes are in it, with its stamp. -/
theorem Sound.export (h : Sound ledger)
    (hstorable : (exportPackage.after ledger.notebook).Storable) :
    Sound
      { notebook := exportPackage.after ledger.notebook
        sent? := some (exportPackage.after ledger.notebook).notes.ids } := by
  have hexported := h.ready.export_succeeds.1
  obtain ⟨hexport, -, -⟩ := hexported.clocks
  have hget := hexported.get h.ready.durable
  have hsent (id : String) : WasSent
      { notebook := exportPackage.after ledger.notebook
        sent? := some (exportPackage.after ledger.notebook).notes.ids } id ↔
      (exportPackage.after ledger.notebook).notes.Has id := by
    simp [WasSent, Store.mem_ids_iff_has]
  refine ⟨h.ready.settle hexported.settles hstorable,
    (export_keeps Store.positive_stable).after h.positive, ?_, ?_, ?_,
    fun id note hfound _ _ => ?_, fun id note hfound _ hnot => ?_⟩
  · refine (h.fresh.leads_to hexported.settles.2.supply).mono fun id hused => .inl (.inl ?_)
    exact (hexported.uses h.ready.durable).1 (hused.elim (fun h => h) fun hwas =>
      .inl ((hsent id).1 hwas))
  · intro hnone
    cases hnone
  · intro
    exact Int.le_trans h.positive.notes (Int.le_of_eq hexport.symm)
  · rw [hget, Option.map_eq_some_iff] at hfound
    obtain ⟨unstamped, -, rfl⟩ := hfound
    exact hexport.symm
  · exact absurd ((hsent id).2 (Store.has_of_get hfound)) hnot

/-- A merge keeps the ledger sound: what it does not bring was there before. -/
theorem Sound.merge {remotes : Store} {report : Sync.Report} (h : Sound ledger)
    (habsorbed : Absorbed ledger.notebook remotes report left)
    (hkeyed : remotes.Keyed) (hnamed : remotes.Named)
    (hunused : ∀ id, remotes.Has id → ledger.notebook.supply.Avoids id)
    (hpositive : Both (fun store => 1 ≤ store.clock) left) (hstorable : left.Storable) :
    Sound { ledger with notebook := left, brought := ledger.brought ++ report.brought } := by
  have hfresh : ledger.notebook.supply.FreshFor fun id =>
      ledger.notebook.Uses id ∨ remotes.Has id :=
    (h.fresh.mono fun _ hused => .inl hused).or hunused
  obtain ⟨_, houtcomes⟩ := habsorbed.outcomes h.ready.durable hkeyed hnamed hfresh
  obtain ⟨hexport, -, -⟩ := habsorbed.clocks
  have hkept (id : String) (note : Note) (hfound : left.notes.get? id = some note)
      (hnot : id ∉ ledger.brought ++ report.brought) :
      ledger.notebook.notes.get? id = some note ∧ id ∉ ledger.brought := by
    rw [List.mem_append, not_or] at hnot
    exact ⟨houtcomes.get_of_not_brought hnot.2 hfound, hnot.1⟩
  refine ⟨h.ready.settle habsorbed.settles hstorable, hpositive,
    habsorbed.fresh_after h.ready.durable hkeyed hnamed h.fresh hunused,
    fun hnone => hexport.trans (h.never_sent hnone), fun hsome => ?_,
    fun id note hfound hnot hsent => ?_, fun id note hfound hnot hsent => ?_⟩
  · dsimp only
    rw [hexport]
    exact h.sent hsome
  · obtain ⟨hbefore, hnot⟩ := hkept id note hfound hnot
    exact (h.stamped id note hbefore hnot hsent).trans hexport.symm
  · obtain ⟨hbefore, hnot⟩ := hkept id note hfound hnot
    exact h.unstamped id note hbefore hnot hsent

/-- Receiving and merging a package keeps what is stable. -/
theorem take_in_reporting_keeps {kept : Store → Prop} (h : Store.Stable kept) (package : ByteArray) :
    (takeInReporting package).Keeps (Both kept) :=
  .bind ((Operation.receive package).perform_keeps h) fun _ => import_keeps h .merge

/-- However the notebook has come about, its ledger is sound. -/
theorem Recorded.sound (h : Recorded ledger) : Sound ledger := by
  induction h with
  | new notebook hnew hdistinct => exact sound_new hnew hdistinct
  | work ledger operation _ hstorable ih =>
      have hvacant := next_vacant (ih.fresh.mono fun _ => .inl)
      have hworked := operation.work ih.ready.durable ih.ready.willing fun _ => hvacant
      exact ih.follow (ih.ready.settle hworked.settles hstorable)
        ((operation.perform_keeps Store.positive_stable).after ih.positive)
        (hworked.follows ih.ready.durable) hworked.clocks.1
  | reopen ledger _ ih =>
      obtain ⟨-, hready, hstores, hsupply⟩ := ih.ready.reopens
      exact ih.follow hready
        ((Operation.reopen.perform_keeps Store.positive_stable).after ih.positive)
        (hstores.follows hsupply) (by rw [hstores.notes])
  | «export» ledger _ hstorable ih => exact ih.export hstorable
  | merge ledger package report left _ hruns hunused hstorable ih =>
      obtain ⟨remotes, found, hbrings, hfound, habsorbed⟩ :=
        (Attempt.meets_of_run hruns).1 (take_in_meets_any ih.ready.durable package)
      obtain rfl := Option.some.inj hfound
      have hpositive := (Attempt.meets_of_run hruns).1
        (take_in_reporting_keeps Store.positive_stable package ledger.notebook ih.positive)
      exact ih.merge habsorbed hbrings.named.1 hbrings.named.2 (hunused remotes hbrings) hpositive
        hstorable

/-! ## What is taken for deleted -/

/-- What a merge of a snapshot into the notebook of a ledger takes for deleted. -/
structure TakesForDeleted (ledger : Ledger) (remotes : Store) (report : Sync.Report)
    (left : Notebook) : Prop where
  /-- All that the snapshot lacks and that has the export clock for its stamp. -/
  stamped : ∀ id, id ∈ report.trashed ↔ ¬ remotes.Has id ∧ ∃ note,
    ledger.notebook.notes.get? id = some note ∧
      note.exportVersion = ledger.notebook.notes.exportClock
  /-- Of the notes that no merge has brought those of the last export, or all if there has been
  none. -/
  own : ∀ id, id ∉ ledger.brought → (id ∈ report.trashed ↔ ¬ remotes.Has id ∧
    ledger.notebook.notes.Has id ∧ (ledger.WasSent id ∨ ledger.sent? = none))
  /-- It is in the trash then. -/
  moves : ∀ id ∈ report.trashed, ¬ left.notes.Has id ∧ left.trash.Has id
  /-- All else is left in the primary store. -/
  stays : ∀ id, ledger.notebook.notes.Has id → id ∉ report.trashed → left.notes.Has id

/-- A note that no merge has brought has the export clock for its stamp exactly if it was in the last
export, or if there has been none. -/
theorem Sound.stamp_iff (h : Sound ledger) {id : String} {note : Note}
    (hfound : ledger.notebook.notes.get? id = some note) (hnot : id ∉ ledger.brought) :
    note.exportVersion = ledger.notebook.notes.exportClock ↔
      ledger.WasSent id ∨ ledger.sent? = none := by
  by_cases hsent : ledger.WasSent id
  · exact iff_of_true (h.stamped id note hfound hnot hsent) (.inl hsent)
  · -- It has the stamp of a new note, which is the export clock of a store that has never exported.
    rw [h.unstamped id note hfound hnot hsent]
    by_cases hnone : ledger.sent? = none
    · exact iff_of_true (h.never_sent hnone).symm (.inr hnone)
    · have hpositive := h.sent hnone
      exact iff_of_false (by omega) (by simp [hsent, hnone])

/-- What a merge into a sound ledger takes for deleted. -/
theorem Sound.takes_for_deleted {remotes : Store} {report : Sync.Report} (h : Sound ledger)
    (habsorbed : Absorbed ledger.notebook remotes report left)
    (hkeyed : remotes.Keyed) (hnamed : remotes.Named)
    (hunused : ∀ id, remotes.Has id → ledger.notebook.supply.Avoids id) :
    TakesForDeleted ledger remotes report left := by
  obtain ⟨_, houtcomes⟩ := habsorbed.outcomes h.ready.durable hkeyed hnamed
    ((h.fresh.mono fun _ hused => .inl hused).or hunused)
  have hstamped (id : String) : id ∈ report.trashed ↔ ¬ remotes.Has id ∧ ∃ note,
      ledger.notebook.notes.get? id = some note ∧
        note.exportVersion = ledger.notebook.notes.exportClock := by
    rw [Store.not_has_iff]
    exact houtcomes.trashed.2 id
  refine ⟨hstamped, fun id hnot => ?_, fun id htrashed => ?_, fun id hhas hnot => ?_⟩
  · rw [hstamped]
    refine and_congr_right fun _ => ⟨?_, ?_⟩
    · rintro ⟨note, hfound, hstamp⟩
      exact ⟨Store.has_of_get hfound, (h.stamp_iff hfound hnot).1 hstamp⟩
    · rintro ⟨hhas, hcase⟩
      obtain ⟨note, hfound⟩ := Store.has_iff.1 hhas
      exact ⟨note, hfound, (h.stamp_iff hfound hnot).2 hcase⟩
  · obtain ⟨habsent, note, hfound, hstamp⟩ := (hstamped id).1 htrashed
    have halone := houtcomes.alone id note hfound (Store.not_has_iff.1 habsent)
    rw [if_pos hstamp] at halone
    exact ⟨Store.not_has_iff.2 halone.1, Store.has_of_get halone.2⟩
  · obtain ⟨note, hfound⟩ := Store.has_iff.1 hhas
    cases hthere : remotes.get? id with
    | some there => exact Store.has_of_get (houtcomes.both id note there hfound hthere)
    | none =>
        have halone := houtcomes.alone id note hfound hthere
        split at halone
        next hstamp =>
          exact absurd ((hstamped id).2 ⟨Store.not_has_iff.2 hthere, note, hfound, hstamp⟩) hnot
        next => exact Store.has_of_get halone.1

/-- What an import into a sound ledger takes for deleted. -/
theorem Sound.take_in_meets (h : Sound ledger) (package : ByteArray)
    (hunused : ∀ remotes, Brings package remotes → ∀ id, remotes.Has id →
      ledger.notebook.supply.Avoids id) :
    (takeInReporting package).Meets ledger.notebook
      (fun report? left => ∃ remotes report, Brings package remotes ∧ report? = some report ∧
        TakesForDeleted ledger remotes report left)
      fun _ _ => True := by
  refine (take_in_meets_any h.ready.durable package).mono (fun report? left hleft => ?_)
    fun _ _ _ => trivial
  obtain ⟨remotes, report, hbrings, hreport, habsorbed⟩ := hleft
  exact ⟨remotes, report, hbrings, hreport, h.takes_for_deleted habsorbed hbrings.named.1
    hbrings.named.2 (hunused remotes hbrings)⟩

/-- However a notebook has come about, a merge moves to the trash what the snapshot lacks and has the
export clock for its stamp. Of the notes that no merge has brought those are the notes of the last
export, or all notes if there has been no export. -/
theorem merge_takes_for_deleted (h : Recorded ledger) (package : ByteArray)
    (hunused : ∀ remotes, Brings package remotes → ∀ id, remotes.Has id →
      ledger.notebook.supply.Avoids id) :
    (takeInReporting package).Meets ledger.notebook
      (fun report? left => ∃ remotes report, Brings package remotes ∧ report? = some report ∧
        TakesForDeleted ledger remotes report left)
      fun _ _ => True :=
  h.sound.take_in_meets package hunused

/-- A notebook for an example, with a note that has never been exported. -/
def unsent : Ledger :=
  { notebook := (NoteOperation.create { name := "one" }).perform.after (.empty 'i') }

/-- A package for an example, of a store without notes. -/
def vacant : ByteArray :=
  ({} : Store).exported.package

/-- The notebook for the example comes of a new one. -/
theorem unsent_recorded : Recorded unsent := by
  have hnew : Recorded { notebook := .empty 'i' } :=
    .new _ (empty_new (by decide)) (empty_distinct (by decide))
  have hstorable : unsent.notebook.Storable := by
    decide +kernel
  exact hnew.work _ (.create { name := "one" }) hstorable

/-- The package for the example brings a store without notes. -/
theorem vacant_brings {remotes : Store} (h : Brings vacant remotes) :
    remotes = ({} : Store).exported.asRead :=
  have ⟨hstorable, hpackable, hnotes, _⟩ := Store.exported_new
  brings_package hstorable (Store.keyed_of_empty hnotes) hpackable h

/-- What the package for the example brings gets in the way of no token. -/
theorem vacant_unused (supply : Supply) (remotes : Store) (h : Brings vacant remotes) (id : String)
    (hhas : remotes.Has id) : supply.Avoids id := by
  rw [vacant_brings h, ← Store.mem_ids_iff_has] at hhas
  have hids : ({} : Store).exported.asRead.ids = [] := by
    simp [Store.ids, Store.exported_new.2.2.2]
  rw [hids] at hhas
  cases hhas

/-- What the merge of the example takes for deleted. -/
theorem merge_takes_for_deleted_of_unsent :
    Recorded unsent ∧
      (∀ remotes, Brings vacant remotes → ∀ id, remotes.Has id →
        unsent.notebook.supply.Avoids id) ∧
      (takeInReporting vacant).Meets unsent.notebook
        (fun report? left => ∃ remotes report, Brings vacant remotes ∧ report? = some report ∧
          TakesForDeleted unsent remotes report left)
        fun _ _ => True :=
  ⟨unsent_recorded, vacant_unused _,
    merge_takes_for_deleted unsent_recorded vacant (vacant_unused _)⟩

/-- The merge of the example succeeds and takes a note for deleted that has never been exported. -/
theorem unsent_taken_for_deleted :
    Recorded unsent ∧ unsent.sent? = none ∧
      (takeInReporting vacant).Meets unsent.notebook
        (fun report? left => ∃ report, report? = some report ∧ "i" ∈ report.trashed ∧
          ¬ left.notes.Has "i" ∧ left.trash.Has "i")
        fun _ _ => False := by
  have hsound := unsent_recorded.sound
  obtain ⟨hstorable, hpackable, hnotes, hread⟩ := Store.exported_new
  have hkept : (takeIn vacant).Meets unsent.notebook _ _ :=
    Notebook.take_in_meets hsound.ready.durable hsound.ready.willing hstorable
      (Store.keyed_of_empty hnotes) hpackable
  have hreports : (takeInReporting vacant).Meets unsent.notebook _ _ :=
    take_in_meets_iff.1 hkept
  refine ⟨unsent_recorded, rfl, (hreports.and (hsound.take_in_meets vacant (vacant_unused _))).mono
    (fun report? left hleft => ?_) fun fault left hfault => ?_⟩
  · obtain ⟨-, remotes, report, hbrings, hreport, htakes⟩ := hleft
    have hnot : ¬ remotes.Has "i" := by
      rw [vacant_brings hbrings, Store.not_has_iff, Store.get?, hread]
      rfl
    have htrashed : "i" ∈ report.trashed :=
      (htakes.own "i" List.not_mem_nil).2 ⟨hnot, by decide +kernel, .inr rfl⟩
    exact ⟨report, hreport, htrashed, htakes.moves "i" htrashed⟩
  · have hstale := hfault.1.2.stale
    have hclocks : ¬ ({} : Store).exported.importClock < unsent.notebook.notes.exportClock := by
      decide +kernel
    exact hclocks hstale

end Ledger

end Notebook

end Notekeeper
