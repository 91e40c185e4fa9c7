import Notekeeper.Proofs.Replica.Exchange

/-!
# Exchanges in rounds

Two replicas work in rounds. In each round both work on their notes; then the first one exports, the
second one merges that and exports in turn, and the first one merges that. No such merge is refused.
What the first replica has edited alone reaches the second one. What the second replica has edited
alone reaches the first one only if the edit got a version above the clock of the first one at its
export: otherwise the first replica takes its own copy for the newer one and keeps it
(`Notebook.one_sided_edit_reaches`).
-/

namespace Notekeeper

/-- Two notes are the same for whoever reads them. -/
structure Note.SameContent (note other : Note) : Prop where
  name : other.name = note.name
  folder : other.folder = note.folder
  tags : other.tags = note.tags
  body : other.body = note.body
  format : other.format = note.format
  due : other.due = note.due

/-- A store holds a note under an id, as it is read. -/
def Store.Shows (store : Store) (id : String) (note : Note) : Prop :=
  ∃ found, store.get? id = some found ∧ note.SameContent found

namespace Notebook

/-- Work on the notes of a notebook: any number of operations. Files can hold what is held after each
of them. -/
inductive Works (notebook : Notebook) : Notebook → Prop
  | nothing : Works notebook notebook
  | operation (middle : Notebook) (operation : NoteOperation) (h : Works notebook middle)
      (hfresh : operation = .virtualFolders →
        middle.notes.contains (middle.supply.token 0) = false)
      (hstorable : (operation.perform.after middle).Storable) :
      Works notebook (operation.perform.after middle)

/-- Two replicas after any number of rounds. -/
inductive Rounds : Notebook → Notebook → Prop
  | new (first second : Notebook) (hfirst : New first) (hsecond : New second) : Rounds first second
  | round (first second firstWorked secondWorked : Notebook) (h : Rounds first second)
      (hfirst : Works first firstWorked) (hsecond : Works second secondWorked)
      (hfits : Fits firstWorked secondWorked) :
      Rounds (firstWorked.concluded secondWorked) (firstWorked.answered secondWorked)

variable {notebook left first second firstWorked secondWorked : Notebook} {id : String}

/-! ## Work -/

/-- What is known of a notebook that has been worked on. -/
structure WorkedOn (notebook left : Notebook) : Prop where
  ready : left.Ready
  capped : Both Store.Capped left
  export_clock : left.notes.exportClock = notebook.notes.exportClock
  import_clock : left.notes.importClock = notebook.notes.importClock
  clock : notebook.notes.clock ≤ left.notes.clock
  supply : notebook.supply.LeadsTo left.supply
  get : ∀ id, notebook.supply.Avoids id → ∀ after, left.notes.get? id = some after →
    ∃ before, notebook.notes.get? id = some before ∧
      (after = before ∨ Edits notebook.notes.clock before after)

/-- Work leaves a ready notebook ready, its clocks in order, and its notes as they were or edited. -/
theorem Works.worked_on (h : Works notebook left) (hready : notebook.Ready)
    (hcapped : Both Store.Capped notebook) : WorkedOn notebook left := by
  induction h with
  | nothing =>
      exact ⟨hready, hcapped, rfl, rfl, Int.le_refl _, .refl _,
        fun _ _ after hafter => ⟨after, hafter, .inl rfl⟩⟩
  | operation middle operation _ hfresh hstorable ih =>
      have hworked := operation.work ih.ready.durable ih.ready.willing hfresh
      obtain ⟨hexport, himport, hclock⟩ := hworked.clocks
      refine ⟨ih.ready.settle hworked.settles hstorable, ?_, hexport.trans ih.export_clock,
        himport.trans ih.import_clock, Int.le_trans ih.clock hclock,
        ih.supply.trans hworked.settles.2.supply, fun id havoids after hafter => ?_⟩
      · exact (operation.perform_keeps Store.capped_stable).after ih.capped
      · obtain ⟨between, hbetween, hlast⟩ :=
          hworked.get ih.ready.durable (havoids.leads_to ih.supply) hafter
        obtain ⟨before, hbefore, hfirst⟩ := ih.get id havoids between hbetween
        refine ⟨before, hbefore, ?_⟩
        rcases hlast with rfl | hlast
        · exact hfirst
        · right
          refine ⟨Int.lt_of_le_of_lt ih.clock hlast.1, hlast.2.trans ?_⟩
          rcases hfirst with rfl | hfirst
          · rfl
          · exact hfirst.2

/-! ## What holds at the end of each round -/

/-- What holds of two replicas at the end of a round: the second one has just stamped its notes, and
the first one has seen that. -/
structure Level (first second : Notebook) : Prop where
  first_ready : first.Ready
  second_ready : second.Ready
  first_capped : Both Store.Capped first
  second_capped : Both Store.Capped second
  /-- The notes of the second replica carry the stamp of its last export, and none is above it. -/
  stamped : ∀ (id : String) (note : Note), second.notes.get? id = some note →
    note.exportVersion = second.notes.exportClock ∧ note.version ≤ second.notes.exportClock
  /-- No note of the first replica is above that stamp. -/
  below : ∀ (id : String) (note : Note), first.notes.get? id = some note →
    note.version ≤ second.notes.exportClock
  import_clock : second.notes.exportClock ≤ first.notes.importClock
  first_clock : second.notes.exportClock ≤ first.notes.clock
  second_clock : second.notes.exportClock ≤ second.notes.clock

/-- New replicas are level. -/
theorem New.level (hfirst : New first) (hsecond : New second) : Level first second := by
  obtain ⟨-, himport, hclock, -⟩ := hfirst.clocks
  obtain ⟨hexport, -, hsecond_clock, -⟩ := hsecond.clocks
  refine ⟨hfirst.ready.1, hsecond.ready.1, hfirst.capped, hsecond.capped,
    fun id note hfound => absurd (.inl (Store.has_of_get hfound)) (hsecond.unused id),
    fun id note hfound => absurd (.inl (Store.has_of_get hfound)) (hfirst.unused id), ?_, ?_, ?_⟩
  · exact Int.le_of_eq (hexport.trans himport.symm)
  · rw [hexport, hclock]
    decide
  · rw [hexport, hsecond_clock]
    decide

/-- A round leaves replicas level. -/
theorem Level.round (h : Level first second) (hfirst : WorkedOn first firstWorked)
    (hsecond : WorkedOn second secondWorked) (hfits : Fits firstWorked secondWorked) :
    Exchanged firstWorked secondWorked ∧
      Level (firstWorked.concluded secondWorked) (firstWorked.answered secondWorked) := by
  have hfresh : secondWorked.notes.exportClock ≤ firstWorked.notes.importClock := by
    rw [hsecond.export_clock, hfirst.import_clock]
    exact h.import_clock
  obtain ⟨hexchanged, hsent, hreceived, hanswered, hconcluded⟩ :=
    hfits.exchanged hfirst.ready hsecond.ready hfresh
  have hsent_capped : Both Store.Capped firstWorked.sent :=
    (export_keeps Store.capped_stable).after hfirst.capped
  have hreceived_capped : Both Store.Capped (firstWorked.received secondWorked) :=
    (take_in_keeps Store.capped_stable _).after hsecond.capped
  have hanswered_capped : Both Store.Capped (firstWorked.answered secondWorked) :=
    (export_keeps Store.capped_stable).after hreceived_capped
  have hconcluded_capped : Both Store.Capped (firstWorked.concluded secondWorked) :=
    (take_in_keeps Store.capped_stable _).after hsent_capped
  obtain ⟨hsent_export, hsent_import, hsent_clock⟩ := hexchanged.sent.clocks
  obtain ⟨-, hreceived_import, hreceived_clock⟩ := hexchanged.received.clocks
  obtain ⟨hanswered_export, hanswered_import, hanswered_clock⟩ := hexchanged.answered.clocks
  obtain ⟨-, hconcluded_import, hconcluded_clock⟩ := hexchanged.concluded.clocks
  have hstamped (id : String) (note : Note)
      (hfound : (firstWorked.answered secondWorked).notes.get? id = some note) :
      note.exportVersion = (firstWorked.answered secondWorked).notes.exportClock ∧
        note.version ≤ (firstWorked.answered secondWorked).notes.exportClock := by
    rw [hexchanged.answered.get hreceived.durable, Option.map_eq_some_iff] at hfound
    obtain ⟨unstamped, hunstamped, rfl⟩ := hfound
    rw [hanswered_export]
    exact ⟨rfl, hreceived_capped.notes id unstamped hunstamped⟩
  refine ⟨hexchanged, hconcluded, hanswered, hconcluded_capped, hanswered_capped, hstamped,
    fun id note hfound => ?_, ?_, ?_, ?_⟩
  · -- Nothing has changed here since the stamp, so no copies with higher versions are made.
    refine (hexchanged.concluded.of_unchanged hsent.durable
      (fun note => note.version ≤ note.exportVersion ∧
        note.version ≤ (firstWorked.answered secondWorked).notes.exportClock)
      (fun _ hnote => hnote) (fun note hnote => ?_) (fun other here hhere => ?_)
      (fun other there hthere => ?_) id note hfound).2
    · simpa [Sync.localChange] using hnote.1
    · have hbound := hsent_capped.notes other here hhere
      rw [hexchanged.sent.get hfirst.ready.durable, Option.map_eq_some_iff] at hhere
      obtain ⟨unstamped, -, rfl⟩ := hhere
      dsimp only at hbound ⊢
      omega
    · obtain ⟨hstamp, hbound⟩ := hstamped other there hthere
      exact ⟨by omega, hbound⟩
  · omega
  · omega
  · omega

/-- However many rounds there have been, replicas are level. -/
theorem Rounds.level (h : Rounds first second) : Level first second := by
  induction h with
  | new first second hfirst hsecond => exact hfirst.level hsecond
  | round first second firstWorked secondWorked _ hfirst hsecond hfits ih =>
      have hfirst_worked := hfirst.worked_on ih.first_ready ih.first_capped
      have hsecond_worked := hsecond.worked_on ih.second_ready ih.second_capped
      exact (ih.round hfirst_worked hsecond_worked hfits).2

/-! ## What becomes of one note -/

/-- A note is read as it is, whatever its stamp. -/
theorem shows_iff_of_get {store : Store} {note other : Note} {stamp : Int}
    (h : store.get? id = some { note with exportVersion := stamp }) :
    store.Shows id other ↔ other.SameContent note := by
  constructor
  · rintro ⟨found, hfound, hsame⟩
    obtain rfl := Option.some.inj (h.symm.trans hfound)
    exact ⟨hsame.name, hsame.folder, hsame.tags, hsame.body, hsame.format, hsame.due⟩
  · intro hsame
    exact ⟨_, h, ⟨hsame.name, hsame.folder, hsame.tags, hsame.body, hsame.format, hsame.due⟩⟩

theorem same_content_refl (note : Note) : note.SameContent note :=
  ⟨rfl, rfl, rfl, rfl, rfl, rfl⟩

/-- Of a note that both replicas hold before a round, what the first one has edited alone reaches the
second one. What the second one has edited alone stays with the second one; it reaches the first one
exactly if its version is above the clock of the first one at its export, unless there is nothing to
tell the two apart. Otherwise the first replica is left with what it had. -/
theorem one_sided_edit_reaches (hrounds : Rounds first second) (hfirst : Works first firstWorked)
    (hsecond : Works second secondWorked) (hfits : Fits firstWorked secondWorked)
    (hfirst_avoids : first.supply.Avoids id) (hsecond_avoids : second.supply.Avoids id)
    {firstBefore secondBefore firstAfter secondAfter : Note}
    (hfirst_before : first.notes.get? id = some firstBefore)
    (hsecond_before : second.notes.get? id = some secondBefore)
    (hfirst_after : firstWorked.notes.get? id = some firstAfter)
    (hsecond_after : secondWorked.notes.get? id = some secondAfter) :
    (firstAfter ≠ firstBefore → secondAfter = secondBefore →
      (firstWorked.concluded secondWorked).notes.Shows id firstAfter ∧
        (firstWorked.answered secondWorked).notes.Shows id firstAfter) ∧
      (firstAfter = firstBefore → secondAfter ≠ secondBefore →
        (firstWorked.answered secondWorked).notes.Shows id secondAfter ∧
          ((firstWorked.concluded secondWorked).notes.Shows id secondAfter ↔
            firstWorked.notes.clock < secondAfter.version ∨ secondAfter.SameContent firstBefore) ∧
          (secondAfter.version ≤ firstWorked.notes.clock →
            (firstWorked.concluded secondWorked).notes.Shows id firstBefore)) := by
  have hlevel := hrounds.level
  have hfirst_worked := hfirst.worked_on hlevel.first_ready hlevel.first_capped
  have hsecond_worked := hsecond.worked_on hlevel.second_ready hlevel.second_capped
  obtain ⟨hstamp, hbelow_stamp⟩ := hlevel.stamped id secondBefore hsecond_before
  have hbelow := hlevel.below id firstBefore hfirst_before
  have hfresh : secondWorked.notes.exportClock ≤ firstWorked.notes.importClock := by
    rw [hsecond_worked.export_clock, hfirst_worked.import_clock]
    exact hlevel.import_clock
  obtain ⟨hexchanged, hsent, hreceived, hanswered, -⟩ :=
    hfits.exchanged hfirst_worked.ready hsecond_worked.ready hfresh
  obtain ⟨chosen, hchosen, ⟨answer, hanswer⟩, ⟨conclusion, hconclusion⟩⟩ :=
    hexchanged.get hfirst_worked.ready hsecond_worked.ready hsent hreceived hanswered
      (hfirst_avoids.leads_to hfirst_worked.supply) (hsecond_avoids.leads_to hsecond_worked.supply)
      hfirst_after hsecond_after
  constructor
  · intro hedited hunedited
    subst hunedited
    obtain ⟨before, hbefore, hcase⟩ := hfirst_worked.get id hfirst_avoids firstAfter hfirst_after
    obtain rfl := Option.some.inj (hbefore.symm.trans hfirst_before)
    have hedits : Edits first.notes.clock before firstAfter := hcase.resolve_left hedited
    -- The edit is above the clock of the first replica, which is not below the stamp of the second.
    have htake : secondAfter.exportVersion < firstAfter.version := by
      have hclock := hlevel.first_clock
      have habove := hedits.1
      omega
    rw [hchosen, if_pos htake] at hanswer hconclusion
    rw [ite_self] at hconclusion
    exact ⟨(shows_iff_of_get hconclusion).2 (same_content_refl _),
      (shows_iff_of_get hanswer).2 (same_content_refl _)⟩
  · intro hunedited hedited
    subst hunedited
    obtain ⟨before, hbefore, hcase⟩ := hsecond_worked.get id hsecond_avoids secondAfter hsecond_after
    obtain rfl := Option.some.inj (hbefore.symm.trans hsecond_before)
    have hedits : Edits second.notes.clock before secondAfter := hcase.resolve_left hedited
    -- What the first replica has not edited is not above the stamp of the second one.
    have hkeep : ¬ secondAfter.exportVersion < firstAfter.version := by
      have hkept := hedits.2
      omega
    rw [hchosen, if_neg hkeep] at hanswer hconclusion
    refine ⟨(shows_iff_of_get hanswer).2 (same_content_refl _), ?_, fun hold => ?_⟩
    · rw [shows_iff_of_get hconclusion]
      by_cases habove : firstWorked.notes.clock < secondAfter.version
      · rw [if_pos habove]
        exact iff_of_true (same_content_refl _) (.inl habove)
      · rw [if_neg habove]
        exact ⟨.inr, fun hsame => hsame.resolve_left habove⟩
    · rw [shows_iff_of_get hconclusion, if_neg (Int.not_lt.2 hold)]
      exact same_content_refl _

/-! ## A run in which an edit is lost -/

/-- A replica for an example: two notes have been created. -/
def twoNotes : Notebook :=
  (NoteOperation.create { name := "Y" }).perform.after
    ((NoteOperation.create { name := "X" }).perform.after (.empty 'i'))

/-- The first replica of the example after a round. -/
def firstAlike : Notebook :=
  twoNotes.concluded (.empty 'j')

/-- The second replica of the example after a round. -/
def secondAlike : Notebook :=
  twoNotes.answered (.empty 'j')

/-- The first replica puts one of the notes into another folder, and then back. -/
def firstMoved : Notebook :=
  (NoteOperation.moveTo ["iiiii"] "inbox").perform.after
    ((NoteOperation.moveTo ["iiiii"] "later").perform.after firstAlike)

/-- The second replica puts the other note into another folder. -/
def secondMoved : Notebook :=
  (NoteOperation.moveTo ["i"] "soon").perform.after secondAlike

/-- What the replicas of the example hold before the first exchange. -/
def twoStores : Stores :=
  ⟨twoNotes.notes, twoNotes.trash, {}, {}⟩

/-- What the replicas of the example hold before the second exchange. -/
def movedStores : Stores :=
  { twoStores.exchanged with
    firstNotes := (twoStores.exchanged.firstNotes.moved "iiiii" "later").moved "iiiii" "inbox"
    secondNotes := twoStores.exchanged.secondNotes.moved "i" "soon" }

/-- What is needed of the notes of the example until the first exchange. -/
theorem two_notes_eq :
    (((NoteOperation.create { name := "X" }).perform.after (.empty 'i')).Storable ∧
        twoNotes.Storable) ∧
      twoNotes.notes.importClock = -1 ∧ 0 < twoNotes.supply.tokensTaken ∧ twoStores.Fits := by
  decide +kernel

/-- What is needed of what the replicas of the example hold from then on. -/
theorem moved_stores_eq :
    ((twoStores.exchanged.firstNotes.get? "iiiii").isSome ∧
        ((twoStores.exchanged.firstNotes.moved "iiiii" "later").get? "iiiii").isSome ∧
        (twoStores.exchanged.secondNotes.get? "i").isSome) ∧
      ((twoStores.exchanged.firstNotes.moved "iiiii" "later").Storable ∧
        movedStores.firstNotes.Storable ∧ movedStores.secondNotes.Storable) ∧
      movedStores.Fits ∧
      (∃ firstBefore ∈ twoStores.exchanged.firstNotes.get? "i",
        ∃ secondBefore ∈ twoStores.exchanged.secondNotes.get? "i",
        ∃ secondAfter ∈ movedStores.secondNotes.get? "i",
          movedStores.firstNotes.get? "i" = some firstBefore ∧
          secondAfter.folder ≠ secondBefore.folder ∧ secondAfter.folder ≠ firstBefore.folder ∧
          secondAfter.version ≤ movedStores.firstNotes.clock) ∧
      (movedStores.exchanged.firstNotes.get? "i").map Note.folder ≠
        (movedStores.secondNotes.get? "i").map Note.folder := by
  decide +kernel

/-- The two notes of the example are created. -/
theorem two_notes_works :
    Works (.empty 'i') twoNotes ∧ twoNotes.Holds twoNotes.notes twoNotes.trash ∧
      (Supply.strokes 'i').LeadsTo twoNotes.supply := by
  have hnew : New (.empty 'i') := empty_new (by decide)
  obtain ⟨⟨hone, htwo⟩, -⟩ := two_notes_eq
  have hone := Works.operation (.empty 'i') (.create { name := "X" }) .nothing nofun hone
  have htwo : Works (.empty 'i') twoNotes := .operation _ (.create { name := "Y" }) hone nofun htwo
  have hworked := htwo.worked_on hnew.ready.1 hnew.capped
  exact ⟨htwo, ⟨hworked.ready, .refl _, .refl _⟩,
    (empty_opened (by decide)).2.2.2.trans hworked.supply⟩

/-- What the replicas of the example hold before and after the first exchange. -/
theorem alike_fits :
    Fits twoNotes (.empty 'j') ∧ BothHold firstAlike secondAlike twoStores.exchanged := by
  have hnew : New (.empty 'j') := empty_new (by decide)
  have hhold : BothHold twoNotes (.empty 'j') twoStores := ⟨two_notes_works.2.1, hnew.holds⟩
  exact hhold.exchange two_notes_eq.2.2.2

/-- The replicas of the example after one round. -/
theorem alike_rounds : Rounds firstAlike secondAlike :=
  .round _ _ _ _ (.new _ _ (empty_new (by decide)) (empty_new (by decide))) two_notes_works.1
    .nothing alike_fits.1

/-- Both replicas of the example work on their notes. -/
theorem moved_works :
    Works firstAlike firstMoved ∧ Works secondAlike secondMoved ∧ Fits firstMoved secondMoved ∧
      BothHold firstMoved secondMoved movedStores ∧
      BothHold (firstMoved.concluded secondMoved) (firstMoved.answered secondMoved)
        movedStores.exchanged := by
  obtain ⟨-, hfirst, hsecond⟩ := alike_fits
  obtain ⟨hthere, hstorable, hfit, -⟩ := moved_stores_eq
  have hlater := hfirst.moves hthere.1 "later" hstorable.1
  have hinbox := hlater.moves hthere.2.1 "inbox" hstorable.2.1
  have hsoon := hsecond.moves hthere.2.2 "soon" hstorable.2.2
  have hhold : BothHold firstMoved secondMoved movedStores := ⟨hinbox, hsoon⟩
  obtain ⟨hfits, hleft⟩ := hhold.exchange hfit
  exact ⟨.operation _ _ (.operation _ _ .nothing nofun hlater.storable) nofun hinbox.storable,
    .operation _ _ .nothing nofun hsoon.storable, hfits, hhold, hleft⟩

/-- The note that the second replica of the example edits, on both sides before the exchange. -/
theorem moved_notes : ∃ firstBefore secondBefore secondAfter,
    firstAlike.notes.get? "i" = some firstBefore ∧
      secondAlike.notes.get? "i" = some secondBefore ∧
      firstMoved.notes.get? "i" = some firstBefore ∧
      secondMoved.notes.get? "i" = some secondAfter ∧ secondAfter ≠ secondBefore ∧
      secondAfter.version ≤ firstMoved.notes.clock ∧ ¬ secondAfter.SameContent firstBefore := by
  obtain ⟨-, hfirst, hsecond⟩ := alike_fits
  obtain ⟨-, -, -, ⟨hfirst_moved, hsecond_moved⟩, -⟩ := moved_works
  obtain ⟨-, -, -, hnotes, -⟩ := moved_stores_eq
  obtain ⟨firstBefore, hfirst_before, secondBefore, hsecond_before, secondAfter, hsecond_after,
    hfirst_after, hedited, hother, hversion⟩ := hnotes
  refine ⟨firstBefore, secondBefore, secondAfter, ?_, ?_, ?_, ?_, ?_, ?_, ?_⟩
  · exact (hfirst.notes.get_eq "i").trans hfirst_before
  · exact (hsecond.notes.get_eq "i").trans hsecond_before
  · exact (hfirst_moved.notes.get_eq "i").trans hfirst_after
  · exact (hsecond_moved.notes.get_eq "i").trans hsecond_after
  · exact fun heq => hedited (congrArg Note.folder heq)
  · rw [hfirst_moved.notes.clock]
    exact hversion
  · exact fun hsame => hother hsame.folder.symm

/-- No token that is still to come is the id of the note. -/
theorem alike_avoid : firstAlike.supply.Avoids "i" ∧ secondAlike.supply.Avoids "i" := by
  obtain ⟨-, hholds, hsupply⟩ := two_notes_works
  have hnew : New (.empty 'j') := empty_new (by decide)
  obtain ⟨-, himport, htaken, -⟩ := two_notes_eq
  obtain ⟨hexchanged, -⟩ := alike_fits.1.exchanged hholds.ready hnew.ready.1
    (Int.le_of_eq (hnew.clocks.1.trans himport.symm))
  have hfirst : twoNotes.supply.Avoids "i" := by
    have hstrokes : (Supply.strokes 'i').FreshFor fun _ => False := Supply.fresh_for_strokes nofun
    exact (hstrokes.leads_to hsupply).unused "i" (.inr ⟨0, htaken, by decide +kernel⟩)
  have hsecond : (Supply.strokes 'j').FreshFor (· = "i") := by
    refine Supply.fresh_for_strokes fun text htext => ?_
    subst htext
    decide +kernel
  exact ⟨(hfirst.leads_to hexchanged.sent.settles.2.supply).leads_to
      hexchanged.concluded.settles.2.supply,
    (((hsecond.unused "i" rfl).leads_to (empty_opened (by decide)).2.2.2).leads_to
      hexchanged.received.settles.2.supply).leads_to hexchanged.answered.settles.2.supply⟩

/-- What becomes of the note that the second replica of the example edits alone: it stays with the
second one. -/
theorem one_sided_edit_reaches_of_moved :
    Rounds firstAlike secondAlike ∧ Works firstAlike firstMoved ∧ Works secondAlike secondMoved ∧
      Fits firstMoved secondMoved ∧ firstAlike.supply.Avoids "i" ∧ secondAlike.supply.Avoids "i" ∧
      ∃ firstBefore secondBefore secondAfter, firstAlike.notes.get? "i" = some firstBefore ∧
        secondAlike.notes.get? "i" = some secondBefore ∧
        firstMoved.notes.get? "i" = some firstBefore ∧
        secondMoved.notes.get? "i" = some secondAfter ∧ secondAfter ≠ secondBefore ∧
        (firstMoved.answered secondMoved).notes.Shows "i" secondAfter ∧
        (firstMoved.concluded secondMoved).notes.Shows "i" firstBefore := by
  obtain ⟨hworks, hsecond_works, hfits, -⟩ := moved_works
  obtain ⟨hfirst_avoids, hsecond_avoids⟩ := alike_avoid
  obtain ⟨firstBefore, secondBefore, secondAfter, hfirst_before, hsecond_before, hfirst_after,
    hsecond_after, hedited, hversion, -⟩ := moved_notes
  have hreaches := (one_sided_edit_reaches alike_rounds hworks hsecond_works hfits hfirst_avoids
    hsecond_avoids hfirst_before hsecond_before hfirst_after hsecond_after).2 rfl hedited
  exact ⟨alike_rounds, hworks, hsecond_works, hfits, hfirst_avoids, hsecond_avoids, firstBefore,
    secondBefore, secondAfter, hfirst_before, hsecond_before, hfirst_after, hsecond_after, hedited,
    hreaches.1, hreaches.2.2 hversion⟩

/-- The edit of the second replica of the example does not reach the first one, which has not edited
the note. -/
theorem one_sided_edit_lost :
    Rounds firstAlike secondAlike ∧ Works firstAlike firstMoved ∧ Works secondAlike secondMoved ∧
      Fits firstMoved secondMoved ∧
      ∃ firstBefore secondBefore secondAfter, firstAlike.notes.get? "i" = some firstBefore ∧
        secondAlike.notes.get? "i" = some secondBefore ∧
        firstMoved.notes.get? "i" = some firstBefore ∧
        secondMoved.notes.get? "i" = some secondAfter ∧ secondAfter ≠ secondBefore ∧
        ¬ (firstMoved.concluded secondMoved).notes.Shows "i" secondAfter := by
  obtain ⟨hworks, hsecond_works, hfits, hmoved, hleft⟩ := moved_works
  obtain ⟨firstBefore, secondBefore, secondAfter, hfirst_before, hsecond_before, hfirst_after,
    hsecond_after, hedited, -⟩ := moved_notes
  refine ⟨alike_rounds, hworks, hsecond_works, hfits, firstBefore, secondBefore, secondAfter,
    hfirst_before, hsecond_before, hfirst_after, hsecond_after, hedited, ?_⟩
  rintro ⟨found, hfound, hsame⟩
  obtain ⟨-, -, -, -, hfolders⟩ := moved_stores_eq
  rw [← hleft.first.notes.get_eq, hfound, ← hmoved.second.notes.get_eq, hsecond_after] at hfolders
  exact hfolders (congrArg some hsame.folder)

end Notebook

end Notekeeper
