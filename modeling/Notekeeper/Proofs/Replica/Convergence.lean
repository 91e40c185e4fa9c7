import Notekeeper.Proofs.Notebook.Absorbing
import Notekeeper.Proofs.Replica.Exchange
import Notekeeper.Proofs.Replica.Sitting

/-!
# Which notes two replicas have

Two replicas alternate between sittings and exchanges: somebody sits at each, and then the first one
exports, the second one merges that and exports in turn, and the first one merges that. No such merge
is refused, and after it both replicas have notes of the same ids, among which is none that has been
deleted on either side (`Notebook.alternating_converges`). The second replica decides which notes
there are: the first one has just exported all that it has, so it takes what it does not find in the
answer for deleted, and has nothing in its trash that the answer could bring back.
-/

namespace Notekeeper

namespace Notebook

/-- Two replicas after any number of sittings and exchanges, and the ids that have been deleted on the
way. Tokens are distinct, on each side and on both together. -/
inductive Alternating : List String → Notebook → Notebook → Prop
  | new (first second : Notebook) (hfirst : New first) (hsecond : New second)
      (hfirst_distinct : first.supply.Distinct) (hsecond_distinct : second.supply.Distinct)
      (hapart : first.supply.Apart second.supply) :
      Alternating [] first second
  | round (gone firstGone secondGone : List String)
      (first second firstLeft secondLeft : Notebook) (h : Alternating gone first second)
      (hfirst : Sits first firstGone firstLeft) (hsecond : Sits second secondGone secondLeft)
      (hfits : Fits firstLeft secondLeft) :
      Alternating (gone ++ firstGone ++ secondGone) (firstLeft.concluded secondLeft)
        (firstLeft.answered secondLeft)

variable {first second firstLeft secondLeft left right : Notebook}
  {gone firstGone secondGone : List String} {id : String}

/-! ## What holds at the end of each round -/

/-- An id that is in use on either side, or has been deleted. -/
def Known (gone : List String) (first second : Notebook) (id : String) : Prop :=
  first.Uses id ∨ second.Uses id ∨ id ∈ gone

/-- What holds of two replicas at the end of a round. -/
structure Matched (gone : List String) (first second : Notebook) : Prop where
  first_ready : first.Ready
  second_ready : second.Ready
  first_capped : Both Store.Capped first
  second_capped : Both Store.Capped second
  /-- The notes of the second replica carry the stamp of its last export. -/
  stamped : ∀ (id : String) (note : Note), second.notes.get? id = some note →
    note.exportVersion = second.notes.exportClock
  /-- The first replica has merged that export. -/
  import_clock : second.notes.exportClock ≤ first.notes.importClock
  same : ∀ id, first.notes.Has id ↔ second.notes.Has id
  absent : ∀ id ∈ gone, ¬ second.notes.Has id
  first_fresh : first.supply.FreshFor (Known gone first second)
  second_fresh : second.supply.FreshFor (Known gone first second)
  apart : first.supply.Apart second.supply

/-- New replicas match. -/
theorem New.matched (hfirst : New first) (hsecond : New second)
    (hfirst_distinct : first.supply.Distinct) (hsecond_distinct : second.supply.Distinct)
    (hapart : first.supply.Apart second.supply) :
    Matched [] first second := by
  have hlacks {notebook : Notebook} (hnew : New notebook) (id : String) :
      ¬ notebook.notes.Has id := fun hhas => hnew.unused id (.inl hhas)
  have hunknown (id : String) : ¬ Known [] first second id := by
    rintro (hused | hused | hmem)
    · exact hfirst.unused id hused
    · exact hsecond.unused id hused
    · cases hmem
  have hclocks : second.notes.exportClock = first.notes.importClock :=
    hsecond.clocks.1.trans hfirst.clocks.2.1.symm
  exact ⟨hfirst.ready.1, hsecond.ready.1, hfirst.capped, hsecond.capped,
    fun id note hfound => absurd (Store.has_of_get hfound) (hlacks hsecond id), Int.le_of_eq hclocks,
    fun id => iff_of_false (hlacks hfirst id) (hlacks hsecond id), nofun,
    ⟨hfirst_distinct, fun id hknown => absurd hknown (hunknown id)⟩,
    ⟨hsecond_distinct, fun id hknown => absurd hknown (hunknown id)⟩, hapart⟩

/-- An id is accounted for if it was known at the end of the last round, or is a token that has been
taken since, on either side. -/
def Accounted (gone : List String) (first second left right : Notebook) (id : String) : Prop :=
  Known gone first second id ∨ first.supply.Spends left.supply id ∨
    second.supply.Spends right.supply id

/-- Tokens stay fresh for all that is accounted for. -/
theorem Matched.fresh (h : Matched gone first second) (hleft : first.supply.LeadsTo left.supply)
    (hright : second.supply.LeadsTo right.supply) :
    left.supply.FreshFor (Accounted gone first second left right) ∧
      right.supply.FreshFor (Accounted gone first second left right) :=
  ⟨h.first_fresh.beside hleft h.apart.symm right.supply,
    (h.second_fresh.beside hright h.apart left.supply).mono fun _ => Or.imp_right Or.symm⟩

/-! ## One round -/

/-- Two replicas that match, somebody has been sitting at each of them, and they have exchanged what
they have. -/
structure Meeting (gone firstGone secondGone : List String)
    (first second firstLeft secondLeft : Notebook) : Prop where
  before : Matched gone first second
  first : Sat first firstGone firstLeft
  second : Sat second secondGone secondLeft
  exchanged : Exchanged firstLeft secondLeft
  sent : firstLeft.sent.Ready
  received : (firstLeft.received secondLeft).Ready
  answered : (firstLeft.answered secondLeft).Ready
  concluded : (firstLeft.concluded secondLeft).Ready

/-- No merge of a round is refused. -/
theorem Matched.meet (h : Matched gone first second) (hfirst : Sits first firstGone firstLeft)
    (hsecond : Sits second secondGone secondLeft) (hfits : Fits firstLeft secondLeft) :
    Meeting gone firstGone secondGone first second firstLeft secondLeft := by
  have hfirst_sat := hfirst.sat h.first_ready h.first_capped (h.first_fresh.mono fun _ => .inl)
  have hsecond_sat := hsecond.sat h.second_ready h.second_capped
    (h.second_fresh.mono fun _ hused => .inr (.inl hused))
  have hfresh : secondLeft.notes.exportClock ≤ firstLeft.notes.importClock := by
    rw [hsecond_sat.export_clock, hfirst_sat.import_clock]
    exact h.import_clock
  obtain ⟨hexchanged, hsent, hreceived, hanswered, hconcluded⟩ :=
    hfits.exchanged hfirst_sat.ready hsecond_sat.ready hfresh
  exact ⟨h, hfirst_sat, hsecond_sat, hexchanged, hsent, hreceived, hanswered, hconcluded⟩

/-- What is accounted for stays so. -/
theorem Accounted.leads_to {lastLeft lastRight : Notebook}
    (h : Accounted gone first second left right id) (hleft : left.supply.LeadsTo lastLeft.supply)
    (hright : right.supply.LeadsTo lastRight.supply) :
    Accounted gone first second lastLeft lastRight id :=
  h.imp_right (Or.imp (·.leads_to hleft) (·.leads_to hright))

/-- What is in use at the beginning of a sitting is accounted for after it. -/
theorem accounted_of_follows_first (hfollows : Follows first left) (hused : left.Uses id)
    (right : Notebook) : Accounted gone first second left right id :=
  (hfollows.used hused).elim (fun hbefore => .inl (.inl hbefore)) fun hspent => .inr (.inl hspent)

/-- What is in use at the beginning of a sitting is accounted for after it. -/
theorem accounted_of_follows_second (hfollows : Follows second right) (hused : right.Uses id)
    (left : Notebook) : Accounted gone first second left right id :=
  (hfollows.used hused).elim (fun hbefore => .inl (.inr (.inl hbefore)))
    fun hspent => .inr (.inr hspent)

namespace Meeting

variable (h : Meeting gone firstGone secondGone first second firstLeft secondLeft)
include h

/-- How the supplies are led on up to the answer. -/
theorem supplies :
    first.supply.LeadsTo firstLeft.sent.supply ∧
      second.supply.LeadsTo (firstLeft.received secondLeft).supply ∧
      (firstLeft.received secondLeft).supply.LeadsTo (firstLeft.answered secondLeft).supply :=
  ⟨h.first.follows.supply.trans h.exchanged.sent.settles.2.supply,
    h.second.follows.supply.trans h.exchanged.received.settles.2.supply,
    h.exchanged.answered.settles.2.supply⟩

/-- What the first replica uses when it has exported is accounted for. -/
theorem sent_accounted (hused : firstLeft.sent.Uses id) (right : Notebook) :
    Accounted gone first second firstLeft.sent right id := by
  have hused := (h.exchanged.sent.uses h.first.ready.durable).1 hused
  exact (accounted_of_follows_first h.first.follows hused right).leads_to
    h.exchanged.sent.settles.2.supply (.refl _)

/-- What the second replica uses when it has merged that is accounted for. -/
theorem received_accounted (hused : (firstLeft.received secondLeft).Uses id) :
    Accounted gone first second firstLeft.sent (firstLeft.received secondLeft) id := by
  obtain ⟨report, habsorbed⟩ := h.exchanged.received.absorbed
  have hsecond {id : String} (hused : secondLeft.Uses id) :
      Accounted gone first second firstLeft.sent secondLeft id :=
    accounted_of_follows_second h.second.follows hused _
  have hfresh : secondLeft.supply.FreshFor fun id =>
      secondLeft.Uses id ∨ firstLeft.sent.notes.asRead.Has id :=
    (h.before.fresh h.supplies.1 h.second.follows.supply).2.mono fun id hused =>
      hused.elim hsecond fun hhas => h.sent_accounted (.inl hhas) _
  rcases habsorbed.used h.second.ready.durable h.sent.durable.notes.keyed
    h.sent.durable.notes.storable.named hfresh hused with hused | hhas | hspent
  · exact (hsecond hused).leads_to (.refl _) h.exchanged.received.settles.2.supply
  · exact h.sent_accounted (.inl hhas) _
  · exact .inr (.inr (h.second.follows.supply.spends hspent))

/-- What the second replica uses when it has exported in turn is accounted for. -/
theorem answered_accounted (hused : (firstLeft.answered secondLeft).Uses id) :
    Accounted gone first second firstLeft.sent (firstLeft.answered secondLeft) id := by
  have hused := (h.exchanged.answered.uses h.received.durable).1 hused
  exact (h.received_accounted hused).leads_to (.refl _) h.supplies.2.2

/-- Tokens are fresh for the last merge of a round. -/
theorem fresh_for_answer : firstLeft.sent.supply.FreshFor fun id =>
    firstLeft.sent.Uses id ∨ (firstLeft.answered secondLeft).notes.asRead.Has id :=
  (h.before.fresh h.supplies.1 (h.supplies.2.1.trans h.supplies.2.2)).1.mono fun _ hused =>
    hused.elim (h.sent_accounted · _) fun hhas => h.answered_accounted (.inl hhas)

/-- Of the notes that are under no token of its own, the second replica is left with none that the
first one has not sent. -/
theorem sent_of_received (havoids : second.supply.Avoids id)
    (hhas : (firstLeft.received secondLeft).notes.Has id) : firstLeft.sent.notes.Has id := by
  have hget := h.exchanged.received.get h.second.ready.durable h.sent.durable.notes.keyed
    (havoids.leads_to h.second.follows.supply)
  by_contra hlacks
  rw [Store.Has, hget, Store.not_has_iff.1 hlacks] at hhas
  cases hhere : secondLeft.notes.get? id with
  | none => simp [hhere, Sync.outcome] at hhas
  | some here =>
      -- It has been there since the last export, so the merge takes it for deleted.
      have hstamp : here.exportVersion = secondLeft.notes.exportClock := by
        rcases h.second.follows.notes id here hhere with ⟨before, hbefore, hstamp⟩ | ⟨hspent, -⟩
        · rw [hstamp, h.second.export_clock]
          exact h.before.stamped id before hbefore
        · exact absurd havoids fun havoids => hspent.issues.elim havoids
      simp [hhere, Sync.outcome, hstamp] at hhas

/-- Nothing in the answer is in the trash of the first replica alone. -/
theorem sent_or_not_buried (hhas : (firstLeft.answered secondLeft).notes.Has id) :
    firstLeft.sent.notes.Has id ∨ ¬ firstLeft.sent.trash.Has id := by
  have hhas := (h.exchanged.answered.has h.received.durable).1 hhas
  by_cases havoids : second.supply.Avoids id
  · exact .inl (h.sent_of_received havoids hhas)
  · -- A token of the second replica has been of no use to the first one.
    refine .inr fun hburied => havoids ?_
    exact (h.before.fresh h.supplies.1 (.refl second.supply)).2.unused id
      (h.sent_accounted (.inr hburied) second)

/-- The second replica decides which notes there are. -/
theorem same : (firstLeft.concluded secondLeft).notes.Has id ↔
    (firstLeft.answered secondLeft).notes.Has id := by
  obtain ⟨report, habsorbed⟩ := h.exchanged.concluded.absorbed
  obtain ⟨_, houtcomes⟩ := habsorbed.outcomes h.sent.durable h.answered.durable.notes.keyed
    h.answered.durable.notes.storable.named h.fresh_for_answer
  have hcapped : Both Store.Capped firstLeft.sent :=
    (export_keeps Store.capped_stable).after h.first.capped
  obtain ⟨hexport, -, hclock⟩ := h.exchanged.sent.clocks
  refine (houtcomes.has_iff fun id here hhere => ?_).trans
    (and_iff_left_of_imp h.sent_or_not_buried)
  -- The first replica has just stamped all its notes, with a clock that no version is above.
  have hversion := hcapped.notes id here hhere
  rw [h.exchanged.sent.get h.first.ready.durable, Option.map_eq_some_iff] at hhere
  obtain ⟨unstamped, -, rfl⟩ := hhere
  refine ⟨hexport.symm, ?_⟩
  rw [Sync.localChange, decide_eq_false_iff_not]
  dsimp only at hversion ⊢
  omega

/-- What has been deleted is gone. -/
theorem absent (hmem : id ∈ gone ++ firstGone ++ secondGone) :
    ¬ (firstLeft.answered secondLeft).notes.Has id := by
  rw [h.exchanged.answered.has h.received.durable]
  intro hhas
  have hlacks (havoids : second.supply.Avoids id) (hnot : ¬ firstLeft.notes.Has id) : False :=
    hnot ((h.exchanged.sent.has h.first.ready.durable).1 (h.sent_of_received havoids hhas))
  simp only [List.mem_append] at hmem
  rcases hmem with (hmem | hmem) | hmem
  · -- It has been gone since an earlier round, and ids do not come back.
    refine hlacks (h.before.second_fresh.unused id (.inr (.inr hmem))) fun hcome => ?_
    exact h.before.absent id hmem ((h.before.same id).1 (h.first.follows.has_of_avoids
      (h.before.first_fresh.unused id (.inr (.inr hmem))) hcome))
  · obtain ⟨hnot, hburied⟩ := h.first.gone id hmem
    exact hlacks ((h.before.fresh h.first.follows.supply (.refl second.supply)).2.unused id
      (accounted_of_follows_first h.first.follows (.inr hburied) second)) hnot
  · -- What the first one still has of it finds it in the trash.
    obtain ⟨hnot, hburied⟩ := h.second.gone id hmem
    have hget := h.exchanged.received.get h.second.ready.durable h.sent.durable.notes.keyed
      (h.second.fresh.unused id (.inr hburied))
    rw [Store.Has, hget, Store.not_has_iff.1 hnot, Store.contains_eq, hburied] at hhas
    cases hthere : firstLeft.sent.notes.get? id <;> simp [hthere, Sync.outcome] at hhas

/-- All that is known after a round is accounted for. -/
theorem accounted (hknown : Known (gone ++ firstGone ++ secondGone)
      (firstLeft.concluded secondLeft) (firstLeft.answered secondLeft) id) :
    Accounted gone first second (firstLeft.concluded secondLeft)
      (firstLeft.answered secondLeft) id := by
  have hlast := h.exchanged.concluded.settles.2.supply
  have hsent {id : String} (hused : firstLeft.sent.Uses id) :
      Accounted gone first second (firstLeft.concluded secondLeft)
        (firstLeft.answered secondLeft) id :=
    (h.sent_accounted hused _).leads_to hlast (.refl _)
  have hanswered {id : String} (hused : (firstLeft.answered secondLeft).Uses id) :
      Accounted gone first second (firstLeft.concluded secondLeft)
        (firstLeft.answered secondLeft) id :=
    (h.answered_accounted hused).leads_to hlast (.refl _)
  rcases hknown with hused | hused | hmem
  · obtain ⟨report, habsorbed⟩ := h.exchanged.concluded.absorbed
    rcases habsorbed.used h.sent.durable h.answered.durable.notes.keyed
      h.answered.durable.notes.storable.named h.fresh_for_answer hused with hused | hhas | hspent
    · exact hsent hused
    · exact hanswered (.inl hhas)
    · exact .inr (.inl (h.supplies.1.spends hspent))
  · exact hanswered hused
  · simp only [List.mem_append] at hmem
    rcases hmem with (hmem | hmem) | hmem
    · exact .inl (.inr (.inr hmem))
    · exact hsent ((h.exchanged.sent.uses h.first.ready.durable).2 (.inr (h.first.gone id hmem).2))
    · have hburied := (h.second.gone id hmem).2
      exact (accounted_of_follows_second h.second.follows (.inr hburied) _).leads_to (.refl _)
        (h.exchanged.received.settles.2.supply.trans h.supplies.2.2)

/-- A round leaves replicas matching. -/
theorem matched : Matched (gone ++ firstGone ++ secondGone) (firstLeft.concluded secondLeft)
    (firstLeft.answered secondLeft) := by
  obtain ⟨hsent_supply, hreceived_supply, hanswered_supply⟩ := h.supplies
  have hleft := hsent_supply.trans h.exchanged.concluded.settles.2.supply
  have hright := hreceived_supply.trans hanswered_supply
  obtain ⟨hfirst_fresh, hsecond_fresh⟩ := h.before.fresh hleft hright
  have hcapped : Both Store.Capped (firstLeft.concluded secondLeft) :=
    (take_in_keeps Store.capped_stable _).after
      ((export_keeps Store.capped_stable).after h.first.capped)
  have hsecond_capped : Both Store.Capped (firstLeft.answered secondLeft) :=
    (export_keeps Store.capped_stable).after
      ((take_in_keeps Store.capped_stable _).after h.second.capped)
  refine ⟨h.concluded, h.answered, hcapped, hsecond_capped, fun id note hfound => ?_, ?_,
    fun _ => h.same, fun _ => h.absent, hfirst_fresh.mono fun _ => h.accounted,
    hsecond_fresh.mono fun _ => h.accounted, h.before.apart.leads_to hleft hright⟩
  · rw [h.exchanged.answered.get h.received.durable, Option.map_eq_some_iff] at hfound
    obtain ⟨unstamped, -, rfl⟩ := hfound
    exact h.exchanged.answered.clocks.1.symm
  · rw [h.exchanged.concluded.clocks.2.1]
    exact Int.le_max_right _ _

/-- Both imports of a round are accepted. -/
theorem accepted (hfits : Fits firstLeft secondLeft) :
    secondLeft.Accepts (packageOf firstLeft.sent) ∧
      firstLeft.sent.Accepts (packageOf (firstLeft.answered secondLeft)) := by
  rw [h.exchanged.sent.package_of, h.exchanged.answered.package_of]
  exact ⟨(h.second.ready.accepts_iff h.sent.durable.notes.storable h.sent.durable.notes.keyed
      hfits.sent_package).2 h.exchanged.received.fresh,
    (h.sent.accepts_iff h.answered.durable.notes.storable h.answered.durable.notes.keyed
      hfits.answered_package).2 h.exchanged.concluded.fresh⟩

end Meeting

/-- However many rounds there have been, replicas match. -/
theorem Alternating.matched (h : Alternating gone first second) : Matched gone first second := by
  induction h with
  | new first second hfirst hsecond hfirst_distinct hsecond_distinct hapart =>
      exact hfirst.matched hsecond hfirst_distinct hsecond_distinct hapart
  | round gone firstGone secondGone first second firstLeft secondLeft _ hfirst hsecond hfits ih =>
      exact (ih.meet hfirst hsecond hfits).matched

/-- In every round both imports are accepted. After it both replicas have notes under the same ids,
and under none that has been deleted on either side, in this round or before. -/
theorem alternating_converges (h : Alternating gone first second)
    (hfirst : Sits first firstGone firstLeft) (hsecond : Sits second secondGone secondLeft)
    (hfits : Fits firstLeft secondLeft) :
    secondLeft.Accepts (packageOf firstLeft.sent) ∧
      firstLeft.sent.Accepts (packageOf (firstLeft.answered secondLeft)) ∧
      (∀ id, (firstLeft.concluded secondLeft).notes.Has id ↔
        (firstLeft.answered secondLeft).notes.Has id) ∧
      ∀ id ∈ gone ++ firstGone ++ secondGone, ¬ (firstLeft.concluded secondLeft).notes.Has id ∧
        ¬ (firstLeft.answered secondLeft).notes.Has id := by
  have hmeeting := h.matched.meet hfirst hsecond hfits
  obtain ⟨hreceives, hanswers⟩ := hmeeting.accepted hfits
  exact ⟨hreceives, hanswers, fun _ => hmeeting.same, fun id hmem =>
    ⟨fun hhas => hmeeting.absent hmem (hmeeting.same.1 hhas), hmeeting.absent hmem⟩⟩

/-- A replica for an example: of two notes the later one is deleted. -/
def withOneLeft : Notebook :=
  (NoteOperation.delete ["iiiii"]).perform.after
    ((NoteOperation.create { name := "Y" }).perform.after
      ((NoteOperation.create { name := "X" }).perform.after (.empty 'i')))

/-- A replica for an example: it has been opened twice. -/
def openedTwice : Notebook :=
  reopen.after (.empty 'j')

/-- What is needed of the replicas of the example: files can hold what is held all along, the later note
is the one that is deleted, and what is held in the end can be exchanged. -/
theorem samples_eq :
    (((NoteOperation.create { name := "X" }).perform.after (.empty 'i')).Storable ∧
      ((NoteOperation.create { name := "Y" }).perform.after
        ((NoteOperation.create { name := "X" }).perform.after (.empty 'i'))).Storable ∧
      withOneLeft.Storable) ∧
    (NoteOperation.delete ["iiiii"]).deletes
      ((NoteOperation.create { name := "Y" }).perform.after
        ((NoteOperation.create { name := "X" }).perform.after (.empty 'i'))) = ["iiiii"] ∧
    Stores.Fits ⟨withOneLeft.notes, withOneLeft.trash, openedTwice.notes, openedTwice.trash⟩ := by
  decide +kernel

/-- The replicas of the example are new ones at which somebody has been sitting. -/
theorem sample_sits :
    Alternating [] (.empty 'i') (.empty 'j') ∧ Sits (.empty 'i') ["iiiii"] withOneLeft ∧
      Sits (.empty 'j') [] openedTwice := by
  obtain ⟨⟨hone, htwo, hleft⟩, hdeleted, -⟩ := samples_eq
  have hfirst := Sits.work [] (.empty 'i') (.create { name := "X" }) .nothing hone
  have hsecond := Sits.work _ _ (.create { name := "Y" }) hfirst htwo
  have hthird := Sits.work _ _ (.delete ["iiiii"]) hsecond hleft
  rw [hdeleted] at hthird
  exact ⟨.new _ _ (empty_new (by decide)) (empty_new (by decide)) (empty_distinct (by decide))
    (empty_distinct (by decide)) empty_apart, hthird, .reopen _ _ .nothing⟩

/-- What the replicas of the example hold can be exchanged. -/
theorem sample_fits : Fits withOneLeft openedTwice := by
  obtain ⟨halternating, hfirst, hsecond⟩ := sample_sits
  have hmatched := halternating.matched
  have hfirst := hfirst.sat hmatched.first_ready hmatched.first_capped
    (hmatched.first_fresh.mono fun _ => .inl)
  have hsecond := hsecond.sat hmatched.second_ready hmatched.second_capped
    (hmatched.second_fresh.mono fun _ hused => .inr (.inl hused))
  have hhold : BothHold withOneLeft openedTwice
      ⟨withOneLeft.notes, withOneLeft.trash, openedTwice.notes, openedTwice.trash⟩ :=
    ⟨⟨hfirst.ready, .refl _, .refl _⟩, ⟨hsecond.ready, .refl _, .refl _⟩⟩
  exact (hhold.exchange samples_eq.2.2).1

/-- The replicas of the example end up with the same note, and the deleted one is in neither. -/
theorem alternating_converges_of_samples :
    Alternating [] (.empty 'i') (.empty 'j') ∧ Sits (.empty 'i') ["iiiii"] withOneLeft ∧
      Sits (.empty 'j') [] openedTwice ∧ Fits withOneLeft openedTwice ∧
      openedTwice.Accepts (packageOf withOneLeft.sent) ∧
      withOneLeft.sent.Accepts (packageOf (withOneLeft.answered openedTwice)) ∧
      (∀ id, (withOneLeft.concluded openedTwice).notes.Has id ↔
        (withOneLeft.answered openedTwice).notes.Has id) ∧
      ∀ id ∈ ["iiiii"], ¬ (withOneLeft.concluded openedTwice).notes.Has id ∧
        ¬ (withOneLeft.answered openedTwice).notes.Has id := by
  obtain ⟨halternating, hfirst, hsecond⟩ := sample_sits
  exact ⟨halternating, hfirst, hsecond, sample_fits,
    alternating_converges halternating hfirst hsecond sample_fits⟩

end Notebook

end Notekeeper
