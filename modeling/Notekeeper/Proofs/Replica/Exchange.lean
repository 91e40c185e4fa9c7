import Notekeeper.Proofs.Notebook.Stable
import Notekeeper.Proofs.Replica.Holding

/-!
# Exchanges

In an exchange the first one of two replicas exports, the second one merges that and exports in turn,
and the first one merges that. No merge is refused if the second replica has exported nothing before
that the first one has not merged (`Notebook.Fits.exchanged`), and what becomes of a note that both
hold is told by its versions and stamps (`Notebook.Exchanged.get`).
-/

namespace Notekeeper

namespace Notebook

/-- The package that a notebook has put out. -/
def packageOf (notebook : Notebook) : ByteArray :=
  (notebook.disk.octets? notebook.layout.packagePath).getD .empty

/-- The first replica when it has exported. -/
def sent (first : Notebook) : Notebook :=
  exportPackage.after first

/-- The second replica when it has merged that. -/
def received (first second : Notebook) : Notebook :=
  (takeIn (packageOf first.sent)).after second

/-- The second replica when it has exported in turn. -/
def answered (first second : Notebook) : Notebook :=
  exportPackage.after (first.received second)

/-- The first replica when it has merged the answer. -/
def concluded (first second : Notebook) : Notebook :=
  (takeIn (packageOf (first.answered second))).after first.sent

/-- Files can hold what is held in the course of an exchange, and packages what is put into them. -/
structure Fits (first second : Notebook) : Prop where
  sent : first.sent.Storable
  sent_package : first.sent.notes.Packable
  received : (first.received second).Storable
  answered : (first.answered second).Storable
  answered_package : (first.answered second).notes.Packable
  concluded : (first.concluded second).Storable

variable {notebook left first second : Notebook} {id : String}

/-- Receiving and merging a package keeps what is stable. -/
theorem take_in_keeps {kept : Store → Prop} (h : Store.Stable kept) (package : ByteArray) :
    (takeIn package).Keeps (Both kept) :=
  .bind ((Operation.receive package).perform_keeps h) fun _ =>
    .bind (import_keeps h .merge) fun _ => .pure _

/-- No version of a new notebook is above its clock. -/
theorem New.capped (h : New notebook) : Both Store.Capped notebook :=
  ⟨fun id _ hfound => absurd (.inl (Store.has_of_get hfound)) (h.unused id),
    fun id _ hfound => absurd (.inr (Store.has_of_get hfound)) (h.unused id)⟩

/-- An export puts out the package of the store it leaves. -/
theorem Exported.package_of (h : Exported notebook left) : packageOf left = left.notes.package := by
  rw [packageOf, h.package, Option.getD_some]

/-- What each step of an exchange does. -/
structure Exchanged (first second : Notebook) : Prop where
  sent : Exported first first.sent
  received : Merged second first.sent.notes (first.received second)
  answered : Exported (first.received second) (first.answered second)
  concluded : Merged first.sent (first.answered second).notes (first.concluded second)

/-- No import of an exchange is refused if the second replica has exported nothing that the first one
has not merged. -/
theorem Fits.exchanged (h : Fits first second) (hfirst : first.Ready) (hsecond : second.Ready)
    (hfresh : second.notes.exportClock ≤ first.notes.importClock) :
    Exchanged first second ∧ first.sent.Ready ∧ (first.received second).Ready ∧
      (first.answered second).Ready ∧ (first.concluded second).Ready := by
  have hsent : Exported first first.sent := hfirst.export_succeeds.1
  have hsent_ready := hfirst.settle hsent.settles h.sent
  obtain ⟨hexport, himport, -⟩ := hsent.clocks
  have hreceived : Merged second first.sent.notes (first.received second) := by
    rw [Notebook.received, hsent.package_of]
    rcases hsecond.takes_in hsent_ready.durable.notes.storable hsent_ready.durable.notes.keyed
      h.sent_package with ⟨-, hmerged⟩ | ⟨-, hrefused⟩
    · exact hmerged
    · have hstale := hrefused.stale
      omega
  have hreceived_ready := hsecond.settle hreceived.settles h.received
  have hanswered : Exported (first.received second) (first.answered second) :=
    hreceived_ready.export_succeeds.1
  have hanswered_ready := hreceived_ready.settle hanswered.settles h.answered
  have hconcluded : Merged first.sent (first.answered second).notes (first.concluded second) := by
    rw [Notebook.concluded, hanswered.package_of]
    rcases hsent_ready.takes_in hanswered_ready.durable.notes.storable
      hanswered_ready.durable.notes.keyed h.answered_package with ⟨-, hmerged⟩ | ⟨-, hrefused⟩
    · exact hmerged
    · -- The second replica has just merged the export that the answer is measured by.
      have hstale := hrefused.stale
      have hreceived_clocks := hreceived.clocks.2.1
      have hanswered_clocks := hanswered.clocks.2.1
      omega
  exact ⟨⟨hsent, hreceived, hanswered, hconcluded⟩, hsent_ready, hreceived_ready, hanswered_ready,
    hsent_ready.settle hconcluded.settles h.concluded⟩

/-- A note that both replicas hold: the second one takes the copy of the first one if it has a version
above the stamp of its own, and then the first one takes what the second one holds if that has a
version above its own stamp. -/
theorem Exchanged.get (h : Exchanged first second) (hfirst : first.Ready) (hsecond : second.Ready)
    (hsent : first.sent.Ready) (hreceived : (first.received second).Ready)
    (hanswered : (first.answered second).Ready) (hfirst_avoids : first.supply.Avoids id)
    (hsecond_avoids : second.supply.Avoids id) {here there : Note}
    (hhere : first.notes.get? id = some here) (hthere : second.notes.get? id = some there) :
    ∃ chosen, chosen = (if there.exportVersion < here.version then here else there) ∧
      (∃ stamp, (first.answered second).notes.get? id =
        some { chosen with exportVersion := stamp }) ∧
      ∃ stamp, (first.concluded second).notes.get? id =
        some { if first.notes.clock < chosen.version then chosen else here with
          exportVersion := stamp } := by
  have hmeet {mine yours : Note} (hyours : yours.withDefaults = yours) (isTrashed : Bool)
      (exportClock : Int) : Sync.outcome (some mine) (some yours) isTrashed exportClock =
        some (if mine.exportVersion < yours.version then yours else mine) := by
    simp only [Sync.outcome, Sync.remoteChange, decide_eq_true_eq, hyours]
  have hdefaults {notebook : Notebook} (hready : notebook.Ready) {note : Note}
      (hfound : notebook.notes.get? id = some note) : note.withDefaults = note :=
    (hready.durable.notes.storable.notes id note hfound).with_defaults
  have hsent_get : first.sent.notes.get? id =
      some { here with exportVersion := first.notes.clock } := by
    rw [h.sent.get hfirst.durable, hhere, Option.map_some]
  have hreceived_get := h.received.get hsecond.durable hsent.durable.notes.keyed hsecond_avoids
  rw [hthere, hsent_get, hmeet (hdefaults hsent hsent_get)] at hreceived_get
  have hanswered_get := h.answered.get hreceived.durable id
  rw [hreceived_get, Option.map_some] at hanswered_get
  have hconcluded_get := h.concluded.get hsent.durable hanswered.durable.notes.keyed
    (hfirst_avoids.leads_to h.sent.settles.2.supply)
  rw [hsent_get, hanswered_get, hmeet (hdefaults hanswered hanswered_get)] at hconcluded_get
  refine ⟨_, rfl, ⟨(first.received second).notes.clock, ?_⟩, ?_⟩
  · rw [hanswered_get]
    split <;> rfl
  · rw [hconcluded_get]
    by_cases htake : there.exportVersion < here.version
    · simp only [if_pos htake]
      by_cases hback : first.notes.clock < here.version
      · exact ⟨_, by simp only [if_pos hback]; rfl⟩
      · exact ⟨_, by simp only [if_neg hback]; rfl⟩
    · simp only [if_neg htake]
      by_cases hback : first.notes.clock < there.version
      · exact ⟨_, by simp only [if_pos hback]; rfl⟩
      · exact ⟨_, by simp only [if_neg hback]; rfl⟩

/-! ## Exchanges of stores -/

/-- What two replicas hold, as stores alone. -/
structure Stores where
  firstNotes : Store
  firstTrash : Store
  secondNotes : Store
  secondTrash : Store

namespace Stores

/-- What the second replica makes of the export of the first one. -/
def received (stores : Stores) : Sync.Merging :=
  stores.secondNotes.mergedWith stores.secondTrash stores.firstNotes.exported

/-- What the second replica exports in turn. -/
def answered (stores : Stores) : Store :=
  stores.received.locals.withDefaults.exported

/-- What the first replica makes of that. -/
def concluded (stores : Stores) : Sync.Merging :=
  stores.firstNotes.exported.mergedWith stores.firstTrash stores.answered

/-- What both hold after an exchange. -/
def exchanged (stores : Stores) : Stores where
  firstNotes := stores.concluded.locals.withDefaults
  firstTrash := stores.concluded.trash.withDefaults
  secondNotes := stores.answered
  secondTrash := stores.received.trash.withDefaults

/-- Files can hold what is held in the course of an exchange that makes no copies. -/
structure Fits (stores : Stores) : Prop where
  sent : stores.firstNotes.exported.Storable ∧ stores.firstNotes.exported.Packable
  fresh : stores.secondNotes.exportClock ≤ stores.firstNotes.exported.importClock
  received : stores.received.report.CopiesNothing ∧
    stores.received.locals.withDefaults.Storable ∧ stores.received.trash.withDefaults.Storable
  answered : stores.answered.Storable ∧ stores.answered.Packable
  answer_fresh : stores.firstNotes.exported.exportClock ≤ stores.answered.importClock
  concluded : stores.concluded.report.CopiesNothing ∧
    stores.concluded.locals.withDefaults.Storable ∧ stores.concluded.trash.withDefaults.Storable

instance (stores : Stores) : Decidable stores.Fits :=
  decidable_of_iff (_ ∧ _ ∧ _ ∧ _ ∧ _ ∧ _)
    ⟨fun ⟨hsent, hfresh, hreceived, hanswered, hanswer_fresh, hconcluded⟩ =>
      ⟨hsent, hfresh, hreceived, hanswered, hanswer_fresh, hconcluded⟩,
    fun h => ⟨h.sent, h.fresh, h.received, h.answered, h.answer_fresh, h.concluded⟩⟩

end Stores

/-- Two replicas hold like stores to given ones. -/
structure BothHold (first second : Notebook) (stores : Stores) : Prop where
  first : first.Holds stores.firstNotes stores.firstTrash
  second : second.Holds stores.secondNotes stores.secondTrash

/-- An exchange can be followed on stores if it makes no copies. -/
theorem BothHold.exchange {stores : Stores} (h : BothHold first second stores)
    (hfits : stores.Fits) :
    Fits first second ∧ BothHold (first.concluded second) (first.answered second) stores.exchanged := by
  have hkeyed {notebook : Notebook} {notes trash : Store} (h : notebook.Holds notes trash) :
      notes.Keyed := by
    intro id note hfound
    rw [← h.notes.notes] at hfound
    exact h.ready.durable.notes.keyed id note hfound
  obtain ⟨hsent, hsent_package⟩ := h.first.exports hfits.sent.1
  have hsent_of : packageOf first.sent = stores.firstNotes.exported.package := by
    rw [packageOf, sent, hsent_package, Option.getD_some]
  obtain ⟨-, hreceived⟩ := h.second.takes_in hfits.sent.1 (hkeyed hsent) hfits.sent.2 hfits.fresh
    hfits.received.1 hfits.received.2
  rw [← hsent_of] at hreceived
  obtain ⟨hanswered, hanswered_package⟩ := hreceived.exports hfits.answered.1
  have hanswered_of : packageOf (first.answered second) = stores.answered.package := by
    rw [packageOf, answered, received, hanswered_package, Option.getD_some]
    rfl
  obtain ⟨-, hconcluded⟩ := hsent.takes_in hfits.answered.1 (hkeyed hanswered) hfits.answered.2
    hfits.answer_fresh hfits.concluded.1 hfits.concluded.2
  rw [← hanswered_of] at hconcluded
  exact ⟨⟨hsent.storable, hsent.notes.packable hfits.sent.2, hreceived.storable,
    hanswered.storable, hanswered.notes.packable hfits.answered.2, hconcluded.storable⟩,
    hconcluded, hanswered⟩

end Notebook

end Notekeeper
