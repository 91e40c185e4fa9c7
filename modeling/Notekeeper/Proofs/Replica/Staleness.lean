import Notekeeper.Proofs.Replica.Holding

/-!
# When a snapshot counts as stale

Two replicas work on their notes, publish snapshots and merge snapshots of each other in any order. A
snapshot is refused if its import clock is below the export clock of the replica that is to merge it.
The import clock is the higher one of two numbers at the last merge before the snapshot was
published: the export clock of what was merged, and the own clock of the replica that merged it. The
latter says nothing about what has been merged, so a snapshot that was made without the latest export
is accepted all the same if that clock was high enough (`Replicas.accepts_iff_not_below`).
-/

namespace Notekeeper

/-- One of two replicas. -/
inductive Side where
  | first
  | second
  deriving DecidableEq, Repr

/-- The other one of two replicas. -/
def Side.other : Side → Side
  | first => second
  | second => first

/-- A snapshot that has been published, with what its replica had merged until then. -/
structure Publication where
  package : ByteArray
  /-- The primary store as it was published. -/
  store : Store
  /-- The numbers of the publications of the other replica that had been merged. -/
  merged : List Nat
  /-- The own clock and the export clock of what was merged, at the last merge. -/
  lastMerge : Option (Int × Int)

/-- A replica with what it has published and merged. -/
structure Replica where
  notebook : Notebook
  published : List Publication := []
  /-- The numbers of the publications of the other replica that have been merged. -/
  merged : List Nat := []
  /-- The own clock and the export clock of what was merged, at the last merge. -/
  lastMerge : Option (Int × Int) := none

/-- Two replicas. -/
abbrev Replicas := Side → Replica

/-- The import clock that comes of the clocks at the last merge. -/
def importClockOf : Option (Int × Int) → Int
  | none => -1
  | some (own, theirs) => max own theirs

namespace Replica

open Notebook

/-- A replica works on its notes. -/
def work (replica : Replica) (operation : NoteOperation) : Replica :=
  { replica with notebook := operation.perform.after replica.notebook }

/-- A replica publishes a snapshot in a package. -/
def publish (replica : Replica) (package : ByteArray) : Replica :=
  let left := exportPackage.after replica.notebook
  { replica with
    notebook := left
    published :=
      replica.published ++ [⟨package, left.notes, replica.merged, replica.lastMerge⟩] }

/-- A replica merges the publication of a number, unless it is refused. -/
def takeIn (replica : Replica) (number : Nat) (publication : Publication) : Replica :=
  let left := (Notebook.takeIn publication.package).after replica.notebook
  if replica.notebook.Accepts publication.package then
    { replica with
      notebook := left
      merged := replica.merged ++ [number]
      lastMerge := some (replica.notebook.notes.clock, publication.store.exportClock) }
  else { replica with notebook := left }

end Replica

namespace Replicas

open Notebook

/-- One step of two replicas. Files can hold what is held after it, and packages what is published. -/
inductive Step : Replicas → Replicas → Prop
  | work (replicas : Replicas) (side : Side) (operation : NoteOperation)
      (hfresh : operation = .virtualFolders →
        (replicas side).notebook.notes.contains ((replicas side).notebook.supply.token 0) = false)
      (hstorable : ((replicas side).work operation).notebook.Storable) :
      Step replicas (Function.update replicas side ((replicas side).work operation))
  | publish (replicas : Replicas) (side : Side) (package : ByteArray)
      (hpackage : ((replicas side).publish package).notebook.disk.octets?
        ((replicas side).publish package).notebook.layout.packagePath = some package)
      (hstorable : ((replicas side).publish package).notebook.Storable)
      (hpackable : ((replicas side).publish package).notebook.notes.Packable) :
      Step replicas (Function.update replicas side ((replicas side).publish package))
  | merge (replicas : Replicas) (side : Side) (number : Nat) (publication : Publication)
      (hpublished : (replicas side.other).published[number]? = some publication)
      (hstorable : ((replicas side).takeIn number publication).notebook.Storable) :
      Step replicas (Function.update replicas side ((replicas side).takeIn number publication))

/-- Two replicas that have come from new ones in any number of steps. -/
inductive Reached : Replicas → Prop
  | new (notebooks : Side → Notebook) (hnew : ∀ side, New (notebooks side)) :
      Reached fun side => { notebook := notebooks side }
  | step (replicas next : Replicas) (h : Reached replicas) (hstep : Step replicas next) :
      Reached next

end Replicas

/-! ## What holds of reached replicas -/

/-- A publication is what its package brings to the other replica. -/
structure Publication.Faithful (publication : Publication) : Prop where
  package_eq : publication.package = publication.store.package
  storable : publication.store.Storable
  keyed : publication.store.Keyed
  packable : publication.store.Packable
  import_clock : publication.store.importClock = importClockOf publication.lastMerge

/-- What holds of one replica: its clocks are told by its last merge and its last publication. -/
structure Replica.Sound (replica : Replica) : Prop where
  ready : replica.notebook.Ready
  import_clock : replica.notebook.notes.importClock = importClockOf replica.lastMerge
  import_le : replica.notebook.notes.importClock ≤ replica.notebook.notes.clock
  exported : ∀ publication, replica.published.getLast? = some publication →
    replica.notebook.notes.exportClock = publication.store.exportClock
  published : ∀ publication ∈ replica.published, publication.Faithful

/-- A clock is not below the export clock of any publication that has been merged. -/
def Heeds (published : List Publication) (merged : List Nat) (clock : Int) : Prop :=
  ∀ number ∈ merged, ∃ publication, published[number]? = some publication ∧
    publication.store.exportClock ≤ clock

/-- Later publications and higher clocks change nothing about what is heeded. -/
theorem Heeds.mono {published : List Publication} {merged : List Nat} {clock later : Int}
    (h : Heeds published merged clock) (more : List Publication) (hclock : clock ≤ later) :
    Heeds (published ++ more) merged later := by
  intro number hnumber
  obtain ⟨publication, hfound, hle⟩ := h number hnumber
  obtain ⟨hlt, -⟩ := List.getElem?_eq_some_iff.1 hfound
  exact ⟨publication, (List.getElem?_append_left hlt).trans hfound, Int.le_trans hle hclock⟩

namespace Replicas

/-- What holds of two replicas: import clocks are not below the export clocks of what had been
merged. -/
structure Sound (replicas : Replicas) : Prop where
  each : ∀ side, (replicas side).Sound
  merged : ∀ side, Heeds (replicas side.other).published (replicas side).merged
    (replicas side).notebook.notes.importClock
  told : ∀ side, ∀ publication ∈ (replicas side).published,
    Heeds (replicas side.other).published publication.merged publication.store.importClock

theorem other_ne (side : Side) : side.other ≠ side := by
  cases side <;> decide

theorem other_other (side : Side) : side.other.other = side := by
  cases side <;> rfl

/-- What has to be shown for one replica when it has made a step. -/
theorem Sound.update {replicas : Replicas} (h : Sound replicas) (side : Side) {replica : Replica}
    (hsound : replica.Sound)
    (hpublished : ∃ more, replica.published = (replicas side).published ++ more)
    (hmerged : Heeds (replicas side.other).published replica.merged
      replica.notebook.notes.importClock)
    (htold : ∀ publication ∈ replica.published,
      Heeds (replicas side.other).published publication.merged publication.store.importClock) :
    Sound (Function.update replicas side replica) := by
  obtain ⟨more, hmore⟩ := hpublished
  have hother : Function.update replicas side replica side.other = replicas side.other :=
    Function.update_of_ne (other_ne side) _ _
  have hspot (spot : Side) (hne : spot ≠ side) : spot = side.other := by
    revert hne
    cases spot <;> cases side <;> decide
  refine ⟨fun spot => ?_, fun spot => ?_, fun spot publication hmem => ?_⟩
  · by_cases heq : spot = side
    · subst heq
      rw [Function.update_self]
      exact hsound
    · rw [Function.update_of_ne heq]
      exact h.each spot
  · by_cases heq : spot = side
    · subst heq
      rw [Function.update_self, hother]
      exact hmerged
    · obtain rfl := hspot spot heq
      rw [other_other, Function.update_self, hother, hmore]
      have hkept := h.merged side.other
      rw [other_other] at hkept
      exact hkept.mono more (Int.le_refl _)
  · by_cases heq : spot = side
    · subst heq
      rw [Function.update_self] at hmem
      rw [hother]
      exact htold publication hmem
    · obtain rfl := hspot spot heq
      rw [hother] at hmem
      rw [other_other, Function.update_self, hmore]
      have hkept := h.told side.other publication hmem
      rw [other_other] at hkept
      exact hkept.mono more (Int.le_refl _)

open Notebook

/-- Work keeps what holds of two replicas. -/
theorem Sound.work {replicas : Replicas} (h : Sound replicas) (side : Side)
    (operation : NoteOperation)
    (hfresh : operation = .virtualFolders →
      (replicas side).notebook.notes.contains ((replicas side).notebook.supply.token 0) = false)
    (hstorable : ((replicas side).work operation).notebook.Storable) :
    Sound (Function.update replicas side ((replicas side).work operation)) := by
  have hside := h.each side
  have hworked := operation.work hside.ready.durable hside.ready.willing hfresh
  obtain ⟨hexport, himport, hclock⟩ := hworked.clocks
  refine h.update side ⟨hside.ready.settle hworked.settles hstorable, himport.trans hside.import_clock,
    ?_, fun publication hlast => hexport.trans (hside.exported publication hlast), hside.published⟩
    ⟨[], by simp [Replica.work]⟩ ?_ (h.told side)
  · have hle := hside.import_le
    change (operation.perform.after (replicas side).notebook).notes.importClock ≤ _
    rw [himport]
    exact Int.le_trans hle hclock
  · have hmerged := h.merged side
    change Heeds _ _ (operation.perform.after (replicas side).notebook).notes.importClock
    rw [himport]
    exact hmerged

/-- A publication keeps what holds of two replicas. -/
theorem Sound.publish {replicas : Replicas} (h : Sound replicas) (side : Side) (package : ByteArray)
    (hpackage : ((replicas side).publish package).notebook.disk.octets?
      ((replicas side).publish package).notebook.layout.packagePath = some package)
    (hstorable : ((replicas side).publish package).notebook.Storable)
    (hpackable : ((replicas side).publish package).notebook.notes.Packable) :
    Sound (Function.update replicas side ((replicas side).publish package)) := by
  have hside := h.each side
  have hexported := hside.ready.export_succeeds.1
  obtain ⟨hexport, himport, hclock⟩ := hexported.clocks
  have hready := hside.ready.settle hexported.settles hstorable
  have himport_clock := himport.trans hside.import_clock
  have hfaithful : Publication.Faithful ⟨package,
      (exportPackage.after (replicas side).notebook).notes, (replicas side).merged,
      (replicas side).lastMerge⟩ :=
    ⟨Option.some.inj (hpackage.symm.trans hexported.package), hready.durable.notes.storable,
      hready.durable.notes.keyed, hpackable, himport_clock⟩
  refine h.update side ⟨hready, himport_clock, ?_, fun publication hlast => ?_,
    fun publication hmem => ?_⟩ ⟨_, rfl⟩ ?_ fun publication hmem => ?_
  · change (exportPackage.after (replicas side).notebook).notes.importClock ≤
      (exportPackage.after (replicas side).notebook).notes.clock
    rw [himport, hclock]
    exact hside.import_le
  · simp only [Replica.publish, List.getLast?_append, List.getLast?_singleton, Option.some_or,
      Option.some.injEq] at hlast
    rw [← hlast]
    rfl
  · rcases List.mem_append.1 hmem with hold | hnew
    · exact hside.published publication hold
    · rw [List.mem_singleton.1 hnew]
      exact hfaithful
  · change Heeds _ _ (exportPackage.after (replicas side).notebook).notes.importClock
    rw [himport]
    exact h.merged side
  · rcases List.mem_append.1 hmem with hold | hnew
    · exact h.told side publication hold
    · rw [List.mem_singleton.1 hnew]
      change Heeds _ _ (exportPackage.after (replicas side).notebook).notes.importClock
      rw [himport]
      exact h.merged side

/-- A merge keeps what holds of two replicas, whether it is accepted or refused. -/
theorem Sound.take_in {replicas : Replicas} (h : Sound replicas) (side : Side) (number : Nat)
    (publication : Publication)
    (hpublished : (replicas side.other).published[number]? = some publication)
    (hstorable : ((replicas side).takeIn number publication).notebook.Storable) :
    Sound (Function.update replicas side ((replicas side).takeIn number publication)) := by
  have hside := h.each side
  have hmem : publication ∈ (replicas side.other).published := List.mem_of_getElem? hpublished
  have hfaithful := (h.each side.other).published publication hmem
  have htake := hside.ready.takes_in hfaithful.storable hfaithful.keyed hfaithful.packable
  rw [← hfaithful.package_eq] at htake
  unfold Replica.takeIn at hstorable ⊢
  rcases htake with ⟨haccepts, hmerged⟩ | ⟨hfault, hrefused⟩
  · simp only [haccepts, if_true] at hstorable ⊢
    obtain ⟨hexport, himport, hclock⟩ := hmerged.clocks
    refine h.update side ⟨hside.ready.settle hmerged.settles hstorable, himport,
      Int.le_trans (Int.le_of_eq himport) hclock, fun last hlast => hexport.trans (hside.exported last hlast),
      hside.published⟩ ⟨[], by simp⟩ ?_ (h.told side)
    intro other hother
    change ∃ found, _ ∧ _ ≤ ((takeIn publication.package).after
      (replicas side).notebook).notes.importClock
    rw [himport]
    rcases List.mem_append.1 hother with hold | hnew
    · obtain ⟨found, hfound, hle⟩ := h.merged side other hold
      have hbelow := hside.import_le
      exact ⟨found, hfound, by omega⟩
    · obtain rfl := List.mem_singleton.1 hnew
      exact ⟨publication, hpublished, Int.le_max_right _ _⟩
  · have hnot : ¬ (replicas side).notebook.Accepts publication.package := by
      rw [Accepts, hfault]
      intro hnone
      cases hnone
    simp only [hnot, if_false] at hstorable ⊢
    obtain ⟨-, hclock, hexport, himport⟩ := hrefused.notes
    refine h.update side ⟨hside.ready.settle hrefused.settles hstorable,
      himport.trans hside.import_clock, ?_,
      fun last hlast => hexport.trans (hside.exported last hlast), hside.published⟩ ⟨[], by simp⟩ ?_
      (h.told side)
    · dsimp only
      rw [himport, hclock]
      exact hside.import_le
    · dsimp only
      rw [himport]
      exact h.merged side

/-- Everything that is said to hold of two replicas holds however they have come about. -/
theorem Reached.sound {replicas : Replicas} (h : Reached replicas) : Sound replicas := by
  induction h with
  | new notebooks hnew =>
      refine ⟨fun side => ?_, fun _ number hmem => ?_, fun _ publication hmem => ?_⟩
      · obtain ⟨hready, hnotes, -⟩ := (hnew side).ready
        refine ⟨hready, hnotes.import_clock, ?_, fun publication hlast => ?_,
          fun publication hmem => ?_⟩
        · dsimp only
          rw [hnotes.import_clock, hnotes.clock]
          decide
        · cases hlast
        · cases hmem
      · cases hmem
      · cases hmem
  | step replicas next _ hstep ih =>
      cases hstep with
      | work side operation hfresh hstorable => exact ih.work side operation hfresh hstorable
      | publish side package hpackage hstorable hpackable =>
          exact ih.publish side package hpackage hstorable hpackable
      | merge side number publication hpublished hstorable =>
          exact ih.take_in side number publication hpublished hstorable

/-- However two replicas have come about, a replica that has published accepts a publication of the
other one exactly if its newest export clock is not above the higher one of two numbers at the
other's last merge before the publication: the other's own clock, and the export clock of what was
merged. It accepts every publication made after its newest export had been merged; and it accepts one
made without its newest export exactly under the condition on the clocks. -/
theorem accepts_iff_not_below {replicas : Replicas} (hreached : Reached replicas) (side : Side)
    {newest : Publication} (hnewest : (replicas side).published.getLast? = some newest)
    {number : Nat} {publication : Publication}
    (hpublished : (replicas side.other).published[number]? = some publication) :
    ((replicas side).notebook.Accepts publication.package ↔
        newest.store.exportClock ≤ importClockOf publication.lastMerge) ∧
      ((replicas side).published.length - 1 ∈ publication.merged →
        (replicas side).notebook.Accepts publication.package) ∧
      (¬ ((replicas side).notebook.Accepts publication.package →
          (replicas side).published.length - 1 ∈ publication.merged) ↔
        (replicas side).published.length - 1 ∉ publication.merged ∧
          newest.store.exportClock ≤ importClockOf publication.lastMerge) := by
  have hsound := hreached.sound
  have hmem : publication ∈ (replicas side.other).published := List.mem_of_getElem? hpublished
  have hfaithful := (hsound.each side.other).published publication hmem
  have hexported := (hsound.each side).exported newest hnewest
  have haccepts : (replicas side).notebook.Accepts publication.package ↔
      newest.store.exportClock ≤ importClockOf publication.lastMerge := by
    rw [hfaithful.package_eq, (hsound.each side).ready.accepts_iff hfaithful.storable
      hfaithful.keyed hfaithful.packable, hexported, hfaithful.import_clock]
  have hheeded (hlatest : (replicas side).published.length - 1 ∈ publication.merged) :
      newest.store.exportClock ≤ importClockOf publication.lastMerge := by
    have htold := hsound.told side.other publication hmem
    rw [other_other] at htold
    obtain ⟨found, hfound, hle⟩ := htold _ hlatest
    rw [List.getLast?_eq_getElem?] at hnewest
    obtain rfl := Option.some.inj (hnewest.symm.trans hfound)
    rwa [hfaithful.import_clock] at hle
  refine ⟨haccepts, fun hlatest => haccepts.2 (hheeded hlatest), ?_⟩
  rw [haccepts]
  constructor
  · intro hnot
    by_cases hbelow : newest.store.exportClock ≤ importClockOf publication.lastMerge
    · exact ⟨fun hlatest => hnot fun _ => hlatest, hbelow⟩
    · exact absurd (fun h => absurd h hbelow) hnot
  · rintro ⟨hlatest, hbelow⟩ himplies
    exact hlatest (himplies hbelow)

/-! ## A run in which a publication without the newest export is accepted -/

variable {replicas : Replicas} {side : Side} {replica : Replica} {notes trash : Store}

/-- A replica works on its notes. -/
theorem Reached.works (h : Reached replicas) (hreplica : replicas side = replica)
    (operation : NoteOperation) (hfresh : operation ≠ .virtualFolders)
    (hstorable : (replica.work operation).notebook.Storable) :
    Reached (Function.update replicas side (replica.work operation)) := by
  subst hreplica
  exact h.step _ _ (.work replicas side operation (absurd · hfresh) hstorable)

/-- A replica publishes what it holds. -/
theorem Reached.publishes (h : Reached replicas) (hreplica : replicas side = replica)
    (hholds : replica.notebook.Holds notes trash) (hstorable : notes.exported.Storable)
    (hpackable : notes.exported.Packable) :
    Reached (Function.update replicas side (replica.publish notes.exported.package)) ∧
      (replica.publish notes.exported.package).notebook.Holds notes.exported trash := by
  subst hreplica
  obtain ⟨hleft, hpackage⟩ := hholds.exports hstorable
  exact ⟨h.step _ _ (.publish replicas side _ hpackage hleft.storable
    (hleft.notes.packable hpackable)), hleft⟩

/-- A replica merges a publication that brings it a store, if that makes no copies. -/
theorem Reached.merges (h : Reached replicas) (hreplica : replicas side = replica) {number : Nat}
    {publication : Publication}
    (hpublished : (replicas side.other).published[number]? = some publication)
    (hholds : replica.notebook.Holds notes trash) {remote : Store}
    (hpackage : publication.package = remote.package) (hremote : remote.Storable)
    (hkeyed : remote.Keyed) (hpackable : remote.Packable)
    (hfresh : notes.exportClock ≤ remote.importClock)
    (hcopies : (notes.mergedWith trash remote).report.CopiesNothing)
    (hstorable : (notes.mergedWith trash remote).locals.withDefaults.Storable ∧
      (notes.mergedWith trash remote).trash.withDefaults.Storable) :
    Reached (Function.update replicas side (replica.takeIn number publication)) ∧
      (replica.takeIn number publication).notebook.Holds
        (notes.mergedWith trash remote).locals.withDefaults
        (notes.mergedWith trash remote).trash.withDefaults ∧
      (replica.takeIn number publication).merged = replica.merged ++ [number] ∧
      (replica.takeIn number publication).published = replica.published := by
  subst hreplica
  obtain ⟨haccepts, hleft⟩ := hholds.takes_in hremote hkeyed hpackable hfresh hcopies hstorable
  rw [← hpackage] at haccepts hleft
  have htaken : (replicas side).takeIn number publication =
      { replicas side with
        notebook := (takeIn publication.package).after (replicas side).notebook
        merged := (replicas side).merged ++ [number]
        lastMerge := some ((replicas side).notebook.notes.clock, publication.store.exportClock) } :=
    if_pos haccepts
  have hstep := h.step _ _ (.merge replicas side number publication hpublished
    (by rw [htaken]; exact hleft.storable))
  refine ⟨hstep, ?_⟩
  rw [htaken]
  exact ⟨hleft, rfl, rfl⟩

/-- A publication is added to those of its replica. -/
theorem published_publish (replica : Replica) (package : ByteArray) :
    (replica.publish package).published = replica.published ++
      [⟨package, (replica.publish package).notebook.notes, replica.merged, replica.lastMerge⟩] :=
  rfl

/-- Two replicas, each on its side. -/
def pair (first second : Replica) : Replicas
  | .first => first
  | .second => second

theorem pair_first (first second : Replica) : pair first second .first = first :=
  rfl

theorem pair_second (first second : Replica) : pair first second .second = second :=
  rfl

/-- A step of the first one of two replicas. -/
theorem update_first (first second replica : Replica) :
    Function.update (pair first second) .first replica = pair replica second := by
  funext side
  cases side <;> rfl

/-- A step of the second one of two replicas. -/
theorem update_second (first second replica : Replica) :
    Function.update (pair first second) .second replica = pair first replica := by
  funext side
  cases side <;> rfl

/-- A replica for the example, with a new notebook. -/
def blank (char : Char) : Replica := { notebook := .empty char }

/-- The first replica publishes that it holds nothing. -/
def early : Replica :=
  (blank 'i').publish ({} : Store).exported.package

/-- The publication of nothing. -/
def nothing : Publication :=
  ⟨({} : Store).exported.package, early.notebook.notes, [], none⟩

/-- The first replica then creates a note. -/
def worked : Replica :=
  early.work (.create { name := "two" })

/-- The first replica publishes the note. -/
def ahead : Replica :=
  worked.publish worked.notebook.notes.exported.package

/-- The second replica has created a note and deleted it. -/
def emptied : Replica :=
  ((blank 'j').work (.create { name := "one" })).work (.delete ["j"])

/-- The second replica merges the publication of nothing. -/
def caughtUp : Replica :=
  emptied.takeIn 0 nothing

/-- The primary store of the second replica by then: its own clock has become its import clock. -/
def caughtUpNotes : Store :=
  { clock := 3, importClock := 3 }

/-- The second replica publishes that it holds nothing. -/
def behind : Replica :=
  caughtUp.publish caughtUpNotes.exported.package

/-- The publication of the second replica. -/
def outdated : Publication :=
  ⟨caughtUpNotes.exported.package, behind.notebook.notes, [0], caughtUp.lastMerge⟩

/-- The second replica has turned its clock without holding a note. -/
theorem emptied_holds :
    ((blank 'j').work (.create { name := "one" })).notebook.Storable ∧
      emptied.notebook.Holds { clock := 3 } emptied.notebook.trash := by
  have hnew : New (.empty 'j') := empty_new (by decide)
  have hready := hnew.ready.1
  have hstores : ((blank 'j').work (.create { name := "one" })).notebook.Storable ∧
      emptied.notebook.Storable ∧ emptied.notebook.notes.notes = ∅ ∧
      emptied.notebook.notes.clock = 3 ∧ emptied.notebook.notes.exportClock = -1 ∧
      emptied.notebook.notes.importClock = -1 := by
    decide +kernel
  obtain ⟨hcreated, hstorable, hnotes, hclock, hexport, himport⟩ := hstores
  have hcreate := NoteOperation.work (.create { name := "one" }) hready.durable hready.willing nofun
  have hready := hready.settle hcreate.settles hcreated
  have hdelete := NoteOperation.work (.delete ["j"]) hready.durable hready.willing nofun
  exact ⟨hcreated, hready.settle hdelete.settles hstorable, ⟨hnotes, hclock, hexport, himport⟩,
    .refl _⟩

/-- The first replica has published nothing, the second one has emptied itself. -/
theorem early_reached :
    Reached (pair early emptied) ∧ early.notebook.Holds ({} : Store).exported {} := by
  have hfirst : New (.empty 'i') := empty_new (by decide)
  have hsecond : New (.empty 'j') := empty_new (by decide)
  have hnew : Reached (pair (blank 'i') (blank 'j')) := by
    have hstart := Reached.new (fun side => (pair (blank 'i') (blank 'j') side).notebook) fun side => by
      cases side
      · exact hfirst
      · exact hsecond
    have hpair : (fun side : Side => ({ notebook := (pair (blank 'i') (blank 'j') side).notebook } :
        Replica)) = pair (blank 'i') (blank 'j') := by
      funext side
      cases side <;> rfl
    rwa [hpair] at hstart
  obtain ⟨hcreated, hdeleted⟩ := emptied_holds
  have hcreate := hnew.works (pair_second _ _) (.create { name := "one" }) nofun hcreated
  rw [update_second] at hcreate
  have hdelete := hcreate.works (pair_second _ _) (.delete ["j"]) nofun hdeleted.storable
  rw [update_second] at hdelete
  have hpublish := hdelete.publishes (pair_first _ _) hfirst.holds Store.exported_new.1
    Store.exported_new.2.1
  rw [update_first] at hpublish
  exact hpublish

/-- What the second replica holds by then can be exported, and is not older than what the first one
exports next. -/
theorem caught_up_exported :
    ({ clock := 3 } : Store).acceptImport ({} : Store).exported.exportClock = caughtUpNotes ∧
      caughtUpNotes.withDefaults = caughtUpNotes ∧ caughtUpNotes.Storable ∧
      caughtUpNotes.exported.Storable ∧ caughtUpNotes.exported.Packable ∧
      caughtUpNotes.exported.notes = ∅ ∧ 2 ≤ caughtUpNotes.exported.importClock := by
  decide +kernel

/-- A merge of nothing into nothing. -/
theorem merged_with_nothing (trash : Store) :
    ({ clock := 3 } : Store).mergedWith trash ({} : Store).exported =
      { locals := caughtUpNotes, trash := trash, supply := .tally } := by
  have hall : ({} : Store).exported.asRead.all = [] := by
    rw [Store.all, Store.exported_new.2.2.2]
    rfl
  have hids : caughtUpNotes.ids = [] := by
    simp [Store.ids, caughtUpNotes]
  simp only [Store.mergedWith, Sync.merge, hall, caught_up_exported.1, hids, List.foldl_nil]

/-- The second replica has merged the publication of nothing. -/
theorem caught_up_reached :
    Reached (pair early caughtUp) ∧
      caughtUp.notebook.Holds caughtUpNotes emptied.notebook.trash ∧ caughtUp.merged = [0] ∧
      caughtUp.published = [] := by
  obtain ⟨-, hemptied⟩ := emptied_holds
  have htrash := hemptied.storable.trash
  obtain ⟨hexported, hpackable, hnotes, -⟩ := Store.exported_new
  obtain ⟨-, hdefaults, hstorable, -⟩ := caught_up_exported
  have hpublished : (pair early emptied Side.second.other).published[0]? = some nothing := by
    rw [Side.other, pair_first, early, published_publish]
    rfl
  have hmerged := merged_with_nothing emptied.notebook.trash
  have hmerge := early_reached.1.merges (pair_second _ _) hpublished hemptied rfl hexported
    (Store.keyed_of_empty hnotes) hpackable (by decide) (by rw [hmerged]; exact ⟨rfl, rfl⟩)
    (by rw [hmerged, htrash.defaults, hdefaults]; exact ⟨hstorable, htrash⟩)
  rw [update_second, hmerged, htrash.defaults, hdefaults] at hmerge
  exact hmerge

/-- The first replica has published its note in the meantime. -/
theorem ahead_reached :
    Reached (pair ahead caughtUp) ∧ ahead.notebook.Ready ∧ ahead.notebook.notes.exportClock = 2 := by
  have hworked : worked.notebook.Storable ∧ worked.notebook.notes.clock = 2 ∧
      worked.notebook.notes.exported.Storable ∧ worked.notebook.notes.exported.Packable := by
    decide +kernel
  obtain ⟨hstorable, hclock, hexported, hpackable⟩ := hworked
  have hready := early_reached.2.ready
  have hwork := NoteOperation.work (.create { name := "two" }) hready.durable hready.willing nofun
  have hholds : worked.notebook.Holds worked.notebook.notes worked.notebook.trash :=
    ⟨hready.settle hwork.settles hstorable, .refl _, .refl _⟩
  have hcreate := caught_up_reached.1.works (pair_first _ _) (.create { name := "two" }) nofun
    hstorable
  rw [update_first] at hcreate
  have hpublish := hcreate.publishes (pair_first _ _) hholds hexported hpackable
  rw [update_first] at hpublish
  obtain ⟨hreached, hleft⟩ := hpublish
  exact ⟨hreached, hleft.ready, hleft.notes.export_clock.trans hclock⟩

/-- The second replica has published once. -/
theorem behind_reached : Reached (pair ahead behind) ∧ behind.published = [outdated] := by
  obtain ⟨-, hholds, hmerged, hpublished⟩ := caught_up_reached
  obtain ⟨-, -, -, hstorable, hpackable, -⟩ := caught_up_exported
  have hpublish := ahead_reached.1.publishes (pair_second _ _) hholds hstorable hpackable
  rw [update_second] at hpublish
  refine ⟨hpublish.1, ?_⟩
  rw [behind, published_publish, hpublished, hmerged, List.nil_append]
  rfl

/-- Whether the first replica accepts what the second one has published is told by the clocks. -/
theorem accepts_outdated_iff :
    Reached (pair ahead behind) ∧ behind.published[0]? = some outdated ∧
      ∃ newest, ahead.published.getLast? = some newest ∧
        (ahead.notebook.Accepts outdated.package ↔
          newest.store.exportClock ≤ importClockOf outdated.lastMerge) ∧
        (ahead.published.length - 1 ∈ outdated.merged →
          ahead.notebook.Accepts outdated.package) ∧
        (¬ (ahead.notebook.Accepts outdated.package →
            ahead.published.length - 1 ∈ outdated.merged) ↔
          ahead.published.length - 1 ∉ outdated.merged ∧
            newest.store.exportClock ≤ importClockOf outdated.lastMerge) := by
  obtain ⟨hreached, hpublished⟩ := behind_reached
  have hfirst : behind.published[0]? = some outdated := congrArg (·[0]?) hpublished
  have hnewest : ∃ newest, ahead.published.getLast? = some newest := by
    rw [ahead, published_publish, List.getLast?_concat]
    exact ⟨_, rfl⟩
  obtain ⟨newest, hnewest⟩ := hnewest
  have hpair_newest : (pair ahead behind .first).published.getLast? = some newest := by
    rw [pair_first]
    exact hnewest
  have hpair_first : (pair ahead behind Side.first.other).published[0]? = some outdated := by
    rw [Side.other, pair_second]
    exact hfirst
  have haccepts := accepts_iff_not_below hreached .first hpair_newest hpair_first
  rw [pair_first] at haccepts
  exact ⟨hreached, hfirst, newest, hnewest, haccepts⟩

/-- The first replica accepts what the second one has published without its newest export: the note
that is in that export has never been merged. -/
theorem accepts_without_newest :
    Reached (pair ahead behind) ∧ ahead.published.length = 2 ∧
      behind.published[0]? = some outdated ∧ ahead.notebook.Accepts outdated.package ∧
      1 ∉ outdated.merged := by
  obtain ⟨hreached, hpublished⟩ := behind_reached
  obtain ⟨-, hready, hexport⟩ := ahead_reached
  obtain ⟨-, -, -, hstorable, hpackable, hnotes, hclocks⟩ := caught_up_exported
  have hfresh : ahead.notebook.notes.exportClock ≤ caughtUpNotes.exported.importClock := by
    rw [hexport]
    exact hclocks
  have haccepts := (hready.accepts_iff hstorable (Store.keyed_of_empty hnotes) hpackable).2 hfresh
  have hlength : ahead.published.length = 2 := by
    simp [ahead, worked, early, blank, published_publish, Replica.work]
  refine ⟨hreached, hlength, congrArg (·[0]?) hpublished, haccepts, ?_⟩
  rw [outdated, List.mem_singleton]
  decide

end Replicas

end Notekeeper
