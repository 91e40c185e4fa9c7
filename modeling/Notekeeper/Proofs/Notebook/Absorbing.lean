import Notekeeper.Proofs.Notebook.Following
import Notekeeper.Proofs.Sync.Effect

/-!
# Merging whatever a package brings

An import takes any package whose snapshot is a text (`Notebook.Brings`) and merges what can be read
of the text as a store, unless that is stale (`Notebook.take_in_meets_any`). With tokens that are fresh
for the notes of the notebook and of the snapshot, the merge has the effect on the notebook that it
has on its stores (`Notebook.Absorbed.effect`).
-/

namespace Notekeeper

namespace Sync

/-- The effect of a merge is told by notes and export clocks alone. -/
theorem Effect.of_same {locals trash remotes otherLocals otherTrash otherRemotes : Store}
    {supply : Supply} {left other : Merging} (h : Effect locals trash remotes supply left)
    (hlocals : otherLocals.notes = locals.notes) (hclock : otherLocals.exportClock = locals.exportClock)
    (htrash : otherTrash.notes = trash.notes) (hremotes : otherRemotes.notes = remotes.notes)
    (hleft : other.locals.notes = left.locals.notes) (hleft_trash : other.trash.notes = left.trash.notes)
    (hsupply : other.supply = left.supply) (hreport : other.report = left.report) :
    Effect otherLocals otherTrash otherRemotes supply other := by
  -- No other field of the stores is looked at, so the two statements are the same.
  obtain ⟨_, _, _, _, _, _, _⟩ := locals
  obtain ⟨_, _, _, _, _, _, _⟩ := otherLocals
  obtain ⟨_, _, _, _, _, _, _⟩ := trash
  obtain ⟨_, _, _, _, _, _, _⟩ := otherTrash
  obtain ⟨_, _, _, _, _, _, _⟩ := remotes
  obtain ⟨_, _, _, _, _, _, _⟩ := otherRemotes
  obtain ⟨⟨_, _, _, _, _, _, _⟩, ⟨_, _, _, _, _, _, _⟩, _, _, _⟩ := left
  obtain ⟨⟨_, _, _, _, _, _, _⟩, ⟨_, _, _, _, _, _, _⟩, _, _, _⟩ := other
  subst hlocals hclock htrash hremotes hleft hleft_trash hsupply hreport
  exact ⟨h.tokens, h.report, h.conflicts, h.backups, h.notes, h.trash⟩

end Sync

namespace Notebook

variable {notebook left : Notebook} {remotes : Store} {report : Sync.Report}

/-- A package brings a store, as far as its snapshot can be read. -/
def Brings (package : ByteArray) (remotes : Store) : Prop :=
  ∃ extraction text reading, Package.Archive.extract? Layout.snapshotName package = some extraction ∧
    extraction.isIntact = true ∧ Text.decode? extraction.content = some text ∧
    remotes = snapshotOf text reading

/-- What can be read of a snapshot lies under its ids and has names and folders. -/
theorem snapshot_named (text : String) (reading : Supply) :
    (snapshotOf text reading).Keyed ∧ (snapshotOf text reading).Named := by
  have hnone (id : String) (note : Note) :
      ¬ (Store.requireFullSave {}).notes[id]? = some note := by
    simp [Store.requireFullSave]
  exact (Store.read_keeps (fun store => store.Keyed ∧ store.Named)
    (fun store note hstore => ⟨hstore.1.restore note, hstore.2.restore note⟩)
    (fun store _ _ hstore => hstore) (Store.requireFullSave {})
    ⟨fun id note hfound => absurd hfound (hnone id note),
      fun id note hfound => absurd hfound (hnone id note)⟩ reading text).1

/-- A package is received and merged; the report tells what the merge did. -/
def takeInReporting (package : ByteArray) : Attempt Notebook (Option Sync.Report) := do
  receive package
  importPackage .merge

/-- What is left by receiving and merging a package is the same whether the report is asked for. -/
theorem take_in_meets_iff {package : ByteArray} {success : Notebook → Prop}
    {failure : Fault → Notebook → Prop} :
    (takeIn package).Meets notebook (fun _ => success) failure ↔
      (takeInReporting package).Meets notebook (fun _ => success) failure := by
  simp only [takeIn, takeInReporting, Attempt.meets_bind, Attempt.meets_pure]

/-- An import that succeeds has merged what the exchange package brings. -/
theorem import_meets_any (h : notebook.Durable) :
    (importPackage .merge).Meets notebook
      (fun report? left => ∃ text reading report, notebook.Packaged text ∧ report? = some report ∧
        Absorbed notebook (snapshotOf text reading) report left)
      fun _ _ => True := by
  unfold importPackage
  simp only [Attempt.meets_bind, Attempt.meets_pure]
  refine take_import_meets h.kept.rooted .merge (fun _ _ _ => trivial) (fun _ _ _ _ => trivial)
    fun text remotes middle hunpacked => ?_
  refine (absorb_merge_meets h.kept.rooted hunpacked).mono (fun report? merged hmerged => ?_)
    fun _ _ _ => trivial
  obtain ⟨hdue, hstay, hcheck, supply, hsupply, hlater, hreport, hnotes, htrash⟩ := hmerged
  obtain ⟨reading, rfl⟩ := hunpacked.remotes
  refine (save_meets hdue.kept).mono (fun _ left hleft => ?_) fun _ _ _ => trivial
  obtain ⟨hfiles, hleft_notes, hleft_trash, hsettled⟩ := hleft
  refine ⟨text, reading, _, hunpacked.package, hreport,
    ⟨hsettled, hstay.trans (hfiles.mono (by simp))⟩, ?_, supply, hsupply,
    hlater.trans hfiles.supply, rfl, ?_, ?_⟩
  · have hfresh := (check_import_iff notebook.notes.saved (snapshotOf text reading)).1.1 hcheck
    rwa [(Store.saved_eq _).2.2.2.1] at hfresh
  · rw [hleft_notes, hnotes]
    exact alike_saved_due _
  · rw [hleft_trash, htrash]
    exact alike_saved_due _

/-- A package that is received and merged without a fault has been merged as the store it brings. -/
theorem take_in_meets_any (h : notebook.Durable) (package : ByteArray) :
    (takeInReporting package).Meets notebook
      (fun report? left => ∃ remotes report, Brings package remotes ∧ report? = some report ∧
        Absorbed notebook remotes report left)
      fun _ _ => True := by
  have hpath : ∀ own ∈ notebook.layout.storeFiles,
      Disk.Apart notebook.layout.packagePath own :=
    fun own hown => Layout.apart_exchange hown (by simp [Layout.exchangeFiles])
  unfold takeInReporting receive
  simp only [Attempt.meets_bind, Attempt.meets_get]
  refine (write_meets _ package hpath).mono (fun _ received hreceived => ?_) fun _ _ _ => trivial
  obtain ⟨hfiles, hnotes, htrash, hoctets⟩ := hreceived
  have hstay : FilesStay [] notebook received := hfiles.mono (by simp)
  refine (import_meets_any (h.of_files_stay hfiles hnotes htrash)).mono
    (fun report? left hleft => ?_) fun _ _ _ => trivial
  obtain ⟨text, reading, report, ⟨octets, extraction, hfound, hextract, hintact, hdecode⟩, hreport,
    ⟨hsettled, hrest⟩, hfresh, supply, hsupply, hlater, hmerged, hleft_notes, hleft_trash⟩ := hleft
  rw [hfiles.layout, hoctets, Option.some.injEq] at hfound
  subst hfound
  rw [hnotes] at hfresh
  rw [merging, hnotes, htrash] at hlater hmerged hleft_notes hleft_trash
  exact ⟨_, report, ⟨extraction, text, reading, hextract, hintact, hdecode, rfl⟩, hreport,
    ⟨hsettled, hstay.trans hrest⟩, hfresh, supply, hstay.supply.trans hsupply, hlater, hmerged,
    hleft_notes, hleft_trash⟩

/-- The merge of a snapshot has its effect on the stores as they have been saved, with tokens that are
fresh for both sides. -/
theorem merging_effect (h : notebook.notes.Keyed) (hkeyed : remotes.Keyed) (hnamed : remotes.Named)
    (hfresh : notebook.supply.FreshFor fun id => notebook.Uses id ∨ remotes.Has id)
    {supply : Supply} (hsupply : notebook.supply.LeadsTo supply) :
    supply.FreshFor (Sync.UsedIn (notebook.notes.saved.acceptImport remotes.exportClock)
        notebook.trash.saved remotes) ∧
      Sync.Effect (notebook.notes.saved.acceptImport remotes.exportClock) notebook.trash.saved remotes
        supply (merging notebook remotes supply) := by
  have hnotes_named : notebook.notes.saved.Named :=
    Store.named_of_defaults notebook.notes.saved_with_defaults
  have haccepted : (notebook.notes.saved.acceptImport remotes.exportClock).Keyed := h.saved
  have haccepted_named : (notebook.notes.saved.acceptImport remotes.exportClock).Named :=
    hnotes_named
  have hfresh_saved : supply.FreshFor (Sync.UsedIn
      (notebook.notes.saved.acceptImport remotes.exportClock) notebook.trash.saved remotes) := by
    refine (hfresh.leads_to hsupply).mono fun id hused => .inl ?_
    rcases hused with hlocal | htrashed | hremote
    · exact .inl (.inl (Store.has_saved.1 hlocal))
    · exact .inl (.inr (Store.has_saved.1 htrashed))
    · exact .inr hremote
  exact ⟨hfresh_saved, Sync.merge_effect haccepted haccepted_named hkeyed hnamed hfresh_saved⟩

/-- The effect of a merge on the stores of a notebook. -/
theorem Absorbed.effect (h : Absorbed notebook remotes report left) (hdurable : notebook.Durable)
    (hkeyed : remotes.Keyed) (hnamed : remotes.Named)
    (hfresh : notebook.supply.FreshFor fun id => notebook.Uses id ∨ remotes.Has id) :
    ∃ supply later, notebook.supply.LeadsTo supply ∧ later.LeadsTo left.supply ∧
      Sync.Effect notebook.notes notebook.trash remotes supply
        { locals := left.notes, trash := left.trash, supply := later, report := report } := by
  obtain ⟨-, -, supply, hsupply, hlater, hreport, hnotes, htrash⟩ := h
  have hlocals := hdurable.notes.storable.alike_saved.accept_import remotes.exportClock
  have hsaved_trash := hdurable.trash.storable.alike_saved
  have hnamed_saved (store : Store) : store.saved.Named :=
    Store.named_of_defaults store.saved_with_defaults
  have haccepted : (notebook.notes.saved.acceptImport remotes.exportClock).Keyed :=
    hdurable.notes.keyed.saved
  have haccepted_named : (notebook.notes.saved.acceptImport remotes.exportClock).Named :=
    hnamed_saved notebook.notes
  have hmerged := (Sync.merge_locals haccepted haccepted_named notebook.trash.saved remotes
    supply).2.1.defaults
  have hmerged_trash := (Sync.merge_trash_named
    (notebook.notes.saved.acceptImport remotes.exportClock) remotes (hnamed_saved notebook.trash)
    supply).defaults
  have heffect := (merging_effect hdurable.notes.keyed hkeyed hnamed hfresh hsupply).2
  exact ⟨supply, (merging notebook remotes supply).supply, hsupply, hlater,
    heffect.of_same hlocals.notes.symm hlocals.export_clock.symm hsaved_trash.notes.symm rfl
      (hnotes.notes.trans hmerged) (htrash.notes.trans hmerged_trash) rfl hreport⟩

/-- What becomes of the notes of a notebook in a merge. -/
theorem Absorbed.outcomes (h : Absorbed notebook remotes report left) (hdurable : notebook.Durable)
    (hkeyed : remotes.Keyed) (hnamed : remotes.Named)
    (hfresh : notebook.supply.FreshFor fun id => notebook.Uses id ∨ remotes.Has id) :
    ∃ supply, Sync.Outcomes notebook.notes notebook.trash remotes supply
      { locals := left.notes, trash := left.trash, supply := left.supply, report := report } := by
  obtain ⟨supply, later, hsupply, -, heffect⟩ := h.effect hdurable hkeyed hnamed hfresh
  have hused (id : String) : Sync.UsedIn notebook.notes notebook.trash remotes id →
      notebook.Uses id ∨ remotes.Has id := or_assoc.2
  have houtcomes := heffect.outcomes hdurable.notes.keyed hkeyed hnamed
    ((hfresh.leads_to hsupply).mono fun id hid => .inl (hused id hid))
  -- The outcomes tell nothing of the supply that is left.
  refine ⟨supply, ?_⟩
  cases houtcomes
  constructor <;> assumption

/-- An id in use after a merge was in use before it on either side, or is a token taken for a copy. -/
theorem Absorbed.used (h : Absorbed notebook remotes report left) (hdurable : notebook.Durable)
    (hkeyed : remotes.Keyed) (hnamed : remotes.Named)
    (hfresh : notebook.supply.FreshFor fun id => notebook.Uses id ∨ remotes.Has id) {id : String}
    (hused : left.Uses id) :
    notebook.Uses id ∨ remotes.Has id ∨ notebook.supply.Spends left.supply id := by
  obtain ⟨supply, later, hsupply, hlater, heffect⟩ := h.effect hdurable hkeyed hnamed hfresh
  have hused : Sync.UsedIn left.notes left.trash remotes id := hused.imp_right .inl
  rcases heffect.used hused with (hlocal | htrashed | hremote) | hspent
  · exact .inl (.inl hlocal)
  · exact .inl (.inr htrashed)
  · exact .inr (.inl hremote)
  · exact .inr (.inr (hsupply.spends (hspent.leads_to hlater)))

/-- Tokens that are fresh before a merge are fresh after it, also for what has come into use. -/
theorem Absorbed.fresh_after (h : Absorbed notebook remotes report left)
    (hdurable : notebook.Durable) (hkeyed : remotes.Keyed) (hnamed : remotes.Named)
    {others : String → Prop}
    (hfresh : notebook.supply.FreshFor fun id => notebook.Uses id ∨ others id)
    (hremotes : ∀ id, remotes.Has id → notebook.supply.Avoids id) :
    left.supply.FreshFor fun id => left.Uses id ∨ others id := by
  have hboth : notebook.supply.FreshFor fun id => notebook.Uses id ∨ remotes.Has id :=
    (hfresh.mono fun _ hused => .inl hused).or hremotes
  refine ((hfresh.or hremotes).leads_to h.settles.2.supply).mono fun id hused => ?_
  rcases hused with hused | hother
  · rcases h.used hdurable hkeyed hnamed hboth hused with hused | hremote | hspent
    · exact .inl (.inl (.inl hused))
    · exact .inl (.inr hremote)
    · exact .inr hspent
  · exact .inl (.inl (.inr hother))

/-- The package of a store brings it as it is read. -/
theorem brings_package {remote : Store} (h : remote.Storable) (hkeyed : remote.Keyed)
    (hpackable : remote.Packable) {remotes : Store} (hbrings : Brings remote.package remotes) :
    remotes = remote.asRead := by
  obtain ⟨extraction, text, reading, hextract, -, hdecode, rfl⟩ := hbrings
  rw [hpackable.extract, Option.some.injEq] at hextract
  subst hextract
  rw [Text.decode_encode, Option.some.injEq] at hdecode
  subst hdecode
  exact snapshot_of_text h hkeyed reading

/-- What a package brings lies under its ids and has names and folders. -/
theorem Brings.named {package : ByteArray} (h : Brings package remotes) :
    remotes.Keyed ∧ remotes.Named := by
  obtain ⟨-, text, reading, -, -, -, rfl⟩ := h
  exact snapshot_named text reading

end Notebook

end Notekeeper
