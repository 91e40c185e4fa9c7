import Notekeeper.Proofs.Notebook.Absorbing
import Notekeeper.Proofs.Notebook.Covering
import Notekeeper.Proofs.Notebook.Following
import Notekeeper.Proofs.Sync.Apart

/-!
# Operations keep the primary store and the trash apart

With fresh tokens no operation puts an id into both stores that was not in both before, and none but
reopening touches what is in the trash alone (`Notebook.Proceeds`). The one exception is an import
that replaces the primary store: it does not look at the trash (`Notebook.Replaces`).
-/

namespace Notekeeper

namespace Store

variable {store : Store} {id : String}

/-- A stamp changes no id. -/
theorem has_stamp_export : store.stampExport.Has id ↔ store.Has id := by
  rw [Has, get?, get_stamp_export, Option.isSome_map, Has, get?]

/-- Equal notes are equal with defaults. -/
theorem get_defaults_congr {other : Store} (h : store.get? id = other.get? id) :
    store.withDefaults.get? id = other.withDefaults.get? id := by
  rw [get?, get_with_defaults, get?, get_with_defaults]
  exact congrArg (Option.map Note.withDefaults) h

/-- A store that has been saved has the notes that it has with defaults. -/
theorem get_saved_defaults (store : Store) (id : String) :
    store.saved.withDefaults.get? id = store.withDefaults.get? id := by
  rw [saved_with_defaults, store.alike_saved.get_eq]

end Store

namespace Notebook

/-- The two stores have been kept apart. -/
structure KeepsApart (notebook left : Notebook) : Prop where
  /-- An id that is in both stores was in both before. -/
  both : ∀ id, left.notes.Has id → left.trash.Has id →
    notebook.notes.Has id ∧ notebook.trash.Has id
  /-- What was in the trash alone is there as it was, but for defaults. -/
  alone : ∀ id, ¬ notebook.notes.Has id → notebook.trash.Has id →
    left.trash.withDefaults.get? id = notebook.trash.withDefaults.get? id

/-- What an operation leaves, whatever it has done with the stores: a notebook that covers its files
if its notes are enclosed, and in which an id is in use only if it was before, or is a token that has
been taken, or has been brought from outside. -/
structure Leaves (brought : String → Prop) (notebook left : Notebook) : Prop where
  stay : FilesStay [] notebook left
  covered : left.Enclosed → left.Covered
  named : left.trash.Named
  uses : ∀ id, left.Uses id →
    notebook.Uses id ∨ notebook.supply.Spends left.supply id ∨ brought id

/-- An operation has kept the two stores apart. -/
structure Proceeds (brought : String → Prop) (notebook left : Notebook) : Prop extends
  Leaves brought notebook left, KeepsApart notebook left

variable {notebook middle left : Notebook} {notes trash : Store} {brought : String → Prop}

theorem KeepsApart.trans (h : KeepsApart notebook middle) (hlast : KeepsApart middle left) :
    KeepsApart notebook left := by
  refine ⟨fun id hnotes htrash => ?_, fun id hnot htrash => ?_⟩
  · obtain ⟨hnotes, htrash⟩ := hlast.both id hnotes htrash
    exact h.both id hnotes htrash
  · have hsame := h.alone id hnot htrash
    have hthere : middle.trash.Has id := by
      rw [← Store.has_with_defaults, Store.Has, hsame, ← Store.Has, Store.has_with_defaults]
      exact htrash
    exact (hlast.alone id (fun hback => hnot (h.both id hback hthere).1) hthere).trans hsame

/-- The stores are kept apart if no id comes into the primary one and the trash stays. -/
theorem keeps_apart_of_same (hnotes : ∀ id, left.notes.Has id → notebook.notes.Has id)
    (htrash : ∀ id, left.trash.withDefaults.get? id = notebook.trash.withDefaults.get? id) :
    KeepsApart notebook left := by
  refine ⟨fun id hin hthere => ⟨hnotes id hin, ?_⟩, fun id _ _ => htrash id⟩
  rw [← Store.has_with_defaults, Store.Has, ← htrash, ← Store.Has, Store.has_with_defaults]
  exact hthere

/-! ## Changes -/

/-- A change keeps the stores apart, if the next token is not in use. -/
theorem Change.keeps_apart (h : Change notebook left) (hkeyed : notebook.notes.Keyed)
    (hfresh : notebook.supply.FreshFor notebook.Uses) : KeepsApart notebook left := by
  cases h with
  | add note later hid =>
      refine ⟨fun id hnotes htrash => ⟨?_, htrash⟩, fun _ _ _ => rfl⟩
      rcases Store.has_add.1 hnotes with rfl | hnotes
      · exact absurd hid.symm (hfresh.unused _ (.inr htrash) 0)
      · exact hnotes
  | revise id note edited later hfound =>
      refine ⟨fun other hnotes htrash => ⟨?_, htrash⟩, fun _ _ _ => rfl⟩
      rcases Store.has_revise.1 hnotes with rfl | hnotes
      · exact Store.has_of_get hfound
      · exact hnotes
  | discard id note hfound =>
      -- The note comes into the trash under the id that it leaves in the primary store.
      have hid : note.id = id := hkeyed id note hfound
      refine ⟨fun other hnotes htrash => ?_, fun other hnot _ => ?_⟩
      · obtain ⟨hne, hnotes⟩ := Store.has_without.1 hnotes
        exact ⟨hnotes, (Store.has_add.1 htrash).resolve_left fun heq => hne (hid.symm.trans heq)⟩
      · have hne : note.id ≠ other := by
          rintro rfl
          rw [hid] at hnot
          exact hnot (Store.has_of_get hfound)
        simp only [Store.get?, Store.get_with_defaults, Store.get_add, if_neg hne]

/-- Changes keep the stores apart, if tokens are fresh. -/
theorem Changes.keeps_apart (h : notebook.Changes left) (hkeyed : notebook.notes.Keyed)
    (hfresh : notebook.supply.FreshFor notebook.Uses) : KeepsApart notebook left := by
  induction h with
  | refl => exact keeps_apart_of_same (fun _ hhas => hhas) fun _ => rfl
  | tail hchanges hchange ih =>
      have hfollows := Changes.follows hchanges hkeyed
      refine ih.trans (hchange.keeps_apart (Changes.keyed hchanges hkeyed) ?_)
      exact (hfresh.leads_to hfollows.supply).mono fun id hused => hfollows.used hused

/-! ## What follows a save -/

/-- What is left later on. -/
theorem Leaves.after (h : Leaves brought middle left) (hstay : FilesStay [] notebook middle)
    (huses : ∀ id, middle.Uses id →
      notebook.Uses id ∨ notebook.supply.Spends middle.supply id ∨ brought id) :
    Leaves brought notebook left := by
  refine ⟨hstay.trans h.stay, h.covered, h.named, fun id hused => ?_⟩
  rcases h.uses id hused with hused | hspent | hbrought
  · rcases huses id hused with hused | hspent | hbrought
    · exact .inl hused
    · exact .inr (.inl (hspent.leads_to h.stay.supply))
    · exact .inr (.inr hbrought)
  · exact .inr (.inl (hstay.supply.spends hspent))
  · exact .inr (.inr hbrought)

/-- Where nothing happens to the stores, all goes on. -/
theorem Covered.proceeds (h : notebook.Covered) (hstays : Stays notebook left) :
    Proceeds brought notebook left := by
  have hcovered := h.of_stays hstays
  refine ⟨⟨hstays.files.mono (by simp), fun _ => hcovered, hcovered.trash.named,
    fun id hused => .inl ?_⟩, keeps_apart_of_same (fun id hhas => ?_) fun id => ?_⟩
  · rwa [Uses, hstays.notes, hstays.trash] at hused
  · rwa [← hstays.notes]
  · rw [hstays.trash]

/-- What a save leaves of stores with the ids of a notebook. -/
theorem SavedAs.leaves (h : SavedAs notebook notes trash left)
    (hcovering : Covering { notebook with notes := notes, trash := trash })
    (hnotes : ∀ id, notes.Has id → notebook.notes.Has id)
    (htrash : ∀ id, trash.Has id → notebook.trash.Has id) : Leaves brought notebook left := by
  refine ⟨h.stay, h.covered hcovering, Store.named_of_defaults h.defaults.2, fun id hused => .inl ?_⟩
  rw [Uses, h.notes_eq, h.trash_eq, Store.has_saved, Store.has_saved] at hused
  exact hused.imp (hnotes id) (htrash id)

/-- A save keeps stores apart. -/
theorem SavedAs.keeps_apart (h : SavedAs notebook notes trash left)
    (hnotes : ∀ id, notes.Has id → middle.notes.Has id)
    (htrash : ∀ id, trash.withDefaults.get? id = middle.trash.withDefaults.get? id) :
    KeepsApart middle left := by
  refine keeps_apart_of_same (fun id hhas => hnotes id ?_) fun id => ?_
  · rwa [h.notes_eq, Store.has_saved] at hhas
  · rw [h.trash_eq, Store.get_saved_defaults, htrash]

/-- After a save all goes on. -/
theorem SavedAs.proceeds (h : SavedAs notebook notebook.notes notebook.trash left)
    (hcovering : notebook.Covering) : Proceeds brought notebook left :=
  ⟨h.leaves hcovering (fun _ hhas => hhas) fun _ hhas => hhas,
    h.keeps_apart (fun _ hhas => hhas) fun _ => rfl⟩

/-! ## Operations on notes -/

/-- After changes that are saved all goes on. -/
theorem Changes.proceeds (h : notebook.Changes middle) (hcovered : notebook.Covered)
    (hfresh : notebook.supply.FreshFor notebook.Uses) (hleft : Proceeds brought middle left) :
    Proceeds brought notebook left := by
  have hkeyed := hcovered.notes.keyed
  have hfollows := h.follows hkeyed
  refine ⟨hleft.toLeaves.after h.stay fun id hused => ?_,
    (h.keeps_apart hkeyed hfresh).trans hleft.toKeepsApart⟩
  exact (hfollows.used hused).imp_right .inl

/-- Saving the primary store alone is enough as long as the trash covers its files. -/
theorem save_notes_proceeds (hcovering : notebook.Covering)
    (htrash : notebook.trash.Covered notebook.disk notebook.layout.trashPath) :
    (onNotes Store.save).Meets notebook (fun _ => Proceeds brought notebook)
      fun fault _ => notebook.DiskFault fault := by
  refine (save_notes_meets hcovering.notes.path_eq).mono (fun _ left hleft => ?_)
    fun _ _ hfault => hfault
  obtain ⟨hfiles, hnotes_eq, htrash_eq, hwritten⟩ := hleft
  refine ⟨⟨hfiles.mono (by simp), fun henclosed => ⟨?_, ?_, hfiles.has_folders hcovering.folders⟩, ?_,
    fun id hused => .inl ?_⟩, keeps_apart_of_same (fun id hhas => ?_) fun id => by rw [htrash_eq]⟩
  · rw [hnotes_eq, hfiles.layout]
    exact hwritten.covered hcovering.notes (by rw [← hnotes_eq]; exact henclosed.notes)
  · rw [htrash_eq, hfiles.layout]
    exact htrash.of_same_files (hfiles.files _ (by simp)) (hfiles.files _ (by simp))
  · rw [htrash_eq]
    exact htrash.named
  · rwa [Uses, hnotes_eq, htrash_eq, Store.has_saved] at hused
  · rwa [hnotes_eq, Store.has_saved] at hhas

/-- What has to be shown for all to go on after every operation on notes. -/
theorem Covered.settles (h : notebook.Covered) (hfresh : notebook.supply.FreshFor notebook.Uses) :
    Settles notebook (Proceeds brought notebook)
      fun fault left => notebook.DiskFault fault ∨ Proceeds brought notebook left where
  unchanged := h.proceeds (.refl notebook)
  unknown := fun _ => .inr (h.proceeds (.refl notebook))
  notes := by
    intro middle hchanges htrash
    have hstay : FilesStay notebook.layout.storeFiles notebook middle := hchanges.stay
    have hcovered : middle.trash.Covered middle.disk middle.layout.trashPath := by
      rw [htrash, hstay.layout]
      exact h.trash.of_same_files (hstay.files _ (by simp [Layout.storeFiles]))
        (hstay.files _ (by simp [Layout.storeFiles]))
    exact (save_notes_proceeds (hchanges.covering h.covering) hcovered).mono
      (fun _ _ hleft => hchanges.proceeds h hfresh hleft)
      fun _ _ hfault => .inl (hstay.disk_fault hfault)
  both := by
    intro middle hchanges
    have hstay : FilesStay notebook.layout.storeFiles notebook middle := hchanges.stay
    have hcovering := hchanges.covering h.covering
    exact (save_writes hcovering.notes.path_eq hcovering.trash.path_eq).mono
      (fun _ _ hleft => hchanges.proceeds h hfresh (hleft.2.proceeds hcovering))
      fun _ _ hfault => .inl (hstay.disk_fault hfault)

/-! ## Export -/

/-- After an export all goes on. -/
theorem Covered.exports (h : notebook.Covered) :
    exportPackage.Meets notebook (fun _ => Proceeds brought notebook)
      fun fault _ => notebook.DiskFault fault := by
  refine (export_writes h.rooted).mono (fun _ left hleft => ?_) fun _ _ hfault => hfault
  have hstamped : notebook.notes.withDefaults.stampExport.Covering notebook.disk
      notebook.layout.notesPath :=
    .of_due h.notes.path_eq h.notes.keyed.with_defaults.stamp_export rfl
  have hnotes (id : String) (hhas : notebook.notes.withDefaults.stampExport.Has id) :
      notebook.notes.Has id :=
    Store.has_with_defaults.1 (Store.has_stamp_export.1 hhas)
  exact ⟨hleft.1.leaves ⟨hstamped, h.trash.covering.with_defaults, h.folders⟩ hnotes
      fun _ hhas => Store.has_with_defaults.1 hhas,
    hleft.1.keeps_apart hnotes fun id => by rw [Store.with_defaults_idem]⟩

/-- The package holds what an export has packed. -/
theorem Covered.packs (h : notebook.Covered) (hpackable : notebook.exported.Packable)
    (hnone : exportPackage.fault? notebook = none) :
    (exportPackage.after notebook).notes = notebook.exported ∧
      (exportPackage.after notebook).Packaged notebook.exported.text := by
  obtain ⟨hsaved, hpacked⟩ := (export_writes h.rooted).after_of_none hnone
  rw [← hsaved.stay.layout] at hpacked
  exact ⟨hsaved.notes_eq, _, _, hpacked, hpackable.extract, rfl, Text.decode_encode _⟩

/-! ## Import -/

/-- An id that the snapshot in the exchange package tells. -/
def PackageTells (notebook : Notebook) (id : String) : Prop :=
  ∃ text, notebook.Packaged text ∧ id ∈ Store.told text

/-- What can be read of a snapshot has the ids that its text tells. -/
theorem has_snapshot_of {text id : String} {supply : Supply} :
    (snapshotOf text supply).Has id ↔ id ∈ Store.told text := by
  refine (Store.has_read _ supply text id).trans (or_iff_right fun hnone => ?_)
  simp [Store.Has, Store.get?, Store.requireFullSave] at hnone

/-- The stores that come of a merge are apart as those before it. -/
theorem merging_apart (h : notebook.Covered) (hfresh : notebook.supply.FreshFor notebook.Uses)
    (hunused : ∀ id, notebook.PackageTells id → notebook.supply.Avoids id) {text : String}
    (hpackage : notebook.Packaged text) {supply reading : Supply}
    (hsupply : notebook.supply.LeadsTo supply)
    (hlater : (merging notebook (snapshotOf text reading) supply).supply.LeadsTo middle.supply)
    (hnotes : middle.notes =
      (merging notebook (snapshotOf text reading) supply).locals.requireFullSave.withDefaults)
    (htrash : middle.trash =
      (merging notebook (snapshotOf text reading) supply).trash.requireFullSave.withDefaults) :
    KeepsApart notebook middle ∧ ∀ id, middle.Uses id →
      notebook.Uses id ∨ notebook.supply.Spends middle.supply id ∨ notebook.PackageTells id := by
  have htold {id : String} (hhas : (snapshotOf text reading).Has id) : notebook.PackageTells id :=
    ⟨text, hpackage, has_snapshot_of.1 hhas⟩
  obtain ⟨hkeyed, hnamed⟩ := snapshot_named text reading
  have hboth : notebook.supply.FreshFor fun id => notebook.Uses id ∨
      (snapshotOf text reading).Has id :=
    hfresh.or fun id hhas => hunused id (htold hhas)
  obtain ⟨hfresh_saved, heffect⟩ := merging_effect h.notes.keyed hkeyed hnamed hboth hsupply
  have hsaved : (notebook.notes.saved.acceptImport (snapshotOf text reading).exportClock).Keyed :=
    h.notes.keyed.saved
  have hlocal {id : String} (hhas : middle.notes.Has id) :
      (merging notebook (snapshotOf text reading) supply).locals.Has id := by
    rw [hnotes, Store.has_with_defaults] at hhas
    exact hhas
  have htrashed {id : String} (hhas : middle.trash.Has id) :
      (merging notebook (snapshotOf text reading) supply).trash.Has id := by
    rw [htrash, Store.has_with_defaults] at hhas
    exact hhas
  refine ⟨⟨fun id hin hthere => ?_, fun id hnot hthere => ?_⟩, fun id hused => ?_⟩
  · obtain ⟨hin, hthere⟩ := heffect.both hsaved hfresh_saved (hlocal hin) (htrashed hthere)
    exact ⟨Store.has_saved.1 hin, Store.has_saved.1 hthere⟩
  · have halone := heffect.trash_alone hsaved hfresh_saved
      (fun hin => hnot (Store.has_saved.1 hin)) (Store.has_saved.2 hthere)
    rw [htrash, Store.with_defaults_idem, ← Store.get_saved_defaults notebook.trash]
    exact Store.get_defaults_congr halone
  · have hused := heffect.used (hused.imp hlocal fun hhas => .inl (htrashed hhas))
    rcases hused with (hin | hthere | hremote) | hspent
    · exact .inl (.inl (Store.has_saved.1 hin))
    · exact .inl (.inr (Store.has_saved.1 hthere))
    · exact .inr (.inr (htold hremote))
    · exact .inr (.inl (hsupply.spends (hspent.leads_to hlater)))

/-- After an import that merges all goes on, with the ids that the package tells. -/
theorem Covered.merges (h : notebook.Covered) (hfresh : notebook.supply.FreshFor notebook.Uses)
    (hunused : ∀ id, notebook.PackageTells id → notebook.supply.Avoids id) :
    (importPackage .merge).Meets notebook
      (fun _ => Proceeds notebook.PackageTells notebook)
      fun fault left => notebook.DiskFault fault ∨
        Proceeds notebook.PackageTells notebook left := by
  unfold importPackage
  simp only [Attempt.meets_bind, Attempt.meets_pure]
  refine take_import_meets h.rooted .merge (fun _ _ hfault => .inl hfault)
    (fun _ _ hsaved _ => .inr (hsaved.proceeds h.covering)) fun text remotes unpacked hunpacked => ?_
  obtain ⟨reading, rfl⟩ := hunpacked.remotes
  refine (absorb_merge_meets h.rooted hunpacked).mono (fun _ merged hmerged => ?_)
    fun fault left hleft => ?_
  · obtain ⟨hdue, hstay, -, supply, hsupply, hlater, -, hnotes, htrash⟩ := hmerged
    obtain ⟨hapart, huses⟩ :=
      merging_apart h hfresh hunused hunpacked.package hsupply hlater hnotes htrash
    refine (save_writes hdue.notes_path hdue.trash_path).mono (fun _ left hleft => ?_)
      fun _ _ hfault => .inl (hstay.disk_fault hfault)
    have hproceeds : Proceeds notebook.PackageTells merged left := hleft.2.proceeds hdue.covering
    exact ⟨hproceeds.toLeaves.after hstay huses, hapart.trans hproceeds.toKeepsApart⟩
  · rcases hleft with hfault | ⟨rfl, -⟩
    · exact .inl hfault
    · exact .inr (hunpacked.saved.proceeds h.covering)

/-- An import has put a snapshot in the place of the primary store. -/
structure Replaces (notebook left : Notebook) : Prop extends
  Leaves notebook.PackageTells notebook left where
  notes : ∃ text, notebook.Packaged text ∧ ∀ id, left.notes.Has id ↔ id ∈ Store.told text
  trash : ∀ id, left.trash.withDefaults.get? id = notebook.trash.withDefaults.get? id

/-- The store of a snapshot that replaces another has the ids that its text tells. -/
theorem has_replacing {text id : String} {remotes : Store} {supply : Supply} :
    (replacing notebook text remotes supply).Has id ↔ id ∈ Store.told text := by
  refine (Store.has_read _ supply text id).trans (or_iff_right fun hnone => ?_)
  simp [Store.Has, Store.get?, Store.requireFullSave, Store.clear] at hnone

/-- What is left of a snapshot that replaces the primary store once it has been saved. -/
theorem Replaced.replaces {text : String} {remotes : Store}
    (h : Replaced notebook text remotes middle) (hcovered : notebook.Covered)
    (hpackage : notebook.Packaged text) (hsaved : SavedAs middle middle.notes middle.trash left) :
    Replaces notebook left := by
  have hnotes (id : String) : middle.notes.Has id ↔ id ∈ Store.told text := by
    obtain ⟨supply, hnotes_eq⟩ := h.notes
    rw [hnotes_eq, has_replacing]
  have htrash (id : String) :
      left.trash.withDefaults.get? id = notebook.trash.withDefaults.get? id := by
    rw [hsaved.trash_eq, Store.get_saved_defaults, h.trash, Store.get_saved_defaults]
  have hleaves : Leaves notebook.PackageTells middle left := by
    refine ⟨hsaved.stay, fun henclosed => ?_, Store.named_of_defaults hsaved.defaults.2,
      fun id hused => .inl ?_⟩
    · have htrash_saved : middle.trash.Enclosed := by
        have hsame : left.trash.all = middle.trash.all := by
          rw [Store.all, hsaved.trash_eq, middle.trash.saved_eq.2.1, h.trash,
            Store.saved_with_defaults, Store.all]
        rw [Store.Enclosed, ← hsame]
        exact henclosed.trash
      have htrash_covered : middle.trash.Covered middle.disk middle.layout.trashPath := by
        rw [h.trash] at htrash_saved ⊢
        rw [h.stay.layout]
        exact h.trash_written.covered hcovered.trash.covering htrash_saved
      exact hsaved.covered ⟨.of_due h.rooted.notes_path h.rooted.notes_keyed h.notes_due,
        htrash_covered.covering, h.rooted.folders⟩ henclosed
    · rwa [Uses, hsaved.notes_eq, hsaved.trash_eq, Store.has_saved, Store.has_saved] at hused
  refine ⟨hleaves.after h.stay fun id hused => ?_, ⟨text, hpackage, fun id => ?_⟩, htrash⟩
  · rcases hused with hhas | htrashed
    · exact .inr (.inr ⟨text, hpackage, (hnotes id).1 hhas⟩)
    · rw [h.trash, Store.has_saved] at htrashed
      exact .inl (.inr htrashed)
  · rw [hsaved.notes_eq, Store.has_saved, hnotes]

/-- A package whose snapshot cannot be taken out holds no text. -/
theorem not_packaged_of_none
    (h : ∀ octets, notebook.disk.octets? notebook.layout.packagePath = some octets →
      Package.Archive.extract? Layout.snapshotName octets = none) (text : String) :
    ¬ notebook.Packaged text := by
  rintro ⟨octets, extraction, hoctets, hextract, -⟩
  rw [h octets hoctets] at hextract
  cases hextract

/-- An import that replaces the primary store leaves the trash as it was. It fails only where the disk
does not take a file or the package holds no text, and changes nothing then. -/
theorem Covered.replaces (h : notebook.Covered) :
    (importPackage .replace).Meets notebook (fun _ => Replaces notebook)
      fun fault left => notebook.DiskFault fault ∨
        Proceeds notebook.PackageTells notebook left ∧
          (notebook.Willing → ∀ text, ¬ notebook.Packaged text) := by
  unfold importPackage
  simp only [Attempt.meets_bind, Attempt.meets_pure]
  refine take_import_meets h.rooted .replace (fun _ _ hfault => .inl hfault)
    (fun _ _ hsaved hcause => .inr ⟨hsaved.proceeds h.covering, ?_⟩)
    fun text remotes unpacked hunpacked => ?_
  · rcases hcause with ⟨-, hnot⟩ | hnone
    · exact hnot
    · exact fun _ => not_packaged_of_none hnone
  · refine (absorb_replace_meets h.rooted hunpacked).mono (fun _ replaced hreplaced => ?_)
      fun _ _ hfalse => hfalse.elim
    exact (save_writes hreplaced.rooted.notes_path hreplaced.rooted.trash_path).mono
      (fun _ _ hleft => hreplaced.replaces h hunpacked.package hleft.2)
      fun _ _ hfault => .inl (hreplaced.stay.disk_fault hfault)

end Notebook

end Notekeeper
