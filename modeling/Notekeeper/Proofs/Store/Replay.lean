import Notekeeper.Proofs.Store.Change
import Notekeeper.Proofs.Store.Ending

/-!
# What the files of a store hold

Loading puts the notes that a diff file tells over those of the main file, whatever versions they have
(`Store.load_replays`). So the files hold some notes exactly if these come out of that
(`Store.files_hold_iff`), and after a save they hold the store if everything was written, or if the
main file has every note that was not touched as it is in the store (`Store.save_read_back`).
-/

namespace Notekeeper

namespace Store

/-- Loading a new store from the files at a path succeeds and gives certain notes. -/
def FilesHold (disk : Disk) (path : String) (notes : Std.ExtTreeMap String Note) : Prop :=
  ∀ supply, load.Meets ⟨{ path? := some path }, disk, supply⟩
    (fun _ left => left.store.notes = notes) fun _ _ => False

/-- What a store is found to hold when it is opened: nothing if it has no main file, and otherwise what
its files hold. -/
def Finds (disk : Disk) (path : String) (notes : Std.ExtTreeMap String Note) : Prop :=
  if disk.isFile path then FilesHold disk path notes else notes = ∅

/-- There is no diff file without a main file. -/
def Tidy (disk : Disk) (path : String) : Prop :=
  disk.octets? path = none → disk.octets? (diffPath path) = none

instance (disk : Disk) (path : String) : Decidable (Tidy disk path) :=
  inferInstanceAs (Decidable (_ → _))

/-- What the diff file beside a main file tells, if there is one. -/
inductive DiffFile (disk : Disk) (path : String) : List Note → Prop
  | absent (hnone : disk.octets? (diffPath path) = none) : DiffFile disk path []
  | emptied (hempty : disk.octets? (diffPath path) = some (Text.encode "")) : DiffFile disk path []
  | written (header : Store) (notes : List Note) (hnotes : ∀ note ∈ notes, note.Storable)
      (hexport : Decimal.InRange header.exportClock) (himport : Decimal.InRange header.importClock)
      (hoctets : disk.octets? (diffPath path) = some (Text.encode (header.textOf notes))) :
      DiffFile disk path notes

/-- A store at the path of its files, which are missing or have been written by stores that files can
hold. Its touched notes are there. -/
structure InUse (store : Store) (disk : Disk) (path : String) : Prop where
  path_eq : store.path? = some path
  keyed : store.Keyed
  touched : ∀ id ∈ store.touched, id ∈ store.notes
  main : disk.octets? path = none ∨ ∃ base, MainFile base disk path
  diff : ∃ told, DiffFile disk path told

/-- The main file has every note that is not touched as it is in the store. -/
def MainAgrees (store : Store) (disk : Disk) (path : String) : Prop :=
  ∃ base, MainFile base disk path ∧
    ∀ id : String, id ∉ store.touched → store.notes[id]? = base.notes[id]?

/-- The touched notes account for all in which a store differs from its main file, unless everything
is to be saved. -/
def Accounted (store : Store) (disk : Disk) (path : String) : Prop :=
  store.fullSaveDue = false →
    (store.notes = ∅ ∧ store.touched = ∅) ∨ store.MainAgrees disk path

variable {store base : Store} {disk later : Disk} {supply : Supply} {path : String} {told : List Note}
  {notes : Std.ExtTreeMap String Note}

/-! ## Files that stay -/

/-- A main file holds what it held as long as it stays. -/
theorem MainFile.of_same_file (h : MainFile base disk path)
    (hfile : later.octets? path = disk.octets? path) : MainFile base later path :=
  ⟨h.keyed, h.storable, hfile.trans h.octets⟩

/-- A diff file tells what it told as long as it stays. -/
theorem DiffFile.of_same_file (h : DiffFile disk path told)
    (hfile : later.octets? (diffPath path) = disk.octets? (diffPath path)) :
    DiffFile later path told := by
  cases h with
  | absent hnone => exact .absent (hfile.trans hnone)
  | emptied hempty => exact .emptied (hfile.trans hempty)
  | written header _ hnotes hexport himport hoctets =>
      exact .written header told hnotes hexport himport (hfile.trans hoctets)

/-- The main file agrees with a store as long as it stays. -/
theorem MainAgrees.of_same_file (h : store.MainAgrees disk path)
    (hfile : later.octets? path = disk.octets? path) : store.MainAgrees later path := by
  obtain ⟨base, hmain, hagrees⟩ := h
  exact ⟨base, hmain.of_same_file hfile, hagrees⟩

/-- What is in the main file as a whole agrees with it. -/
theorem MainFile.agrees (h : MainFile store disk path) : store.MainAgrees disk path :=
  ⟨store, h, fun _ _ => rfl⟩

/-- Files are tidy as long as they stay. -/
theorem Tidy.of_same_files (h : Tidy disk path) (hfile : later.octets? path = disk.octets? path)
    (hdiff : later.octets? (diffPath path) = disk.octets? (diffPath path)) : Tidy later path :=
  fun hnone => hdiff.trans (h (hfile.symm.trans hnone))

/-- Where there is a main file there may be a diff file. -/
theorem tidy_of_file (hfile : disk.isFile path = true) : Tidy disk path := by
  intro hnone
  simp [Disk.isFile, hnone] at hfile

/-- Where there is a main file, a store is found to hold what its files hold. -/
theorem finds_iff_of_file (hfile : disk.isFile path = true) :
    Finds disk path notes ↔ FilesHold disk path notes := by
  rw [Finds, if_pos hfile]

/-! ## Loading -/

/-- Reading a main file puts its notes over those of a store. -/
theorem MainFile.read (h : MainFile base disk path) (reader : Store) (supply : Supply) :
    (reader.requireFullSave.read supply base.text).1 =
      { reader with
        clock := highest reader.clock base.all
        notes := overlay reader.notes base.all
        exportClock := base.exportClock
        importClock := base.importClock
        touched := ∅
        fullSaveDue := true } := by
  rw [text, read_text_of base h.storable.mem_all h.storable.export_range h.storable.import_range]
  exact foldl_restore_eq base.all _ rfl

/-- Reading a diff file puts the notes it tells over those of a store, whatever versions they
have. -/
theorem DiffFile.read (h : DiffFile disk path told) (hfile : disk.isFile (diffPath path) = true) :
    ∃ text, (disk.octets? (diffPath path)).bind Text.decode? = some text ∧
      ∀ (reader : Store) (supply : Supply), reader.touched = ∅ →
        (reader.read supply text).1.notes = overlay reader.notes told ∧
        (reader.read supply text).1.path? = reader.path? ∧
        (reader.read supply text).1.touched = ∅ ∧
        (reader.read supply text).2.2 = told.map Note.id := by
  cases h with
  | absent hnone => simp [Disk.isFile, hnone] at hfile
  | emptied hempty =>
      refine ⟨"", ?_, fun reader supply htouched => ⟨rfl, rfl, htouched, rfl⟩⟩
      rw [hempty]
      exact Text.decode_encode ""
  | written header _ hnotes hexport himport hoctets =>
      refine ⟨header.textOf told, ?_, fun reader supply htouched => ?_⟩
      · rw [hoctets]
        exact Text.decode_encode _
      · rw [read_text_of header hnotes hexport himport, foldl_restore_eq told
          (reader.withClocks header.exportClock header.importClock) htouched]
        exact ⟨rfl, rfl, htouched, rfl⟩

/-- Reading the text at the path of a main file puts its notes over those of a store. -/
theorem MainFile.read_file_meets (h : MainFile base disk path) (reader : Store) (supply : Supply) :
    (readFile path).Meets ⟨reader.requireFullSave, disk, supply⟩
      (fun _ left => left.disk = disk ∧ left.store.notes = overlay reader.notes base.all ∧
        left.store.path? = reader.path? ∧ left.store.touched = ∅ ∧ left.store.fullSaveDue = true)
      fun _ _ => False := by
  have htext : (disk.octets? path).bind Text.decode? = some base.text := by
    rw [h.octets]
    exact Text.decode_encode _
  refine (Store.read_file_meets path _).mono (fun _ left hleft => ?_) fun _ _ hfault => ?_
  · obtain ⟨hdisk, -, text, hfound, hread⟩ := hleft
    obtain rfl := Option.some.inj (htext.symm.trans hfound)
    have hstore : left.store = _ := (congrArg Prod.fst hread).symm.trans (h.read reader supply)
    rw [hstore]
    exact ⟨hdisk, rfl, rfl, rfl, rfl⟩
  · cases htext.symm.trans hfault.2.2

/-- Reading the text at the path of a diff file puts the notes it tells over those of a store. -/
theorem DiffFile.read_file_meets (h : DiffFile disk path told)
    (hfile : disk.isFile (diffPath path) = true) {reader : Shelf} (hdisk : reader.disk = disk)
    (htouched : reader.store.touched = ∅) :
    (readFile (diffPath path)).Meets reader
      (fun ids left => left.disk = disk ∧ left.store.notes = overlay reader.store.notes told ∧
        left.store.path? = reader.store.path? ∧ left.store.touched = ∅ ∧ ids = told.map Note.id)
      fun _ _ => False := by
  obtain ⟨text, htext, hreads⟩ := h.read hfile
  refine (Store.read_file_meets (diffPath path) reader).mono (fun ids left hleft => ?_)
    fun _ _ hfault => ?_
  · obtain ⟨hlast, -, found, hfound, hread⟩ := hleft
    rw [hdisk] at hfound
    obtain rfl := Option.some.inj (htext.symm.trans hfound)
    have hstore := hreads reader.store reader.supply htouched
    rw [hread] at hstore
    exact ⟨hlast.trans hdisk, hstore⟩
  · rw [hdisk] at hfault
    cases htext.symm.trans hfault.2.2

/-- Where there is no diff file, it tells nothing. -/
theorem DiffFile.eq_nil (h : DiffFile disk path told) (hnone : disk.isFile (diffPath path) = false) :
    told = [] := by
  cases h with
  | absent => rfl
  | emptied => rfl
  | written _ _ _ _ _ hoctets => simp [Disk.isFile, hoctets] at hnone

/-- What loading leaves of a store. -/
structure Loaded (store base : Store) (disk : Disk) (path : String) (told : List Note)
    (left : Shelf) : Prop where
  disk_eq : left.disk = disk
  path_eq : left.store.path? = some path
  notes_eq : left.store.notes = overlay (overlay store.notes base.all) told
  touched : ∀ id, id ∈ left.store.touched ↔ id ∈ told.map Note.id
  due : left.store.fullSaveDue = !disk.isFile (diffPath path)

/-- Loading puts the notes of the main file over those that a store holds, and over them the notes that
the diff file tells. -/
theorem load_onto (hpath : store.path? = some path) (hmain : MainFile base disk path)
    (hdiff : DiffFile disk path told) (supply : Supply) :
    load.Meets ⟨store, disk, supply⟩ (fun _ left => store.Loaded base disk path told left)
      fun _ _ => False := by
  unfold load loadFrom
  simp only [Shelf.getStore, Shelf.change, Attempt.meets_bind, Attempt.meets_get,
    Attempt.meets_pure, Attempt.meets_modify, hpath]
  refine (hmain.read_file_meets store supply).mono (fun _ middle hmiddle => ?_) fun _ _ hfalse => hfalse
  obtain ⟨hdisk, hnotes, hkept, htouched, hdue⟩ := hmiddle
  simp only [hdisk]
  cases hfile : disk.isFile (diffPath path) with
  | true =>
      simp only [if_true, Attempt.meets_bind, Attempt.meets_modify]
      refine (hdiff.read_file_meets hfile hdisk htouched).mono (fun ids left hleft => ?_)
        fun _ _ hfalse => hfalse
      obtain ⟨hlast, hover, hsame, hnone, rfl⟩ := hleft
      refine ⟨hlast, (hsame.trans hkept).trans hpath, hover.trans (by rw [hnotes]), fun id => ?_,
        by rw [hfile]; rfl⟩
      dsimp only
      rw [hnone, Std.ExtTreeSet.mem_insertMany_list]
      simp
  | false =>
      obtain rfl := hdiff.eq_nil hfile
      exact ⟨hdisk, hkept.trans hpath, hnotes, fun id => by simp [htouched], by rw [hdue, hfile]; rfl⟩

/-- Loading a new store gives the notes that the diff file tells over those of the main file. -/
theorem load_replays (hmain : MainFile base disk path) (hdiff : DiffFile disk path told)
    (supply : Supply) :
    load.Meets ⟨{ path? := some path }, disk, supply⟩
      (fun _ left => left.store.notes = overlay base.notes told) fun _ _ => False := by
  refine (load_onto rfl hmain hdiff supply).mono (fun _ left hleft => ?_) fun _ _ hfalse => hfalse
  have hall := overlay_all hmain.keyed fun note hmem =>
    (hmain.storable.mem_all note hmem).with_defaults
  rw [hleft.notes_eq, ← hall]

/-- What the files hold is what loading a new store leaves. -/
theorem FilesHold.after (h : FilesHold disk path notes) (supply : Supply) :
    (load.after ⟨{ path? := some path }, disk, supply⟩).store.notes = notes :=
  ((h supply).mono (fun _ _ hleft => hleft) fun _ _ hfalse => hfalse.elim).after_of_both

/-- The files hold exactly the notes that the diff file tells over those of the main file. -/
theorem files_hold_iff (hmain : MainFile base disk path) (hdiff : DiffFile disk path told) :
    FilesHold disk path notes ↔ overlay base.notes told = notes := by
  constructor
  · intro hhold
    rw [← hhold.after .tally]
    exact (FilesHold.after (fun supply => load_replays hmain hdiff supply) .tally).symm
  · rintro rfl supply
    exact load_replays hmain hdiff supply

/-- Nothing is loaded without a main file. -/
theorem load_fails (hpath : store.path? = some path) (hnone : disk.octets? path = none)
    (supply : Supply) : load.Meets ⟨store, disk, supply⟩ (fun _ _ => False) fun _ _ => True := by
  unfold load loadFrom
  simp only [Shelf.getStore, Shelf.change, Attempt.meets_bind, Attempt.meets_get,
    Attempt.meets_pure, Attempt.meets_modify, hpath]
  refine (read_file_meets path _).mono (fun _ _ hleft => ?_) fun _ _ _ => trivial
  obtain ⟨-, -, text, hfound, -⟩ := hleft
  simp [hnone] at hfound

/-- The files hold nothing without a main file. -/
theorem not_files_hold (hnone : disk.octets? path = none) : ¬ FilesHold disk path notes := by
  intro hhold
  have hboth := (hhold .tally).and (load_fails rfl hnone .tally)
  exact (hboth.mono (fun _ _ hleft => hleft.2) fun _ _ hfault => hfault.1).after_of_both

/-- What the files hold is found. -/
theorem FilesHold.finds (h : FilesHold disk path notes) : Finds disk path notes := by
  refine (finds_iff_of_file ?_).2 h
  cases hfile : disk.octets? path with
  | none => exact (not_files_hold hfile h).elim
  | some octets => simp [Disk.isFile, hfile]

/-! ## Saving -/

/-- Over the main file the touched notes give the store exactly if the file has all others as they are
in the store. -/
theorem files_hold_touched_iff (hkeyed : store.Keyed) (hstorable : store.Storable)
    (htouched : ∀ id ∈ store.touched, id ∈ store.notes)
    (hmain : disk.octets? path = none ∨ ∃ base, MainFile base disk path)
    (hdiff : DiffFile disk path store.touchedNotes) :
    FilesHold disk path store.notes ↔ store.MainAgrees disk path := by
  constructor
  · intro hhold
    obtain ⟨base, hmain⟩ := hmain.resolve_left fun hnone => not_files_hold hnone hhold
    rw [files_hold_iff hmain hdiff] at hhold
    refine ⟨base, hmain, fun id hnot => ?_⟩
    have hget := get_overlay_touched hkeyed hstorable htouched base.notes id
    rwa [hhold, if_neg hnot] at hget
  · rintro ⟨base, hmain, hagrees⟩
    rw [files_hold_iff hmain hdiff]
    apply Std.ExtTreeMap.ext_getElem?
    intro id
    rw [get_overlay_touched hkeyed hstorable htouched]
    split
    · rfl
    next hnot => exact (hagrees id hnot).symm

/-- Touched notes are there with defaults too. -/
theorem InUse.touched_saved (h : store.InUse disk path) :
    ∀ id ∈ store.saved.touched, id ∈ store.saved.notes := by
  intro id hmem
  have htouched : id ∈ store.touched := by
    unfold saved at hmem
    split at hmem
    · exact hmem
    · simp [Store.settled] at hmem
  rw [store.saved_eq.2.1]
  simpa [withDefaults, editAll] using h.touched id htouched

/-- A main file that agrees with a store agrees with it also when it has been saved. -/
theorem MainAgrees.with_defaults (h : store.MainAgrees disk path) :
    store.withDefaults.MainAgrees disk path := by
  obtain ⟨base, hmain, hagrees⟩ := h
  refine ⟨base, hmain, fun id hnot => ?_⟩
  rw [get_with_defaults, hagrees id hnot]
  cases hfound : base.notes[id]? with
  | none => rfl
  | some note => simp [(hmain.storable.notes id note hfound).with_defaults]

/-- A store that is saved by its diff file is told by its main file and its touched notes, if these
account for it. -/
theorem Accounted.main_agrees (h : store.Accounted disk path) (hdiff : store.savesDiff = true) :
    store.saved.MainAgrees disk path := by
  obtain ⟨hdue, htouched⟩ := touched_of_saves_diff hdiff
  have hagrees := (h hdue).resolve_left fun hnone => htouched hnone.2
  rw [saved_of_diff hdiff]
  exact hagrees.with_defaults

/-- The main file that a save of everything writes. -/
theorem InUse.main_written (h : store.InUse disk path) (hstorable : store.saved.Storable)
    (hmain : later.octets? path = some (Text.encode store.saved.text)) :
    MainFile store.saved later path :=
  ⟨h.keyed.saved, hstorable, hmain⟩

/-- The diff file of a store that has been written tells its touched notes. -/
theorem Storable.diff_file (h : store.Storable)
    (hdiff : disk.octets? (diffPath path) = some (Text.encode store.diffText)) :
    DiffFile disk path store.touchedNotes := by
  unfold diffText at hdiff
  split at hdiff
  next hempty =>
    have htouched : store.touched = ∅ := Std.ExtTreeSet.isEmpty_iff.1 hempty
    have hnone : store.touchedNotes = [] := by simp [touchedNotes, htouched]
    rw [hnone]
    exact .emptied hdiff
  next =>
    refine .written store _ (fun note hmem => ?_) h.export_range h.import_range hdiff
    obtain ⟨id, -, hfound⟩ := List.mem_filterMap.1 hmem
    exact h.notes id note hfound

/-- A store that has been saved is in use over the files that it has left. -/
theorem InUse.saved (h : store.InUse disk path)
    (hmain : later.octets? path = disk.octets? path ∨ MainFile store.saved later path)
    (hdiff : ∃ told, DiffFile later path told) : store.saved.InUse later path := by
  refine ⟨store.saved_eq.1.trans h.path_eq, h.keyed.saved, h.touched_saved, ?_, hdiff⟩
  rcases hmain with hsame | hmain
  · exact h.main.imp (fun hnone => hsame.trans hnone) fun ⟨base, hbase⟩ =>
      ⟨base, hbase.of_same_file hsame⟩
  · exact .inr ⟨_, hmain⟩

/-- A store that has been written is in use over its files. -/
theorem InUse.written (h : store.InUse disk path) (hstorable : store.saved.Storable)
    (hwritten : store.Written disk later path) : store.saved.InUse later path := by
  refine h.saved ?_ ⟨_, hstorable.diff_file hwritten.diff⟩
  cases hdiff : store.savesDiff with
  | true => exact .inl (hwritten.main_kept hdiff)
  | false => exact .inr (h.main_written hstorable (hwritten.main_rewritten hdiff))

/-- A store whose save has failed is in use over the files that are left. -/
theorem InUse.halted (h : store.InUse disk path) (hstorable : store.saved.Storable)
    (hhalted : store.Halted disk later path) : store.saved.InUse later path := by
  obtain ⟨told, hdiff⟩ := h.diff
  cases hhalted with
  | untouched _ hmain hsame => exact h.saved (.inl hmain) ⟨told, hdiff.of_same_file hsame⟩
  | halfway _ _ hmain hsame =>
      exact h.saved (.inr (h.main_written hstorable hmain)) ⟨told, hdiff.of_same_file hsame⟩

/-- The main file that a save of a store leaves agrees with the store, if everything was saved or the
touched notes accounted for the store. -/
theorem InUse.main_agrees (h : store.InUse disk path) (hstorable : store.saved.Storable)
    (hwritten : store.Written disk later path)
    (hcase : store.savesDiff = false ∨ store.Accounted disk path) :
    store.saved.MainAgrees later path := by
  cases hdiff : store.savesDiff with
  | true =>
      have haccounted := hcase.resolve_left fun hfull => by simp [hdiff] at hfull
      exact (haccounted.main_agrees hdiff).of_same_file (hwritten.main_kept hdiff)
  | false => exact (h.main_written hstorable (hwritten.main_rewritten hdiff)).agrees

/-- After a save the files hold the store if everything was written; if the touched notes were written,
exactly if the main file has all others as they are in the store. -/
theorem InUse.save_read_back (h : store.InUse disk path) (hstorable : store.saved.Storable)
    (supply : Supply) :
    save.Meets ⟨store, disk, supply⟩
      (fun kind left =>
        (FilesHold left.disk path left.store.notes ↔
          kind = .full ∨ left.store.MainAgrees left.disk path) ∧
        (store.Accounted disk path → FilesHold left.disk path left.store.notes))
      fun fault _ => fault = .disk := by
  refine (save_ends h.path_eq disk supply).mono (fun kind left hleft => ?_) fun _ _ hfault => hfault.1
  obtain ⟨hended, rfl, -, hwritten⟩ := hleft
  have hused := h.written hstorable hwritten
  have hholds := files_hold_touched_iff hused.keyed hstorable hused.touched hused.main
    (hstorable.diff_file hwritten.diff)
  rw [hended.store_eq, hholds]
  refine ⟨⟨.inr, ?_⟩, fun haccounted => h.main_agrees hstorable hwritten (.inr haccounted)⟩
  rintro (hkind | hagrees)
  · refine h.main_agrees hstorable hwritten (.inl ?_)
    cases hdiff : store.savesDiff with
    | true => simp [saveKind, hdiff] at hkind
    | false => rfl
  · exact hagrees

/-- What a save leaves is in use, whatever its outcome. It is accounted for if the save has come to
write the main file, or was one of the touched notes of a store that was accounted for. -/
theorem InUse.save_accounts (h : store.InUse disk path) (hstorable : store.saved.Storable)
    (supply : Supply) :
    let accounts (left : Shelf) : Prop := left.store.InUse left.disk path ∧
      (left.disk.writes = disk.writes + 2 ∨ (store.savesDiff = true ∧ store.Accounted disk path) →
        left.store.Accounted left.disk path)
    save.Meets ⟨store, disk, supply⟩ (fun _ => accounts) fun _ => accounts := by
  refine (save_ends h.path_eq disk supply).mono (fun kind left hleft => ?_) fun _ left hleft => ?_
  · obtain ⟨hended, -, hwrites, hwritten⟩ := hleft
    rw [hended.store_eq]
    refine ⟨h.written hstorable hwritten, fun hcase _ => .inr ?_⟩
    refine h.main_agrees hstorable hwritten ?_
    -- a save of the touched notes makes one write, so it did not write the main file
    cases hdiff : store.savesDiff with
    | true =>
        rw [hwrites, hdiff, if_pos rfl] at hcase
        exact .inr (hcase.resolve_left fun htwo => by omega).2
    | false => exact .inl rfl
  · obtain ⟨-, hended, hhalted⟩ := hleft
    rw [hended.store_eq]
    refine ⟨h.halted hstorable hhalted, fun hcase _ => .inr ?_⟩
    cases hhalted with
    | untouched hwrites hmain _ =>
        rw [hwrites] at hcase
        obtain ⟨hdiff, haccounted⟩ := hcase.resolve_left fun htwo => by omega
        exact (haccounted.main_agrees hdiff).of_same_file hmain
    | halfway _ _ hmain _ => exact (h.main_written hstorable hmain).agrees

end Store

end Notekeeper
