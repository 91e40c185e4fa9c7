import Notekeeper.Proofs.Store.Agreement

/-!
# Saves that are interrupted

A save of everything writes the main file and then empties the diff file. Between the two the diff file
still tells the notes that were touched at the save before, and loading puts them over the new main
file. So a store that is loaded from the files of a save that stopped there has every note that was
touched then as it was then, and every other note as it was to be saved (`Store.interrupted_save_holds`).
-/

namespace Notekeeper

namespace Store

/-- Any number of changes that mark what is to be saved. -/
def Changes : Store → Store → Prop :=
  Relation.ReflTransGen Change

variable {store now : Store} {disk later : Disk} {path : String}
  {notes : Std.ExtTreeMap String Note}

/-- Changes keep a store in use and accounted for. -/
theorem Changes.kept (h : Changes store now) (hused : store.InUse disk path)
    (haccounted : store.Accounted disk path) : now.InUse disk path ∧ now.Accounted disk path := by
  induction h with
  | refl => exact ⟨hused, haccounted⟩
  | tail _ hchange ih => exact ⟨ih.1.change hchange, ih.2.change hchange⟩

/-- The files of a saved store hold it. -/
theorem Saved.files_hold (h : store.Saved disk path) (hfile : disk.isFile path = true) :
    FilesHold disk path store.notes := by
  have hdiff := h.diff_file (tidy_of_file hfile)
  obtain ⟨base, -, -, hmain, hdiffers⟩ := h.read_files hfile
  exact (files_hold_iff hmain hdiff).2 (overlay_touched_notes h.keyed h.storable hdiffers)

/-- A saved store is found to hold what it holds. -/
theorem Saved.finds (h : store.Saved disk path) : Finds disk path store.notes := by
  unfold Finds
  split
  next hfile => exact h.files_hold hfile
  next hfile =>
    cases h.files with
    | unwritten hnotes => exact hnotes
    | written base hmain => simp [Disk.isFile, hmain.octets] at hfile

/-- Notes that are mixed out of two stores: those that were touched at the last save of one are as they
were in it, and the others as they are in the other. -/
def Mixes (store now : Store) (notes : Std.ExtTreeMap String Note) : Prop :=
  ∀ id : String, notes[id]? = if id ∈ store.touched then store.notes[id]? else now.notes[id]?

/-- Mixed notes are those of the first store if the other differs from it in touched notes alone. -/
theorem Mixes.eq_first_iff (h : Mixes store now notes) :
    notes = store.notes ↔ ∀ id : String, id ∉ store.touched → now.notes[id]? = store.notes[id]? := by
  constructor
  · rintro rfl id hnot
    rw [h id, if_neg hnot]
  · intro hsame
    apply Std.ExtTreeMap.ext_getElem?
    intro id
    rw [h id]
    split
    · rfl
    next hnot => exact hsame id hnot

/-- Mixed notes are those of the second store if it has every touched note as it was. -/
theorem Mixes.eq_second_iff (h : Mixes store now notes) :
    notes = now.notes ↔ ∀ id ∈ store.touched, now.notes[id]? = store.notes[id]? := by
  constructor
  · rintro rfl id htouched
    rw [h id, if_pos htouched]
  · intro hsame
    apply Std.ExtTreeMap.ext_getElem?
    intro id
    rw [h id]
    split
    next htouched => exact (hsame id htouched).symm
    · rfl

/-- The new main file under the old diff file holds a mixture. -/
theorem Saved.mixed (h : store.Saved disk path) (htidy : Tidy disk path)
    (hmain : MainFile now later path)
    (hdiff : later.octets? (diffPath path) = disk.octets? (diffPath path)) :
    ∃ notes, Mixes store now notes ∧ ∀ others, FilesHold later path others ↔ notes = others := by
  have htold := (h.diff_file htidy).of_same_file hdiff
  have htouched := (h.in_use htidy).touched
  exact ⟨_, get_overlay_touched h.keyed h.storable htouched now.notes,
    fun others => files_hold_iff hmain htold⟩

/-- What the files hold when a store that was saved and then changed is saved again, wherever the disk
gives out. -/
theorem Saved.save_holds (h : store.Saved disk path) (htidy : Tidy disk path)
    (hchanges : Changes store now) (hstorable : now.saved.Storable) (supply : Supply) :
    save.Meets ⟨now, disk, supply⟩
      (fun _ left => FilesHold left.disk path now.saved.notes)
      fun fault left => fault = .disk ∧
        (left.disk.writes = disk.writes + 1 ∧ left.disk.isFile path = disk.isFile path ∧
            store.Saved left.disk path ∨
          left.disk.writes = disk.writes + 2 ∧ now.savesDiff = false ∧
          ∃ notes, Mixes store now.saved notes ∧
            ∀ others, FilesHold left.disk path others ↔ notes = others) := by
  obtain ⟨hused, haccounted⟩ := hchanges.kept (h.in_use htidy) h.accounted
  have hends := save_ends hused.path_eq disk supply
  refine (hends.and (hused.save_read_back hstorable supply)).mono (fun _ left hleft => ?_)
    fun _ left hleft => ?_
  · obtain ⟨⟨hended, -⟩, -, hholds⟩ := hleft
    rw [← hended.store_eq]
    exact hholds haccounted
  · obtain ⟨⟨hfault, -, hhalted⟩, -⟩ := hleft
    refine ⟨hfault, ?_⟩
    cases hhalted with
    | untouched hwrites hmain hdiff =>
        exact .inl ⟨hwrites, by rw [Disk.isFile, hmain, Disk.isFile], h.of_same_files hmain hdiff⟩
    | halfway hwhole hwrites hmain hdiff =>
        exact .inr ⟨hwrites, hwhole, h.mixed htidy (hused.main_written hstorable hmain) hdiff⟩

/-- What is found, wherever the disk gives out, of a store that was saved, then changed and saved
again. -/
theorem Saved.save_finds (h : store.Saved disk path) (htidy : Tidy disk path)
    (hchanges : Changes store now) (supply : Supply) :
    save.Meets ⟨now, disk, supply⟩
      (fun _ left => now.Ended disk supply path left ∧
        left.disk.writes = disk.writes + (if now.savesDiff then 1 else 2) ∧
        now.Written disk left.disk path)
      fun fault left => fault = .disk ∧ now.Ended disk supply path left ∧
        (now.saved.Storable → ∃ notes, Finds left.disk path notes ∧
          (left.disk.writes = disk.writes + 1 ∧ notes = store.notes ∨
            left.disk.writes = disk.writes + 2 ∧ Mixes store now.saved notes)) := by
  have hused := (hchanges.kept (h.in_use htidy) h.accounted).1
  have hholds := Attempt.Meets.imp fun hstorable => h.save_holds htidy hchanges hstorable supply
  refine ((save_ends hused.path_eq disk supply).and hholds).mono
    (fun _ _ hleft => ⟨hleft.1.1, hleft.1.2.2⟩) fun _ left hleft => ?_
  obtain ⟨⟨hfault, hended, -⟩, hholds⟩ := hleft
  refine ⟨hfault, hended, fun hstorable => ?_⟩
  rcases (hholds hstorable).2 with ⟨hwrites, -, hsaved⟩ | ⟨hwrites, -, notes, hmixes, hholds⟩
  · exact ⟨store.notes, hsaved.finds, .inl ⟨hwrites, rfl⟩⟩
  · exact ⟨notes, ((hholds notes).2 rfl).finds, .inr ⟨hwrites, hmixes⟩⟩

/-- A saved store is changed and saved again. If the save succeeds, the files hold what was to be saved.
If the disk gives out at the first write, they hold what they held before. If it gives out at the
second, or the process ends between the two, they hold a mixture: every note that was touched at the
last save is as it was then, so that it comes back or falls back, and every other note is as it was to
be saved. That is what was to be saved exactly if every touched note is still there as it was. -/
theorem interrupted_save_holds (h : store.Saved disk path) (hfile : disk.isFile path = true)
    (hchanges : Changes store now) (hstorable : now.saved.Storable) (supply : Supply) :
    save.Meets ⟨now, disk, supply⟩
      (fun _ left => FilesHold left.disk path now.saved.notes)
      fun fault left => fault = .disk ∧
        (left.disk.writes = disk.writes + 1 ∧ FilesHold left.disk path store.notes ∨
          left.disk.writes = disk.writes + 2 ∧ now.savesDiff = false ∧
          (∃ notes, Mixes store now.saved notes ∧ FilesHold left.disk path notes) ∧
          (FilesHold left.disk path now.saved.notes ↔
            ∀ id ∈ store.touched, now.saved.notes[id]? = store.notes[id]?) ∧
          (FilesHold left.disk path store.notes ↔
            ∀ id : String, id ∉ store.touched → now.saved.notes[id]? = store.notes[id]?)) := by
  refine (h.save_holds (tidy_of_file hfile) hchanges hstorable supply).mono (fun _ _ hleft => hleft)
    fun _ left hleft => ⟨hleft.1, ?_⟩
  rcases hleft.2 with ⟨hwrites, hstays, hsaved⟩ | ⟨hwrites, hwhole, notes, hmixes, hholds⟩
  · exact .inl ⟨hwrites, hsaved.files_hold (hstays.trans hfile)⟩
  · refine .inr ⟨hwrites, hwhole, ⟨notes, hmixes, (hholds notes).2 rfl⟩, ?_, ?_⟩
    · rw [hholds, hmixes.eq_second_iff]
    · rw [hholds, hmixes.eq_first_iff]

/-! ## A note that comes back -/

/-- A shelf for examples, whose disk refuses the fifth write: two notes have been added. -/
def addedBoth : Shelf :=
  ⟨(add { path? := some "notes" } { Note.blank .tally with name := "one" }).add otherNote,
    { Disk.empty with refuses := (· == 4) }, .tally⟩

/-- The shelf for examples after both notes have been saved and one of them has been edited. -/
def editedOne : Shelf :=
  { save.after addedBoth with
    store := (save.after addedBoth).store.revise "i" { editedNote with version := 2 } }

/-- The shelf for examples when both notes have been taken out, before that is saved. -/
def removedBoth : Shelf :=
  { save.after editedOne with store := ((save.after editedOne).store.without "i").without "j" }

/-- What happens to the shelves for examples: two notes are saved, then the edit of one of them alone,
and the save of what is left when both have been taken out fails at its second write. -/
theorem examples_interrupted :
    (save.fault? addedBoth = none ∧ addedBoth.store.saved.Storable ∧
        ((save.after addedBoth).store.get? "i").map Note.version = some 2) ∧
      (save.fault? editedOne = none ∧ editedOne.store.saved.Storable ∧
        ((save.after editedOne).store.Has "i" ∧ (save.after editedOne).store.Has "j") ∧
        "i" ∈ (save.after editedOne).store.touched ∧
        ¬ "j" ∈ (save.after editedOne).store.touched ∧
        (save.after editedOne).disk.isFile "notes" = true) ∧
      save.fault? removedBoth = some .disk ∧ removedBoth.store.saved.Storable ∧
        (save.after removedBoth).disk.writes ≠ removedBoth.disk.writes + 1 ∧
        ¬ removedBoth.store.saved.Has "i" ∧ ¬ removedBoth.store.saved.Has "j" := by
  decide +kernel

/-- The edited note is in the diff file of the shelf for examples. -/
theorem saved_edit : (save.after editedOne).store.Saved (save.after editedOne).disk "notes" := by
  obtain ⟨⟨hadds, hadded_storable, hversion⟩, ⟨hedits, hedited_storable, -⟩, -⟩ :=
    examples_interrupted
  have hadded : addedBoth.store.Tracked addedBoth.disk "notes" :=
    .of_due rfl (((keyed_of_empty rfl).add _).add _) rfl
  have hsaved := hadded.saved_after hadds hadded_storable
  obtain ⟨note, hfound, hversion⟩ := Option.map_eq_some_iff.1 hversion
  have hedited : editedOne.store.Tracked editedOne.disk "notes" :=
    hsaved.tracked.revise hfound (hsaved.keyed "i" note hfound).symm hversion.symm
  exact hedited.saved_after hedits hedited_storable

/-- Both notes are taken out one after the other. -/
theorem removed_both : Changes (save.after editedOne).store removedBoth.store := by
  obtain ⟨-, ⟨-, -, ⟨hone, hother⟩, -⟩, -⟩ := examples_interrupted
  obtain ⟨first, hfirst⟩ := has_iff.1 hone
  obtain ⟨second, hsecond⟩ := has_iff.1 (has_without.2 ⟨by decide, hother⟩ :
    ((save.after editedOne).store.without "i").Has "j")
  exact .tail (.single (.remove _ "i" first _ (remove_eq hfirst)))
    (.remove _ "j" second _ (remove_eq hsecond))

/-- When the save of the removal stops after the main file, the files hold a mixture. -/
theorem interrupted_removal_holds :
    save.fault? removedBoth = some .disk ∧
      ∃ notes, Mixes (save.after editedOne).store removedBoth.store.saved notes ∧
        FilesHold (save.after removedBoth).disk "notes" notes := by
  obtain ⟨-, ⟨-, -, -, -, -, hfile⟩, hfails, hstorable, htwo, -⟩ := examples_interrupted
  have hleft := (interrupted_save_holds saved_edit hfile removed_both hstorable
    removedBoth.supply).after_of_some hfails
  exact ⟨hfails, (hleft.2.resolve_left fun hone => htwo hone.1).2.2.1⟩

/-- When the save of the removal stops after the main file, the note that had been edited comes back
and the other does not: the files hold neither what was saved last nor what was to be saved. -/
theorem removed_note_comes_back :
    (save.after editedOne).store.Saved (save.after editedOne).disk "notes" ∧
      Changes (save.after editedOne).store removedBoth.store ∧ removedBoth.store.saved.Storable ∧
      save.fault? removedBoth = some .disk ∧
      ¬ FilesHold (save.after removedBoth).disk "notes" (save.after editedOne).store.notes ∧
      ¬ FilesHold (save.after removedBoth).disk "notes" removedBoth.store.saved.notes := by
  obtain ⟨-, ⟨-, -, hthere, htouched, huntouched, hfile⟩, hfails, hstorable, htwo, hgone⟩ :=
    examples_interrupted
  have htidy := tidy_of_file hfile
  have hused := (removed_both.kept (saved_edit.in_use htidy) saved_edit.accounted).1
  refine ⟨saved_edit, removed_both, hstorable, hfails, ?_⟩
  have hhalted := (save_halts hused.path_eq hfails).2
  cases hhalted with
  | untouched hwrites => exact absurd hwrites htwo
  | halfway _ _ hmain hdiff =>
      obtain ⟨notes, hmixes, hholds⟩ :=
        saved_edit.mixed htidy (hused.main_written hstorable hmain) hdiff
      rw [hholds, hholds, hmixes.eq_first_iff, hmixes.eq_second_iff]
      constructor
      · intro hsame
        have hother := hsame "j" huntouched
        exact hgone.2 (by rw [Has, get?, hother]; exact hthere.2)
      · intro hsame
        have hedited := hsame "i" htouched
        exact hgone.1 (by rw [Has, get?, hedited]; exact hthere.1)

end Store

end Notekeeper
