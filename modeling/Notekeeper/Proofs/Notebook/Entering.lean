import Notekeeper.Proofs.Note.Entered
import Notekeeper.Proofs.Notebook.LocalChange

/-!
# Whether what was entered is read back

A note that a user has entered values for is in the store before it is in a file, and a file holds
what its record tells. `Notebook.entered_read_back` says for every way of entering values, and for
all values, whether the note is read back as it was left. It is after `create` and `update` unless
the share token has a space in it, after `addTag` if the tag is a trimmed word without commas, and
after `moveTo` if the folder is on a single line.
-/

namespace Notekeeper

/-- The note is read back from its record exactly under a condition, as long as its body keeps within
its frame and its versions are those of a clock. -/
def Note.ReadBackIff (note : Note) (condition : Prop) : Prop :=
  note.Framed → Decimal.InRange note.version → Decimal.InRange note.exportVersion →
    ∀ blank, Note.ofRecord? blank note.record = some note ↔ condition

/-- A note is read back exactly under the condition under which its fields fit. -/
theorem Note.read_back_iff_of_fits {note : Note} {condition : Prop}
    (h : note.Fits ↔ condition) : note.ReadBackIff condition :=
  fun hframed hversion hexport blank =>
    (of_record_iff_fits hframed hversion hexport blank).trans h

/-- Defaults that are given before a version are those that are given after it. -/
theorem Note.with_defaults_version (note : Note) (version : Int) :
    ({ note.withDefaults with version := version } : Note).withDefaults =
      ({ note with version := version } : Note).withDefaults := by
  exact congrArg (fun kept => { kept with version := version }) note.with_defaults_idem

/-- A note of a store has its defaults when the store has been saved. -/
theorem Store.get_saved {store : Store} {id : String} {note : Note}
    (h : store.get? id = some note) : store.saved.get? id = some note.withDefaults := by
  rw [get?, (saved_eq store).2.1, get_with_defaults, ← get?, h]
  rfl

namespace Notebook

variable {notebook : Notebook}

/-! ## What is left of the note -/

/-- A note that is created is what the input makes of a new note. -/
theorem create_leaves (input : NoteInput) :
    (create input).Meets notebook
      (fun id left => ∃ version, left.notes.get? id =
        some ({ (input.applyTo (Note.blank notebook.supply) notebook.supply.afterBlank).1
          with version := version } : Note).withDefaults)
      fun _ _ => True := by
  unfold Notebook.create
  simp only [changeNotes, onNotes, Attempt.meets_bind, Attempt.meets_modify_get,
    Attempt.meets_modify, Attempt.meets_pure, Attempt.meets_within]
  refine (Store.save_leaves _).mono (fun _ shelf hshelf => ?_) fun _ _ _ => trivial
  obtain ⟨note, hnote⟩ : ∃ note,
      (input.applyTo (Note.blank notebook.supply) notebook.supply.afterBlank).1 = note := ⟨_, rfl⟩
  rw [hnote] at hshelf ⊢
  have hadded := notebook.notes.get_add note note.id
  rw [if_pos rfl] at hadded
  rw [hshelf, Store.get_saved hadded, Note.with_defaults_version]
  exact ⟨_, rfl⟩

/-- A note that is updated is what the input makes of it. -/
theorem update_leaves (id : String) (input : NoteInput) :
    (update id input).Meets notebook
      (fun _ left => ∃ note moment version, notebook.notes.get? id = some note ∧
        left.notes.get? id =
          some ({ (input.applyTo note notebook.supply).1 with
            changed := Moment.timestamp moment, version := version } : Note).withDefaults)
      fun _ _ => True := by
  unfold Notebook.update
  simp only [Attempt.meets_bind, Attempt.meets_get, Attempt.meets_of_except, find, store]
  cases hfound : notebook.notes.get? id with
  | none => trivial
  | some note =>
      simp only [look, touch, changeNotes, onNotes, Attempt.meets_bind, Attempt.meets_modify_get,
        Attempt.meets_modify, Attempt.meets_get, Attempt.meets_of_except, Store.touch_edit hfound,
        Attempt.meets_pure, Attempt.meets_within]
      refine (Store.save_leaves _).mono (fun _ shelf hshelf => ?_) fun _ _ _ => trivial
      refine ⟨note, (input.applyTo note notebook.supply).2.now, ?_⟩
      generalize input.applyTo note notebook.supply = applied at hshelf ⊢
      have hrevised := notebook.notes.get_revise id
        { applied.1 with changed := applied.2.now.timestamp } id
      rw [if_pos rfl] at hrevised
      exact ⟨_, rfl, by rw [hshelf, Store.get_saved hrevised]⟩

/-- Notes that are edited one after the other: those that are named are edited, however often, and
the others stay. -/
theorem edit_each_leaves (edit : Note → Note)
    (hagain : ∀ note version, edit { edit note with version := version } =
      { edit note with version := version }) (ids : List String) :
    (ids.forM (editOne fun note => (edit note, true))).Meets notebook
      (fun _ left => ∀ id, (id ∉ ids → left.notes.get? id = notebook.notes.get? id) ∧
        ∀ note, notebook.notes.get? id = some note → id ∈ ids →
          ∃ version, left.notes.get? id = some { edit note with version := version })
      fun _ _ => False := by
  induction ids generalizing notebook with
  | nil => exact fun id => ⟨fun _ => rfl, fun _ _ hmem => absurd hmem List.not_mem_nil⟩
  | cons first ids ih =>
      change Attempt.Meets (editOne _ first >>= fun _ => ids.forM _) notebook _ _
      simp only [Attempt.meets_bind, editOne, Attempt.meets_get]
      cases hfound : notebook.notes.get? first with
      | none =>
          refine ih.mono (fun _ left hleft id => ?_) fun _ _ hfalse => hfalse
          refine ⟨fun hnot => (hleft id).1 fun hmem => hnot (List.mem_cons_of_mem _ hmem),
            fun note hnote hmem => (hleft id).2 note hnote ?_⟩
          refine (List.mem_cons.1 hmem).resolve_left fun heq => ?_
          rw [heq, hfound] at hnote
          cases hnote
      | some note =>
          simp only [changeNotes, touch, if_true, Attempt.meets_bind, Attempt.meets_modify,
            Attempt.meets_get, Attempt.meets_of_except, Store.touch_edit hfound]
          refine ih.mono (fun _ left hleft id => ?_) fun _ _ hfalse => hfalse
          have hrevised := notebook.notes.get_revise first (edit note) id
          by_cases hid : first = id
          · subst hid
            rw [if_pos rfl] at hrevised
            refine ⟨fun hnot => absurd (List.mem_cons_self) hnot, fun found hsome _ => ?_⟩
            obtain rfl := Option.some.inj (hfound.symm.trans hsome)
            by_cases hmem : first ∈ ids
            · -- The note is named again, and edited once more.
              obtain ⟨version, hagain_left⟩ := (hleft first).2 _ hrevised hmem
              exact ⟨version, by rw [hagain_left, hagain]⟩
            · exact ⟨_, ((hleft first).1 hmem).trans hrevised⟩
          · rw [if_neg hid] at hrevised
            refine ⟨fun hnot => ?_, fun found hsome hmem => ?_⟩
            · exact ((hleft id).1 fun hmem => hnot (List.mem_cons_of_mem _ hmem)).trans hrevised
            · exact (hleft id).2 found (hrevised.trans hsome)
                ((List.mem_cons.1 hmem).resolve_left (Ne.symm hid))

/-- Notes that are edited are what the edit makes of them. -/
theorem edit_leaves (edit : Note → Note)
    (hagain : ∀ note version, edit { edit note with version := version } =
      { edit note with version := version }) (ids : List String) :
    (editEach ids fun note => (edit note, true)).Meets notebook
      (fun _ left => ∀ id ∈ ids, ∃ note version, notebook.notes.get? id = some note ∧
        left.notes.get? id = some ({ edit note with version := version } : Note).withDefaults)
      fun _ _ => True := by
  unfold Notebook.editEach
  simp only [Attempt.meets_bind]
  refine (check_ids_meets ids).mono (fun _ left hleft => ?_) fun _ _ _ => trivial
  obtain ⟨rfl, hthere⟩ := hleft
  refine (edit_each_leaves edit hagain ids).mono (fun _ middle hmiddle => ?_)
    fun _ _ hfalse => hfalse.elim
  simp only [onNotes, Attempt.meets_within, Attempt.meets_pure]
  refine (Store.save_leaves _).mono (fun _ shelf hshelf id hmem => ?_) fun _ _ _ => trivial
  have hcontains := hthere id hmem
  rw [Store.contains_eq, Option.isSome_iff_exists] at hcontains
  obtain ⟨note, hfound⟩ := hcontains
  obtain ⟨version, hedited⟩ := (hmiddle id).2 note hfound hmem
  exact ⟨note, version, hfound, by rw [hshelf, Store.get_saved hedited]⟩

/-! ## Whether it is read back -/

/-- In a notebook whose notes fit, and whatever was entered: a note that was created or updated is
read back as it was left exactly if no share token with a space in it was honoured, a tagged note
exactly if the tag is a trimmed word without commas, and a moved note exactly if its folder is on a
single line. Its body keeps within its frame, and tokens are words. -/
theorem entered_read_back
    (hfits : ∀ id note, notebook.notes.get? id = some note → note.Fits)
    (hwords : ∀ ahead, Text.IsWord (notebook.supply.token ahead)) :
    (∀ input, (create input).Meets notebook
      (fun id left => ∃ note, left.notes.get? id = some note ∧
        note.ReadBackIff (Note.isSafeShareToken (Text.singleLine input.shareToken) = true →
          ' ' ∉ (Text.singleLine input.shareToken).toList))
      fun _ _ => True) ∧
    (∀ id input, (update id input).Meets notebook
      (fun _ left => ∃ note, left.notes.get? id = some note ∧
        note.ReadBackIff (Note.isSafeShareToken (Text.singleLine input.shareToken) = true →
          ' ' ∉ (Text.singleLine input.shareToken).toList))
      fun _ _ => True) ∧
    (∀ ids tag, (addTag ids tag).Meets notebook
      (fun _ left => ∀ id ∈ ids, ∃ note, left.notes.get? id = some note ∧
        note.ReadBackIff (tag ≠ "" ∧ Text.singleLine tag = tag ∧ ',' ∉ tag.toList))
      fun _ _ => True) ∧
    (∀ ids folder, (moveTo ids folder).Meets notebook
      (fun _ left => ∀ id ∈ ids, ∃ note, left.notes.get? id = some note ∧
        note.ReadBackIff (Text.singleLine folder = folder))
      fun _ _ => True) := by
  refine ⟨fun input => ?_, fun id input => ?_, fun ids tag => ?_, fun ids folder => ?_⟩
  · refine (create_leaves input).mono (fun id left hleft => ?_) fun _ _ _ => trivial
    obtain ⟨version, hnote⟩ := hleft
    have hanchored : NoteInput.Anchored (Note.blank notebook.supply) :=
      ⟨hwords 0, (hwords 2).word, (hwords 2).line, Moment.single_line_timestamp _⟩
    exact ⟨_, hnote, Note.read_back_iff_of_fits (input.apply_to_fits_iff hanchored (hwords 3)
      (Moment.single_line_timestamp notebook.supply.now) version)⟩
  · refine (update_leaves id input).mono (fun _ left hleft => ?_) fun _ _ _ => trivial
    obtain ⟨note, moment, version, hfound, hnote⟩ := hleft
    have hanchored := NoteInput.anchored_of_fits (hfits id note hfound)
    exact ⟨_, hnote, Note.read_back_iff_of_fits (input.apply_to_fits_iff hanchored (hwords 0)
      (Moment.single_line_timestamp moment) version)⟩
  · have hagain (note : Note) : (note.tags.insert tag).insert tag = note.tags.insert tag := by
      apply Std.ExtTreeSet.ext_mem
      simp
    refine (edit_leaves (fun note => { note with tags := note.tags.insert tag })
      (fun note _ => by simp only [hagain]) ids).mono (fun _ left hleft id hmem => ?_)
      fun _ _ _ => trivial
    obtain ⟨note, version, hfound, hnote⟩ := hleft id hmem
    have hbefore := hfits id note hfound
    have hdefaults : ({ note with tags := note.tags.insert tag, version := version } :
        Note).withDefaults = { note with tags := note.tags.insert tag, version := version } :=
      Note.with_defaults_of_ne hbefore.name_ne hbefore.folder_ne
    exact ⟨_, hnote.trans (congrArg some hdefaults),
      Note.read_back_iff_of_fits (hbefore.insert_tag_iff tag version)⟩
  · refine (edit_leaves (fun note => { note with folder := folder }) (fun _ _ => rfl) ids).mono
      (fun _ left hleft id hmem => ?_) fun _ _ _ => trivial
    obtain ⟨note, version, hfound, hnote⟩ := hleft id hmem
    exact ⟨_, hnote, Note.read_back_iff_of_fits ((hfits id note hfound).folder_iff folder version)⟩

/-- Strokes are words, also those of a supply from which more have been taken. -/
theorem is_word_of_strokes {char : Char} (h : Text.isBlank char = false) {later : Supply}
    (hlater : (Supply.strokes char).LeadsTo later) (ahead : Nat) : Text.IsWord (later.token ahead) := by
  rw [hlater.token]
  generalize later.tokensTaken - (Supply.strokes char).tokensTaken + ahead = count
  have hblank (other : Char) (hmem : other ∈ ((Supply.strokes char).token count).toList) :
      Text.isBlank other = false := by
    obtain rfl : other = char := by simpa [Supply.token, Supply.strokes] using hmem
    exact h
  exact ⟨by simp [Supply.token, Supply.strokes], fun hspace => absurd (hblank ' ' hspace) (by decide),
    Text.single_line_of_no_blank hblank⟩

/-- What is needed of the notebook for an example: the note can be created and be given a tag with a
comma in it, and then no file can hold it. -/
theorem created_once_tagged :
    openStores.fault? (unread (.inFolder "notes") .empty .tally) = none ∧
      Performs (openStores.after (unread (.inFolder "notes") .empty .tally))
        [.note (.create { name := "one" })] ∧
      createdOnce.notes.Storable ∧ (addTag ["i"] "a,b").fault? createdOnce = none ∧
      ∀ found ∈ [((addTag ["i"] "a,b").after createdOnce).notes.get? "i"],
        found.any (fun note => decide (note.Framed ∧ ¬ note.Storable)) = true := by
  decide +kernel

/-- The tokens that the notebook for an example still draws are words. -/
theorem created_once_words (ahead : Nat) : Text.IsWord (createdOnce.supply.token ahead) := by
  obtain ⟨hopens, hperforms, -⟩ := created_once_tagged
  have hcreated := (Run.opened hopens).performed_all (by simp) hperforms
  rw [List.foldl_cons, List.foldl_nil] at hcreated
  exact is_word_of_strokes (by decide) (hcreated.leads_to (by decide +kernel)) ahead

/-- A tag with a comma in it is added to a note, which is read back exactly if it has no comma. -/
theorem entered_read_back_of_comma :
    (∀ id note, createdOnce.notes.get? id = some note → note.Fits) ∧
      (∀ ahead, Text.IsWord (createdOnce.supply.token ahead)) ∧
      (addTag ["i"] "a,b").fault? createdOnce = none ∧
      (addTag ["i"] "a,b").Meets createdOnce
        (fun _ left => ∀ id ∈ ["i"], ∃ note, left.notes.get? id = some note ∧
          note.ReadBackIff ("a,b" ≠ "" ∧ Text.singleLine "a,b" = "a,b" ∧ ',' ∉ "a,b".toList))
        fun _ _ => True := by
  obtain ⟨-, -, hstorable, htags, -⟩ := created_once_tagged
  have hfits (id : String) (note : Note) (hfound : createdOnce.notes.get? id = some note) :
      note.Fits :=
    (hstorable.notes id note hfound).fits
  exact ⟨hfits, created_once_words, htags,
    (entered_read_back hfits created_once_words).2.2.1 ["i"] "a,b"⟩

/-- A tag with a comma in it is added to a note, which is not read back: its record tells two tags. -/
theorem comma_tag_not_read_back :
    Reached (.inFolder "notes") .empty .tally createdOnce ∧
      (addTag ["i"] "a,b").Meets createdOnce
        (fun _ left => ∃ note, left.notes.get? "i" = some note ∧ note.Framed ∧
          ∀ blank, Note.ofRecord? blank note.record ≠ some note)
        fun _ _ => False := by
  refine ⟨.performed _ _ .opened, ?_⟩
  obtain ⟨-, -, -, hfault, hdecided⟩ := created_once_tagged
  have hleft : ∃ note, ((addTag ["i"] "a,b").after createdOnce).notes.get? "i" = some note ∧
      note.Framed ∧ ¬ note.Storable := by
    have hany := hdecided _ (List.mem_singleton_self _)
    rw [Option.any_eq_true] at hany
    obtain ⟨note, hfound, hnote⟩ := hany
    exact ⟨note, hfound, of_decide_eq_true hnote⟩
  refine Attempt.meets_iff.2 ?_
  rw [hfault]
  obtain ⟨note, hfound, hframed, hnot⟩ := hleft
  exact ⟨note, hfound, hframed, fun blank hread => hnot ((Note.of_record_iff blank).1 hread)⟩

end Notebook

end Notekeeper
