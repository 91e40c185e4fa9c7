import Notekeeper.Note.Input
import Notekeeper.Proofs.Calendar.Writing
import Notekeeper.Proofs.Note.Bullets
import Notekeeper.Proofs.Note.RoundTrip
import Notekeeper.Proofs.Store.Basic

/-!
# Entered values

What users enter for a note is brought into a form that the record of the note can hold: single-line
values, tags without commas, bodies without carriage returns, dates from the clock. `Note.Fits` says
so of all fields of a note but the frame of its body and the range of its versions. Three values are
not brought into that form on every way in: a share token with a space in it, a tag that is added on
its own, and a folder into which a note is moved (`NoteInput.apply_to_fits_iff`,
`Note.Fits.insert_tag_iff`, `Note.Fits.folder_iff`).
-/

namespace Notekeeper

/-- What the fields of a note need so that its record keeps them, the frame of the body and the range
of the versions aside. -/
structure Note.Fits (note : Note) : Prop where
  id_ne : note.id ≠ ""
  name_ne : note.name ≠ ""
  folder_ne : note.folder ≠ ""
  id_word : ' ' ∉ note.id.toList
  token_word : ' ' ∉ note.shareToken.toList
  delimiter_word : ' ' ∉ note.delimiter.toList
  lines : ∀ text ∈ [note.id, note.name, note.folder, note.created, note.changed, note.due,
    note.shareToken, note.delimiter], Text.singleLine text = text
  tags : ∀ tag ∈ note.tags, tag ≠ "" ∧ Text.singleLine tag = tag ∧ ',' ∉ tag.toList
  /-- No line of the body ends in a carriage return. -/
  body_return : ∀ line ∈ Text.splitAt '\n' note.body, line.toList.getLast? ≠ some '\r'

/-- No line of the body of a note begins with the two words of the line that ends it. -/
def Note.Framed (note : Note) : Prop :=
  ∀ line ∈ Text.splitAt '\n' note.body,
    (Text.splitAt ' ' line).take 2 ≠ [Record.bodyClosing, note.delimiter]

instance (note : Note) : Decidable note.Framed :=
  inferInstanceAs (Decidable (∀ line ∈ _, _))

/-- A text on a single line that is not empty and has no space. -/
structure Text.IsWord (text : String) : Prop where
  ne : text ≠ ""
  word : ' ' ∉ text.toList
  line : singleLine text = text

namespace Note

variable {note : Note}

/-- The fields of a storable note fit. -/
theorem Storable.fits (h : note.Storable) : note.Fits :=
  ⟨h.id_ne, h.name_ne, h.folder_ne, h.id_word, h.token_word, h.delimiter_word, h.lines,
    fun tag hmem => h.tags tag (Std.ExtTreeSet.mem_toList.2 hmem), h.body_return⟩

/-- A note whose body keeps within its frame, and whose versions are those of a clock, is read back
exactly if its fields fit. -/
theorem of_record_iff_fits (hframed : note.Framed) (hversion : Decimal.InRange note.version)
    (hexport : Decimal.InRange note.exportVersion) (blank : Note) :
    ofRecord? blank note.record = some note ↔ note.Fits := by
  rw [of_record_iff]
  refine ⟨Storable.fits, fun h => ?_⟩
  exact ⟨h.id_ne, h.name_ne, h.folder_ne, h.id_word, h.token_word, h.delimiter_word, h.lines,
    fun tag hmem => h.tags tag (Std.ExtTreeSet.mem_toList.1 hmem), h.body_return, hframed, hversion,
    hexport⟩

/-- A note with another tag, under any version, fits exactly if the tag does. -/
theorem Fits.insert_tag_iff (h : note.Fits) (tag : String) (version : Int) :
    ({ note with tags := note.tags.insert tag, version := version } : Note).Fits ↔
      tag ≠ "" ∧ Text.singleLine tag = tag ∧ ',' ∉ tag.toList := by
  constructor
  · intro hfits
    exact hfits.tags tag Std.ExtTreeSet.mem_insert_self
  · intro htag
    refine ⟨h.id_ne, h.name_ne, h.folder_ne, h.id_word, h.token_word, h.delimiter_word, h.lines,
      fun other hmem => ?_, h.body_return⟩
    rcases Std.ExtTreeSet.mem_insert.1 hmem with heq | hmem
    · obtain rfl : tag = other := by simpa using heq
      exact htag
    · exact h.tags other hmem

/-- A note in another folder, under any version and with a default for no folder at all, fits exactly
if the folder is on a single line. -/
theorem Fits.folder_iff (h : note.Fits) (folder : String) (version : Int) :
    ({ note with folder := folder, version := version } : Note).withDefaults.Fits ↔
      Text.singleLine folder = folder := by
  have hname : ({ note with folder := folder, version := version } : Note).nameOrDefault =
      note.name := by
    simp [nameOrDefault, h.name_ne]
  have hdefault : Text.singleLine (if folder.isEmpty then defaultFolder else folder) =
      (if folder.isEmpty then defaultFolder else folder) ↔ Text.singleLine folder = folder := by
    by_cases hempty : folder = ""
    · subst hempty
      decide
    · simp [hempty]
  constructor
  · intro hfits
    exact hdefault.1 (hfits.lines _ (by simp [withDefaults, folderOrDefault]))
  · intro hfolder
    have hlines := h.lines
    simp only [List.mem_cons, List.not_mem_nil, or_false, forall_eq_or_imp, forall_eq] at hlines
    refine ⟨h.id_ne, (with_defaults_ne _).1, (with_defaults_ne _).2, h.id_word, h.token_word,
      h.delimiter_word, ?_, h.tags, h.body_return⟩
    simp only [withDefaults, hname, folderOrDefault, List.mem_cons, List.not_mem_nil, or_false,
      forall_eq_or_imp, forall_eq]
    exact ⟨hlines.1, hlines.2.1, hdefault.2 hfolder, hlines.2.2.2⟩

end Note

/-! ## Tags and bodies -/

namespace NoteInput

/-- Tags that were entered are trimmed words between commas. -/
theorem mem_read_tags {text tag : String} (h : tag ∈ readTags text) :
    tag ≠ "" ∧ Text.singleLine tag = tag ∧ ',' ∉ tag.toList := by
  have hmem : tag ∈ ((Text.split ',' (dropLastComma text.toList)).map fun tag =>
      Text.singleLine (String.ofList tag)).filter fun tag => !tag.isEmpty := by
    simpa [readTags, Std.ExtTreeSet.mem_ofList] using h
  obtain ⟨hmem, hne⟩ := List.mem_filter.1 hmem
  obtain ⟨piece, hpiece, rfl⟩ := List.mem_map.1 hmem
  refine ⟨by simpa using hne, Text.single_line_single_line _, fun hcomma => ?_⟩
  have hin := (Text.single_line_sublist (String.ofList piece)).subset hcomma
  exact Text.not_mem_of_mem_split hpiece (by simpa using hin)

/-- A body that was entered has no carriage return. -/
theorem read_body_no_return (format : BodyFormat) (text : String) :
    '\r' ∉ (readBody format text).toList := by
  cases format with
  | plain => simp [readBody]
  | markup => exact Bullets.normalize_no_return text

/-! ## Inputs -/

/-- What a note keeps of itself when an input is applied to it. -/
structure Anchored (note : Note) : Prop where
  id : Text.IsWord note.id
  delimiter_word : ' ' ∉ note.delimiter.toList
  delimiter_line : Text.singleLine note.delimiter = note.delimiter
  created : Text.singleLine note.created = note.created

/-- A note that fits keeps what an input leaves of it. -/
theorem anchored_of_fits {note : Note} (h : note.Fits) : Anchored note :=
  ⟨⟨h.id_ne, h.id_word, h.lines _ (by simp)⟩, h.delimiter_word, h.lines _ (by simp),
    h.lines _ (by simp)⟩

/-- A note to which an input is applied, under any version and with a date from the clock, fits
exactly if the input has no share token that is honoured and has a space in it. -/
theorem apply_to_fits_iff (input : NoteInput) {note : Note} (h : Anchored note) {supply : Supply}
    (htoken : Text.IsWord (supply.token 0)) {changed : String}
    (hchanged : Text.singleLine changed = changed) (version : Int) :
    ({ (input.applyTo note supply).1 with changed := changed, version := version } :
        Note).withDefaults.Fits ↔
      (Note.isSafeShareToken (Text.singleLine input.shareToken) = true →
        ' ' ∉ (Text.singleLine input.shareToken).toList) := by
  have hdefault (text default : String) (hline : Text.singleLine default = default) :
      Text.singleLine
          (if (Text.singleLine text).isEmpty then default else Text.singleLine text) =
        (if (Text.singleLine text).isEmpty then default else Text.singleLine text) := by
    split
    · exact hline
    · exact Text.single_line_single_line text
  constructor
  · intro hfits hsafe
    have hword := hfits.token_word
    simpa only [Note.withDefaults, applyTo, hsafe, if_true] using hword
  · intro hentered
    have hshare : Text.singleLine (if Note.isSafeShareToken (Text.singleLine input.shareToken) = true
        then Text.singleLine input.shareToken else supply.token 0) =
        (if Note.isSafeShareToken (Text.singleLine input.shareToken) = true
          then Text.singleLine input.shareToken else supply.token 0) ∧
        ' ' ∉ (if Note.isSafeShareToken (Text.singleLine input.shareToken) = true
          then Text.singleLine input.shareToken else supply.token 0).toList := by
      split
      next hsafe => exact ⟨Text.single_line_single_line _, hentered hsafe⟩
      next => exact ⟨htoken.line, htoken.word⟩
    obtain ⟨hname, hfolder⟩ := Note.with_defaults_ne
      { (input.applyTo note supply).1 with changed := changed, version := version }
    refine ⟨?_, hname, hfolder, ?_, ?_, ?_, ?_, ?_, ?_⟩
    · simpa only [Note.withDefaults, applyTo] using h.id.ne
    · simpa only [Note.withDefaults, applyTo] using h.id.word
    · simpa only [Note.withDefaults, applyTo] using hshare.2
    · simpa only [Note.withDefaults, applyTo] using h.delimiter_word
    · simp only [Note.withDefaults, applyTo, Note.nameOrDefault, Note.folderOrDefault,
        List.mem_cons, List.not_mem_nil, or_false, forall_eq_or_imp, forall_eq]
      exact ⟨h.id.line, hdefault _ _ (by decide), hdefault _ _ (by decide), h.created, hchanged,
        Text.single_line_single_line _, hshare.1, h.delimiter_line⟩
    · simp only [Note.withDefaults, applyTo]
      exact fun tag => mem_read_tags
    · simp only [Note.withDefaults, applyTo]
      have hreturn := read_body_no_return
        ((BodyFormat.ofInputWord? input.format).getD note.format) input.body
      exact Note.body_return_of_no_break (fun hbreak => hreturn (hbreak.subset (by simp)))
        fun hlast => hreturn (List.mem_of_getLast? hlast)

end NoteInput

end Notekeeper
