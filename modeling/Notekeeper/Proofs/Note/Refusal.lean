import Notekeeper.Proofs.Note.FirstLines

/-!
# Refused records

When a text is not read as a record (`Note.of_record_eq_none_iff`): it has no body block, no line that
gives an id or a name, or the first line of a version has no number. Only for the number the reader
stops on the way (`Reader.refused_of_run_eq_none`).
-/

namespace Notekeeper

namespace Record

/-- A version refuses a value that is not a number; no other key refuses one. -/
def Key.Refuses (key : Key) (text : String) : Prop :=
  (key = .version ∨ key = .exportVersion) ∧ Decimal.read? (Entry.ofLine text).word = none

/-- The value of a key is not read exactly if the key refuses it. -/
theorem Key.read_eq_none_iff {key : Key} {text : String} {note : Note} :
    key.read? (Entry.ofLine text) note = none ↔ key.Refuses text := by
  cases key <;> simp [Key.read?, Key.Refuses]

/-- Values are not taken exactly if a key refuses the one on its line. -/
theorem take_each_eq_none_iff {lines : Key → Option String} {keys : List Key} {note : Note} :
    takeEach? lines keys note = none ↔
      ∃ key ∈ keys, ∃ text, lines key = some text ∧ key.Refuses text := by
  induction keys generalizing note with
  | nil => simp [takeEach?]
  | cons key keys ih =>
      rw [take_each_cons]
      cases hline : lines key with
      | none => simp [Key.take?, hline, ih]
      | some text =>
          simp only [Key.take?, List.mem_cons, exists_eq_or_imp, hline, Option.some.injEq,
            exists_eq_left']
          cases hread : key.read? (Entry.ofLine text) note with
          | none => simp [Key.read_eq_none_iff.1 hread]
          | some read =>
              have hkept : ¬key.Refuses text := by
                rw [← @Key.read_eq_none_iff key text note, hread]
                simp
              simp [hkept, ih]

/-- A line that stops a reader has the keyword of a version and no number. -/
theorem Reader.refused_of_step_eq_none {line : String} {reader : Reader}
    (h : reader.step? line = none) :
    ∃ key : Key, (Entry.ofLine line).key = key.word ∧ key.Refuses line := by
  unfold Reader.step? at h
  dsimp only at h
  split at h
  · split at h <;> cases h
  · unfold Reader.field? at h
    split at h
    next key hkey =>
      split at h
      · cases h
      · exact ⟨key, Key.of_word_eq_some_iff.1 hkey,
          Key.read_eq_none_iff.1 (Option.map_eq_none_iff.1 h)⟩
    next => split at h <;> cases h

/-- A reader that stops has come to such a line. -/
theorem Reader.refused_of_run_eq_none {lines : List String} {reader : Reader}
    (h : reader.run? lines = none) :
    ∃ line ∈ lines, ∃ key : Key, (Entry.ofLine line).key = key.word ∧ key.Refuses line := by
  induction lines generalizing reader with
  | nil => simp [Reader.run?] at h
  | cons line lines ih =>
      simp only [Reader.run?, List.foldlM_cons, Option.bind_eq_bind] at h
      cases hstep : reader.step? line with
      | none => exact ⟨line, by simp, Reader.refused_of_step_eq_none hstep⟩
      | some next =>
          rw [hstep, Option.bind_some] at h
          obtain ⟨other, hmem, hrefused⟩ := ih h
          exact ⟨other, List.mem_cons_of_mem _ hmem, hrefused⟩

/-- Lines none of which opens a body have no body block. -/
theorem body_block_eq_none {lines : List String} (h : ∀ line ∈ lines, opensBody line = false) :
    bodyBlock? lines = none := by
  have hdrop : lines.dropWhile (fun text => !opensBody text) = [] :=
    List.dropWhile_eq_nil_iff.2 fun line hmem => by simp [h line hmem]
  simp [bodyBlock?, part?, hdrop]

end Record

namespace Note

open Record

/-- A text is not read as a record exactly if it has no body block, no id or no name, or if a version
refuses its value. -/
theorem of_record_eq_none_iff {blank : Note} {text : String} :
    ofRecord? blank text = none ↔
      bodyBlock? (Text.lines text) = none ∨ firstLine? (outside (Text.lines text)) .id = none ∨
        firstLine? (outside (Text.lines text)) .name = none ∨
        ∃ key line, firstLine? (outside (Text.lines text)) key = some line ∧ key.Refuses line := by
  rw [of_record_eq]
  cases bodyBlock? (Text.lines text) with
  | none => simp [assemble?]
  | some block =>
      cases hid : firstLine? (outside (Text.lines text)) .id with
      | none => simp [assemble?, hid]
      | some idLine =>
          cases hname : firstLine? (outside (Text.lines text)) .name with
          | none => simp [assemble?, hid, hname]
          | some nameLine => simp [assemble?, hid, hname, take_each_eq_none_iff, Key.mem_all]

end Note

end Notekeeper
