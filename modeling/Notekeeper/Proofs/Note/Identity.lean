import Notekeeper.Proofs.Note.RoundTrip

/-!
# The id that a record tells

Which note a record is of depends on the record alone: two readers that begin with different blank
notes go abreast (`Reader.Abreast`), so either both find a note or none does, and under the same id
(`Note.of_record_id`). The first line that gives an id decides (`Note.id_of_record`).
-/

namespace Notekeeper

namespace Record

/-- Whether the line of a key can be read does not depend on the note. -/
theorem Key.read_is_some (key : Key) (entry : Entry) (note other : Note) :
    (key.read? entry note).isSome = (key.read? entry other).isSome := by
  cases key <;> simp [Key.read?]

/-- What two readers have in common that have read the same lines over different blank notes. -/
structure Reader.Abreast (reader other : Reader) : Prop where
  seen : other.seen = reader.seen
  body : other.body = reader.body
  id : Key.id ∈ reader.seen → other.note.id = reader.note.id
  delimiter : reader.body ≠ .awaited → other.note.delimiter = reader.note.delimiter

variable {reader other later : Reader}

/-- Readers go abreast over a line outside the body. -/
theorem Reader.Abreast.field (h : reader.Abreast other) (entry : Entry) :
    Option.Rel Abreast (reader.field? entry) (other.field? entry) := by
  unfold Reader.field?
  rw [h.seen, h.body]
  split
  next key _ =>
    split
    · exact .some h
    next hkept =>
      have hboth := key.read_is_some entry reader.note other.note
      cases hread : key.read? entry reader.note with
      | none =>
          rw [hread] at hboth
          rw [Option.isSome_eq_false_iff.1 hboth.symm |> Option.isNone_iff_eq_none.1]
          exact .none
      | some read =>
          rw [hread] at hboth
          obtain ⟨others, hother⟩ := Option.isSome_iff_exists.1 hboth.symm
          obtain ⟨-, hdelimiter, hid⟩ := Key.read_frame hread
          obtain ⟨-, hother_delimiter, hother_id⟩ := Key.read_frame hother
          rw [hother]
          refine .some ⟨rfl, rfl, fun hseen => ?_, fun hbody => ?_⟩
          · dsimp only
            rw [hid, hother_id]
            by_cases hkey : key = .id
            · simp only [hkey, if_true]
            · rw [if_neg hkey, if_neg hkey]
              exact h.id ((List.mem_cons.1 hseen).resolve_left (Ne.symm hkey))
          · dsimp only
            rw [hdelimiter, hother_delimiter]
            exact h.delimiter hbody
  next =>
    split
    · exact .some ⟨rfl, rfl, h.id, fun _ => rfl⟩
    · exact .some h

/-- Readers go abreast. -/
theorem Reader.Abreast.step (h : reader.Abreast other) (text : String) :
    Option.Rel Abreast (reader.step? text) (other.step? text) := by
  unfold Reader.step?
  rw [h.body]
  cases hbody : reader.body with
  | awaited | closed => exact h.field _
  | «open» lines =>
      have hdelimiter := h.delimiter (by simp [hbody])
      dsimp only
      rw [hdelimiter]
      split
      · exact .some ⟨h.seen, rfl, h.id, fun _ => rfl⟩
      · exact .some ⟨h.seen, rfl, h.id, fun _ => hdelimiter⟩

/-- Readers go abreast from line to line. -/
theorem Reader.Abreast.run (h : reader.Abreast other) (lines : List String) :
    Option.Rel Abreast (reader.run? lines) (other.run? lines) := by
  induction lines generalizing reader other with
  | nil => exact .some h
  | cons text lines ih =>
      have hstep := h.step text
      simp only [Reader.run?, List.foldlM_cons, Option.bind_eq_bind]
      cases hfirst : reader.step? text with
      | none =>
          rw [hfirst] at hstep
          cases hsecond : other.step? text with
          | none => exact .none
          | some last =>
              rw [hsecond] at hstep
              cases hstep
      | some next =>
          rw [hfirst] at hstep
          cases hsecond : other.step? text with
          | none =>
              rw [hsecond] at hstep
              cases hstep
          | some last =>
              rw [hsecond] at hstep
              cases hstep with
              | some hnext => exact ih hnext

/-- An id that has been read stays. -/
theorem Reader.step_known (h : Key.id ∈ reader.seen) {text : String}
    (hstep : reader.step? text = some later) :
    Key.id ∈ later.seen ∧ later.note.id = reader.note.id := by
  cases Reader.advances_of_step hstep with
  | collected | closed | opened | passed => exact ⟨h, rfl⟩
  | given key note _ _ hseen _ hread =>
      have hkey : key ≠ .id := by
        rintro rfl
        exact hseen h
      have hid := (Key.read_frame hread).2.2
      rw [if_neg hkey] at hid
      exact ⟨List.mem_cons_of_mem _ h, hid⟩

/-- An id that has been read stays to the end. -/
theorem Reader.run_known (lines : List String) {reader : Reader} (h : Key.id ∈ reader.seen)
    (hrun : reader.run? lines = some later) : later.note.id = reader.note.id := by
  induction lines generalizing reader with
  | nil =>
      obtain rfl : reader = later := by simpa [Reader.run?] using hrun
      rfl
  | cons text lines ih =>
      simp only [Reader.run?, List.foldlM_cons, Option.bind_eq_bind, Option.bind_eq_some_iff] at hrun
      obtain ⟨middle, hstep, hrest⟩ := hrun
      obtain ⟨hseen, hid⟩ := Reader.step_known h hstep
      exact (ih hseen hrest).trans hid

/-- Readers that go abreast find notes under the same id, or none does. -/
theorem Reader.Abreast.finish (h : reader.Abreast other) :
    reader.finish?.map Note.id = other.finish?.map Note.id := by
  unfold Reader.finish?
  rw [h.seen, h.body]
  split
  next hseen => exact congrArg some (h.id hseen.1).symm
  next => rfl

end Record

namespace Note

/-- Whether a record is read, and under which id, does not depend on the blank note. -/
theorem of_record_id (blank other : Note) (text : String) :
    (ofRecord? blank text).map Note.id = (ofRecord? other text).map Note.id := by
  have hstart : (Record.Reader.mk blank [] .awaited).Abreast ⟨other, [], .awaited⟩ :=
    ⟨rfl, rfl, fun hseen => absurd hseen List.not_mem_nil, fun hbody => absurd rfl hbody⟩
  unfold ofRecord?
  have hrun := hstart.run (Text.lines text)
  cases hfirst : (Record.Reader.mk blank [] .awaited).run? (Text.lines text) with
  | none =>
      rw [hfirst] at hrun
      cases hsecond : (Record.Reader.mk other [] .awaited).run? (Text.lines text) with
      | none => rfl
      | some last =>
          rw [hsecond] at hrun
          cases hrun
  | some next =>
      rw [hfirst] at hrun
      cases hsecond : (Record.Reader.mk other [] .awaited).run? (Text.lines text) with
      | none =>
          rw [hsecond] at hrun
          cases hrun
      | some last =>
          rw [hsecond] at hrun
          cases hrun with
          | some habreast => exact habreast.finish

/-- A record that tells an id on its second line is read under that id, if it is read at all. -/
theorem id_of_record {value id : String} (hne : id ≠ "") (hword : (Text.firstWord value).1 = id)
    {blank read : Note} {text : String} {rest : List String}
    (hlines : Text.lines text = Record.opening :: Record.line Record.Key.id.word value :: rest)
    (h : ofRecord? blank text = some read) : read.id = id := by
  obtain ⟨reader, hrun, hfinish⟩ := Option.bind_eq_some_iff.1 h
  have hstart : (Record.Reader.mk blank [] .awaited).step? Record.opening =
      some (Record.Reader.mk blank [] .awaited) := rfl
  have hstep : (Record.Reader.mk blank [] .awaited).step? (Record.line Record.Key.id.word value) =
      some ⟨{ blank with id := id }, [.id], .awaited⟩ := by
    have hentry := Record.Entry.of_line (Record.Key.word_no_space .id) value
    have hread : (Record.Entry.ofLine (Record.line Record.Key.id.word value)).word = id := by
      rw [hentry]
      exact hword
    have hkey : (Record.Entry.ofLine (Record.line Record.Key.id.word value)).key =
        Record.Key.id.word := by rw [hentry]
    simp [Record.Reader.step?, Record.Reader.field?, hkey, Record.Key.of_word, hread, hne,
      Record.Key.read?]
  rw [hlines] at hrun
  simp only [Record.Reader.run?, List.foldlM_cons, Option.bind_eq_bind, hstart, hstep,
    Option.bind_some] at hrun
  rw [← (Record.Reader.finish_eq_some hfinish).2]
  exact Record.Reader.run_known rest (by simp) hrun

end Note

end Notekeeper
