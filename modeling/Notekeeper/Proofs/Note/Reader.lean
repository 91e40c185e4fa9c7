import Notekeeper.Proofs.Note.Record

/-!
# The reader of a record, line by line

`Reader.Advances` lists what a line does to a reader that it does not stop. `Reader.advances_of_step`
says that there is nothing else, so that what a reader keeps is shown by cases.
-/

namespace Notekeeper.Record

/-- A word stands for a key exactly if the key is written as it. -/
theorem Key.of_word_eq_some_iff {word : String} {key : Key} :
    Key.ofWord? word = some key ↔ word = key.word := by
  constructor
  · intro h
    have hword := List.find?_some h
    exact (eq_of_beq hword).symm
  · rintro rfl
    exact Key.of_word key

/-- A line of a key leaves the body and the delimiter, and gives the id only if the key is that of
the id. -/
theorem Key.read_frame {key : Key} {entry : Entry} {note read : Note}
    (h : key.read? entry note = some read) :
    read.body = note.body ∧ read.delimiter = note.delimiter ∧
      read.id = if key = .id then entry.word else note.id := by
  cases key with
  | version | exportVersion =>
      obtain ⟨number, -, rfl⟩ := Option.map_eq_some_iff.1 h
      exact ⟨rfl, rfl, rfl⟩
  | _ =>
      obtain rfl := Option.some.inj h
      exact ⟨rfl, rfl, rfl⟩

variable {reader next : Reader} {text : String}

/-- What a line does to a reader, from one state to another. -/
inductive Reader.Advances (reader : Reader) (text : String) : Reader → Prop where
  /-- The line goes into the body. -/
  | collected (lines : List String) (hbody : reader.body = .open lines)
      (hstays : (Entry.ofLine text).closesBody reader.note.delimiter = false) :
      Advances reader text { reader with body := .open (text :: lines) }
  /-- The line closes the body. -/
  | closed (lines : List String) (hbody : reader.body = .open lines)
      (hcloses : (Entry.ofLine text).closesBody reader.note.delimiter = true) :
      Advances reader text
        { reader with
          note := { reader.note with body := Text.join "\n" lines.reverse }, body := .closed }
  /-- The line opens the body. -/
  | opened (hbody : reader.body = .awaited) (hkey : (Entry.ofLine text).key = bodyOpening) :
      Advances reader text
        { reader with
          note := { reader.note with delimiter := (Entry.ofLine text).word }, body := .open [] }
  /-- The line gives a key its first value. -/
  | given (key : Key) (note : Note) (hbody : ∀ lines, reader.body ≠ .open lines)
      (hkey : (Entry.ofLine text).key = key.word) (hseen : key ∉ reader.seen)
      (hid : key = .id → (Entry.ofLine text).word ≠ "")
      (hread : key.read? (Entry.ofLine text) reader.note = some note) :
      Advances reader text { reader with note := note, seen := key :: reader.seen }
  /-- The line is passed over. -/
  | passed (hbody : ∀ lines, reader.body ≠ .open lines)
      (hkeys : ∀ key : Key, (Entry.ofLine text).key = key.word →
        key ∈ reader.seen ∨ key = .id ∧ (Entry.ofLine text).word = "")
      (hopens : (Entry.ofLine text).key = bodyOpening → reader.body ≠ .awaited) :
      Advances reader text reader

/-- Outside the body a line opens it, gives a key its first value, or is passed over. -/
theorem Reader.advances_of_field (hbody : ∀ lines, reader.body ≠ .open lines)
    (hstep : reader.field? (Entry.ofLine text) = some next) : reader.Advances text next := by
  unfold Reader.field? at hstep
  split at hstep
  next key hword =>
    have hkey := Key.of_word_eq_some_iff.1 hword
    split at hstep
    next hpassed =>
      obtain rfl := Option.some.inj hstep
      refine .passed hbody (fun other hother => ?_) fun hopens => ?_
      · rw [hother, Key.of_word, Option.some.injEq] at hword
        subst hword
        simpa using hpassed
      · have hother : key.word ≠ bodyOpening := by cases key <;> decide
        exact absurd (hkey.symm.trans hopens) hother
    next htaken =>
      obtain ⟨note, hread, rfl⟩ := Option.map_eq_some_iff.1 hstep
      rw [not_or] at htaken
      exact .given key note hbody hkey htaken.1
        (fun hid hempty => htaken.2 ⟨hid, by simp [hempty]⟩) hread
  next hnokey =>
    split at hstep
    next hopens =>
      obtain rfl := Option.some.inj hstep
      exact .opened hopens.2 hopens.1
    next hpassed =>
      obtain rfl := Option.some.inj hstep
      refine .passed hbody (fun key hkey => ?_) fun hopens hawaited => hpassed ⟨hopens, hawaited⟩
      rw [hkey, Key.of_word] at hnokey
      cases hnokey

/-- A line that does not stop a reader does one of these things. -/
theorem Reader.advances_of_step (hstep : reader.step? text = some next) :
    reader.Advances text next := by
  unfold Reader.step? at hstep
  dsimp only at hstep
  split at hstep
  next lines hbody =>
    split at hstep
    next hcloses =>
      obtain rfl := Option.some.inj hstep
      exact .closed lines hbody hcloses
    next hstays =>
      obtain rfl := Option.some.inj hstep
      exact .collected lines hbody (by simpa using hstays)
  next hbody => exact Reader.advances_of_field hbody hstep

end Notekeeper.Record
