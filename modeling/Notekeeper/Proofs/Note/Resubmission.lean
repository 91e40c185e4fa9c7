import Notekeeper.Proofs.Note.Entered

/-!
# The values of a note, entered again

An input leaves values in a note that are left as they are when they are entered once more
(`NoteInput.Entered`): the tags are joined and cut apart again, single-line values are single lines
already, the share token is honoured and the due date has not changed, so that the reminder stays
dismissed. Only the body may change, and does exactly if it is a markup body of empty lines alone
(`NoteInput.apply_own_values_iff`).
-/

namespace Notekeeper

/-- A text that has the form of a drawn token: sixty-four upper-case hexadecimal digits. -/
structure Supply.IsDrawn (text : String) : Prop where
  length : text.length = 64
  digits : ∀ char ∈ text.toList, char.isDigit = true ∨ char ∈ ['A', 'B', 'C', 'D', 'E', 'F']

namespace Supply.IsDrawn

variable {text : String}

/-- A drawn token is on a single line. -/
theorem single_line (h : IsDrawn text) : Text.singleLine text = text := by
  have hletters : ∀ char ∈ ['A', 'B', 'C', 'D', 'E', 'F'], Text.isBlank char = false := by
    simp [Text.isBlank]
  exact Text.single_line_of_no_blank fun char hmem =>
    (h.digits char hmem).elim Text.is_blank_of_digit (hletters char)

/-- A drawn token is long enough for a share token. -/
theorem safe (h : IsDrawn text) : Note.isSafeShareToken text = true := by
  rw [Note.isSafeShareToken, h.length]
  rfl

end Supply.IsDrawn

namespace NoteInput

/-! ## Tags -/

/-- A text on a single line is entered as the tags that it stands for in a record. -/
theorem read_tags_of_single_line {text : String} (h : Text.singleLine text = text) :
    readTags text = Record.readTags text := by
  obtain ⟨hfeed, hreturn, -, hlast⟩ := Text.single_line_iff.1 h
  have hdrop : dropLastComma text.toList = text.toList := by
    refine if_neg fun hends => ?_
    obtain ⟨rest, hrest⟩ := List.isPrefixOf_iff_prefix.1 hends
    have hspace : text.toList.getLast? = some ' ' := by
      rw [← List.head?_reverse, ← hrest]
      rfl
    exact absurd (hlast ' ' hspace) (by decide)
  have hpieces : ∀ piece ∈ Text.split ',' text.toList,
      Text.singleLine (String.ofList piece) = Text.trimmed (String.ofList piece) := by
    intro piece hmem
    obtain ⟨front, rest, heq, -⟩ := Text.exists_append_of_mem_split hmem
    have hkept : (piece.filter fun char => char != '\n' && char != '\r') = piece := by
      refine List.filter_eq_self.2 fun char hchar => ?_
      have hin : char ∈ text.toList := by simp [heq, hchar]
      have hne : char ≠ '\n' ∧ char ≠ '\r' :=
        ⟨fun heq => hfeed (heq ▸ hin), fun heq => hreturn (heq ▸ hin)⟩
      simpa using hne
    rw [Text.singleLine, Text.trimmed, String.toList_ofList, hkept]
  rw [readTags, hdrop, List.map_congr_left hpieces, Record.readTags, Text.splitAt, List.map_map]
  rfl

/-! ## Bodies -/

/-- A body that was entered is left as it is exactly if it is plain or has some text. -/
theorem read_body_read_body_iff (format : BodyFormat) (text : String) :
    readBody format (readBody format text) = readBody format text ↔
      format = .plain ∨ ∃ line ∈ Text.splitAt '\n' (readBody format text), line ≠ "" := by
  cases format with
  | plain =>
      have hkept : readBody .plain (readBody .plain text) = readBody .plain text := by
        simp [readBody, List.filter_filter]
      exact iff_of_true hkept (.inl rfl)
  | markup =>
      have hlines : (∃ line ∈ Text.splitAt '\n' (Bullets.normalize text), line ≠ "") ↔
          Bullets.Filled (Bullets.regular text) := by
        rw [Text.splitAt, Bullets.split_normalize, Bullets.Filled]
        simp
      simp only [readBody, reduceCtorEq, false_or]
      rw [hlines, Bullets.filled_regular_iff, Bullets.normalize_normalize_iff]

/-! ## Notes -/

/-- The values of a note have the form in which an input leaves them, the body aside. -/
structure Entered (note : Note) : Prop where
  name : Text.singleLine note.name = note.name
  folder : Text.singleLine note.folder = note.folder
  tags : ∀ tag ∈ note.tags.toList, tag ≠ "" ∧ Text.singleLine tag = tag ∧ ',' ∉ tag.toList
  due : Text.singleLine note.due = note.due
  token_line : Text.singleLine note.shareToken = note.shareToken
  token_safe : Note.isSafeShareToken note.shareToken = true

/-- Values are entered in that form. -/
theorem entered_apply_to (input : NoteInput) (note : Note) {supply : Supply}
    (htoken : Supply.IsDrawn (supply.token 0)) : Entered (input.applyTo note supply).1 := by
  have htokens (entered : String) (hentered : Text.singleLine entered = entered) :
      Text.singleLine (if Note.isSafeShareToken entered then entered else supply.token 0) =
          (if Note.isSafeShareToken entered then entered else supply.token 0) ∧
        Note.isSafeShareToken
          (if Note.isSafeShareToken entered then entered else supply.token 0) = true := by
    split
    next hsafe => exact ⟨hentered, hsafe⟩
    next => exact ⟨htoken.single_line, htoken.safe⟩
  obtain ⟨hline, hsafe⟩ := htokens _ (Text.single_line_single_line input.shareToken)
  constructor
  case name => exact Text.single_line_single_line input.name
  case folder => exact Text.single_line_single_line input.folder
  case tags => exact fun tag hmem => mem_read_tags (Std.ExtTreeSet.mem_toList.1 hmem)
  case due => exact Text.single_line_single_line input.due
  case token_line => simpa only [applyTo] using hline
  case token_safe => simpa only [applyTo] using hsafe

/-- Entered again, such values change nothing but the body, and no token is drawn. -/
theorem Entered.apply_own {note : Note} (h : Entered note) (supply : Supply) :
    (ofNote note).applyTo note supply =
      ({ note with body := readBody note.format note.body }, supply) := by
  have hformat : (BodyFormat.ofInputWord? note.format.inputWord).getD note.format = note.format := by
    cases note.format <;> rfl
  have htags : readTags (Record.writeTags note.tags) = note.tags :=
    (read_tags_of_single_line (Record.single_line_write_tags h.tags)).trans
      (Record.read_write_tags h.tags)
  simp only [applyTo, ofNote, h.name, h.folder, htags, h.due, h.token_line, h.token_safe, hformat,
    beq_self_eq_true, Bool.and_true, if_true]

/-- A note to which an input was applied is left as it is by its own values, and no token is drawn
for it, exactly if it is plain or some line of its body is not empty. -/
theorem apply_own_values_iff (input : NoteInput) (note : Note) {supply : Supply}
    (htoken : Supply.IsDrawn (supply.token 0)) {left : Note}
    (hleft : (input.applyTo note supply).1 = left) (later : Supply) :
    (ofNote left).applyTo left later = (left, later) ↔
      left.format = .plain ∨ ∃ line ∈ Text.splitAt '\n' left.body, line ≠ "" := by
  have hown := (entered_apply_to input note htoken).apply_own later
  have hbody : left.body = readBody left.format input.body := by
    rw [← hleft]
    rfl
  have hsame : ({ left with body := readBody left.format left.body }, later) = (left, later) ↔
      readBody left.format left.body = left.body := by
    constructor
    · intro heq
      exact congrArg (fun applied => applied.1.body) heq
    · intro heq
      rw [heq]
  rw [hleft] at hown
  rw [hown, hsame, hbody, read_body_read_body_iff]

/-- A supply for an example, whose next token has the form of a drawn one. -/
def drawing : Supply :=
  (Supply.strokes 'A').dropTokens 63

/-- A note for an example: its values are trimmed, its share token is replaced and its list is
carried on. -/
def shopping : Note :=
  (applyTo
    { name := " Shopping\n", tags := "food, errands, , ", body := "* milk\r\nbread", shareToken := "abc",
      format := "markup" }
    (.blank drawing) drawing).1

/-- A shopping list is left as it is by its own values. -/
theorem apply_own_values_of_shopping :
    Supply.IsDrawn (drawing.token 0) ∧
      (ofNote shopping).applyTo shopping drawing = (shopping, drawing) := by
  have htoken : drawing.token 0 = String.ofList (List.replicate 64 'A') := rfl
  have hdrawn : Supply.IsDrawn (drawing.token 0) := by
    rw [htoken]
    refine ⟨by rw [String.length_ofList, List.length_replicate], fun char hmem => ?_⟩
    rw [String.toList_ofList] at hmem
    rw [List.eq_of_mem_replicate hmem]
    exact .inr (by decide)
  have hline : ∃ line ∈ Text.splitAt '\n' shopping.body, line ≠ "" := by
    have hbody : shopping.body = Bullets.normalize "* milk\r\nbread" := rfl
    rw [hbody]
    decide
  exact ⟨hdrawn, (apply_own_values_iff _ _ hdrawn rfl drawing).2 (.inr hline)⟩

end NoteInput

end Notekeeper
