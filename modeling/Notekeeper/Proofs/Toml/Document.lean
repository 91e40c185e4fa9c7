import Notekeeper.Proofs.Text.Pieces
import Notekeeper.Proofs.Toml.Quoting
import Notekeeper.Toml.Document

/-!
# Reading a document of pairs

A document may consist of lines that each give a key its value. `read_document_pairs` says that such
a document is read as these pairs, in their order, if no key stands there twice and every pair is
`Readable`: its key needs no quotation marks, and its value is read back where the line ends. Texts
and lists of texts are such values (`Pair.Readable.of_text`, `Pair.Readable.of_texts`).
-/

namespace Notekeeper.Toml

/-! ## Values -/

/-- A text that does not go on in the middle of a value: it is empty or goes on with a line end, or
with a mark between or after the items of a list. -/
def Ended (rest : List Char) : Prop :=
  ∀ char ∈ rest.head?, char ∈ ['\n', ',', ']']

/-- A text is read back as a value, at any depth. -/
theorem read_value_text (depth : Nat) (text : String) {rest : List Char} (h : Ended rest) :
    readValue depth (writeText text ++ rest) = some (.text text, rest) := by
  have hends {mark : Char} (hmark : mark ∉ ['\n', ',', ']']) : NotBefore mark rest :=
    fun char hchar heq => hmark (heq ▸ h char hchar)
  have hread := read_write_text text (hends (by simp)) (hends (by simp))
  have hatom : readAtom (writeText text ++ rest) = some (.text text, rest) := by
    simp [readAtom, hread]
  obtain ⟨first, hfirst, more, hwritten⟩ := head_write_text text
  cases depth with
  | zero => exact hatom
  | succ depth =>
      have hne : first ≠ '[' ∧ first ≠ '\x7b' := by
        constructor <;> (rintro rfl; simp at hfirst)
      rw [hwritten] at hatom ⊢
      simpa [readValue, hne] using hatom

/-- Spaces do not count before an item. -/
theorem skip_gaps_spaces {gap : List Char} (h : ∀ char ∈ gap, isSpace char = true)
    (text : List Char) : skipGaps false (gap ++ text) = skipGaps false text := by
  induction gap with
  | nil => rfl
  | cons char gap ih =>
      obtain ⟨hchar, hgap⟩ := List.forall_mem_cons.1 h
      have hne : char ≠ '\n' ∧ char ≠ '\r' := by
        constructor <;> (rintro rfl; simp [isSpace] at hchar)
      simp [skipGaps, hne, hchar, ih hgap]

/-- A text is where a gap ends. -/
theorem skip_gaps_text (text : String) (rest : List Char) :
    skipGaps false (writeText text ++ rest) = writeText text ++ rest := by
  obtain ⟨first, hfirst, more, hwritten⟩ := head_write_text text
  have hne : first ≠ '\n' ∧ first ≠ '\r' ∧ first ≠ '#' ∧ isSpace first = false := by
    refine ⟨?_, ?_, ?_, ?_⟩
    all_goals
      rcases List.mem_pair.1 hfirst with rfl | rfl <;> simp [isSpace]
  simp [hwritten, skipGaps, hne]

section

variable (depth : Nat) {gap : List Char} (hgap : ∀ char ∈ gap, isSpace char = true)
include hgap

/-- A text before the closing bracket is the last item. -/
theorem read_items_last (text : String) (rest : List Char) :
    readItems (readValue depth) (gap ++ (writeText text ++ ']' :: rest)) =
      some ([.text text], rest) := by
  obtain ⟨first, hfirst, more, hwritten⟩ := head_write_text text
  have hne : first ≠ ']' := by
    rintro rfl
    simp at hfirst
  have hread := read_value_text depth text (show Ended (']' :: rest) by simp [Ended])
  unfold readItems
  rw [skip_gaps_spaces hgap, skip_gaps_text]
  rw [hwritten, List.cons_append] at hread ⊢
  simp [hread, hne, skipGaps, isSpace]

/-- A text before a comma is an item in front of those behind the comma. -/
theorem read_items_next (text : String) (rest : List Char) :
    readItems (readValue depth) (gap ++ (writeText text ++ ',' :: rest)) =
      (readItems (readValue depth) rest).map fun (values, rest) => (.text text :: values, rest) := by
  obtain ⟨first, hfirst, more, hwritten⟩ := head_write_text text
  have hne : first ≠ ']' := by
    rintro rfl
    simp at hfirst
  have hread := read_value_text depth text (show Ended (',' :: rest) by simp [Ended])
  have hshorter : rest.length < gap.length + (more.length + (rest.length + 1) + 1) := by omega
  rw [readItems, skip_gaps_spaces hgap, skip_gaps_text]
  rw [hwritten, List.cons_append] at hread ⊢
  cases hitems : readItems (readValue depth) rest <;>
    simp [hread, hne, skipGaps, isSpace, hshorter, hitems]

/-- Items of a list that are texts are read back, up to the bracket behind them. -/
theorem read_items_texts (texts : List String) (rest : List Char) :
    readItems (readValue depth)
        (gap ++ ([',', ' '].intercalate (texts.map writeText) ++ ']' :: rest)) =
      some (texts.map .text, rest) := by
  induction texts generalizing gap with
  | nil =>
      unfold readItems
      rw [skip_gaps_spaces hgap]
      simp [skipGaps, isSpace]
  | cons text texts ih =>
      cases texts with
      | nil => simpa using read_items_last depth hgap text rest
      | cons next texts =>
          have hitems := @ih [' '] (by simp [isSpace])
          have hwritten : [',', ' '].intercalate ((text :: next :: texts).map writeText) ++ ']' :: rest =
              writeText text ++ ',' ::
                ([' '] ++ ([',', ' '].intercalate ((next :: texts).map writeText) ++ ']' :: rest)) := by
            simp [List.intercalate_cons_cons]
          rw [hwritten, read_items_next depth hgap, hitems]
          rfl

end

/-- A list of texts is read back as a value, wherever lists are allowed. -/
theorem read_value_texts (depth : Nat) (texts : List String) (rest : List Char) :
    readValue (depth + 1)
        ('[' :: ([',', ' '].intercalate (texts.map writeText) ++ ']' :: rest)) =
      some (.array (texts.map .text), rest) := by
  have hitems := @read_items_texts depth [] (by simp) texts rest
  rw [List.nil_append] at hitems
  simp [readValue, hitems]

/-! ## Lines -/

/-- A character of a name begins neither a gap nor anything else that is no name. -/
theorem name_char_ne {char : Char} (h : isNameChar char = true) :
    ∀ other ∈ ['"', '\'', '[', '#', ' ', '\t', '\n', '\r', '\uFEFF'], char ≠ other := by
  have hother : ∀ other ∈ ['"', '\'', '[', '#', ' ', '\t', '\n', '\r', '\uFEFF'],
      isNameChar other = false := by
    simp [isNameChar]
  rintro other hmem rfl
  simp [hother char hmem] at h

/-- A key that needs no quotation marks. -/
def IsBare (key : String) : Prop :=
  key.toList ≠ [] ∧ ∀ char ∈ key.toList, isNameChar char = true

/-- A key and its value, with the text that is written for the value. -/
structure Pair where
  key : String
  value : Value
  written : List Char

namespace Pair

/-- The entry of a table that the pair makes. -/
def entry (pair : Pair) : String × Value :=
  (pair.key, pair.value)

/-- The line that gives the key its value. -/
def line (pair : Pair) : List Char :=
  pair.key.toList ++ ' ' :: '=' :: ' ' :: pair.written

/-- The key needs no quotation marks, and the value is read back where a line ends. -/
structure Readable (pair : Pair) : Prop where
  bare : IsBare pair.key
  head : ∀ char ∈ pair.written.head?, isSpace char = false
  read : ∀ rest, (∀ char ∈ rest.head?, char = '\n') →
    readValue depthLimit (pair.written ++ rest) = some (pair.value, rest)

/-- A text under a key that needs no quotation marks is readable. -/
theorem Readable.of_text {key : String} (hkey : IsBare key) (text : String) :
    Readable ⟨key, .text text, writeText text⟩ where
  bare := hkey
  head := by
    obtain ⟨first, hfirst, more, hwritten⟩ := head_write_text text
    rcases List.mem_pair.1 hfirst with rfl | rfl <;> simp [hwritten, isSpace]
  read rest hrest := by
    refine read_value_text depthLimit text fun char hchar => ?_
    simp [hrest char hchar]

/-- A list of texts under a key that needs no quotation marks is readable. -/
theorem Readable.of_texts {key : String} (hkey : IsBare key) (texts : List String) :
    Readable ⟨key, .array (texts.map .text),
      '[' :: [',', ' '].intercalate (texts.map writeText) ++ [']']⟩ where
  bare := hkey
  head := by simp [isSpace]
  read rest _ := by
    obtain ⟨depth, hdepth⟩ : ∃ depth, depthLimit = depth + 1 := ⟨_, rfl⟩
    rw [hdepth]
    simpa using read_value_texts depth texts rest

namespace Readable

variable {pair : Pair}

/-- The line begins with a character of a name. -/
theorem head_line (h : pair.Readable) (rest : List Char) :
    ∃ first more, pair.line ++ rest = first :: more ∧ isNameChar first = true := by
  obtain ⟨first, more, hkey⟩ := List.exists_cons_of_ne_nil h.bare.1
  exact ⟨first, more ++ ' ' :: '=' :: ' ' :: pair.written ++ rest, by simp [line, hkey],
    h.bare.2 first (by simp [hkey])⟩

/-- The key is read up to the sign behind it. -/
theorem read_key (h : pair.Readable) (rest : List Char) :
    readKey (pair.key.toList ++ ' ' :: '=' :: rest) = some (([], pair.key), '=' :: rest) := by
  have htake : (pair.key.toList ++ ' ' :: '=' :: rest).takeWhile isNameChar = pair.key.toList := by
    rw [List.takeWhile_append_of_pos h.bare.2]
    simp [isNameChar]
  obtain ⟨first, more, hkey⟩ := List.exists_cons_of_ne_nil h.bare.1
  have hne := name_char_ne (h.bare.2 first (by simp [hkey]))
  have htext : String.ofList (first :: more) = pair.key := by rw [← hkey, String.ofList_toList]
  rw [hkey, List.cons_append] at htake ⊢
  have hstart : skipSpaces (first :: (more ++ ' ' :: '=' :: rest)) =
      first :: (more ++ ' ' :: '=' :: rest) := by
    simp [skipSpaces, isSpace, hne]
  have hname : readName (first :: (more ++ ' ' :: '=' :: rest)) =
      some (pair.key, ' ' :: '=' :: rest) := by
    simp [readName, hne, htake, htext]
  rw [readKey, readNames, hstart, hname]
  simp [skipSpaces, isSpace, depthLimit]

/-- The pair is read up to the end of its line. -/
theorem read_pair (h : pair.Readable) {rest : List Char}
    (hrest : ∀ char ∈ rest.head?, char = '\n') :
    readPair (readValue depthLimit) (pair.line ++ rest) =
      some ((([], pair.key), pair.value), rest) := by
  have hline : pair.line ++ rest =
      pair.key.toList ++ ' ' :: '=' :: (' ' :: (pair.written ++ rest)) := by
    simp [line]
  have hsign (text : List Char) : readWord "=" ('=' :: text) = some ((), text) := rfl
  have hend : skipSpaces rest = rest := by
    cases rest with
    | nil => rfl
    | cons char rest => simp [skipSpaces, isSpace, hrest char rfl]
  have hvalue : skipSpaces (' ' :: (pair.written ++ rest)) = pair.written ++ rest := by
    cases hwritten : pair.written with
    | nil => simpa [skipSpaces, isSpace] using hend
    | cons char written =>
        have hchar := h.head char (by rw [hwritten]; rfl)
        simpa [skipSpaces, isSpace] using hchar
  simp [hline, readPair, h.read_key, hsign, hvalue, h.read rest hrest, hend]

/-- The line is read with its end. -/
theorem read_line (h : pair.Readable) {rest : List Char}
    (hrest : ∀ char ∈ rest.head?, char = '\n') :
    readLine (pair.line ++ rest) = some (.pair [] pair.key pair.value, rest.tail) := by
  obtain ⟨first, more, hline, hfirst⟩ := h.head_line rest
  have hne := name_char_ne hfirst
  have hread := h.read_pair hrest
  have hclose : closeLine? rest = some rest.tail := by
    cases rest with
    | nil => rfl
    | cons char rest => simp [closeLine?, skipSpaces, isSpace, skipComment, lineEnd?, hrest char rfl]
  have hopen : closeLine? (first :: more) = none := by
    simp [closeLine?, skipSpaces, isSpace, skipComment, lineEnd?, hne]
  have hstart : skipSpaces (first :: more) = first :: more := by
    simp [skipSpaces, isSpace, hne]
  rw [hline] at hread ⊢
  rw [readLine, hstart]
  simp [hne, hopen, hread, hclose]

/-- The line is one step through a document; the pair becomes an entry if its key is new. -/
theorem read_lines (h : pair.Readable) {rest : List Char}
    (hrest : ∀ char ∈ rest.head?, char = '\n') {entries : Entries}
    (hnew : entries.get? pair.key = none) :
    readLines ⟨entries, []⟩ (pair.line ++ rest) = readLines ⟨entries ++ [pair.entry], []⟩ rest.tail := by
  obtain ⟨first, more, hline, -⟩ := h.head_line rest
  have hadd : Document.add? ⟨entries, []⟩ (.pair [] pair.key pair.value) =
      some ⟨entries ++ [pair.entry], []⟩ := by
    simp [Document.add?, alter, assign, Entries.add?, hnew, entry]
  have hshorter : rest.tail.length < (pair.line ++ rest).length := by
    simp [line]
    omega
  have hsome : ¬(pair.line ++ rest).isEmpty = true := by simp [hline]
  rw [readLines, if_neg hsome, h.read_line hrest]
  simp only [Option.bind_eq_bind, Option.bind_some, hadd, if_pos hshorter]

end Readable

/-- Pairs on lines of their own are read one after the other, if their keys are new and no two are
the same. -/
theorem read_lines_pairs {pairs : List Pair} (hread : ∀ pair ∈ pairs, pair.Readable)
    (hkeys : (pairs.map key).Nodup) {entries : Entries}
    (hnew : ∀ pair ∈ pairs, entries.get? pair.key = none) :
    readLines ⟨entries, []⟩ (['\n'].intercalate (pairs.map line)) =
      some ⟨entries ++ pairs.map entry, []⟩ := by
  induction pairs generalizing entries with
  | nil => simp [readLines]
  | cons pair pairs ih =>
      obtain ⟨rest, hline, hrest, htail⟩ :=
        Text.exists_append_of_intercalate '\n' pair.line (pairs.map line)
      obtain ⟨hkey, hothers⟩ := List.nodup_cons.1 hkeys
      rw [List.map_cons, hline, (hread pair (by simp)).read_lines hrest (hnew pair (by simp)), htail,
        ih]
      · simp
      · exact fun other hmem => hread other (by simp [hmem])
      · exact hothers
      · intro other hmem
        have hne : pair.key ≠ other.key := fun heq => hkey (heq ▸ List.mem_map_of_mem hmem)
        have hold := hnew other (by simp [hmem])
        simpa [Entries.get?, entry, hne] using hold

end Pair

/-- A document of pairs with different keys is read as these pairs. -/
theorem read_document_pairs {pairs : List Pair} (hread : ∀ pair ∈ pairs, pair.Readable)
    (hkeys : (pairs.map Pair.key).Nodup) :
    readDocument (String.ofList (['\n'].intercalate (pairs.map Pair.line))) =
      some (pairs.map Pair.entry) := by
  have hlines : readLines {} (['\n'].intercalate (pairs.map Pair.line)) =
      some ⟨pairs.map Pair.entry, []⟩ := by
    simpa using @Pair.read_lines_pairs pairs hread hkeys [] fun pair hmem => rfl
  have hmark : ∀ rest, ['\n'].intercalate (pairs.map Pair.line) ≠ '\uFEFF' :: rest := by
    intro rest heq
    cases pairs with
    | nil => simp at heq
    | cons pair pairs =>
        obtain ⟨more, hfront, -⟩ :=
          Text.exists_append_of_intercalate '\n' pair.line (pairs.map Pair.line)
        obtain ⟨first, text, hline, hfirst⟩ := (hread pair (by simp)).head_line more
        rw [List.map_cons, hfront, hline] at heq
        exact name_char_ne hfirst '\uFEFF' (by simp) (List.head_eq_of_cons_eq heq)
  simp [readDocument, hlines]

end Notekeeper.Toml
