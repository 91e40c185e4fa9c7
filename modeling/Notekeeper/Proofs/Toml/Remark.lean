import Notekeeper.Proofs.Text.Pieces
import Notekeeper.Proofs.Toml.Quoting
import Notekeeper.Toml.Document

/-!
# Lines that say nothing

Empty lines and comments in front of a document do not count (`read_document_remarks`). A byte-order
mark counts as one only at the very beginning, so nothing may be put in front of a document that has
one.
-/

namespace Notekeeper.Toml

/-- A line that says nothing: it is empty or a comment. -/
inductive IsRemark : List Char → Prop where
  | empty : IsRemark []
  | comment {words : List Char} (plain : ∀ char ∈ words, isPlain char = true) :
      IsRemark ('#' :: words)

variable {line rest : List Char} {remarks lines : List (List Char)}

/-- A line that begins with the sign of a comment and has no control character is a comment. -/
theorem IsRemark.of_head (hsign : line.head? = some '#')
    (hplain : ∀ char ∈ line, isPlain char = true) : IsRemark line := by
  cases line with
  | nil => simp at hsign
  | cons char words =>
      obtain rfl : char = '#' := Option.some.inj hsign
      exact .comment (List.forall_mem_cons.1 hplain).2

/-- A line that says nothing stays on one line. -/
theorem IsRemark.no_break (h : IsRemark line) : '\n' ∉ line ∧ '\r' ∉ line := by
  cases h with
  | empty => exact ⟨List.not_mem_nil, List.not_mem_nil⟩
  | comment hplain =>
      constructor
      · simpa using fun hfeed => (no_break_of_plain (hplain _ hfeed)).1 rfl
      · simpa using fun hreturn => (no_break_of_plain (hplain _ hreturn)).2 rfl

/-- A line that says nothing is closed as soon as it is read. -/
theorem IsRemark.close_line (h : IsRemark line) (hrest : ∀ char ∈ rest.head?, char = '\n') :
    closeLine? (line ++ rest) = some rest.tail := by
  have hend : lineEnd? (skipComment (skipSpaces rest)) = some rest.tail ∧
      rest.dropWhile isPlain = rest ∧ lineEnd? rest = some rest.tail := by
    cases rest with
    | nil => exact ⟨rfl, rfl, rfl⟩
    | cons char rest =>
        simp [skipSpaces, isSpace, skipComment, lineEnd?, isPlain, hrest char rfl]
  obtain ⟨hempty, hdrop, hclose⟩ := hend
  cases h with
  | empty => exact hempty
  | comment hplain =>
      simp [closeLine?, skipSpaces, isSpace, skipComment, List.dropWhile_append_of_pos hplain,
        hdrop, hclose]

/-- A line that says nothing is read as an empty one. -/
theorem IsRemark.read_line (h : IsRemark line) (hrest : ∀ char ∈ rest.head?, char = '\n') :
    readLine (line ++ rest) = some (.empty, rest.tail) := by
  have hclose := h.close_line hrest
  have hstart : skipSpaces (line ++ rest) = line ++ rest ∧ ∀ more, line ++ rest ≠ '[' :: more := by
    cases h with
    | empty =>
        cases rest with
        | nil => exact ⟨rfl, by simp⟩
        | cons char rest => simp [skipSpaces, isSpace, hrest char rfl]
    | comment => simp [skipSpaces, isSpace]
  obtain ⟨hspaces, hbracket⟩ := hstart
  unfold readLine
  rw [hspaces]
  split
  next heq => exact absurd heq (hbracket _)
  next heq => exact absurd heq (hbracket _)
  next => rw [hclose]

/-- A line that says nothing leaves a document as it is. -/
theorem IsRemark.read_lines (h : IsRemark line) (hrest : ∀ char ∈ rest.head?, char = '\n')
    (document : Document) : readLines document (line ++ rest) = readLines document rest.tail := by
  by_cases hempty : line ++ rest = []
  · obtain ⟨rfl, rfl⟩ := List.append_eq_nil_iff.1 hempty
    rfl
  · have hshorter : rest.tail.length < (line ++ rest).length := by
      have hpos := List.length_pos_iff.2 hempty
      simp only [List.length_append, List.length_tail] at hpos ⊢
      omega
    rw [readLines, if_neg (by simpa using hempty), h.read_line hrest]
    simp only [Option.bind_eq_bind, Option.bind_some, Document.add?, if_pos hshorter]

/-- Lines that say nothing leave a document as it is, whatever lines follow. -/
theorem read_lines_remarks (hremarks : ∀ line ∈ remarks, IsRemark line) (document : Document)
    (lines : List (List Char)) :
    readLines document (['\n'].intercalate (remarks ++ lines)) =
      readLines document (['\n'].intercalate lines) := by
  induction remarks with
  | nil => rfl
  | cons remark remarks ih =>
      rw [List.forall_mem_cons] at hremarks
      obtain ⟨rest, hjoin, hrest, htail⟩ :=
        Text.exists_append_of_intercalate '\n' remark (remarks ++ lines)
      rw [List.cons_append, hjoin, hremarks.1.read_lines hrest, htail, ih hremarks.2]

/-- A text without a byte-order mark is read from its first character on. -/
theorem read_document_of_no_mark {text : String} (h : text.toList.head? ≠ some '\uFEFF') :
    readDocument text = (readLines {} text.toList).map Document.entries := by
  unfold readDocument
  split
  next heq => exact absurd (by rw [heq]; rfl) h
  next => rfl

/-- Lines that say nothing do not count in front of a document without a byte-order mark. -/
theorem read_document_remarks (hremarks : ∀ line ∈ remarks, IsRemark line)
    (hmark : (['\n'].intercalate lines).head? ≠ some '\uFEFF') :
    readDocument (String.ofList (['\n'].intercalate (remarks ++ lines))) =
      readDocument (String.ofList (['\n'].intercalate lines)) := by
  have hfront : (['\n'].intercalate (remarks ++ lines)).head? ≠ some '\uFEFF' := by
    cases remarks with
    | nil => exact hmark
    | cons remark remarks =>
        obtain ⟨rest, hjoin, hrest, -⟩ :=
          Text.exists_append_of_intercalate '\n' remark (remarks ++ lines)
        rw [List.cons_append, hjoin]
        cases hremarks remark (by simp) with
        | empty =>
            rw [List.nil_append]
            intro heq
            exact absurd (hrest _ heq) (by decide)
        | comment => simp
  rw [read_document_of_no_mark (by simpa using hfront), read_document_of_no_mark (by simpa using hmark),
    String.toList_ofList, String.toList_ofList, read_lines_remarks hremarks]

end Notekeeper.Toml
