import Notekeeper.Proofs.Highlight.Spans
import Notekeeper.Store.Listing

/-!
# Marking what a search has matched

A full-text search lower-cases the texts of a note as a whole, highlighting lower-cases a line
character by character. `marked_iff_matched` says where a term is marked exactly if it is matched:
whatever the term is, in the texts in which no capital sigma ends a word, and whatever the text is, for
the terms without a small sigma. Elsewhere the two part (`final_sigma_not_marked`).
-/

namespace Notekeeper

/-- Whether a full-text search for a term matches a text. -/
def Text.isMatched (text : List Char) (term : String) : Bool :=
  occursIn (lowercase term).toList (lower text)

/-- A note holds a text that is searched for if one of its own texts is matched. -/
theorem Note.holds_text_eq (note : Note) (term : String) :
    note.holdsText (Text.lowercase term) =
      note.searchedTexts.any fun searched => Text.isMatched searched.toList term :=
  rfl

namespace Highlight

open Text (lowerEach)

variable {line : List Char} {term : String}

/-- Whether a term is marked in a line. -/
def isMarked (line : List Char) (term : String) : Bool :=
  (find? line [term]).isSome

/-- A term is marked exactly if it stands in the line lower-cased character by character. -/
theorem is_marked_iff (h : term ≠ "") :
    isMarked line term = true ↔ Text.lower term.toList <:+: lowerEach line := by
  rw [isMarked, Option.isSome_iff_ne_none, Ne, find_eq_none_iff]
  simp [h]

/-- A term is matched exactly if it stands in the line lower-cased as a whole. -/
theorem is_matched_iff :
    Text.isMatched line term = true ↔ Text.lower term.toList <:+: Text.lower line := by
  rw [Text.isMatched, Text.occurs_in_iff, Text.lowercase, String.toList_ofList]

/-- A term is marked exactly if it is matched: every term in a line in which no capital sigma ends a
word, and in no other line every term; and in every line a term whose lower-case form has no sigma. A
full-text search finds a note exactly if the term is matched in one of its texts. -/
theorem marked_iff_matched (line : List Char) :
    ((∀ term ≠ "", isMarked line term = Text.isMatched line term) ↔ ¬Text.HasFinalSigma line) ∧
    (∀ term ≠ "", 'σ' ∉ Text.lower term.toList → 'ς' ∉ Text.lower term.toList →
      isMarked line term = Text.isMatched line term) ∧
    ∀ (note : Note) (term : String), note.holdsText (Text.lowercase term) =
      note.searchedTexts.any fun searched => Text.isMatched searched.toList term := by
  refine ⟨?_, ?_, fun note term => note.holds_text_eq term⟩
  · rw [← Text.lower_eq_lower_each_iff]
    constructor
    · intro hagrees
      by_contra hdiffers
      -- The line itself is matched in the line, and could only be marked if the two forms were equal.
      have hline : line ≠ [] := by
        rintro rfl
        exact hdiffers rfl
      have hterm : String.ofList line ≠ "" := by simpa using hline
      have hmatched : Text.isMatched line (String.ofList line) = true := by
        rw [is_matched_iff, String.toList_ofList]
      have hmarked : isMarked line (String.ofList line) = true := (hagrees _ hterm).trans hmatched
      rw [is_marked_iff hterm, String.toList_ofList] at hmarked
      exact hdiffers (hmarked.eq_of_length (Text.length_lower_after [] line))
    · intro hsame term hterm
      rw [Bool.eq_iff_iff, is_marked_iff hterm, is_matched_iff, hsame]
  · intro term hterm hsigma hfinal
    rw [Bool.eq_iff_iff, is_marked_iff hterm, is_matched_iff, Text.infix_lower_iff hsigma hfinal]

/-- Every term is marked that is matched in a word that only begins with a capital sigma, and a term
without sigma also behind a word that ends in one. -/
theorem marked_iff_matched_of_words :
    (∀ term ≠ "", isMarked "ΣΟΦΙΑ".toList term = Text.isMatched "ΣΟΦΙΑ".toList term) ∧
      isMarked "ΟΔΟΣ ÄÖ".toList "ä" = Text.isMatched "ΟΔΟΣ ÄÖ".toList "ä" := by
  have hnone : ¬Text.HasFinalSigma "ΣΟΦΙΑ".toList := by
    rw [← Text.lower_eq_lower_each_iff]
    decide +kernel
  exact ⟨(marked_iff_matched _).1.2 hnone,
    (marked_iff_matched _).2.1 "ä" (by decide) (by decide +kernel) (by decide +kernel)⟩

/-- A word that ends in a capital sigma is matched in itself and not marked. -/
theorem final_sigma_not_marked :
    "ΟΔΟΣ" ≠ "" ∧ Text.isMatched "ΟΔΟΣ".toList "ΟΔΟΣ" = true ∧
      isMarked "ΟΔΟΣ".toList "ΟΔΟΣ" = false := by
  decide +kernel

end Highlight

end Notekeeper
