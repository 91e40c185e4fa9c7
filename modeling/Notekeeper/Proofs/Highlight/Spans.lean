import Notekeeper.Highlight
import Notekeeper.Proofs.Text.Case
import Notekeeper.Proofs.Text.Occurrence

/-!
# Where a line is marked

A mark is found in the lower-cased line and told by places in the line itself. `place_bounds` and
`place_le` say what a place is: lower-casing what stands before it does not reach as far, and later
characters have later places. So the span of a term is the first stretch of the line in which the term
stands (`is_first_of_span`), and what is cut out of a line is a mark (`is_mark_of_cut`): a stretch that
is not empty, covers a term and has no term begin before it. Since it is not empty, the walk over the
line ends (`pieces_eq`).
-/

namespace Notekeeper.Highlight

open Text (lowerEach)

/-! ## The lower-cased line -/

/-- The characters of a lower-cased line without their places. -/
theorem map_fst_lowered (first : Nat) (line : List Char) :
    (lowered first line).map Prod.fst = lowerEach line := by
  induction line generalizing first with
  | nil => rfl
  | cons char rest ih =>
      have hchar : ((Text.lowerChar char).map fun lower => (lower, first)).map Prod.fst =
          Text.lowerChar char := by
        rw [List.map_map]
        exact List.map_id _
      rw [lowered, List.map_append, ih, hchar]
      rfl

/-- A character of the lower-cased line comes from the character at its place: what stands before that
one does not reach as far in lower case, and does so together with it. -/
theorem lowered_at {first : Nat} {line : List Char} {index : Nat} {entry : Char × Nat}
    (h : (lowered first line)[index]? = some entry) :
    ∃ before char rest, line = before ++ char :: rest ∧ entry.2 = first + before.length ∧
      (lowerEach before).length ≤ index ∧ index < (lowerEach (before ++ [char])).length := by
  induction line generalizing first index with
  | nil => simp [lowered] at h
  | cons char rest ih =>
      have hlength : ((Text.lowerChar char).map fun lower => (lower, first)).length =
          (lowerEach [char]).length := by
        simp [lowerEach]
      rw [lowered, List.getElem?_append, hlength] at h
      split at h
      next hwithin =>
        refine ⟨[], char, rest, rfl, ?_, Nat.zero_le _, hwithin⟩
        obtain ⟨lower, -, rfl⟩ := List.mem_map.1 (List.mem_of_getElem? h)
        rfl
      next hbehind =>
        obtain ⟨before, found, more, rfl, hplace, hbefore, hafter⟩ := ih h
        have hcons (text : List Char) :
            (lowerEach (char :: text)).length = (lowerEach [char]).length + (lowerEach text).length := by
          rw [← List.length_append, ← Text.lower_each_append]
          rfl
        refine ⟨char :: before, found, more, rfl, ?_, ?_, ?_⟩
        · rw [hplace, List.length_cons]
          omega
        · rw [hcons]
          omega
        · rw [List.cons_append, hcons]
          omega

/-- The first occurrence of a word is where the text is cut, and its places are those of the first and
the last character there. -/
theorem occurrence_eq {word : List Char} (hword : word ≠ []) (entries : List (Char × Nat)) :
    occurrence? word entries =
      (Text.cut? word (entries.map Prod.fst)).bind fun parts =>
        entries[parts.1.length]?.bind fun first =>
          entries[parts.1.length + word.length - 1]?.map fun last => (first.2, last.2) := by
  have hpos : 0 < word.length := List.length_pos_iff.2 hword
  induction entries with
  | nil => simp [occurrence?, Text.cut?, hword]
  | cons entry rest ih =>
      have hbegins : ((entry :: rest).take word.length).map Prod.fst = word ↔
          word.isPrefixOf ((entry :: rest).map Prod.fst) = true := by
        rw [List.isPrefixOf_iff_prefix, List.prefix_iff_eq_take, List.map_take, eq_comm]
      rw [occurrence?, List.map_cons, Text.cut?, ← List.map_cons]
      by_cases hfront : ((entry :: rest).take word.length).map Prod.fst = word
      · have hlength : word.length ≤ (entry :: rest).length := by
          have := congrArg List.length hfront
          simp only [List.length_map, List.length_take] at this
          omega
        have hlast : ((entry :: rest).take word.length).getLast? =
            (entry :: rest)[word.length - 1]? := by
          rw [List.getLast?_eq_getElem?, List.length_take, Nat.min_eq_left hlength,
            List.getElem?_take_of_lt (by omega)]
        rw [if_pos (hbegins.1 hfront)]
        simp only [hfront, if_true, hlast, Option.bind_some, List.length_nil, Nat.zero_add]
        rfl
      · have hshift (before : List Char) :
            (entry :: rest)[(entry.1 :: before).length + word.length - 1]? =
              rest[before.length + word.length - 1]? := by
          have hindex : (entry.1 :: before).length + word.length - 1 =
              before.length + word.length - 1 + 1 := by
            rw [List.length_cons]
            omega
          rw [hindex, List.getElem?_cons_succ]
        rw [if_neg fun hcut => hfront (hbegins.2 hcut)]
        simp only [hfront, if_false, ih, Option.bind_map, Function.comp_def, hshift]
        rfl

/-- A character of the lower-cased line comes from the character of the line at its place. -/
theorem place_bounds {line : List Char} {index : Nat} {entry : Char × Nat}
    (h : (lowered 0 line)[index]? = some entry) :
    entry.2 < line.length ∧ (lowerEach (line.take entry.2)).length ≤ index ∧
      index < (lowerEach (line.take (entry.2 + 1))).length := by
  obtain ⟨before, char, rest, rfl, hplace, hbefore, hafter⟩ := lowered_at h
  have htake : (before ++ char :: rest).take before.length = before := List.take_left' rfl
  have hnext : (before ++ char :: rest).take (before.length + 1) = before ++ [char] := by
    rw [List.append_cons]
    exact List.take_left' (by simp)
  rw [Nat.zero_add] at hplace
  rw [hplace, htake, hnext]
  exact ⟨by simp, hbefore, hafter⟩

/-- Later characters of the lower-cased line come from later characters of the line, or the same. -/
theorem place_le {line : List Char} {index later : Nat} {entry other : Char × Nat}
    (hentry : (lowered 0 line)[index]? = some entry) (hother : (lowered 0 line)[later]? = some other)
    (hle : index ≤ later) : entry.2 ≤ other.2 := by
  obtain ⟨-, hbefore, -⟩ := place_bounds hentry
  obtain ⟨-, -, hafter⟩ := place_bounds hother
  by_contra hlt
  have hfront : line.take (other.2 + 1) <+: line.take entry.2 :=
    List.take_prefix_take_left (by omega)
  have := Text.length_lower_each_le hfront
  omega

/-! ## Spans -/

/-- A stretch of a line is the first in which a word stands: its lower-cased form covers the word, and
the word does not stand anywhere else in the lower-cased line before it begins. -/
structure IsFirst (line word : List Char) (start count : Nat) : Prop where
  pos : 0 < count
  within : start + count ≤ line.length
  covers : word <:+: lowerEach ((line.drop start).take count)
  first : ∀ front back, lowerEach line = front ++ word ++ back →
    (lowerEach (line.take start)).length ≤ front.length

/-- A word that stands within the bounds of a middle part stands in it. -/
theorem infix_of_bounds {first middle last front word back : List Char}
    (h : first ++ middle ++ last = front ++ word ++ back) (hstart : first.length ≤ front.length)
    (hstop : (front ++ word).length ≤ (first ++ middle).length) : word <:+: middle := by
  obtain ⟨more, hmore⟩ := List.prefix_of_prefix_length_le ⟨back, h.symm⟩
    (List.prefix_append (first ++ middle) last) hstop
  have hbegins : front <+: first ++ middle := ⟨word ++ more, by rw [← List.append_assoc, hmore]⟩
  obtain ⟨gap, rfl⟩ := List.prefix_of_prefix_length_le (List.prefix_append first middle) hbegins hstart
  refine ⟨gap, more, ?_⟩
  rw [List.append_assoc, List.append_assoc, List.append_cancel_left_eq] at hmore
  rw [List.append_assoc, hmore]

/-- What is known of a term in a line: it does not stand in the lower-cased line, or it stands first
where that is cut, with its first and its last character at places in order. -/
theorem occurrence_cases (line : List Char) {word : List Char} (hword : word ≠ []) :
    Text.cut? word (lowerEach line) = none ∨
      ∃ before after first last, Text.cut? word (lowerEach line) = some (before, after) ∧
        (lowered 0 line)[before.length]? = some first ∧
        (lowered 0 line)[before.length + word.length - 1]? = some last := by
  cases hcut : Text.cut? word (lowerEach line) with
  | none => exact .inl rfl
  | some parts =>
      obtain ⟨before, after⟩ := parts
      have hpos : 0 < word.length := List.length_pos_iff.2 hword
      have hlength : (lowered 0 line).length = before.length + word.length + after.length := by
        rw [← List.length_map (f := Prod.fst), map_fst_lowered, (Text.cut_first hcut).1]
        simp [Nat.add_assoc]
      exact .inr ⟨before, after, _, _, rfl, List.getElem?_eq_getElem (by omega),
        List.getElem?_eq_getElem (by omega)⟩

variable {line : List Char} {term : String}

/-- The lower-case form of a term that is not empty is not empty. -/
theorem lower_term_ne_nil (h : term ≠ "") : Text.lower term.toList ≠ [] :=
  Text.lower_ne_nil fun hnil => h (String.toList_eq_nil_iff.1 hnil)

/-- The span of a term runs from the first to the last of the places of its first occurrence. -/
theorem span_eq (h : term ≠ "") (line : List Char) :
    span? line term =
      (Text.cut? (Text.lower term.toList) (lowerEach line)).bind fun parts =>
        (lowered 0 line)[parts.1.length]?.bind fun first =>
          (lowered 0 line)[parts.1.length + (Text.lower term.toList).length - 1]?.map fun last =>
            (first.2, last.2 + 1 - first.2) := by
  have hempty : ¬term.isEmpty = true := by simpa using h
  rw [span?, if_neg hempty, occurrence_eq (lower_term_ne_nil h), map_fst_lowered]
  simp only [Option.map_bind, Option.map_map, Function.comp_def]

/-- A term without a span does not stand in the lower-cased line. -/
theorem span_eq_none_iff :
    span? line term = none ↔ term ≠ "" → ¬Text.lower term.toList <:+: lowerEach line := by
  by_cases hterm : term = ""
  · simp [span?, hterm]
  · rw [← Text.cut_eq_none_iff, span_eq hterm]
    rcases occurrence_cases line (lower_term_ne_nil hterm) with
      hnone | ⟨before, after, first, last, hcut, hfirst, hlast⟩
    · simp [hnone]
    · simp [hcut, hfirst, hlast, hterm]

/-- The span of a term is the first stretch of the line in which it stands. -/
theorem is_first_of_span {start count : Nat} (h : span? line term = some (start, count)) :
    term ≠ "" ∧ IsFirst line (Text.lower term.toList) start count := by
  have hterm : term ≠ "" := by
    rintro rfl
    simp [span?] at h
  refine ⟨hterm, ?_⟩
  rw [span_eq hterm] at h
  rcases occurrence_cases line (lower_term_ne_nil hterm) with
    hnone | ⟨before, after, first, last, hcut, hfirst, hlast⟩
  · simp [hnone] at h
  · rw [hcut, Option.bind_some, hfirst, Option.bind_some, hlast, Option.map_some] at h
    obtain ⟨rfl, rfl⟩ := Prod.mk.inj (Option.some.inj h)
    obtain ⟨hline, hearliest⟩ := Text.cut_first hcut
    obtain ⟨-, hstart, -⟩ := place_bounds hfirst
    obtain ⟨hwithin, -, hstop⟩ := place_bounds hlast
    have hpos : 0 < (Text.lower term.toList).length :=
      List.length_pos_iff.2 (lower_term_ne_nil hterm)
    have hle := place_le hfirst hlast (by omega)
    have hcount : first.2 + (last.2 + 1 - first.2) = last.2 + 1 := by omega
    have htake : line.take first.2 ++ (line.drop first.2).take (last.2 + 1 - first.2) =
        line.take (last.2 + 1) := by
      rw [← List.take_add, hcount]
    have hparts : lowerEach (line.take first.2) ++
        lowerEach ((line.drop first.2).take (last.2 + 1 - first.2)) ++
          lowerEach (line.drop (last.2 + 1)) = before ++ Text.lower term.toList ++ after := by
      rw [← Text.lower_each_append, htake, ← Text.lower_each_append, List.take_append_drop, hline]
    refine ⟨by omega, by omega, infix_of_bounds hparts hstart ?_, fun front back hother => ?_⟩
    · rw [← Text.lower_each_append, htake, List.length_append]
      omega
    · exact hstart.trans (hearliest front back hother)

/-! ## The earliest span -/

/-- The earliest of some spans. -/
def earliest (spans : List (Nat × Nat)) : Option (Nat × Nat) :=
  spans.foldl (fun found span => some (found.elim span fun best => earlier best span)) none

/-- The earlier of two spans is one of them and does not begin behind the other. -/
theorem earlier_cases (one other : Nat × Nat) :
    (earlier one other = one ∨ earlier one other = other) ∧
      (earlier one other).1 ≤ one.1 ∧ (earlier one other).1 ≤ other.1 := by
  unfold earlier
  split
  next hother => exact ⟨.inr rfl, by omega, Nat.le_refl _⟩
  next hone => exact ⟨.inl rfl, Nat.le_refl _, by omega⟩

/-- Comparing with further spans keeps one of them all, and none of them begins before it. -/
theorem foldl_earlier (spans : List (Nat × Nat)) (best : Nat × Nat) :
    ∃ found ∈ best :: spans,
      spans.foldl (fun found span => some (found.elim span fun best => earlier best span))
        (some best) = some found ∧ ∀ span ∈ best :: spans, found.1 ≤ span.1 := by
  induction spans generalizing best with
  | nil => exact ⟨best, by simp, rfl, by simp⟩
  | cons span spans ih =>
      obtain ⟨found, hmem, hfold, hleast⟩ := ih (earlier best span)
      obtain ⟨hone, hbest, hspan⟩ := earlier_cases best span
      have hfound := hleast (earlier best span) (by simp)
      refine ⟨found, ?_, hfold, fun other hother => ?_⟩
      · rcases List.mem_cons.1 hmem with rfl | hmem
        · rcases hone with heq | heq <;> simp [heq]
        · simp [hmem]
      · simp only [List.mem_cons] at hother
        rcases hother with rfl | rfl | hother
        · exact hfound.trans hbest
        · exact hfound.trans hspan
        · exact hleast other (by simp [hother])

/-- There is an earliest span unless there is none at all; it is one of the spans, and none begins
before it. -/
theorem earliest_cases (spans : List (Nat × Nat)) :
    (spans = [] ∧ earliest spans = none) ∨
      ∃ found ∈ spans, earliest spans = some found ∧ ∀ span ∈ spans, found.1 ≤ span.1 := by
  cases spans with
  | nil => exact .inl ⟨rfl, rfl⟩
  | cons span spans => exact .inr (foldl_earlier spans span)

/-- The mark of some terms in a line is their earliest span. -/
theorem find_eq_earliest (line : List Char) (terms : List String) :
    find? line terms = earliest (terms.filterMap (span? line)) :=
  rfl

variable {terms : List String}

/-- Nothing is marked exactly if no term stands in the lower-cased line. -/
theorem find_eq_none_iff :
    find? line terms = none ↔
      ∀ term ∈ terms, term ≠ "" → ¬Text.lower term.toList <:+: lowerEach line := by
  have hspans : terms.filterMap (span? line) = [] ↔
      ∀ term ∈ terms, term ≠ "" → ¬Text.lower term.toList <:+: lowerEach line := by
    rw [List.filterMap_eq_nil_iff]
    exact forall₂_congr fun term _ => span_eq_none_iff
  rw [find_eq_earliest, ← hspans]
  rcases earliest_cases (terms.filterMap (span? line)) with ⟨hnil, hnone⟩ | ⟨found, hmem, hsome, -⟩
  · exact iff_of_true hnone hnil
  · exact iff_of_false (by simp [hsome]) (List.ne_nil_of_mem hmem)

/-- A line is cut into what is before a mark, the mark and the rest: the mark is not empty and covers a
term, and no term stands in the lower-cased line before the mark begins. -/
structure IsMark (line : List Char) (terms : List String) (before marked rest : List Char) :
    Prop where
  line_eq : line = before ++ marked ++ rest
  marked_ne : marked ≠ []
  covers : ∃ term ∈ terms, term ≠ "" ∧ Text.lower term.toList <:+: lowerEach marked
  first : ∀ term ∈ terms, term ≠ "" → ∀ front back,
    lowerEach line = front ++ Text.lower term.toList ++ back →
      (lowerEach before).length ≤ front.length

/-- What is found in a line is a mark within the line. -/
theorem is_mark_of_find {start count : Nat} (h : find? line terms = some (start, count)) :
    start + count ≤ line.length ∧
      IsMark line terms (line.take start) ((line.drop start).take count)
        (line.drop (start + count)) := by
  rw [find_eq_earliest] at h
  rcases earliest_cases (terms.filterMap (span? line)) with ⟨-, hnone⟩ | ⟨found, hmem, hsome, hleast⟩
  · rw [hnone] at h
    cases h
  · obtain rfl := Option.some.inj (hsome.symm.trans h)
    obtain ⟨term, hterm, hspan⟩ := List.mem_filterMap.1 hmem
    obtain ⟨hne, hfirst⟩ := is_first_of_span hspan
    have hpos := hfirst.pos
    have hwithin := hfirst.within
    refine ⟨hwithin, ?_, ?_, ⟨term, hterm, hne, hfirst.covers⟩, ?_⟩
    · rw [← List.take_add, List.take_append_drop]
    · rw [Ne, List.take_eq_nil_iff, List.drop_eq_nil_iff]
      omega
    · intro other hother hotherNe front back hline
      have hstands : Text.lower other.toList <:+: lowerEach line := ⟨front, back, hline.symm⟩
      cases hspan : span? line other with
      | none => exact absurd hstands (span_eq_none_iff.1 hspan hotherNe)
      | some span =>
          have hle := hleast span (List.mem_filterMap.2 ⟨other, hother, hspan⟩)
          have hfront : line.take start <+: line.take span.1 := List.take_prefix_take_left hle
          exact (Text.length_lower_each_le hfront).trans
            ((is_first_of_span hspan).2.first front back hline)

/-- A line that is cut is cut at a mark. -/
theorem is_mark_of_cut {before marked rest : List Char}
    (h : cut? line terms = some (before, marked, rest)) :
    IsMark line terms before marked rest ∧
      find? line terms = some (before.length, marked.length) := by
  obtain ⟨⟨start, count⟩, hfound, hparts⟩ := Option.map_eq_some_iff.1 h
  obtain ⟨hwithin, hmark⟩ := is_mark_of_find hfound
  simp only [Prod.mk.injEq] at hparts
  obtain ⟨rfl, rfl, rfl⟩ := hparts
  refine ⟨hmark, ?_⟩
  rw [hfound, List.length_take, List.length_take, List.length_drop]
  congr 2 <;> omega

/-! ## All marks -/

/-- The pieces of a line are those before and in its first mark, and the pieces of the rest. -/
theorem pieces_eq (line : List Char) (terms : List String) :
    pieces line terms =
      match cut? line terms with
      | some (before, marked, rest) => ⟨before, false⟩ :: ⟨marked, true⟩ :: pieces rest terms
      | none => [⟨line, false⟩] := by
  rw [pieces]
  cases hcut : cut? line terms with
  | none => rfl
  | some parts =>
      obtain ⟨before, marked, rest⟩ := parts
      obtain ⟨hmark, -⟩ := is_mark_of_cut hcut
      have hpos : 0 < marked.length := List.length_pos_iff.2 hmark.marked_ne
      have hshorter : rest.length < line.length := by
        rw [hmark.line_eq, List.length_append, List.length_append]
        omega
      exact if_pos hshorter

end Notekeeper.Highlight
