import Mathlib.Data.String.Basic
import Notekeeper.Proofs.Highlight.Spans

/-!
# Marks counted in octets

A line is cut at octets, which are found through a table: for every octet of the lower-cased line it
tells where the character begins and ends from which the octet comes. `table_at` says that the table
leads to whole characters, so that what is found in octets is what is found in characters
(`find_octets_eq`), whatever lower-casing does to the lengths. `find_and_walk` puts together what this
means for the walk over a line.
-/

namespace Notekeeper.Highlight

open Text (lowerEach)

/-! ## Counting octets -/

/-- The number of octets of a text. -/
def octets (text : List Char) : Nat :=
  (String.ofList text).utf8ByteSize

@[simp] theorem octets_nil : octets [] = 0 :=
  rfl

@[simp] theorem octets_append (front rest : List Char) :
    octets (front ++ rest) = octets front + octets rest := by
  simp [octets, String.ofList_append, String.utf8ByteSize_append]

@[simp] theorem octets_cons (char : Char) (rest : List Char) :
    octets (char :: rest) = char.utf8Size + octets rest := by
  simp [octets]

/-- A text that is not empty has octets. -/
theorem octets_pos {text : List Char} (h : text ≠ []) : 0 < octets text := by
  cases text with
  | nil => exact absurd rfl h
  | cons char rest =>
      have hchar := Char.utf8Size_pos char
      rw [octets_cons]
      omega

/-- Longer beginnings of a text have more octets. -/
theorem octets_take_lt_iff {text : List Char} {count other : Nat} (hcount : count ≤ text.length)
    (hother : other ≤ text.length) :
    octets (text.take count) < octets (text.take other) ↔ count < other := by
  have hstrict {less more : Nat} (hless : less < more) (hmore : more ≤ text.length) :
      octets (text.take less) < octets (text.take more) := by
    have hsplit : text.take more = text.take less ++ (text.drop less).take (more - less) := by
      rw [← List.take_add, Nat.add_sub_cancel' hless.le]
    have hne : (text.drop less).take (more - less) ≠ [] := by
      rw [Ne, List.take_eq_nil_iff, List.drop_eq_nil_iff]
      omega
    have hpos := octets_pos hne
    rw [hsplit, octets_append]
    omega
  constructor
  · intro hlt
    by_contra hle
    rcases Nat.eq_or_lt_of_le (Nat.le_of_not_lt hle) with rfl | hgt
    · exact Nat.lt_irrefl _ hlt
    · exact Nat.lt_asymm hlt (hstrict hgt hcount)
  · intro hlt
    exact hstrict hlt hother

/-! ## The table of places -/

/-- For every octet of the lower-cased line the octets at which the character begins and ends from
which it comes, if the line itself begins at an octet. -/
def table (start : Nat) : List Char → List (Nat × Nat)
  | [] => []
  | char :: rest =>
      (Text.lowerChar char).flatMap
          (fun lower => List.replicate lower.utf8Size (start, start + char.utf8Size)) ++
        table (start + char.utf8Size) rest

/-- The span of a term in a line in octets: its first octet and the number of octets. -/
def octetSpan? (line : List Char) (term : String) : Option (Nat × Nat) :=
  if term.isEmpty then none
  else
    let word := Text.lower term.toList
    (Text.cut? word (lowerEach line)).bind fun parts =>
      (table 0 line)[octets parts.1]?.bind fun first =>
        (table 0 line)[octets parts.1 + octets word - 1]?.map fun last =>
          (first.1, last.2 - first.1)

/-- The earliest span of any of some terms in octets. -/
def findOctets? (line : List Char) (terms : List String) : Option (Nat × Nat) :=
  earliest (terms.filterMap (octetSpan? line))

/-- Every character as often as it has octets. -/
def spread {α : Type} (entries : List (Char × α)) : List α :=
  entries.flatMap fun entry => List.replicate entry.1.utf8Size entry.2

/-- The first octet of a character leads to what belongs to it. -/
theorem spread_first {α : Type} {entries : List (Char × α)} {index : Nat} {entry : Char × α}
    (h : entries[index]? = some entry) :
    (spread entries)[octets ((entries.take index).map Prod.fst)]? = some entry.2 := by
  induction entries generalizing index with
  | nil => simp at h
  | cons head entries ih =>
      have hhead := Char.utf8Size_pos head.1
      rw [spread, List.flatMap_cons, ← spread]
      cases index with
      | zero =>
          obtain rfl : head = entry := by simpa using h
          rw [List.getElem?_append_left (by simpa using hhead)]
          simp [hhead]
      | succ index =>
          rw [List.take_succ_cons, List.map_cons, octets_cons,
            List.getElem?_append_right (by simp), List.length_replicate, Nat.add_sub_cancel_left]
          exact ih (by simpa using h)

/-- The last octet of a character leads to what belongs to it. -/
theorem spread_last {α : Type} {entries : List (Char × α)} {index : Nat} {entry : Char × α}
    (h : entries[index]? = some entry) :
    (spread entries)[octets ((entries.take (index + 1)).map Prod.fst) - 1]? = some entry.2 := by
  induction entries generalizing index with
  | nil => simp at h
  | cons head entries ih =>
      have hhead := Char.utf8Size_pos head.1
      rw [spread, List.flatMap_cons, ← spread, List.take_succ_cons, List.map_cons, octets_cons]
      cases index with
      | zero =>
          obtain rfl : head = entry := by simpa using h
          have hlast : head.1.utf8Size - 1 < head.1.utf8Size := by omega
          rw [List.take_zero, List.map_nil, octets_nil, Nat.add_zero,
            List.getElem?_append_left (by rwa [List.length_replicate]),
            List.getElem?_replicate_of_lt hlast]
      | succ index =>
          have hlater : entries[index]? = some entry := by simpa using h
          have hpos : 0 < octets ((entries.take (index + 1)).map Prod.fst) := by
            refine octets_pos fun hnil => ?_
            rw [List.map_eq_nil_iff, List.take_eq_nil_iff] at hnil
            rcases hnil with hzero | rfl
            · omega
            · simp at hlater
          have hbehind : (List.replicate head.1.utf8Size head.2).length ≤
              head.1.utf8Size + octets ((entries.take (index + 1)).map Prod.fst) - 1 := by
            rw [List.length_replicate]
            omega
          rw [List.getElem?_append_right hbehind, List.length_replicate]
          have hindex : head.1.utf8Size + octets ((entries.take (index + 1)).map Prod.fst) - 1 -
              head.1.utf8Size = octets ((entries.take (index + 1)).map Prod.fst) - 1 := by
            omega
          rw [hindex]
          exact ih hlater

/-- The octets at which the character of a line at a place begins and ends. -/
def extent (line : List Char) (place : Nat) : Nat × Nat :=
  (octets (line.take place), octets (line.take (place + 1)))

/-- The table tells for every octet of the lower-cased line the extent of the character at its
place. -/
theorem table_eq (before rest : List Char) :
    table (octets before) rest =
      spread ((lowered before.length rest).map fun entry =>
        (entry.1, extent (before ++ rest) entry.2)) := by
  induction rest generalizing before with
  | nil => rfl
  | cons char rest ih =>
      have hrest := ih (before ++ [char])
      have hextent : extent (before ++ char :: rest) before.length =
          (octets before, octets before + char.utf8Size) := by
        have htake : (before ++ char :: rest).take before.length = before := List.take_left' rfl
        have hnext : (before ++ char :: rest).take (before.length + 1) = before ++ [char] := by
          rw [List.append_cons]
          exact List.take_left' (by simp)
        simp [extent, htake, hnext]
      simp only [octets_append, octets_cons, octets_nil, Nat.add_zero, List.length_append,
        List.length_cons, List.length_nil, List.append_assoc, List.singleton_append,
        Nat.zero_add] at hrest
      rw [table, hrest, lowered, List.map_append, spread, spread, List.flatMap_append]
      congr 1
      simp only [List.map_map, List.flatMap_map, Function.comp_def, hextent]

/-- The table leads from the first and from the last octet of a lower-cased character to the extent of
the character at its place. -/
theorem table_at {line : List Char} {index : Nat} {entry : Char × Nat}
    (h : (lowered 0 line)[index]? = some entry) :
    (table 0 line)[octets ((lowerEach line).take index)]? = some (extent line entry.2) ∧
      (table 0 line)[octets ((lowerEach line).take (index + 1)) - 1]? =
        some (extent line entry.2) := by
  have htable : table 0 line =
      spread ((lowered 0 line).map fun entry => (entry.1, extent line entry.2)) := table_eq [] line
  have hchars : ((lowered 0 line).map fun entry => (entry.1, extent line entry.2)).map Prod.fst =
      lowerEach line := by
    rw [List.map_map, ← map_fst_lowered 0 line]
    rfl
  have hentry : ((lowered 0 line).map fun entry => (entry.1, extent line entry.2))[index]? =
      some (entry.1, extent line entry.2) := by
    rw [List.getElem?_map, h, Option.map_some]
  rw [htable, ← hchars]
  constructor
  · rw [← List.map_take]
    exact spread_first hentry
  · rw [← List.map_take]
    exact spread_last hentry

/-! ## Marks -/

/-- A stretch of a line counted in octets, as the octets before it and in it. -/
def inOctets (line : List Char) (span : Nat × Nat) : Nat × Nat :=
  (octets (line.take span.1), octets ((line.drop span.1).take span.2))

/-- The span of a term in octets is that in characters. -/
theorem octet_span_eq (line : List Char) (term : String) :
    octetSpan? line term = (span? line term).map (inOctets line) := by
  by_cases hterm : term = ""
  · simp [octetSpan?, span?, hterm]
  · have hempty : ¬term.isEmpty = true := by simpa using hterm
    have hpos : 0 < (Text.lower term.toList).length :=
      List.length_pos_iff.2 (lower_term_ne_nil hterm)
    rw [octetSpan?, if_neg hempty, span_eq hterm]
    rcases occurrence_cases line (lower_term_ne_nil hterm) with
      hnone | ⟨before, after, first, last, hcut, hfirst, hlast⟩
    · simp [hnone]
    · obtain ⟨hline, -⟩ := Text.cut_first hcut
      have hbefore : (lowerEach line).take before.length = before := by
        rw [hline, List.append_assoc]
        exact List.take_left' rfl
      have hword : (lowerEach line).take (before.length + (Text.lower term.toList).length - 1 + 1) =
          before ++ Text.lower term.toList := by
        rw [hline]
        exact List.take_left' (by rw [List.length_append]; omega)
      have hstart := (table_at hfirst).1
      have hstop := (table_at hlast).2
      rw [hbefore] at hstart
      rw [hword, octets_append] at hstop
      have hle := place_le hfirst hlast (by omega)
      have hcount : first.2 + (last.2 + 1 - first.2) = last.2 + 1 := by omega
      have htake : line.take (last.2 + 1) =
          line.take first.2 ++ (line.drop first.2).take (last.2 + 1 - first.2) := by
        rw [← List.take_add, hcount]
      simp only [hcut, Option.bind_some, hstart, hstop, hfirst, hlast, Option.map_some, extent,
        inOctets, htake, octets_append, Nat.add_sub_cancel_left]

/-- A stretch within a line. -/
def Within (line : List Char) (span : Nat × Nat) : Prop :=
  span.1 + span.2 ≤ line.length

variable {line : List Char}

/-- Of two stretches of a line the earlier in octets is the earlier in characters. -/
theorem earlier_in_octets {one other : Nat × Nat} (hone : Within line one)
    (hother : Within line other) :
    earlier (inOctets line one) (inOctets line other) = inOctets line (earlier one other) := by
  obtain ⟨start, count⟩ := one
  obtain ⟨otherStart, otherCount⟩ := other
  simp only [Within] at hone hother
  have hlt : octets (line.take otherStart) < octets (line.take start) ↔ otherStart < start :=
    octets_take_lt_iff (by omega) (by omega)
  have hgt : octets (line.take start) < octets (line.take otherStart) ↔ start < otherStart :=
    octets_take_lt_iff (by omega) (by omega)
  have hcondition :
      (octets (line.take otherStart) < octets (line.take start) ∨
        (octets (line.take otherStart) = octets (line.take start) ∧
          octets ((line.drop otherStart).take otherCount) <
            octets ((line.drop start).take count))) ↔
      (otherStart < start ∨ (otherStart = start ∧ otherCount < count)) := by
    rcases Nat.lt_trichotomy otherStart start with hless | rfl | hmore
    · exact iff_of_true (.inl (hlt.2 hless)) (.inl hless)
    · have hlength : otherCount ≤ (line.drop otherStart).length ∧
          count ≤ (line.drop otherStart).length := by
        rw [List.length_drop]
        omega
      have hcounts := octets_take_lt_iff hlength.1 hlength.2
      simp only [Nat.lt_irrefl, false_or, true_and, hcounts]
    · have hoctets := hgt.2 hmore
      refine iff_of_false ?_ ?_ <;> omega
  simp only [earlier, inOctets, hcondition]
  split <;> rfl

/-- The earliest of some stretches of a line in octets is the earliest in characters. -/
theorem earliest_in_octets {spans : List (Nat × Nat)} (h : ∀ span ∈ spans, Within line span) :
    earliest (spans.map (inOctets line)) = (earliest spans).map (inOctets line) := by
  have hfold (spans : List (Nat × Nat)) (found : Option (Nat × Nat))
      (hfound : ∀ span ∈ found, Within line span) (h : ∀ span ∈ spans, Within line span) :
      (spans.map (inOctets line)).foldl
          (fun found span => some (found.elim span fun best => earlier best span))
          (found.map (inOctets line)) =
        (spans.foldl (fun found span => some (found.elim span fun best => earlier best span))
          found).map (inOctets line) := by
    induction spans generalizing found with
    | nil => rfl
    | cons span spans ih =>
        have hspan := h span (by simp)
        have hrest : ∀ other ∈ spans, Within line other := fun other hmem => h other (by simp [hmem])
        rw [List.map_cons, List.foldl_cons, List.foldl_cons]
        cases found with
        | none => exact ih (some span) (by simpa using hspan) hrest
        | some best =>
            have hbest := hfound best rfl
            have hbetter : Within line (earlier best span) := by
              rcases (earlier_cases best span).1 with heq | heq <;> rwa [heq]
            have hnext := ih (some (earlier best span)) (by simpa using hbetter) hrest
            rw [Option.map_some, ← earlier_in_octets hbest hspan] at hnext
            exact hnext
  exact hfold spans none (by simp) h

/-- What is found in octets is what is found in characters. -/
theorem find_octets_eq (line : List Char) (terms : List String) :
    findOctets? line terms = (find? line terms).map (inOctets line) := by
  have hspans : terms.filterMap (octetSpan? line) =
      (terms.filterMap (span? line)).map (inOctets line) := by
    rw [List.map_filterMap]
    exact congrArg (List.filterMap · terms) (funext (octet_span_eq line))
  rw [findOctets?, find_eq_earliest, hspans]
  refine earliest_in_octets fun span hmem => ?_
  obtain ⟨term, -, hspan⟩ := List.mem_filterMap.1 hmem
  exact (is_first_of_span hspan).2.within

/-! ## The walk -/

/-- The walk over a line: the first mark is cut out at its octets, which must be those of whole
characters, until nothing is found in the rest. -/
inductive Walk (terms : List String) : List Char → List Piece → Prop where
  | stop {line : List Char} (hnone : findOctets? line terms = none) : Walk terms line [⟨line, false⟩]
  | mark {before marked rest : List Char} {pieces : List Piece}
      (hfound : findOctets? (before ++ marked ++ rest) terms = some (octets before, octets marked))
      (hrest : Walk terms rest pieces) :
      Walk terms (before ++ marked ++ rest) (⟨before, false⟩ :: ⟨marked, true⟩ :: pieces)

/-- A walk writes its line. -/
theorem Walk.text_eq {terms : List String} {line : List Char} {pieces : List Piece}
    (h : Walk terms line pieces) : pieces.flatMap Piece.text = line := by
  induction h with
  | stop hnone => exact List.append_nil _
  | mark hfound hrest ih =>
      rw [List.flatMap_cons, List.flatMap_cons, ih, List.append_assoc]

/-- A line that is cut is cut at the octets that are found. -/
theorem find_octets_of_cut {terms : List String} {before marked rest : List Char}
    (h : cut? line terms = some (before, marked, rest)) :
    findOctets? line terms = some (octets before, octets marked) := by
  obtain ⟨hmark, hfound⟩ := is_mark_of_cut h
  have hbefore : line.take before.length = before := by
    rw [hmark.line_eq, List.append_assoc]
    exact List.take_left' rfl
  have hmarked : (line.drop before.length).take marked.length = marked := by
    rw [hmark.line_eq, List.append_assoc, List.drop_left' rfl]
    exact List.take_left' rfl
  rw [find_octets_eq, hfound, Option.map_some, inOctets, hbefore, hmarked]

/-- The pieces of a line are those of its walk. -/
theorem walk_pieces (line : List Char) (terms : List String) : Walk terms line (pieces line terms) := by
  induction hlength : line.length using Nat.strong_induction_on generalizing line with
  | h length ih =>
      rw [pieces_eq]
      cases hcut : cut? line terms with
      | none =>
          have hnone : find? line terms = none := Option.map_eq_none_iff.1 hcut
          exact .stop (by rw [find_octets_eq, hnone, Option.map_none])
      | some parts =>
          obtain ⟨before, marked, rest⟩ := parts
          obtain ⟨hmark, -⟩ := is_mark_of_cut hcut
          have hfound := find_octets_of_cut hcut
          have hpos : 0 < marked.length := List.length_pos_iff.2 hmark.marked_ne
          have hshorter : rest.length < length := by
            rw [← hlength, hmark.line_eq, List.length_append, List.length_append]
            omega
          rw [hmark.line_eq] at hfound ⊢
          exact .mark hfound (ih rest.length hshorter rest rfl)

/-- What is found in a line is nothing exactly if no term stands in the line lower-cased character by
character. Otherwise it lies at whole characters and is not empty, covers a term, and no term begins
before it. So the walk over the line comes to its end, and the pieces it writes are the line. -/
theorem find_and_walk (line : List Char) (terms : List String) :
    (findOctets? line terms = none ↔
      ∀ term ∈ terms, term ≠ "" → ¬Text.lower term.toList <:+: lowerEach line) ∧
    (∀ start count, findOctets? line terms = some (start, count) →
      0 < count ∧ ∃ before marked rest, IsMark line terms before marked rest ∧
        start = octets before ∧ start + count = octets (before ++ marked)) ∧
    Walk terms line (pieces line terms) ∧ (pieces line terms).flatMap Piece.text = line := by
  refine ⟨?_, fun start count hfound => ?_, walk_pieces line terms, (walk_pieces line terms).text_eq⟩
  · rw [find_octets_eq, Option.map_eq_none_iff, find_eq_none_iff]
  · rw [find_octets_eq] at hfound
    obtain ⟨⟨place, length⟩, hplace, heq⟩ := Option.map_eq_some_iff.1 hfound
    obtain ⟨rfl, rfl⟩ := Prod.mk.inj heq
    obtain ⟨-, hmark⟩ := is_mark_of_find hplace
    exact ⟨octets_pos hmark.marked_ne, _, _, _, hmark, rfl, (octets_append _ _).symm⟩

end Notekeeper.Highlight
