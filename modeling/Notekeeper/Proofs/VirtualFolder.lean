import Notekeeper.Note.Input
import Notekeeper.Proofs.Note.Bullets
import Notekeeper.Proofs.Text.Occurrence
import Notekeeper.VirtualFolder

/-!
# Virtual folders in a body in regular form

A virtual folder is defined by the last line that defines its name (`get_of_text_iff`). When a body is
brought into regular form, a line below a bullet line of its run becomes a bullet line too and defines
nothing any more; every other line stays as it is. `of_text_normalize` says what that leaves of the
virtual folders of a body, and when it leaves them all.
-/

namespace Notekeeper.VirtualFolders

open Bullets (Above Begins Known carry carryOn linesOf mark normalize)

/-! ## The line that counts -/

/-- The virtual folders that lines define. -/
def ofLines (lines : List (List Char)) : VirtualFolders :=
  (lines.filterMap definition?).foldl (fun folders (name, query) => folders.insert name query) ∅

/-- Of the lines that count, seen from those above them, the last one that defines a name gives it a
query. -/
def Defines (counts : List (List Char) → Prop) (lines : List (List Char)) (name query : String) :
    Prop :=
  ∃ front line rest, lines = front ++ line :: rest ∧ counts front ∧
    definition? line = some (name, query) ∧
      ∀ middle other more, rest = middle ++ other :: more → counts (front ++ line :: middle) →
        ∀ again, definition? other ≠ some (name, again)

variable {counts : List (List Char) → Prop} {lines : List (List Char)} {line : List Char}
  {name query : String}

/-- No line defines anything where there is none. -/
theorem not_defines_nil : ¬Defines counts [] name query := by
  rintro ⟨front, line, rest, heq, -⟩
  simp at heq

/-- A last line that counts and defines the name decides, and any other last line changes nothing. -/
theorem defines_concat_iff :
    Defines counts (lines ++ [line]) name query ↔
      (counts lines ∧ definition? line = some (name, query)) ∨
        ((counts lines → ∀ again, definition? line ≠ some (name, again)) ∧
          Defines counts lines name query) := by
  constructor
  · rintro ⟨front, found, rest, heq, hcounts, hfound, hlast⟩
    rcases List.eq_nil_or_concat' rest with rfl | ⟨less, final, rfl⟩
    · obtain ⟨rfl, hline⟩ := List.append_inj' heq rfl
      obtain rfl := (List.cons.inj hline).1
      exact .inl ⟨hcounts, hfound⟩
    · rw [← List.cons_append, ← List.append_assoc] at heq
      obtain ⟨rfl, hline⟩ := List.append_inj' heq rfl
      obtain rfl := (List.cons.inj hline).1
      refine .inr ⟨hlast less line [] rfl, front, found, less, rfl, hcounts, hfound, ?_⟩
      rintro middle other more rfl hmiddle
      exact hlast middle other (more ++ [line]) (by simp) hmiddle
  · rintro (⟨hcounts, hline⟩ | ⟨hother, front, found, rest, rfl, hcounts, hfound, hlast⟩)
    · refine ⟨lines, line, [], rfl, hcounts, hline, ?_⟩
      rintro middle other more heq
      simp at heq
    · refine ⟨front, found, rest ++ [line], by simp, hcounts, hfound, ?_⟩
      intro middle other more heq hmiddle
      rcases List.eq_nil_or_concat' more with rfl | ⟨less, final, rfl⟩
      · obtain ⟨rfl, hline⟩ := List.append_inj' heq rfl
        obtain rfl := (List.cons.inj hline).1
        exact hother hmiddle
      · rw [← List.cons_append, ← List.append_assoc] at heq
        obtain ⟨rfl, -⟩ := List.append_inj' heq rfl
        exact hlast middle other less rfl hmiddle

/-- A last line that defines nothing changes nothing, and any other puts in what it defines. -/
theorem of_lines_concat (lines : List (List Char)) (line : List Char) :
    ofLines (lines ++ [line]) =
      match definition? line with
      | some (name, query) => (ofLines lines).insert name query
      | none => ofLines lines := by
  unfold ofLines
  rw [List.filterMap_append, List.foldl_append]
  cases hline : definition? line with
  | none => simp [hline]
  | some parts => simp [hline]

/-- Lines that are made of others, one of each, define what the lines that count among those define, if
they are made so that no other line defines anything. -/
theorem get_of_made_iff {made : List (List Char) → List (List Char)} (hnil : made [] = [])
    (hmade : ∀ lines line, ∃ become, made (lines ++ [line]) = made lines ++ [become] ∧
      (counts lines → definition? become = definition? line) ∧
        (¬counts lines → definition? become = none)) :
    (ofLines (made lines))[name]? = some query ↔ Defines counts lines name query := by
  induction lines using List.reverseRecOn with
  | nil =>
      rw [hnil]
      exact iff_of_false (by simp [ofLines]) not_defines_nil
  | append_singleton lines line ih =>
      obtain ⟨become, heq, hkept, hlost⟩ := hmade lines line
      rw [heq, of_lines_concat, defines_concat_iff, ← ih]
      by_cases hcounts : counts lines
      · rw [hkept hcounts]
        cases hline : definition? line with
        | none => simp [hcounts]
        | some parts =>
            obtain ⟨defined, asked⟩ := parts
            by_cases hname : defined = name
            · subst hname
              simp [hcounts]
            · simp [hcounts, hname, Std.ExtTreeMap.getElem?_insert]
      · rw [hlost hcounts]
        simp [hcounts]

/-- A name has the query that the last line that defines it gives to it. -/
theorem get_of_text_iff {body : String} :
    (ofText body)[name]? = some query ↔
      Defines (fun _ => True) (Text.split '\n' body.toList) name query :=
  @get_of_made_iff (fun _ => True) (Text.split '\n' body.toList) name query id rfl fun _ line =>
    ⟨line, rfl, fun _ => rfl, fun h => absurd trivial h⟩

/-! ## Definitions below bullet lines -/

/-- A bullet line stands above in the run that goes on below some lines. -/
def BelowBullet (front : List (List Char)) : Prop :=
  ∃ bullet between style, Above front bullet between ∧ Begins style bullet

/-- No style is carried on exactly if no bullet line stands above in the run. -/
theorem carry_eq_none_iff (front : List (List Char)) :
    front.foldl carry none = none ↔ ¬BelowBullet front := by
  obtain ⟨hnone, hsome⟩ := Bullets.carried_above front
  constructor
  · rintro hcarry ⟨bullet, between, style, habove, hbegins⟩
    exact hnone hcarry bullet between style habove hbegins
  · intro hfree
    cases hcarry : front.foldl carry none with
    | none => rfl
    | some style =>
        obtain ⟨bullet, between, habove, hbegins, -⟩ := hsome style hcarry
        exact absurd ⟨bullet, between, style, habove, hbegins⟩ hfree

/-- A style that is carried on is a known one. -/
theorem known_carried (front : List (List Char)) : Known (front.foldl carry none) := by
  induction front using List.reverseRecOn with
  | nil => exact Bullets.known_none
  | append_singleton front line ih =>
      rw [List.foldl_append]
      exact ih.carry line

/-- A line that defines something begins with the keyword. -/
theorem keyword_of_definition {parts : String × String} (h : definition? line = some parts) :
    keyword <+: line := by
  obtain ⟨⟨first, rest⟩, hcut, h⟩ := Option.bind_eq_some_iff.1 h
  obtain ⟨⟨name, query⟩, -, h⟩ := Option.bind_eq_some_iff.1 h
  obtain ⟨_, hword, -⟩ := Option.bind_eq_some_iff.1 h
  have hfirst : first = keyword := by
    by_contra hother
    unfold guard at hword
    rw [if_neg hother] at hword
    cases hword
  obtain ⟨heq, -⟩ := Text.cut_first hcut
  rw [heq, hfirst, List.append_assoc]
  exact List.prefix_append _ _

/-- A bullet line defines nothing. -/
theorem definition_of_begins {style : List Char} (h : Begins style line) :
    definition? line = none := by
  obtain ⟨hstyle, text, rfl⟩ := h
  have hhead : ∀ style ∈ Bullets.styles, style ≠ [] ∧ style.head? ≠ keyword.head? := by decide
  obtain ⟨hne, hother⟩ := hhead style hstyle
  cases hline : definition? (style ++ ' ' :: text) with
  | none => rfl
  | some parts =>
      obtain ⟨rest, heq⟩ := keyword_of_definition hline
      have hfirst := congrArg List.head? heq
      rw [List.head?_append_of_ne_nil _ (by decide), List.head?_append_of_ne_nil _ hne] at hfirst
      exact absurd hfirst.symm hother

/-- A line that carries on a style defines nothing, and any other line what it did. -/
theorem definition_mark (front : List (List Char)) (line : List Char) :
    (¬BelowBullet front →
      definition? (mark (front.foldl carry none) line) = definition? line) ∧
    (¬¬BelowBullet front → definition? (mark (front.foldl carry none) line) = none) := by
  rw [← carry_eq_none_iff]
  refine ⟨fun hnone => ?_, fun hcarried => ?_⟩
  · rw [hnone]
    simp [mark]
  · obtain ⟨style, hstyle⟩ := Option.ne_none_iff_exists'.1 hcarried
    rw [hstyle]
    by_cases hempty : line = []
    · subst hempty
      rfl
    · cases hown : Bullets.style? line with
      | some own =>
          rw [show mark (some style) line = line by simp [mark, hown]]
          exact definition_of_begins (Bullets.style_eq_some_iff.1 hown)
      | none =>
          rw [show mark (some style) line = style ++ ' ' :: line by simp [mark, hown, hempty]]
          exact definition_of_begins ⟨known_carried front style hstyle, line, rfl⟩

/-- Empty lines around others define nothing. -/
theorem of_lines_pad (lines : List (List Char)) : ofLines (Bullets.pad lines) = ofLines lines := by
  obtain ⟨⟨before, behind, -, -, hpad⟩, -⟩ := Bullets.exists_pad lines
  have hblank (count : Nat) : (List.replicate count []).filterMap definition? = [] := by
    rw [List.filterMap_eq_nil_iff]
    intro line hmem
    rw [List.eq_of_mem_replicate hmem]
    rfl
  rw [ofLines, hpad, List.filterMap_append, List.filterMap_append, hblank, hblank, List.nil_append,
    List.append_nil, ofLines]

/-- In a body in regular form a name has the query that the last line that defines it gives to it, of
the lines that stood below no bullet line of their run. -/
theorem get_of_normalize_iff {body : String} :
    (ofText (normalize body))[name]? = some query ↔
      Defines (fun front => ¬BelowBullet front) (linesOf body) name query := by
  have hlines : ofText (normalize body) = ofLines (carryOn none (linesOf body)) := by
    calc
      ofText (normalize body) = ofLines (Text.split '\n' (normalize body).toList) := rfl
      _ = ofLines (Bullets.pad (carryOn none (linesOf body))) := by
        rw [Bullets.split_normalize, Bullets.regular]
      _ = ofLines (carryOn none (linesOf body)) := of_lines_pad _
  rw [hlines]
  refine get_of_made_iff rfl fun lines line => ?_
  refine ⟨mark (lines.foldl carry none) line, ?_, definition_mark lines line⟩
  rw [Bullets.carry_on_append, Bullets.carry_on_cons]
  rfl

/-! ## Bodies that keep their virtual folders -/

/-- A name that a line defines, of those that count, is defined by some line of all. -/
theorem exists_defines (h : Defines counts lines name query) :
    ∃ last, Defines (fun _ => True) lines name last := by
  induction lines using List.reverseRecOn with
  | nil => exact absurd h not_defines_nil
  | append_singleton lines line ih =>
      by_cases hline : ∃ last, definition? line = some (name, last)
      · obtain ⟨last, hlast⟩ := hline
        exact ⟨last, defines_concat_iff.2 (.inl ⟨trivial, hlast⟩)⟩
      · have hother (again : String) : definition? line ≠ some (name, again) :=
          fun hagain => hline ⟨again, hagain⟩
        rcases defines_concat_iff.1 h with ⟨-, hfound⟩ | ⟨-, hearlier⟩
        · exact absurd hfound (hother query)
        · obtain ⟨last, hlast⟩ := ih hearlier
          exact ⟨last, defines_concat_iff.2 (.inr ⟨fun _ => hother, hlast⟩)⟩

/-- The lines of a body without carriage returns are its pieces between line feeds. -/
theorem lines_of_no_return {body : String} (h : '\r' ∉ body.toList) :
    linesOf body = Text.split '\n' body.toList := by
  have hall : ∀ char ∈ body.toList, (char != '\r') = true := by
    intro char hmem
    rw [bne_iff_ne]
    rintro rfl
    exact h hmem
  rw [linesOf, List.filter_eq_self.2 hall]

/-- A body is brought into regular form without a change of its virtual folders exactly if no name
loses the query of the line that defines it last. -/
theorem of_text_normalize_eq_iff {body : String} (h : '\r' ∉ body.toList) :
    ofText (normalize body) = ofText body ↔
      ∀ name query, Defines (fun _ => True) (linesOf body) name query →
        Defines (fun front => ¬BelowBullet front) (linesOf body) name query := by
  have hget (name query : String) :
      (ofText body)[name]? = some query ↔
        Defines (fun _ => True) (linesOf body) name query := by
    rw [lines_of_no_return h, get_of_text_iff]
  constructor
  · intro heq name query hdefines
    rw [← hget, ← heq, get_of_normalize_iff] at hdefines
    exact hdefines
  · intro hkept
    apply Std.ExtTreeMap.ext_getElem?
    intro name
    apply Option.ext
    intro query
    rw [hget, get_of_normalize_iff]
    refine ⟨fun hfree => ?_, hkept name query⟩
    obtain ⟨last, hlast⟩ := exists_defines hfree
    have hsame : some query = some last := by
      rw [← get_of_normalize_iff.2 hfree, ← get_of_normalize_iff.2 (hkept name last hlast)]
    rw [Option.some.inj hsame]
    exact hlast

/-- Where nothing is defined below a bullet line, no name loses its query. -/
theorem Defines.of_free
    (hfree : ∀ front line rest, lines = front ++ line :: rest → BelowBullet front →
      definition? line = none)
    (h : Defines (fun _ => True) lines name query) :
    Defines (fun front => ¬BelowBullet front) lines name query := by
  obtain ⟨front, line, rest, heq, -, hline, hlast⟩ := h
  refine ⟨front, line, rest, heq, fun hbelow => ?_, hline, fun middle other more hrest _ =>
    hlast middle other more hrest trivial⟩
  have hnone := hfree front line rest heq hbelow
  rw [hline] at hnone
  cases hnone

/-- Of a body without carriage returns every line counts for its virtual folders. When it is brought into
regular form, as the body of a markup note is when it is stored, only the lines count that stand below no
bullet line of their run. The virtual folders stay as they are if no line below a bullet line defines one,
and exactly if no name loses the query of the line that defines it last. -/
theorem of_text_normalize {body : String} (h : '\r' ∉ body.toList) :
    (∀ name query, (ofText body)[name]? = some query ↔
        Defines (fun _ => True) (linesOf body) name query) ∧
      (∀ name query, (ofText (normalize body))[name]? = some query ↔
        Defines (fun front => ¬BelowBullet front) (linesOf body) name query) ∧
      ((∀ front line rest, linesOf body = front ++ line :: rest → BelowBullet front →
          definition? line = none) →
        ofText (normalize body) = ofText body) ∧
      (ofText (normalize body) = ofText body ↔
        ∀ name query, Defines (fun _ => True) (linesOf body) name query →
          Defines (fun front => ¬BelowBullet front) (linesOf body) name query) ∧
      ∀ (input : NoteInput) (note : Note) (supply : Supply), input.body = body →
        (input.applyTo note supply).1.format = .markup →
        ofText (input.applyTo note supply).1.body = ofText (normalize body) := by
  refine ⟨fun name query => ?_, fun name query => get_of_normalize_iff, fun hfree => ?_,
    of_text_normalize_eq_iff h, ?_⟩
  · rw [lines_of_no_return h, get_of_text_iff]
  · exact (of_text_normalize_eq_iff h).2 fun _ _ hdefines => hdefines.of_free hfree
  · rintro input note supply rfl hformat
    change ofText (NoteInput.readBody (input.applyTo note supply).1.format input.body) = _
    rw [hformat]
    rfl

/-- A body with a bullet list, a definition above it, one of the same name below its first line, and one
behind an empty line: the second alone is lost. -/
theorem of_text_normalize_list :
    let body := "virtualfolder====A====tag:a\n* list\nvirtualfolder====A====tag:b\n\n" ++
      "virtualfolder====B====tag:c"
    '\r' ∉ body.toList ∧
      Defines (fun front => ¬BelowBullet front) (linesOf body) "A" "tag:a" ∧
      Defines (fun front => ¬BelowBullet front) (linesOf body) "B" "tag:c" ∧
      Defines (fun _ => True) (linesOf body) "A" "tag:b" := by
  intro body
  have hreturn : '\r' ∉ body.toList := by decide
  obtain ⟨hall, hfree, -⟩ := of_text_normalize hreturn
  exact ⟨hreturn, (hfree "A" "tag:a").1 (by decide +kernel),
    (hfree "B" "tag:c").1 (by decide +kernel), (hall "A" "tag:b").1 (by decide +kernel)⟩

/-- A definition right below a bullet line becomes a bullet line, and its virtual folder is lost. -/
theorem of_text_normalize_loses :
    let body := "* notes\nvirtualfolder====A====tag:a"
    '\r' ∉ body.toList ∧ (ofText body)["A"]? = some "tag:a" ∧
      (ofText (normalize body))["A"]? = none ∧ ofText (normalize body) ≠ ofText body := by
  intro body
  have hkept : (ofText body)["A"]? = some "tag:a" := by decide +kernel
  have hlost : (ofText (normalize body))["A"]? = none := by decide +kernel
  refine ⟨by decide, hkept, hlost, fun heq => ?_⟩
  rw [heq, hkept] at hlost
  cases hlost

end Notekeeper.VirtualFolders
