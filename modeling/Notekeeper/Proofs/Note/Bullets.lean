import Mathlib.Data.List.Basic
import Mathlib.Data.List.Induction
import Mathlib.Logic.Function.Iterate
import Notekeeper.Note.Bullets
import Notekeeper.Proofs.Text.Pieces

/-!
# The regular form of a markup body

`Becomes` says of a single line, from the lines above it, what it becomes in the regular form, and
`lines_normalize` that the regular form consists of these lines with empty lines around them. A body
with some text is brought into regular form once and for all; a body of empty lines alone is not, it
grows by `paddingLines` lines every time (`normalize_settles_iff`, `lines_iterate_of_blank`).
-/

namespace Notekeeper.Bullets

/-! ## Bullet lines -/

/-- A line is a bullet line: a style is its first word, and a space follows. -/
def Begins (style line : List Char) : Prop :=
  style ∈ styles ∧ ∃ text, line = style ++ ' ' :: text

/-- The style of a line is the one that begins it. -/
theorem style_eq_some_iff {style line : List Char} :
    style? line = some style ↔ Begins style line := by
  have hword : ∀ style ∈ styles, ' ' ∉ style := by decide
  constructor
  · intro h
    unfold style? at h
    split at h
    next first text hcut =>
      split at h
      next hmem =>
        obtain rfl := Option.some.inj h
        exact ⟨hmem, text, (Text.cut_eq_some hcut).1⟩
      next => cases h
    next => cases h
  · rintro ⟨hmem, text, rfl⟩
    unfold style?
    rw [Text.first_word_append (hword style hmem)]
    exact if_pos hmem

/-- An empty line is no bullet line. -/
theorem not_begins_empty (style : List Char) : ¬ Begins style [] := by
  rintro ⟨-, text, heq⟩
  cases style <;> cases heq

/-! ## One line after the other -/

/-- The style that is carried on behind a line, from the one that is carried on up to it. -/
def carry (style : Option (List Char)) (line : List Char) : Option (List Char) :=
  if line.isEmpty then none else (style? line).or style

/-- What a line becomes where a style is carried on. -/
def mark (style : Option (List Char)) (line : List Char) : List Char :=
  if line.isEmpty || (style? line).isSome then line
  else
    match style with
    | some above => above ++ ' ' :: line
    | none => line

/-- A style that is carried on is one of the styles. -/
def Known (style : Option (List Char)) : Prop :=
  ∀ above ∈ style, above ∈ styles

section

variable {style : Option (List Char)} {line : List Char} {lines front rest : List (List Char)}

theorem known_none : Known none := nofun

/-- A known style stays known. -/
theorem Known.carry (h : Known style) (line : List Char) : Known (Bullets.carry style line) := by
  intro above habove
  unfold Bullets.carry at habove
  split at habove
  · cases habove
  · rcases Option.or_eq_some_iff.1 habove with hown | ⟨-, hstyle⟩
    · exact (style_eq_some_iff.1 hown).1
    · exact h above hstyle

/-- The lines are gone through one by one. -/
theorem carry_on_cons (style : Option (List Char)) (line : List Char) (rest : List (List Char)) :
    carryOn style (line :: rest) = mark style line :: carryOn (carry style line) rest := by
  cases style with
  | none | some above =>
      rw [carryOn, mark, carry]
      by_cases hempty : line.isEmpty
      · simp [hempty]
      · cases hown : style? line <;> simp [hempty]

/-- Lines in front are gone through first, and leave a style behind. -/
theorem carry_on_append (style : Option (List Char)) (front rest : List (List Char)) :
    carryOn style (front ++ rest) =
      carryOn style front ++ carryOn (front.foldl carry style) rest := by
  induction front generalizing style with
  | nil => rfl
  | cons line front ih => simp only [List.cons_append, carry_on_cons, ih, List.foldl_cons]

/-- Every line becomes one line. -/
theorem length_carry_on (style : Option (List Char)) (lines : List (List Char)) :
    (carryOn style lines).length = lines.length := by
  induction lines generalizing style with
  | nil => rfl
  | cons line lines ih => simp only [carry_on_cons, List.length_cons, ih]

/-- Empty lines stay empty. -/
theorem carry_on_blank (style : Option (List Char)) (count : Nat) :
    carryOn style (List.replicate count []) = List.replicate count [] := by
  induction count generalizing style with
  | zero => rfl
  | succ count ih => simp [List.replicate_succ, carryOn, ih]

/-- No style is carried on behind empty lines. -/
theorem foldl_carry_blank (count : Nat) : (List.replicate count []).foldl carry none = none := by
  induction count with
  | zero => rfl
  | succ count ih => exact ih

/-- A line is empty exactly if it was. -/
theorem mark_eq_nil_iff : mark style line = [] ↔ line = [] := by
  unfold mark
  split
  · rfl
  · split
    · simp_all
    · rfl

/-- A line that carries on a style is a bullet line of that style, and any other line is left as it
is, so that a second time nothing changes. -/
theorem mark_mark (h : Known style) (line : List Char) :
    mark style (mark style line) = mark style line ∧
      carry style (mark style line) = carry style line := by
  by_cases hkept : line.isEmpty || (style? line).isSome
  · have hsame : mark style line = line := if_pos hkept
    rw [hsame]
    exact ⟨hsame, rfl⟩
  · cases style with
    | none =>
        have hsame : mark none line = line := if_neg hkept
        rw [hsame]
        exact ⟨hsame, rfl⟩
    | some above =>
        have hmarked : mark (some above) line = above ++ ' ' :: line := if_neg hkept
        have hown : style? (above ++ ' ' :: line) = some above :=
          style_eq_some_iff.2 ⟨h above rfl, line, rfl⟩
        obtain ⟨hempty, hnone⟩ : ¬ line.isEmpty ∧ style? line = none := by simpa using hkept
        rw [hmarked]
        exact ⟨by simp [mark, hown], by simp [carry, hown, hempty, hnone]⟩

/-- Carrying styles on a second time changes nothing. -/
theorem carry_on_carry_on (h : Known style) (lines : List (List Char)) :
    carryOn style (carryOn style lines) = carryOn style lines := by
  induction lines generalizing style with
  | nil => rfl
  | cons line lines ih =>
      obtain ⟨hmark, hcarry⟩ := mark_mark h line
      rw [carry_on_cons, carry_on_cons, hmark, hcarry, ih (h.carry line)]

end

/-! ## What a line becomes -/

/-- A line stands above in a run of lines that are not empty, the last of them below it. -/
def Above (front : List (List Char)) (line : List Char) (between : List (List Char)) : Prop :=
  (∃ before, front = before ++ line :: between) ∧ [] ∉ between

/-- What a line becomes below others: an empty line stays empty. A line that is a bullet line, or
has none above it in its run, stays as it is. Any other line gets the style of the nearest bullet
line above it in its run, and a space, in front. -/
inductive Becomes (front : List (List Char)) : List Char → List Char → Prop where
  | empty : Becomes front [] []
  | bullet {style line : List Char} (begins : Begins style line) : Becomes front line line
  | free {line : List Char} (ne : line ≠ [])
      (free : ∀ bullet between style, Above front bullet between → ¬ Begins style bullet) :
      Becomes front line line
  | carried {style line bullet : List Char} {between : List (List Char)} (ne : line ≠ [])
      (plain : ∀ own, ¬ Begins own line) (above : Above front bullet between)
      (begins : Begins style bullet)
      (nearest : ∀ other ∈ between, ∀ own, ¬ Begins own other) :
      Becomes front line (style ++ ' ' :: line)

/-- What stands above in the run that ends with a line is that line, or stood above before it. -/
theorem above_concat_iff {front between : List (List Char)} {last line : List Char} :
    Above (front ++ [last]) line between ↔
      (line = last ∧ between = []) ∨
        ∃ less, between = less ++ [last] ∧ last ≠ [] ∧ Above front line less := by
  constructor
  · rintro ⟨⟨before, heq⟩, hne⟩
    rcases List.eq_nil_or_concat' between with rfl | ⟨less, final, rfl⟩
    · obtain ⟨-, hlast⟩ := List.append_inj' heq rfl
      exact .inl ⟨(List.cons.inj hlast).1.symm, rfl⟩
    · rw [← List.cons_append, ← List.append_assoc] at heq
      obtain ⟨hfront, hlast⟩ := List.append_inj' heq rfl
      obtain rfl := (List.cons.inj hlast).1
      simp only [List.mem_append, List.mem_singleton, not_or] at hne
      exact .inr ⟨less, rfl, Ne.symm hne.2, ⟨before, hfront⟩, hne.1⟩
  · rintro (⟨rfl, rfl⟩ | ⟨less, rfl, hne, ⟨before, rfl⟩, hless⟩)
    · exact ⟨⟨front, rfl⟩, List.not_mem_nil⟩
    · exact ⟨⟨before, by simp⟩, by simp [hless, Ne.symm hne]⟩

/-- Where no style is carried on, no bullet line stands above in the run; and a style that is
carried on is that of the nearest one. -/
theorem carried_above (front : List (List Char)) :
    (front.foldl carry none = none →
      ∀ bullet between style, Above front bullet between → ¬ Begins style bullet) ∧
    ∀ style, front.foldl carry none = some style →
      ∃ bullet between, Above front bullet between ∧ Begins style bullet ∧
        ∀ other ∈ between, ∀ own, ¬ Begins own other := by
  induction front using List.reverseRecOn with
  | nil =>
      refine ⟨fun _ bullet between style habove => ?_, nofun⟩
      obtain ⟨⟨before, heq⟩, -⟩ := habove
      simp at heq
  | append_singleton front last ih =>
      obtain ⟨hnone, hsome⟩ := ih
      rw [List.foldl_append, List.foldl_cons, List.foldl_nil]
      by_cases hempty : last = []
      · -- An empty line ends the run, so that nothing stands above but itself.
        subst hempty
        refine ⟨fun _ bullet between style habove => ?_, nofun⟩
        rcases above_concat_iff.1 habove with ⟨rfl, -⟩ | ⟨less, -, hne, -⟩
        · exact not_begins_empty style
        · exact absurd rfl hne
      · have hcarry (style : Option (List Char)) : carry style last = (style? last).or style := by
          simp [carry, hempty]
        rw [hcarry]
        cases hown : style? last with
        | some own =>
            refine ⟨nofun, fun style heq => ?_⟩
            obtain rfl : own = style := Option.some.inj heq
            exact ⟨last, [], above_concat_iff.2 (.inl ⟨rfl, rfl⟩), style_eq_some_iff.1 hown, nofun⟩
        | none =>
            have hplain (own : List Char) : ¬ Begins own last := fun hbegins => by
              rw [style_eq_some_iff.2 hbegins] at hown
              cases hown
            rw [Option.none_or]
            refine ⟨fun hfree bullet between style habove => ?_, fun style hstyle => ?_⟩
            · rcases above_concat_iff.1 habove with ⟨rfl, -⟩ | ⟨less, -, -, hless⟩
              · exact hplain style
              · exact hnone hfree bullet less style hless
            · obtain ⟨bullet, less, habove, hbegins, hnearest⟩ := hsome style hstyle
              refine ⟨bullet, less ++ [last],
                above_concat_iff.2 (.inr ⟨less, rfl, hempty, habove⟩), hbegins, ?_⟩
              intro other hmem
              rcases List.mem_append.1 hmem with hmem | hmem
              · exact hnearest other hmem
              · exact List.mem_singleton.1 hmem ▸ hplain

/-- The style that the lines above leave behind makes of a line what it becomes below them. -/
theorem becomes_mark (front : List (List Char)) (line : List Char) :
    Becomes front line (mark (front.foldl carry none) line) := by
  obtain ⟨hnone, hsome⟩ := carried_above front
  by_cases hempty : line = []
  · subst hempty
    exact .empty
  · cases hown : style? line with
    | some own =>
        have hkept : mark (front.foldl carry none) line = line := if_pos (by simp [hown])
        rw [hkept]
        exact .bullet (style_eq_some_iff.1 hown)
    | none =>
        have hplain (own : List Char) : ¬ Begins own line := fun hbegins => by
          rw [style_eq_some_iff.2 hbegins] at hown
          cases hown
        cases hcarried : front.foldl carry none with
        | none =>
            rw [show mark none line = line by simp [mark]]
            exact .free hempty (hnone hcarried)
        | some style =>
            obtain ⟨bullet, between, habove, hbegins, hnearest⟩ := hsome style hcarried
            rw [show mark (some style) line = style ++ ' ' :: line by simp [mark, hempty, hown]]
            exact .carried hempty hplain habove hbegins hnearest

/-! ## Empty lines at both ends -/

/-- Lines of which some are not empty. -/
def Filled (lines : List (List Char)) : Prop :=
  ∃ line ∈ lines, line ≠ []

section

variable {style : Option (List Char)} {lines : List (List Char)}

/-- Lines that are not filled are all empty. -/
theorem eq_replicate_of_not_filled (h : ¬ Filled lines) :
    lines = List.replicate lines.length [] := by
  refine List.eq_replicate_of_mem fun line hmem => ?_
  by_contra hne
  exact h ⟨line, hmem, hne⟩

/-- Empty lines are not filled. -/
theorem not_filled_replicate (count : Nat) : ¬ Filled (List.replicate count []) := by
  rintro ⟨line, hmem, hne⟩
  exact hne (List.eq_of_mem_replicate hmem)

/-- Lines read backwards are filled too. -/
theorem Filled.reverse (h : Filled lines) : Filled lines.reverse :=
  h.imp fun _ hline => ⟨List.mem_reverse.2 hline.1, hline.2⟩

/-- Carrying styles on leaves lines filled, and fills none. -/
theorem filled_carry_on_iff : Filled (carryOn style lines) ↔ Filled lines := by
  induction lines generalizing style with
  | nil => rfl
  | cons line lines ih =>
      have hrest := @ih (carry style line)
      unfold Filled at hrest ⊢
      rw [carry_on_cons, List.exists_mem_cons_iff, List.exists_mem_cons_iff, hrest, ne_eq, ne_eq,
        mark_eq_nil_iff]

/-- Lines begin with their empty lines. -/
theorem take_while_empty (lines : List (List Char)) :
    lines.takeWhile List.isEmpty = List.replicate (emptyLines lines) [] := by
  refine List.eq_replicate_of_mem fun line hmem => ?_
  have hall := List.all_takeWhile (l := lines) (p := List.isEmpty)
  exact List.isEmpty_iff.1 (List.all_eq_true.1 hall line hmem)

/-- Empty lines in front of lines are counted with theirs. -/
theorem empty_lines_replicate_append (count : Nat) (lines : List (List Char)) :
    emptyLines (List.replicate count [] ++ lines) = count + emptyLines lines := by
  have hempty : ∀ line ∈ List.replicate count ([] : List Char), line.isEmpty = true := by
    intro line hmem
    rw [List.eq_of_mem_replicate hmem]
    rfl
  rw [emptyLines, List.takeWhile_append_of_pos hempty, List.length_append, List.length_replicate,
    emptyLines]

/-- What follows filled lines is not counted. -/
theorem Filled.empty_lines_append (h : Filled lines) (rest : List (List Char)) :
    emptyLines (lines ++ rest) = emptyLines lines := by
  have hfewer : (lines.takeWhile List.isEmpty).length ≠ lines.length := by
    intro heq
    have hall := (List.takeWhile_prefix List.isEmpty).eq_of_length heq
    rw [← hall, take_while_empty] at h
    exact not_filled_replicate _ h
  rw [emptyLines, List.takeWhile_append, if_neg hfewer, emptyLines]

/-- Filled lines get the empty lines that they lack. -/
theorem Filled.pad_eq (h : Filled lines) :
    pad lines = List.replicate (paddingLines - emptyLines lines) [] ++ lines ++
      List.replicate (paddingLines - emptyLines lines.reverse) [] := by
  obtain ⟨line, hmem, hne⟩ := h
  have hnot : ¬ lines.all List.isEmpty = true := fun hall =>
    hne (List.isEmpty_iff.1 (List.all_eq_true.1 hall line hmem))
  exact if_neg hnot

/-- Empty lines get as many again as lines of a text need at one end. -/
theorem pad_replicate (count : Nat) :
    pad (List.replicate count []) = List.replicate (count + paddingLines) [] := by
  have hall : (List.replicate count ([] : List Char)).all List.isEmpty = true := by simp
  rw [pad, if_pos hall, List.replicate_append_replicate]

/-- Padded lines are padded backwards too. -/
theorem reverse_pad (lines : List (List Char)) :
    (pad lines).reverse = pad lines.reverse := by
  by_cases h : Filled lines
  · simp [h.pad_eq, h.reverse.pad_eq]
  · rw [eq_replicate_of_not_filled h, pad_replicate, List.reverse_replicate, List.reverse_replicate,
      pad_replicate]

/-- Padded lines begin with enough empty lines. -/
theorem le_empty_lines_pad (lines : List (List Char)) :
    paddingLines ≤ emptyLines (pad lines) := by
  by_cases h : Filled lines
  · rw [h.pad_eq, List.append_assoc, empty_lines_replicate_append, h.empty_lines_append]
    omega
  · have hcount := empty_lines_replicate_append (lines.length + paddingLines) []
    rw [List.append_nil] at hcount
    rw [eq_replicate_of_not_filled h, pad_replicate, hcount]
    omega

/-- Padding leaves lines filled, and fills none. -/
theorem filled_pad_iff : Filled (pad lines) ↔ Filled lines := by
  by_cases h : Filled lines
  · rw [h.pad_eq]
    exact iff_of_true (h.imp fun line hline => ⟨by simp [hline.1], hline.2⟩) h
  · rw [eq_replicate_of_not_filled h, pad_replicate]
    exact iff_of_false (not_filled_replicate _) (not_filled_replicate _)

/-- Padded lines need no more empty lines, if they are filled. -/
theorem Filled.pad_pad (h : Filled lines) : pad (pad lines) = pad lines := by
  have hfilled : Filled (pad lines) := filled_pad_iff.2 h
  have hbegin := le_empty_lines_pad lines
  have hend := le_empty_lines_pad lines.reverse
  rw [hfilled.pad_eq, reverse_pad, Nat.sub_eq_zero_of_le hbegin, Nat.sub_eq_zero_of_le hend]
  simp

/-- Padded lines are the lines with empty lines around them, at least as many at either end as are
asked for, and no more of them added than that. -/
theorem exists_pad (lines : List (List Char)) :
    (∃ before behind, before ≤ paddingLines ∧ behind ≤ paddingLines ∧
      pad lines = List.replicate before [] ++ lines ++ List.replicate behind []) ∧
    List.replicate paddingLines [] <+: pad lines ∧
    List.replicate paddingLines [] <:+ pad lines := by
  have hbegins (lines : List (List Char)) :
      List.replicate paddingLines [] <+: pad lines := by
    obtain ⟨more, hmore⟩ := Nat.exists_eq_add_of_le (le_empty_lines_pad lines)
    have hprefix := List.takeWhile_prefix List.isEmpty (l := pad lines)
    rw [take_while_empty, hmore, ← List.replicate_append_replicate] at hprefix
    exact (List.prefix_append _ _).trans hprefix
  refine ⟨?_, hbegins lines, ?_⟩
  · by_cases h : Filled lines
    · exact ⟨_, _, Nat.sub_le _ _, Nat.sub_le _ _, h.pad_eq⟩
    · refine ⟨0, paddingLines, Nat.zero_le _, Nat.le_refl _, ?_⟩
      rw [eq_replicate_of_not_filled h, pad_replicate, ← List.replicate_append_replicate]
      rfl
  · have hends := hbegins lines.reverse
    rw [← reverse_pad] at hends
    rw [← List.reverse_prefix, List.reverse_replicate]
    exact hends

end

/-! ## The regular form -/

section

variable {char : Char} {style : Option (List Char)} {lines : List (List Char)}

/-- A character that is in no line and in no bullet does not get into a line that carries on a
style. -/
theorem not_mem_carry_on (hchar : char ∉ [' ', '*', '+', '-']) (hknown : Known style)
    (h : ∀ line ∈ lines, char ∉ line) : ∀ line ∈ carryOn style lines, char ∉ line := by
  have hstyles : ∀ style ∈ styles, ∀ char ∈ style, char ∈ [' ', '*', '+', '-'] := by
    simp [styles]
  have hmark (style : Option (List Char)) (hknown : Known style) (line : List Char)
      (hline : char ∉ line) : char ∉ mark style line := by
    unfold mark
    split
    · exact hline
    · cases style with
      | none => exact hline
      | some above =>
          have habove : char ∉ above := fun hmem =>
            hchar (hstyles above (hknown above rfl) char hmem)
          have hspace : char ≠ ' ' := List.ne_of_not_mem_cons hchar
          simp [habove, hspace, hline]
  induction lines generalizing style with
  | nil => nofun
  | cons line lines ih =>
      rw [List.forall_mem_cons] at h
      rw [carry_on_cons]
      exact List.forall_mem_cons.2 ⟨hmark style hknown line h.1, ih (hknown.carry line) h.2⟩

/-- Padding adds empty lines alone. -/
theorem mem_pad {line : List Char} (h : line ∈ pad lines) : line ∈ lines ∨ line = [] := by
  obtain ⟨⟨before, behind, -, -, hpad⟩, -⟩ := exists_pad lines
  rw [hpad] at h
  simp only [List.mem_append, List.mem_replicate] at h
  rcases h with (h | h) | h
  · exact .inr h.2
  · exact .inl h
  · exact .inr h.2

end

/-- The lines of the regular form of a text. -/
def regular (text : String) : List (List Char) :=
  pad (carryOn none (linesOf text))

/-- The regular form is put together from its lines. -/
theorem normalize_eq (text : String) :
    normalize text = Text.join "\n" ((regular text).map String.ofList) :=
  rfl

/-- The lines of the regular form have no line break. -/
theorem regular_no_break (text : String) :
    ∀ line ∈ regular text, '\n' ∉ line ∧ '\r' ∉ line := by
  have hlines : ∀ line ∈ linesOf text, '\n' ∉ line ∧ '\r' ∉ line := by
    intro line hmem
    refine ⟨Text.not_mem_of_mem_split hmem, fun hreturn => ?_⟩
    obtain ⟨front, rest, heq, -⟩ := Text.exists_append_of_mem_split hmem
    have hkept : '\r' ∈ text.toList.filter (· != '\r') := by simp [heq, hreturn]
    simp at hkept
  intro line hmem
  rcases mem_pad hmem with hmem | rfl
  · exact ⟨not_mem_carry_on (by decide) known_none (fun line hmem => (hlines line hmem).1) line hmem,
      not_mem_carry_on (by decide) known_none (fun line hmem => (hlines line hmem).2) line hmem⟩
  · exact ⟨List.not_mem_nil, List.not_mem_nil⟩

/-- The regular form is read as its lines. -/
theorem split_normalize (text : String) :
    Text.split '\n' (normalize text).toList = regular text := by
  have hne : (regular text).map String.ofList ≠ [] := by
    obtain ⟨-, ⟨rest, hrest⟩, -⟩ := exists_pad (carryOn none (linesOf text))
    rw [regular, ← hrest]
    simp [paddingLines, List.replicate_succ]
  have hfeed : ∀ part ∈ (regular text).map String.ofList, '\n' ∉ part.toList := by
    intro part hmem
    obtain ⟨line, hline, rfl⟩ := List.mem_map.1 hmem
    simpa using (regular_no_break text line hline).1
  have hsplit := Text.split_at_join hne hfeed
  exact List.map_injective_iff.2 (fun _ _ heq => String.ofList_injective heq) hsplit

/-- The regular form has no carriage return. -/
theorem normalize_no_return (text : String) : '\r' ∉ (normalize text).toList := by
  intro hreturn
  rcases Text.mem_join hreturn with hfeed | ⟨part, hpart, hchar⟩
  · exact absurd hfeed (by decide)
  · obtain ⟨line, hline, rfl⟩ := List.mem_map.1 hpart
    exact (regular_no_break text line hline).2 (by simpa using hchar)

/-- The lines of the regular form, where it is brought into regular form again. -/
theorem lines_of_normalize (text : String) : linesOf (normalize text) = regular text := by
  have hkept : (normalize text).toList.filter (· != '\r') = (normalize text).toList := by
    refine List.filter_eq_self.2 fun char hmem => bne_iff_ne.2 fun heq => ?_
    exact normalize_no_return text (heq ▸ hmem)
  rw [linesOf, hkept, split_normalize]

/-- The regular form of a text has some added empty lines, then one line for each line of the text,
which is what becomes of that line below those before it, then some added empty lines. No more than
four are added at either end, and at least four lines are empty there. -/
theorem lines_normalize (text : String) :
    ∃ before made behind,
      before ≤ 4 ∧ behind ≤ 4 ∧
      Text.split '\n' (normalize text).toList =
        List.replicate before [] ++ made ++ List.replicate behind [] ∧
      made.length = (linesOf text).length ∧
      (∀ front line rest, linesOf text = front ++ line :: rest →
        ∃ become, made[front.length]? = some become ∧ Becomes front line become) ∧
      List.replicate 4 [] <+: Text.split '\n' (normalize text).toList ∧
      List.replicate 4 [] <:+ Text.split '\n' (normalize text).toList := by
  obtain ⟨⟨before, behind, hbefore, hbehind, hpad⟩, hbegins, hends⟩ :=
    exists_pad (carryOn none (linesOf text))
  refine ⟨before, carryOn none (linesOf text), behind, hbefore, hbehind,
    (split_normalize text).trans hpad, length_carry_on _ _, fun front line rest hlines => ?_, ?_, ?_⟩
  · refine ⟨mark (front.foldl carry none) line, ?_, becomes_mark front line⟩
    rw [hlines, carry_on_append, carry_on_cons,
      List.getElem?_append_right (Nat.le_of_eq (length_carry_on none front)), length_carry_on,
      Nat.sub_self]
    rfl
  · rw [split_normalize]
    exact hbegins
  · rw [split_normalize]
    exact hends

/-! ## The regular form of the regular form -/

/-- Where no style is carried on any further, none is behind padding. -/
theorem carry_on_pad {lines : List (List Char)} (h : carryOn none lines = lines) :
    carryOn none (pad lines) = pad lines := by
  obtain ⟨⟨before, behind, -, -, hpad⟩, -⟩ := exists_pad lines
  rw [hpad, List.append_assoc, carry_on_append, carry_on_append, carry_on_blank, carry_on_blank,
    foldl_carry_blank, h]

/-- The second time lines are at most padded. -/
theorem regular_normalize (text : String) : regular (normalize text) = pad (regular text) := by
  have hsettled : carryOn none (carryOn none (linesOf text)) = carryOn none (linesOf text) :=
    carry_on_carry_on known_none _
  rw [regular, lines_of_normalize, regular, carry_on_pad hsettled]

/-- Empty lines alone become more each time. -/
theorem lines_iterate_of_blank {text : String} (h : ¬ Filled (linesOf text)) (times : Nat) :
    linesOf (normalize^[times] text) =
      List.replicate ((linesOf text).length + times * paddingLines) [] := by
  induction times with
  | zero => simpa using eq_replicate_of_not_filled h
  | succ times ih =>
      rw [Function.iterate_succ_apply', lines_of_normalize, regular, ih, carry_on_blank,
        pad_replicate, Nat.add_assoc, Nat.succ_mul]

/-- The lines of the regular form are filled if those of the text are. -/
theorem filled_regular_iff (text : String) : Filled (regular text) ↔ Filled (linesOf text) :=
  filled_pad_iff.trans filled_carry_on_iff

/-- The regular form is its own regular form exactly if one of the lines is not empty. -/
theorem normalize_normalize_iff (text : String) :
    normalize (normalize text) = normalize text ↔ Filled (linesOf text) := by
  constructor
  · intro h
    by_contra hblank
    have honce := lines_iterate_of_blank hblank 1
    have htwice := lines_iterate_of_blank hblank 2
    rw [Function.iterate_one] at honce
    rw [Function.iterate_succ_apply, Function.iterate_one, h, honce] at htwice
    have hlength := congrArg List.length htwice
    simp [paddingLines] at hlength
  · intro hfilled
    have hcarried : Filled (carryOn none (linesOf text)) := filled_carry_on_iff.2 hfilled
    have hpad : regular (normalize text) = regular text :=
      (regular_normalize text).trans hcarried.pad_pad
    rw [normalize_eq, hpad, ← normalize_eq]

/-- A text is brought into regular form once and for all exactly if one of its lines is not empty. -/
theorem normalize_settles_iff (text : String) :
    (∀ times, normalize^[times + 1] text = normalize text) ↔
      ∃ line ∈ linesOf text, line ≠ [] := by
  constructor
  · intro h
    have hagain := h 1
    rw [Function.iterate_succ_apply, Function.iterate_one] at hagain
    exact (normalize_normalize_iff text).1 hagain
  · intro hfilled times
    rw [Function.iterate_succ_apply]
    exact Function.iterate_fixed ((normalize_normalize_iff text).2 hfilled) times

/-- The empty text grows when it is brought into regular form again. -/
theorem normalize_grows : normalize (normalize "") ≠ normalize "" := by
  decide

end Notekeeper.Bullets
