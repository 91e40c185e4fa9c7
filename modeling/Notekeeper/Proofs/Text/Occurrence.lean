import Mathlib.Data.List.Infix
import Notekeeper.Text.Lines

/-!
# The first occurrence of a word

`occursIn` tells whether a word stands somewhere in a text, `cut?` cuts the text at the first place
where it does.
-/

namespace Notekeeper.Text

variable {word text : List Char}

/-- A word stands somewhere in a text if it is an infix of it. -/
theorem occurs_in_iff : occursIn word text = true ↔ word <:+: text := by
  induction text with
  | nil => simp [occursIn]
  | cons char rest ih =>
      rw [occursIn, Bool.or_eq_true, ih, List.isPrefixOf_iff_prefix, List.infix_cons_iff]

/-- A text cannot be cut at a word that does not stand in it. -/
theorem cut_eq_none_iff : cut? word text = none ↔ ¬word <:+: text := by
  induction text with
  | nil => simp [cut?]
  | cons char rest ih =>
      rw [cut?, List.infix_cons_iff, ← List.isPrefixOf_iff_prefix]
      by_cases hbegins : word.isPrefixOf (char :: rest) = true
      · simp [hbegins]
      · simp [hbegins, ih]

/-- A text is cut at the first place where the word stands. -/
theorem cut_first {before after : List Char} (h : cut? word text = some (before, after)) :
    text = before ++ word ++ after ∧
      ∀ other more, text = other ++ word ++ more → before.length ≤ other.length := by
  induction text generalizing before with
  | nil =>
      have hempty : word = [] ∧ [] = before ∧ [] = after := by simpa [cut?] using h
      obtain ⟨rfl, rfl, rfl⟩ := hempty
      exact ⟨rfl, fun _ _ _ => Nat.zero_le _⟩
  | cons char rest ih =>
      rw [cut?] at h
      split at h
      next hbegins =>
        obtain ⟨more, hmore⟩ := List.isPrefixOf_iff_prefix.1 hbegins
        obtain ⟨rfl, rfl⟩ := Prod.mk.inj (Option.some.inj h)
        refine ⟨?_, fun _ _ _ => Nat.zero_le _⟩
        rw [← hmore, List.drop_left, List.nil_append]
      next hbegins =>
        obtain ⟨⟨front, back⟩, hcut, heq⟩ := Option.map_eq_some_iff.1 h
        obtain ⟨rfl, rfl⟩ := Prod.mk.inj heq
        obtain ⟨hrest, hfirst⟩ := ih hcut
        refine ⟨by rw [hrest]; rfl, fun other more hother => ?_⟩
        cases other with
        | nil => exact absurd (List.isPrefixOf_iff_prefix.2 ⟨more, hother.symm⟩) hbegins
        | cons head other =>
            have hlater := hfirst other more (List.cons.inj hother).2
            simpa using hlater

end Notekeeper.Text
