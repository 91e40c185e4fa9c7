import Mathlib.Data.List.Infix
import Notekeeper.Text.Case

/-!
# Lower-casing a text as a whole and character by character

The two differ in the capital sigma at the end of a word only: `lower_eq_lower_each_iff`. A word that
has no small sigma therefore stands in both or in neither (`infix_lower_iff`).
-/

namespace Notekeeper.Text

/-- A text lower-cased character by character. -/
def lowerEach (text : List Char) : List Char :=
  text.flatMap lowerChar

/-- A capital sigma ends a word: cased letters stand before it and none behind it, where characters
that case ignores are passed over. -/
def HasFinalSigma (text : List Char) : Prop :=
  ∃ before rest, text = before ++ 'Σ' :: rest ∧ meetsCased before.reverse = true ∧
    meetsCased rest = false

@[simp] theorem lower_each_append (front rest : List Char) :
    lowerEach (front ++ rest) = lowerEach front ++ lowerEach rest :=
  List.flatMap_append

/-- Every character has a lower-case form. -/
theorem lower_char_ne_nil (char : Char) : lowerChar char ≠ [] := by
  unfold lowerChar
  split
  · simp
  · split <;> simp

/-- Away from a word's end the lower-case form of the capital sigma is the usual small one. -/
theorem lower_char_sigma : lowerChar 'Σ' = ['σ'] := by
  decide

/-- A text that is not empty has a lower-case form that is not empty. -/
theorem lower_ne_nil {text : List Char} (h : text ≠ []) : lower text ≠ [] := by
  cases text with
  | nil => exact absurd rfl h
  | cons char rest =>
      unfold lower lowerAfter
      split
      · simp
      · simp [lower_char_ne_nil]

/-- A text at least as long has a lower-case form that is at least as long, if it begins alike. -/
theorem length_lower_each_le {front text : List Char} (h : front <+: text) :
    (lowerEach front).length ≤ (lowerEach text).length := by
  obtain ⟨rest, rfl⟩ := h
  simp

/-! ## The final sigma -/

/-- The two ways to lower-case give texts of the same length. -/
theorem length_lower_after (before text : List Char) :
    (lowerAfter before text).length = (lowerEach text).length := by
  induction text generalizing before with
  | nil => rfl
  | cons char rest ih =>
      have hchar : (if char = 'Σ' then [if meetsCased before && !meetsCased rest then 'ς' else 'σ']
          else lowerChar char).length = (lowerChar char).length := by
        split
        next hsigma => rw [hsigma, lower_char_sigma]; rfl
        next => rfl
      rw [lowerAfter, lowerEach, List.flatMap_cons, List.length_append, List.length_append, ih, hchar]
      rfl

/-- What follows some text is lower-cased as its characters are exactly if no capital sigma in it ends
a word. -/
theorem lower_after_eq_iff (before text : List Char) :
    lowerAfter before text = lowerEach text ↔
      ∀ front rest, text = front ++ 'Σ' :: rest →
        ¬(meetsCased (front.reverse ++ before) = true ∧ meetsCased rest = false) := by
  induction text generalizing before with
  | nil => simp [lowerAfter, lowerEach]
  | cons char text ih =>
      have hsplit : (∀ front rest, char :: text = front ++ 'Σ' :: rest →
            ¬(meetsCased (front.reverse ++ before) = true ∧ meetsCased rest = false)) ↔
          (char = 'Σ' → ¬(meetsCased before = true ∧ meetsCased text = false)) ∧
            ∀ front rest, text = front ++ 'Σ' :: rest →
              ¬(meetsCased (front.reverse ++ char :: before) = true ∧ meetsCased rest = false) := by
        constructor
        · intro h
          refine ⟨?_, fun front rest heq => ?_⟩
          · rintro rfl
            exact h [] text rfl
          · simpa using h (char :: front) rest (by rw [heq]; rfl)
        · rintro ⟨hhead, htail⟩ front rest heq
          cases front with
          | nil =>
              obtain ⟨rfl, rfl⟩ := List.cons.inj heq
              exact hhead rfl
          | cons first front =>
              obtain ⟨rfl, rfl⟩ := List.cons.inj heq
              simpa using htail front rest rfl
      have hhead : (if char = 'Σ' then [if meetsCased before && !meetsCased text then 'ς' else 'σ']
          else lowerChar char) = lowerChar char ↔
            (char = 'Σ' → ¬(meetsCased before = true ∧ meetsCased text = false)) := by
        by_cases hsigma : char = 'Σ'
        · subst hsigma
          rw [if_pos rfl, lower_char_sigma]
          cases meetsCased before <;> cases meetsCased text <;> simp
        · simp [hsigma]
      rw [hsplit, ← ih, ← hhead, lowerAfter, lowerEach, List.flatMap_cons]
      constructor
      · intro heq
        have hlength := length_lower_after (char :: before) text
        exact List.append_inj' heq hlength
      · rintro ⟨hfirst, hrest⟩
        rw [hfirst, hrest]
        rfl

/-- A text is lower-cased as its characters are exactly if no capital sigma ends a word in it. -/
theorem lower_eq_lower_each_iff (text : List Char) :
    lower text = lowerEach text ↔ ¬HasFinalSigma text := by
  rw [lower, lower_after_eq_iff]
  simp only [HasFinalSigma, List.append_nil, not_exists, not_and]

/-- A character with the final small sigma replaced by the usual one. -/
def usualSigma (char : Char) : Char :=
  if char = 'ς' then 'σ' else char

/-- Up to the final small sigma the two ways to lower-case agree. -/
theorem map_lower_after (before text : List Char) :
    (lowerAfter before text).map usualSigma = (lowerEach text).map usualSigma := by
  induction text generalizing before with
  | nil => rfl
  | cons char rest ih =>
      have hhead : (if char = 'Σ' then [if meetsCased before && !meetsCased rest then 'ς' else 'σ']
          else lowerChar char).map usualSigma = (lowerChar char).map usualSigma := by
        split
        next hsigma =>
          rw [hsigma, lower_char_sigma]
          split <;> rfl
        next => rfl
      rw [lowerAfter, lowerEach, List.flatMap_cons, List.map_append, List.map_append, ih, hhead]
      rfl

/-- A word without small sigmas stands in a text exactly if it does when all its final small sigmas are
replaced. -/
theorem infix_map_usual_iff {word : List Char} (hsigma : 'σ' ∉ word) (hfinal : 'ς' ∉ word)
    (text : List Char) : word <:+: text.map usualSigma ↔ word <:+: text := by
  have hback {char other : Char} (hmem : other ∈ word) (h : usualSigma char = other) :
      char = other := by
    unfold usualSigma at h
    split at h
    next => exact absurd (h ▸ hmem) hsigma
    next => exact h
  have hword : word.map usualSigma = word := by
    have hkept : ∀ char ∈ word, usualSigma char = id char := by
      intro char hmem
      have hne : char ≠ 'ς' := fun heq => hfinal (heq ▸ hmem)
      exact if_neg hne
    rw [List.map_congr_left hkept, List.map_id]
  constructor
  · rintro ⟨front, back, heq⟩
    obtain ⟨all, last, rfl, hall, -⟩ := List.map_eq_append_iff.1 heq.symm
    obtain ⟨first, middle, rfl, -, hmiddle⟩ := List.map_eq_append_iff.1 hall
    have hkept : ∀ char ∈ middle, usualSigma char = id char := by
      intro char hmem
      exact (hback (hmiddle ▸ List.mem_map_of_mem hmem) rfl).symm
    rw [List.map_congr_left hkept, List.map_id] at hmiddle
    exact ⟨first, last, by rw [hmiddle]⟩
  · intro h
    have hmapped := h.map usualSigma
    rwa [hword] at hmapped

/-- A word without small sigmas stands in both lower-cased forms of a text or in neither. -/
theorem infix_lower_iff {word : List Char} (hsigma : 'σ' ∉ word) (hfinal : 'ς' ∉ word)
    (text : List Char) : word <:+: lower text ↔ word <:+: lowerEach text := by
  rw [← infix_map_usual_iff hsigma hfinal (lower text),
    ← infix_map_usual_iff hsigma hfinal (lowerEach text), lower, map_lower_after]

end Notekeeper.Text
