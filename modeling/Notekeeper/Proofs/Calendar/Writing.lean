import Notekeeper.Calendar.Moment
import Notekeeper.Proofs.Number.Decimal
import Notekeeper.Proofs.Text.Blank

/-!
# How moments are written

The text of a moment consists of its numbers with marks between them (`Moment.write_eq`). It begins
with a digit or a sign (`Moment.head_write`) and is on a single line (`Moment.single_line_timestamp`).
-/

namespace Notekeeper

namespace Date

/-- A year is written as its digits, with a sign before them if it is outside 0 to 9999. -/
theorem write_year_cases (year : Int) :
    (year < 0 ∧ writeYear year = '-' :: Decimal.padded 4 year.natAbs) ∨
      (9999 < year ∧ writeYear year = '+' :: Decimal.padded 4 year.natAbs) ∨
        ((0 ≤ year ∧ year ≤ 9999) ∧ writeYear year = Decimal.padded 4 year.natAbs) := by
  unfold writeYear
  dsimp only
  split
  next hneg => exact .inl ⟨hneg, rfl⟩
  next hneg =>
    split
    next hlarge => exact .inr (.inl ⟨hlarge, rfl⟩)
    next hlarge => exact .inr (.inr ⟨⟨Int.not_lt.1 hneg, Int.not_lt.1 hlarge⟩, rfl⟩)

/-- A year consists of digits, but for its sign. -/
theorem write_year_chars {year : Int} {char : Char} (h : char ∈ writeYear year) :
    char.isDigit = true ∨ char = '-' ∨ char = '+' := by
  have hdigits := (Decimal.padded_digits 4 year.natAbs).2 char
  rcases write_year_cases year with ⟨-, heq⟩ | ⟨-, heq⟩ | ⟨-, heq⟩ <;> rw [heq] at h
  · exact (List.mem_cons.1 h).elim (fun hsign => .inr (.inl hsign)) fun hmem => .inl (hdigits hmem)
  · exact (List.mem_cons.1 h).elim (fun hsign => .inr (.inr hsign)) fun hmem => .inl (hdigits hmem)
  · exact .inl (hdigits h)

/-- A year has a digit. -/
theorem write_year_ne_nil (year : Int) : writeYear year ≠ [] := by
  rcases write_year_cases year with ⟨-, heq⟩ | ⟨-, heq⟩ | ⟨-, heq⟩ <;> rw [heq]
  · exact List.cons_ne_nil _ _
  · exact List.cons_ne_nil _ _
  · exact (Decimal.padded_digits 4 year.natAbs).1

end Date

/-- A digit is not blank. -/
theorem Text.is_blank_of_digit {char : Char} (h : char.isDigit = true) : isBlank char = false := by
  have hcode : 48 ≤ char.toNat ∧ char.toNat ≤ 57 := by
    rw [Char.isDigit, Bool.and_eq_true, decide_eq_true_iff, decide_eq_true_iff] at h
    exact h
  simp only [isBlank, Bool.or_eq_false_iff, Bool.and_eq_false_iff, decide_eq_false_iff_not,
    beq_eq_false_iff_ne]
  omega

namespace Moment

/-- The numbers in the text of a moment, with what stands between them. -/
theorem write_eq (moment : Moment) :
    moment.write = Date.writeYear moment.date.year ++ '-' ::
      (Decimal.padded 2 moment.date.month ++ '-' :: (Decimal.padded 2 moment.date.day ++ ' ' ::
        (Decimal.padded 2 moment.hour ++ ':' :: (Decimal.padded 2 moment.minute ++ ':' ::
          Decimal.padded 2 moment.second)))) := by
  simp [write, Date.write]

/-- The text of a moment begins with a digit or a sign. -/
theorem head_write (moment : Moment) :
    ∃ first, moment.write.head? = some first ∧ (first.isDigit = true ∨ first = '-' ∨ first = '+') := by
  obtain ⟨first, rest, hyear⟩ := List.exists_cons_of_ne_nil (Date.write_year_ne_nil moment.date.year)
  exact ⟨first, by simp [write_eq, hyear], Date.write_year_chars (by rw [hyear]; simp)⟩

/-- The text of a moment is on a single line. -/
theorem single_line_timestamp (moment : Moment) :
    Text.singleLine moment.timestamp = moment.timestamp := by
  have hpadded (number : Nat) (char : Char) (hmem : char ∈ Decimal.padded 2 number) :=
    (Decimal.padded_digits 2 number).2 char hmem
  have hchars : ∀ char ∈ moment.write, char.isDigit = true ∨ char ∈ ['-', '+', ' ', ':'] := by
    intro char hmem
    simp only [write, Date.write, List.mem_append, List.mem_singleton] at hmem
    rcases hmem with (((((((((hmem | rfl) | hmem) | rfl) | hmem) | rfl) | hmem) | rfl) | hmem) |
      rfl) | hmem
    · rcases Date.write_year_chars hmem with hdigit | rfl | rfl
      · exact .inl hdigit
      · exact .inr (by decide)
      · exact .inr (by decide)
    all_goals first | exact .inl (hpadded _ _ hmem) | exact .inr (by decide)
  have hlist : moment.timestamp.toList = moment.write := by simp [timestamp]
  rw [Text.single_line_iff, hlist]
  refine ⟨fun hfeed => absurd (hchars _ hfeed) (by decide),
    fun hreturn => absurd (hchars _ hreturn) (by decide), fun char hchar => ?_, fun char hchar => ?_⟩
  · obtain ⟨first, hfirst, hstart⟩ := moment.head_write
    obtain rfl : first = char := Option.some.inj (hfirst.symm.trans hchar)
    rcases hstart with hdigit | rfl | rfl
    · exact Text.is_blank_of_digit hdigit
    · rfl
    · rfl
  · obtain ⟨hne, hdigits⟩ := Decimal.padded_digits 2 moment.second
    have hlast : moment.write.getLast? = (Decimal.padded 2 moment.second).getLast? := by
      rw [write, List.getLast?_append, List.getLast?_eq_some_getLast hne]
      rfl
    rw [hlast] at hchar
    exact Text.is_blank_of_digit (hdigits char (List.mem_of_getLast? hchar))

end Moment

end Notekeeper
