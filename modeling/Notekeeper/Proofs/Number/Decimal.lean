import Mathlib
import Notekeeper.Number.Decimal

/-!
# Reading a written numeral

`read_write` says that a clock is read back from its numeral. The digits are read from the left, so
the lemma under it says what digits add to a number read so far.
-/

namespace Notekeeper.Decimal

/-- A number within the range of a clock. -/
def InRange (number : Int) : Prop :=
  least ≤ number ∧ number ≤ greatest

instance (number : Int) : Decidable (InRange number) :=
  inferInstanceAs (Decidable (_ ∧ _))

/-- The higher of two numbers within the range is within it. -/
theorem InRange.max {number other : Int} (h : InRange number) (hother : InRange other) :
    InRange (max number other) :=
  ⟨Int.le_trans h.1 (Int.le_max_left _ _), Int.max_le.2 ⟨h.2, hother.2⟩⟩

/-- The value of the character for a digit. -/
theorem digit_value (digit : Nat) (h : digit < 10) :
    digitValue? (Char.ofNat (48 + digit)) = some digit := by
  have hall : ∀ digit : Fin 10,
      digitValue? (Char.ofNat (48 + digit.val)) = some digit.val := by decide
  exact hall ⟨digit, h⟩

/-- Digits are read one after the other. -/
theorem read_digits_append (value : Nat) (front rest : List Char) :
    readDigits? value (front ++ rest) =
      (readDigits? value front).bind fun value => readDigits? value rest := by
  induction front generalizing value with
  | nil => rfl
  | cons char front ih =>
      simp only [List.cons_append, readDigits?]
      cases digitValue? char with
      | none => rfl
      | some digit => exact ih _

/-- The digits of a number put it behind the number read so far. -/
theorem read_digits_of_digits (value number : Nat) :
    ∃ shift, readDigits? value (digits number) = some (value * 10 ^ shift + number) := by
  induction number using digits.induct generalizing value with
  | case1 number hlt =>
      refine ⟨1, ?_⟩
      rw [digits, if_pos hlt]
      simp [readDigits?, digit_value number hlt, Nat.mul_comm]
  | case2 number hlt ih =>
      obtain ⟨shift, hshift⟩ := ih value
      refine ⟨shift + 1, ?_⟩
      rw [digits, if_neg hlt, read_digits_append, hshift]
      have hdigit := digit_value (number % 10) (Nat.mod_lt _ (by decide))
      simp only [Option.bind_some, readDigits?, hdigit, Option.some.injEq]
      have hnumber := Nat.div_add_mod number 10
      have hfront : value * 10 ^ (shift + 1) = 10 * (value * 10 ^ shift) := by
        rw [Nat.pow_succ, ← Nat.mul_assoc, Nat.mul_comm]
      omega

/-- A numeral has a digit. -/
theorem digits_ne_nil (number : Nat) : digits number ≠ [] := by
  rw [digits]
  split <;> simp

/-- Every character of the digits of a number is a digit. -/
theorem is_digit_of_mem_digits {number : Nat} {char : Char} (h : char ∈ digits number) :
    char.isDigit = true := by
  have hall : ∀ digit : Fin 10, (Char.ofNat (48 + digit.val)).isDigit = true := by decide
  induction number using digits.induct with
  | case1 number hlt =>
      rw [digits, if_pos hlt, List.mem_singleton] at h
      rw [h]
      exact hall ⟨number, hlt⟩
  | case2 number hlt ih =>
      rw [digits, if_neg hlt, List.mem_append, List.mem_singleton] at h
      rcases h with h | rfl
      · exact ih h
      · exact hall ⟨number % 10, Nat.mod_lt _ (by decide)⟩

/-- A natural number is read from its digits. -/
theorem read_nat_digits (number : Nat) : readNat? (digits number) = some number := by
  obtain ⟨shift, h⟩ := read_digits_of_digits 0 number
  simpa [readNat?, digits_ne_nil] using h

/-- A number that is filled up with zeros consists of digits, and there is one. -/
theorem padded_digits (width number : Nat) :
    padded width number ≠ [] ∧ ∀ char ∈ padded width number, char.isDigit = true := by
  refine ⟨by simp [padded, digits_ne_nil], fun char hmem => ?_⟩
  rcases List.mem_append.1 hmem with hzero | hdigit
  · rw [List.eq_of_mem_replicate hzero]
    rfl
  · exact is_digit_of_mem_digits hdigit

/-- A number is read back when it has been filled up with zeros. -/
theorem read_nat_padded (width number : Nat) : readNat? (padded width number) = some number := by
  have hzeros (count : Nat) : readDigits? 0 (List.replicate count '0') = some 0 := by
    induction count with
    | zero => rfl
    | succ count ih => exact ih
  obtain ⟨hne, -⟩ := padded_digits width number
  obtain ⟨shift, hdigits⟩ := read_digits_of_digits 0 number
  rw [readNat?, if_neg (by simpa using hne), padded, read_digits_append, hzeros, Option.bind_some,
    hdigits, Nat.zero_mul, Nat.zero_add]

/-- A clock is read back from its numeral. -/
theorem read_write {number : Int} (h : InRange number) : read? (write number) = some number := by
  have hrange : inRange? number = some number := by
    simp [inRange?, h.1, h.2]
  by_cases hneg : number < 0
  · have habs : -((number.natAbs : Nat) : Int) = number := by omega
    simp only [read?, write, if_pos hneg, String.toList_ofList, read_nat_digits, Option.bind_some,
      habs, hrange]
  · have habs : ((number.natAbs : Nat) : Int) = number := by omega
    simp only [read?, write, if_neg hneg, String.toList_ofList]
    cases hdigits : digits number.natAbs with
    | nil => exact absurd hdigits (digits_ne_nil _)
    | cons char rest =>
        have hmem : char ∈ digits number.natAbs := by simp [hdigits]
        have hdigit := is_digit_of_mem_digits hmem
        have hread : readNat? (char :: rest) = some number.natAbs := by
          rw [← hdigits]
          exact read_nat_digits _
        have hminus : char ≠ '-' := by
          rintro rfl
          simp at hdigit
        have hplus : char ≠ '+' := by
          rintro rfl
          simp at hdigit
        simp [hread, hminus, hplus, habs, hrange]

end Notekeeper.Decimal
