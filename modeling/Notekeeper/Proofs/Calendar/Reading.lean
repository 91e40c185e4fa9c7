import Notekeeper.Calendar.Reading
import Notekeeper.Proofs.Calendar.Writing

/-!
# Reading a written moment

`Moment.OfCalendar.read_write` says that a moment of the calendar is read back from its text, and
`Moment.of_calendar_of_read` that nothing else is ever read. Every number is filled up to the width
that its part of the pattern reads at most, so reading stops where the number does; a year outside 0 to
9999 has a sign, and reading it stops at the hyphen.
-/

namespace Notekeeper.Decimal

/-- A number below a power of ten has no more digits than that. -/
theorem length_digits_le {width number : Nat} (hwidth : 0 < width) (h : number < 10 ^ width) :
    (digits number).length ≤ width := by
  induction number using digits.induct generalizing width with
  | case1 number hlt =>
      rw [digits, if_pos hlt]
      exact hwidth
  | case2 number hlt ih =>
      obtain ⟨width, rfl⟩ := Nat.exists_eq_succ_of_ne_zero hwidth.ne'
      have hrest : number / 10 < 10 ^ width := by
        rw [Nat.pow_succ] at h
        omega
      have hpos : 0 < width := by
        rcases Nat.eq_zero_or_pos width with rfl | hpos
        · simp at hrest
          omega
        · exact hpos
      rw [digits, if_neg hlt, List.length_append]
      exact Nat.add_le_add_right (ih hpos hrest) 1

/-- A number below a power of ten is filled up to exactly that many digits. -/
theorem length_padded {width number : Nat} (hwidth : 0 < width) (h : number < 10 ^ width) :
    (padded width number).length = width := by
  have hle := length_digits_le hwidth h
  simp [padded]
  omega

end Notekeeper.Decimal

namespace Notekeeper.Calendar

/-! ## Numbers that are read back -/

/-- A number that is filled up is read up to the first character that is no digit. -/
theorem read_digits_padded (width number : Nat) {behind : List Char}
    (hbehind : ∀ char ∈ behind.head?, char.isDigit = false) (text : List Char) :
    readDigits (Decimal.padded width number ++ behind) text =
      .ok (number, text.drop (Decimal.padded width number).length) := by
  obtain ⟨hne, hdigits⟩ := Decimal.padded_digits width number
  have hleading : leadingDigits (Decimal.padded width number ++ behind) =
      Decimal.padded width number := by
    rw [leadingDigits, List.takeWhile_append_of_pos hdigits]
    cases behind with
    | nil => simp
    | cons char behind => simp [hbehind char rfl]
  have hvalue : digitsValue (Decimal.padded width number) = number := by
    have hread := Decimal.read_nat_padded width number
    rw [Decimal.readNat?, if_neg (by simpa using hne)] at hread
    rw [digitsValue, hread]
    rfl
  unfold readDigits
  rw [hleading]
  obtain ⟨first, more, hpadded⟩ := List.exists_cons_of_ne_nil hne
  rw [hpadded] at hvalue ⊢
  simp [hvalue]

/-- A number that is filled up to a width is read by as many digits. -/
theorem read_short_padded {width number : Nat} (hwidth : 0 < width) (h : number < 10 ^ width)
    (rest : List Char) :
    readShort width (Decimal.padded width number ++ rest) = .ok (number, rest) := by
  have hlength := Decimal.length_padded hwidth h
  have hwindow : (Decimal.padded width number ++ rest).take width =
      Decimal.padded width number ++ [] := by
    rw [List.take_append_of_le_length hlength.ge, List.take_of_length_le hlength.le, List.append_nil]
  rw [readShort, hwindow, read_digits_padded width number (by simp), List.drop_left]

/-- Blanks are passed over before a number, which begins with none. -/
theorem trim_start_padded (width number : Nat) (rest : List Char) :
    Text.trimStart (Decimal.padded width number ++ rest) = Decimal.padded width number ++ rest := by
  obtain ⟨hne, hdigits⟩ := Decimal.padded_digits width number
  obtain ⟨first, more, hpadded⟩ := List.exists_cons_of_ne_nil hne
  have hblank := Text.is_blank_of_digit (hdigits first (by simp [hpadded]))
  simp [hpadded, Text.trimStart, hblank]

/-- A year that can be held is read up to the first character that is no digit. -/
theorem read_year_written {year : Int} (h : -2147483648 ≤ year ∧ year ≤ 2147483647)
    {rest : List Char} (hrest : ∀ char ∈ rest.head?, char.isDigit = false) :
    readYear (Text.trimStart (Date.writeYear year ++ rest)) = .ok (year, rest) := by
  have hread := read_digits_padded 4 year.natAbs hrest (Decimal.padded 4 year.natAbs ++ rest)
  have hrange : yearInRange year = .ok year := if_pos h
  rw [List.drop_left] at hread
  rcases Date.write_year_cases year with ⟨hyear, heq⟩ | ⟨hyear, heq⟩ | ⟨hyear, heq⟩ <;> rw [heq]
  · have habs : -(year.natAbs : Int) = year := by omega
    have htrim : Text.trimStart ('-' :: Decimal.padded 4 year.natAbs ++ rest) =
        '-' :: (Decimal.padded 4 year.natAbs ++ rest) := rfl
    rw [htrim]
    simp only [readYear, hread, habs, hrange, bind, Except.bind, pure, Except.pure]
  · have habs : (year.natAbs : Int) = year := by omega
    have htrim : Text.trimStart ('+' :: Decimal.padded 4 year.natAbs ++ rest) =
        '+' :: (Decimal.padded 4 year.natAbs ++ rest) := rfl
    rw [htrim]
    simp only [readYear, hread, habs, hrange, bind, Except.bind, pure, Except.pure]
  · have habs : (year.natAbs : Int) = year := by omega
    have hshort := @read_short_padded 4 year.natAbs (by omega) (by omega) rest
    obtain ⟨hne, hdigits⟩ := Decimal.padded_digits 4 year.natAbs
    obtain ⟨first, more, hpadded⟩ := List.exists_cons_of_ne_nil hne
    have hsign : first ≠ '-' ∧ first ≠ '+' := by
      have hfirst := hdigits first (by simp [hpadded])
      constructor <;> (rintro rfl; simp at hfirst)
    rw [trim_start_padded]
    rw [hpadded, List.cons_append] at hshort ⊢
    unfold readYear
    split
    next heq => exact absurd (List.head_eq_of_cons_eq heq) hsign.1
    next heq => exact absurd (List.head_eq_of_cons_eq heq) hsign.2
    next => simp only [hshort, habs, bind, Except.bind, pure, Except.pure]

/-- A number within its bounds is read from two digits. -/
theorem read_number_written {field : Field} {number : Nat}
    (h : field.bounds.1 ≤ number ∧ number ≤ field.bounds.2) (numbers : Numbers) (rest : List Char) :
    Part.read (.number field) numbers (Decimal.padded 2 number ++ rest) =
      .ok (numbers.set field number, rest) := by
  have hbound : field.bounds.2 ≤ 60 := by
    cases field <;> decide
  have hread := @read_short_padded 2 number (by omega) (by omega) rest
  simp only [Part.read, readField]
  rw [trim_start_padded, hread]
  simp [h, bind, Except.bind, pure, Except.pure]

/-- A part of a pattern that is read leaves the rest of the text to the rest of the pattern. -/
theorem read_parts_cons {part : Part} {numbers after : Numbers} {text rest : List Char}
    (h : part.read numbers text = .ok (after, rest)) (parts : List Part) :
    readParts (part :: parts) numbers text = readParts parts after rest := by
  simp [readParts, h, bind, Except.bind]

/-! ## Numbers that have been read -/

/-- The numbers of a time of day are within their bounds. -/
structure Numbers.IsTime (numbers : Numbers) : Prop where
  hour : numbers.hour ≤ 23
  minute : numbers.minute ≤ 59
  /-- The sixtieth second is a leap second. -/
  second : numbers.second ≤ 60

/-- Steps that succeed one after the other have succeeded each. -/
theorem exists_of_bind_eq_ok {middle result : Type} {first : Except ReadingFault middle}
    {next : middle → Except ReadingFault result} {value : result} (h : first >>= next = .ok value) :
    ∃ found, first = .ok found ∧ next found = .ok value := by
  cases first with
  | error fault => cases h
  | ok found => exact ⟨found, rfl, h⟩

/-- A number that has been read is within its bounds. -/
theorem bounds_of_read_field {field : Field} {text rest : List Char} {value : Nat}
    (h : readField field text = .ok (value, rest)) :
    field.bounds.1 ≤ value ∧ value ≤ field.bounds.2 := by
  obtain ⟨⟨number, behind⟩, -, hchecked⟩ := exists_of_bind_eq_ok h
  dsimp only at hchecked
  split at hchecked
  next hbounds =>
    obtain ⟨rfl, rfl⟩ := Prod.mk.inj (Except.ok.inj hchecked)
    exact hbounds
  next => cases hchecked

/-- A number within its bounds keeps a time of day. -/
theorem Numbers.IsTime.set {numbers : Numbers} (h : numbers.IsTime) {field : Field} {value : Nat}
    (hvalue : value ≤ field.bounds.2) : (numbers.set field value).IsTime := by
  obtain ⟨hhour, hminute, hsecond⟩ := h
  cases field with
  | month | day => exact ⟨hhour, hminute, hsecond⟩
  | hour => exact ⟨hvalue, hminute, hsecond⟩
  | minute => exact ⟨hhour, hvalue, hsecond⟩
  | second => exact ⟨hhour, hminute, hvalue⟩

/-- A part of a pattern keeps a time of day. -/
theorem Numbers.IsTime.read {numbers after : Numbers} (h : numbers.IsTime) {part : Part}
    {text rest : List Char} (hread : part.read numbers text = .ok (after, rest)) : after.IsTime := by
  cases part with
  | year =>
      obtain ⟨⟨year, behind⟩, -, hyear⟩ := exists_of_bind_eq_ok hread
      obtain ⟨rfl, -⟩ := Prod.mk.inj (Except.ok.inj hyear)
      exact ⟨h.hour, h.minute, h.second⟩
  | number field =>
      obtain ⟨⟨value, behind⟩, hfield, hset⟩ := exists_of_bind_eq_ok hread
      obtain ⟨rfl, -⟩ := Prod.mk.inj (Except.ok.inj hset)
      exact h.set (bounds_of_read_field hfield).2
  | mark char =>
      obtain ⟨behind, -, hmark⟩ := exists_of_bind_eq_ok hread
      obtain ⟨rfl, -⟩ := Prod.mk.inj (Except.ok.inj hmark)
      exact h
  | gap =>
      obtain ⟨rfl, -⟩ := Prod.mk.inj (Except.ok.inj hread)
      exact h

/-- A pattern keeps a time of day. -/
theorem Numbers.IsTime.read_parts {numbers after : Numbers} (h : numbers.IsTime)
    {parts : List Part} {text : List Char} (hread : readParts parts numbers text = .ok after) :
    after.IsTime := by
  induction parts generalizing numbers text with
  | nil =>
      cases text with
      | nil =>
          obtain rfl := Except.ok.inj hread
          exact h
      | cons char text => cases hread
  | cons part parts ih =>
      obtain ⟨⟨next, rest⟩, hpart, hrest⟩ := exists_of_bind_eq_ok hread
      exact ih (h.read hpart) hrest

end Notekeeper.Calendar

namespace Notekeeper

/-! ## Moments of the calendar -/

/-- A moment of the calendar: its date is one of the calendar, its time one of a day. -/
structure Moment.OfCalendar (moment : Moment) : Prop where
  year : Date.firstYear ≤ moment.date.year ∧ moment.date.year ≤ Date.lastYear
  month : 1 ≤ moment.date.month ∧ moment.date.month ≤ 12
  day : 1 ≤ moment.date.day ∧ moment.date.day ≤ Date.daysInMonth moment.date.year moment.date.month
  hour : moment.hour ≤ 23
  minute : moment.minute ≤ 59
  /-- The sixtieth second is a leap second. -/
  second : moment.second ≤ 60

namespace Moment

variable {moment : Moment}

namespace OfCalendar

/-- No month is longer than 31 days. -/
theorem day_le (h : moment.OfCalendar) : moment.date.day ≤ 31 := by
  have hlength : Date.daysInMonth moment.date.year moment.date.month ≤ 31 := by
    unfold Date.daysInMonth
    split_ifs <;> omega
  exact Nat.le_trans h.day.2 hlength

/-- The date is one of the calendar. -/
theorem of_parts (h : moment.OfCalendar) :
    Date.ofParts? moment.date.year moment.date.month moment.date.day = some moment.date :=
  if_pos ⟨h.year.1, h.year.2, h.month.1, h.month.2, h.day.1, h.day.2⟩

open Calendar in
/-- A moment is read back from its text. -/
theorem read_write (h : moment.OfCalendar) : Calendar.read moment.write = .ok moment := by
  have hyear (numbers : Numbers) (rest : List Char) :
      Part.read .year numbers (Date.writeYear moment.date.year ++ '-' :: rest) =
        .ok ({ numbers with year := moment.date.year }, '-' :: rest) := by
    have hheld : -2147483648 ≤ moment.date.year ∧ moment.date.year ≤ 2147483647 := by
      have hfirst := h.year.1
      have hlast := h.year.2
      simp only [Date.firstYear, Date.lastYear] at hfirst hlast
      omega
    have hread := @read_year_written _ hheld ('-' :: rest) (by simp)
    simp [Part.read, hread, bind, Except.bind, pure, Except.pure]
  have hmark (char : Char) (numbers : Numbers) (rest : List Char) :
      Part.read (.mark char) numbers (char :: rest) = .ok (numbers, rest) := by
    simp [Part.read, readMark, bind, Except.bind, pure, Except.pure]
  have hgap (number : Nat) (numbers : Numbers) (rest : List Char) :
      Part.read .gap numbers (' ' :: (Decimal.padded 2 number ++ rest)) =
        .ok (numbers, Decimal.padded 2 number ++ rest) := by
    have htrim : Text.trimStart (' ' :: (Decimal.padded 2 number ++ rest)) =
        Decimal.padded 2 number ++ rest :=
      trim_start_padded 2 number rest
    simp [Part.read, htrim, pure, Except.pure]
  have hday : Field.day.bounds.1 ≤ moment.date.day ∧ moment.date.day ≤ Field.day.bounds.2 :=
    ⟨h.day.1, h.day_le⟩
  have hparts : readParts momentParts {} moment.write =
      .ok ⟨moment.date.year, moment.date.month, moment.date.day, moment.hour, moment.minute,
        moment.second⟩ := by
    rw [write_eq, ← List.append_nil (Decimal.padded 2 moment.second)]
    simp only [momentParts, dateParts, List.cons_append, List.nil_append]
    rw [read_parts_cons (hyear _ _), read_parts_cons (hmark _ _ _),
      read_parts_cons (read_number_written h.month _ _), read_parts_cons (hmark _ _ _),
      read_parts_cons (read_number_written hday _ _), read_parts_cons (hgap _ _ _),
      read_parts_cons (read_number_written ⟨Nat.zero_le _, h.hour⟩ _ _),
      read_parts_cons (hmark _ _ _),
      read_parts_cons (read_number_written ⟨Nat.zero_le _, h.minute⟩ _ _),
      read_parts_cons (hmark _ _ _),
      read_parts_cons (read_number_written ⟨Nat.zero_le _, h.second⟩ _ _)]
    rfl
  simp [Calendar.read, readBy, hparts, Numbers.moment, h.of_parts, bind, Except.bind]

end OfCalendar

open Calendar in
/-- What is read by a pattern is a moment of the calendar. -/
theorem of_calendar_of_read_by {parts : List Part} {text : List Char}
    (h : readBy parts text = .ok moment) : moment.OfCalendar := by
  obtain ⟨numbers, hparts, hmoment⟩ := exists_of_bind_eq_ok h
  have hmidnight : Numbers.IsTime {} := by
    constructor <;> decide
  have htime := hmidnight.read_parts hparts
  unfold Numbers.moment Date.ofParts? at hmoment
  split_ifs at hmoment with hdate
  obtain rfl := Except.ok.inj hmoment
  obtain ⟨hfirst, hlast, hmonth, hyear, hday, hlength⟩ := hdate
  exact ⟨⟨hfirst, hlast⟩, ⟨hmonth, hyear⟩, ⟨hday, hlength⟩, htime.hour, htime.minute, htime.second⟩

/-- What is read is a moment of the calendar. -/
theorem of_calendar_of_read {text : List Char} (h : Calendar.read text = .ok moment) :
    moment.OfCalendar := by
  unfold Calendar.read at h
  split at h
  next read hread =>
    obtain rfl := Except.ok.inj h
    exact of_calendar_of_read_by hread
  next => exact of_calendar_of_read_by h

end Moment

end Notekeeper
