import Notekeeper.DueDate
import Notekeeper.Note.Input
import Notekeeper.Proofs.Calendar.Reading
import Notekeeper.Proofs.Supply

/-!
# Due dates that are stated again

A due date is stated by a word or by the text of a moment; no word begins with a digit or a sign, so a
moment is stated by its text (`DueDate.of_text_timestamp`). What is shown of a due date therefore states
it again, and what a note carries of a moment states that moment, however often it is read and written
anew (`DueDate.stated_again`).
-/

namespace Notekeeper

/-- A moment of the calendar whose year is written in four digits. -/
structure Moment.IsPlain (moment : Moment) : Prop where
  year : 0 ≤ moment.date.year ∧ moment.date.year ≤ 9999
  month : 1 ≤ moment.date.month ∧ moment.date.month ≤ 12
  day : 1 ≤ moment.date.day ∧ moment.date.day ≤ Date.daysInMonth moment.date.year moment.date.month
  hour : moment.hour ≤ 23
  minute : moment.minute ≤ 59
  /-- The sixtieth second is a leap second. -/
  second : moment.second ≤ 60

/-- The years of four digits are years of the calendar. -/
theorem Moment.IsPlain.of_calendar {moment : Moment} (h : moment.IsPlain) : moment.OfCalendar where
  year := ⟨Int.le_trans (by decide) h.year.1, Int.le_trans h.year.2 (by decide)⟩
  month := h.month
  day := h.day
  hour := h.hour
  minute := h.minute
  second := h.second

namespace DueDate

/-- The words that state a due date. -/
def words : List String :=
  ["none", "", "today", "tomorrow", "next week", "next month"]

/-- A text that is none of the words states the moment that it is read as. -/
theorem of_text_of_not_word {text : String} (h : text ∉ words) :
    ofText text = (Calendar.read text.toList).map .specific := by
  simp only [words, List.mem_cons, List.not_mem_nil, or_false, not_or] at h
  obtain ⟨hnone, hempty, htoday, htomorrow, hweek, hmonth⟩ := h
  simp only [ofText, hnone, hempty, htoday, htomorrow, hweek, hmonth, or_self, if_false]

/-- A moment of the calendar is stated by its text. -/
theorem of_text_timestamp {moment : Moment} (h : moment.OfCalendar) :
    ofText moment.timestamp = .ok (.specific moment) := by
  have hletters : ∀ word ∈ words, ∀ char ∈ word.toList.head?,
      ¬(char.isDigit = true ∨ char = '-' ∨ char = '+') := by
    simp [words]
  have hwrite : moment.timestamp.toList = moment.write := by simp [Moment.timestamp]
  have hword : moment.timestamp ∉ words := by
    intro hmem
    obtain ⟨first, hfirst, hstart⟩ := moment.head_write
    exact hletters _ hmem first (by rw [hwrite]; exact hfirst) hstart
  rw [of_text_of_not_word hword, hwrite, h.read_write]
  rfl

/-- The moment that a text states is one of the calendar. -/
theorem of_calendar_of_text {text : String} {moment : Moment}
    (h : ofText text = .ok (.specific moment)) : moment.OfCalendar := by
  have hread : (Calendar.read text.toList).map DueDate.specific = .ok (.specific moment) := by
    by_cases hword : text ∈ words
    · simp only [words, List.mem_cons, List.not_mem_nil, or_false] at hword
      rcases hword with rfl | rfl | rfl | rfl | rfl | rfl <;> cases h
    · rwa [of_text_of_not_word hword] at h
  cases hmoment : Calendar.read text.toList with
  | error fault => simp [hmoment, Except.map] at hread
  | ok read =>
      obtain rfl : read = moment := by simpa [hmoment, Except.map] using hread
      exact Moment.of_calendar_of_read hmoment

/-- A due date as a note carries it: none, or the text of a moment. -/
def Stored (due : String) : Prop :=
  due = "" ∨ ∃ moment : Moment, moment.IsPlain ∧ due = moment.timestamp

/-- A due date that a note carries states itself. -/
theorem of_text_stored {due : String} (h : Stored due) :
    ∃ stated, ofText due = .ok stated ∧ ∀ today, stated.timestamp today = due := by
  rcases h with rfl | ⟨moment, hmoment, rfl⟩
  · exact ⟨.none, rfl, fun _ => rfl⟩
  · exact ⟨.specific moment, of_text_timestamp hmoment.of_calendar, fun _ => rfl⟩

/-- The due date of a note, written anew on one day after another from what was written before. -/
def restate (stamp : String) : List Date → Except Calendar.ReadingFault String
  | [] => .ok stamp
  | day :: days => do
      let due ← ofText stamp
      restate (due.timestamp day) days

/-- The text of a moment is never changed when it is written anew. -/
theorem restate_timestamp {moment : Moment} (h : moment.OfCalendar) (days : List Date) :
    restate moment.timestamp days = .ok moment.timestamp := by
  induction days with
  | nil => rfl
  | cons day days ih =>
      rw [restate, of_text_timestamp h]
      exact ih

/-- A due date that a text states is stated by what is shown of it. If it is a moment, what a note
carries of it states the same moment, and stays the same however often it is written anew. -/
theorem stated_again {text : String} {due : DueDate} (h : ofText text = .ok due) :
    ofText due.write = .ok due ∧
      ∀ moment, due = .specific moment →
        ∀ (today : Date) (input : NoteInput) (note : Note) (supply : Supply),
          input.due = due.timestamp today →
            ofText (input.applyTo note supply).1.due = .ok due ∧
              ∀ days, restate (input.applyTo note supply).1.due days =
                .ok (input.applyTo note supply).1.due := by
  constructor
  · cases due with
    | none | today | tomorrow | nextWeek | nextMonth => rfl
    | specific moment => exact of_text_timestamp (of_calendar_of_text h)
  · rintro moment rfl today input note supply hinput
    have hmoment := of_calendar_of_text h
    have hcarried : (input.applyTo note supply).1.due = moment.timestamp := by
      have hline : (input.applyTo note supply).1.due = Text.singleLine input.due := rfl
      rw [hline, hinput]
      exact moment.single_line_timestamp
    rw [hcarried]
    exact ⟨of_text_timestamp hmoment, restate_timestamp hmoment⟩

/-- A leap second at the end of a leap day, in a year of five digits. -/
def leap : DueDate := .specific ⟨⟨12024, 2, 29⟩, 23, 59, 60⟩

/-- A moment that was stated without all its zeros is stated again by its text. -/
theorem stated_again_leap :
    ofText "+12024-2-29 23:59:60" = .ok leap ∧ leap.write = "+12024-02-29 23:59:60" ∧
      ofText leap.write = .ok leap ∧
        ∀ days, restate "+12024-02-29 23:59:60" days = .ok "+12024-02-29 23:59:60" := by
  have hstated : ofText "+12024-2-29 23:59:60" = .ok leap := by rfl
  have hwritten : leap.write = "+12024-02-29 23:59:60" := by decide +kernel
  obtain ⟨hshown, hcarried⟩ := stated_again hstated
  have hnote := hcarried _ rfl ⟨2025, 1, 31⟩ { due := "+12024-02-29 23:59:60" }
    (Note.blank (Supply.strokes 'A')) (Supply.strokes 'A') hwritten.symm
  have hline : Text.singleLine "+12024-02-29 23:59:60" = "+12024-02-29 23:59:60" := by decide
  have hdue (input : NoteInput) (note : Note) (supply : Supply) :
      (input.applyTo note supply).1.due = Text.singleLine input.due := rfl
  rw [hdue, hline] at hnote
  exact ⟨hstated, hwritten, hshown, hnote.2⟩

end DueDate

end Notekeeper
