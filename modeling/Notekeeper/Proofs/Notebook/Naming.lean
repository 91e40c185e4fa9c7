import Notekeeper.Notebook.Basic
import Notekeeper.Proofs.Calendar.Writing
import Notekeeper.Proofs.Disk.Places

/-!
# Names of backups

A backup is named for the moment it is made at, with a suffix for its occasion and the file name of its
store. The name tells all three (`Layout.backup_name_injective`): the year ends at the first hyphen
behind its digits, the other numbers of a moment end in the same way, and of the two file names none is
the end of the other behind a low line. So two backups with plain suffixes come to lie in different
places unless all three are the same (`Layout.backup_apart`).
-/

namespace Notekeeper

/-! ## Numerals and what follows them -/

namespace Decimal

variable {front other rest more : List Char} {mark : Char}

/-- Digits before a mark end where they end. -/
theorem digits_append_inj (hmark : mark.isDigit = false) (hfront : ∀ char ∈ front, char.isDigit = true)
    (hother : ∀ char ∈ other, char.isDigit = true)
    (h : front ++ mark :: rest = other ++ mark :: more) : front = other ∧ rest = more := by
  have hrun {digits rest : List Char} (hdigits : ∀ char ∈ digits, char.isDigit = true) :
      (digits ++ mark :: rest).takeWhile Char.isDigit = digits := by
    rw [List.takeWhile_append_of_pos hdigits, List.takeWhile_cons_of_neg (by simp [hmark]),
      List.append_nil]
  have hsame : front = other := by rw [← hrun hfront, h, hrun hother]
  subst hsame
  exact ⟨rfl, List.tail_eq_of_cons_eq (List.append_cancel_left h)⟩

/-- A number that has been filled up with zeros is told by its digits. -/
theorem padded_injective {width number another : Nat} (h : padded width number = padded width another) :
    number = another := by
  have hread := read_nat_padded width number
  rw [h, read_nat_padded] at hread
  exact (Option.some.inj hread).symm

/-- A number before a mark ends where it ends. -/
theorem padded_append_inj {width number another : Nat} (hmark : mark.isDigit = false)
    (h : padded width number ++ mark :: rest = padded width another ++ mark :: more) :
    number = another ∧ rest = more :=
  (digits_append_inj hmark (padded_digits width number).2 (padded_digits width another).2 h).imp_left
    padded_injective

/-- A number does not begin with a sign. -/
theorem padded_append_ne {width number : Nat} {sign : Char} (hsign : sign.isDigit = false)
    (rest more : List Char) : padded width number ++ rest ≠ sign :: more := by
  obtain ⟨hne, hdigits⟩ := padded_digits width number
  obtain ⟨first, others, hfirst⟩ := List.exists_cons_of_ne_nil hne
  intro h
  rw [hfirst, List.cons_append] at h
  have hdigit := hdigits first (by simp [hfirst])
  rw [List.head_eq_of_cons_eq h, hsign] at hdigit
  cases hdigit

end Decimal

namespace Date

/-- A year before a hyphen ends where it ends. -/
theorem write_year_append_inj {year another : Int} {rest more : List Char}
    (h : writeYear year ++ '-' :: rest = writeYear another ++ '-' :: more) :
    year = another ∧ rest = more := by
  have hminus : ('-' : Char).isDigit = false := rfl
  have hplus : ('+' : Char).isDigit = false := rfl
  rcases write_year_cases year with ⟨hyear, heq⟩ | ⟨hyear, heq⟩ | ⟨hyear, heq⟩ <;>
    rcases write_year_cases another with ⟨hother, hsame⟩ | ⟨hother, hsame⟩ | ⟨hother, hsame⟩ <;>
    simp only [heq, hsame, List.cons_append] at h
  · obtain ⟨habs, hrest⟩ := Decimal.padded_append_inj hminus (List.tail_eq_of_cons_eq h)
    exact ⟨by omega, hrest⟩
  · exact absurd (List.head_eq_of_cons_eq h) (by decide)
  · exact absurd h.symm (Decimal.padded_append_ne hminus _ _)
  · exact absurd (List.head_eq_of_cons_eq h) (by decide)
  · obtain ⟨habs, hrest⟩ := Decimal.padded_append_inj hminus (List.tail_eq_of_cons_eq h)
    exact ⟨by omega, hrest⟩
  · exact absurd h.symm (Decimal.padded_append_ne hplus _ _)
  · exact absurd h (Decimal.padded_append_ne hminus _ _)
  · exact absurd h (Decimal.padded_append_ne hplus _ _)
  · obtain ⟨habs, hrest⟩ := Decimal.padded_append_inj hminus h
    exact ⟨by omega, hrest⟩

end Date

namespace Moment

/-- The numbers in the stamp of a moment. -/
theorem file_stamp_eq (moment : Moment) :
    moment.fileStamp.toList = Date.writeYear moment.date.year ++ '-' ::
      (Decimal.padded 2 moment.date.month ++ '-' :: (Decimal.padded 2 moment.date.day ++ '_' ::
        (Decimal.padded 2 moment.hour ++ '-' :: (Decimal.padded 2 moment.minute ++ '-' ::
          Decimal.padded 2 moment.second)))) := by
  have hkept {chars : List Char} (h : ∀ char ∈ chars, char ≠ ':' ∧ char ≠ ' ') :
      chars.map (fun char => if char = ':' then '-' else if char = ' ' then '_' else char) =
        chars := by
    refine (List.map_congr_left fun char hmem => ?_).trans (List.map_id chars)
    rw [if_neg (h char hmem).1, if_neg (h char hmem).2]
    rfl
  have hdigits (width number : Nat) :
      ∀ char ∈ Decimal.padded width number, char ≠ ':' ∧ char ≠ ' ' := by
    intro char hmem
    have hdigit := (Decimal.padded_digits width number).2 char hmem
    constructor <;> (rintro rfl; cases hdigit)
  have hyear : ∀ char ∈ Date.writeYear moment.date.year, char ≠ ':' ∧ char ≠ ' ' := by
    intro char hmem
    rcases Date.write_year_chars hmem with hdigit | rfl | rfl
    · constructor <;> (rintro rfl; cases hdigit)
    · decide
    · decide
  simp [fileStamp, write, Date.write, hkept hyear, hkept (hdigits _ _)]

/-- The stamp of a moment before a low line ends where it ends, and tells the moment. -/
theorem file_stamp_append_inj {moment another : Moment} {rest more : List Char}
    (h : moment.fileStamp.toList ++ '_' :: rest = another.fileStamp.toList ++ '_' :: more) :
    moment = another ∧ rest = more := by
  have hhyphen : ('-' : Char).isDigit = false := rfl
  have hline : ('_' : Char).isDigit = false := rfl
  simp only [file_stamp_eq, List.append_assoc, List.cons_append] at h
  obtain ⟨hyear, h⟩ := Date.write_year_append_inj h
  obtain ⟨hmonth, h⟩ := Decimal.padded_append_inj hhyphen h
  obtain ⟨hday, h⟩ := Decimal.padded_append_inj hline h
  obtain ⟨hhour, h⟩ := Decimal.padded_append_inj hhyphen h
  obtain ⟨hminute, h⟩ := Decimal.padded_append_inj hhyphen h
  obtain ⟨hsecond, hrest⟩ := Decimal.padded_append_inj hline h
  refine ⟨?_, hrest⟩
  obtain ⟨⟨year, month, day⟩, hour, minute, second⟩ := moment
  dsimp only at hyear hmonth hday hhour hminute hsecond
  subst hyear hmonth hday hhour hminute hsecond
  rfl

end Moment

/-! ## Names -/

/-- The file name of a store, by which its backups end. -/
def StoreKind.fileName : StoreKind → String
  | .notes => Layout.notesName
  | .trash => Layout.trashName

/-- Each store has one of the two file names. -/
theorem StoreKind.file_name_mem (kind : StoreKind) :
    kind.fileName ∈ [Layout.notesName, Layout.trashName] := by
  cases kind <;> simp [fileName]

namespace Layout

/-- What stands behind the stamp in the name of a backup, without the low line before it. -/
def occasion (suffix? : Option String) (kind : StoreKind) : List Char :=
  match suffix? with
  | none => kind.fileName.toList
  | some suffix => suffix.toList ++ '_' :: kind.fileName.toList

/-- The parts of the name of a backup. -/
theorem backup_name_eq (moment : Moment) (suffix? : Option String) (kind : StoreKind) :
    (backupName moment suffix? kind.fileName).toList =
      "backup_".toList ++ (moment.fileStamp.toList ++ '_' :: occasion suffix? kind) := by
  have hline : ("_" : String).toList = ['_'] := rfl
  cases suffix? <;>
    simp only [backupName, occasion, String.toList_append, String.toList_empty, hline,
      List.append_assoc, List.cons_append, List.nil_append]

/-- A suffix and a store are told by what stands behind the stamp. -/
theorem occasion_injective {suffix? other? : Option String} {kind another : StoreKind}
    (h : occasion suffix? kind = occasion other? another) : suffix? = other? ∧ kind = another := by
  -- neither file name with a low line before it is the end of the other one
  have hend {kind another : StoreKind} {front rest : List Char}
      (h : front ++ '_' :: kind.fileName.toList = rest ++ '_' :: another.fileName.toList) :
      kind = another := by
    have hfirst : '_' :: kind.fileName.toList <:+ rest ++ '_' :: another.fileName.toList :=
      h ▸ List.suffix_append front _
    have hsecond := List.suffix_append rest ('_' :: another.fileName.toList)
    cases kind <;> cases another
    · rfl
    · exact absurd (List.suffix_of_suffix_length_le hfirst hsecond (by decide)) (by decide)
    · exact absurd (List.suffix_of_suffix_length_le hsecond hfirst (by decide)) (by decide)
    · rfl
  have hwhole {kind another : StoreKind} (suffix : String) :
      kind.fileName.toList ≠ suffix.toList ++ '_' :: another.fileName.toList := by
    intro heq
    have hsuffix : '_' :: another.fileName.toList <:+ kind.fileName.toList :=
      heq ▸ List.suffix_append _ _
    revert hsuffix
    cases kind <;> cases another <;> decide
  cases suffix? with
  | none =>
      cases other? with
      | none =>
          refine ⟨rfl, ?_⟩
          cases kind <;> cases another <;> first | rfl | exact absurd h (by decide)
      | some other => exact absurd h (hwhole other)
  | some suffix =>
      cases other? with
      | none => exact absurd h.symm (hwhole suffix)
      | some other =>
          have hkind := hend h
          subst hkind
          exact ⟨congrArg some (String.toList_inj.1 (List.append_cancel_right h)), rfl⟩

/-- The name of a backup tells its moment, its suffix and its store. -/
theorem backup_name_injective {moment later : Moment} {suffix? other? : Option String}
    {kind another : StoreKind}
    (h : backupName moment suffix? kind.fileName = backupName later other? another.fileName) :
    moment = later ∧ suffix? = other? ∧ kind = another := by
  have hchars := congrArg String.toList h
  rw [backup_name_eq, backup_name_eq] at hchars
  obtain ⟨hmoment, hoccasion⟩ := Moment.file_stamp_append_inj (List.append_cancel_left hchars)
  exact ⟨hmoment, occasion_injective hoccasion⟩

/-- A suffix without a slash, which leaves a backup in the folder for backups. -/
def Plain (suffix? : Option String) : Prop :=
  ∀ suffix ∈ suffix?, '/' ∉ suffix.toList

variable {layout : Layout}

/-- A backup with a plain suffix lies under its name in the folder for backups. -/
theorem last_name_backup {suffix? : Option String} (h : Plain suffix?) (moment : Moment)
    (kind : StoreKind) :
    Path.lastName (layout.backupPath moment suffix? kind.fileName) =
      (backupName moment suffix? kind.fileName).toList := by
  have hstamp : '/' ∉ moment.fileStamp.toList := by
    have hyear : '/' ∉ Date.writeYear moment.date.year := fun hmem =>
      absurd (Date.write_year_chars hmem) (by decide)
    have hdigits (number : Nat) : '/' ∉ Decimal.padded 2 number := fun hmem =>
      absurd ((Decimal.padded_digits _ _).2 _ hmem) (by decide)
    rw [Moment.file_stamp_eq]
    simp [hyear, hdigits]
  have hoccasion : '/' ∉ occasion suffix? kind := by
    have hfile : '/' ∉ kind.fileName.toList := by cases kind <;> decide
    cases suffix? with
    | none => exact hfile
    | some suffix => simp [occasion, hfile, h suffix rfl]
  have hname : '/' ∉ (backupName moment suffix? kind.fileName).toList := by
    rw [backup_name_eq]
    simp only [List.mem_append, List.mem_cons, not_or]
    exact ⟨by decide, hstamp, by decide, hoccasion⟩
  have hempty : Path.lastName "" = [] := rfl
  have hlast := Path.last_name_append "" hname
  rw [String.empty_append, hempty, List.nil_append] at hlast
  rw [backupPath, Path.last_name_join, hlast]

/-- Backups with plain suffixes bear different names unless they are of one store, have one suffix and
are made at one moment. -/
theorem backup_apart {moment later : Moment} {suffix? other? : Option String}
    {kind another : StoreKind} (h : Plain suffix?) (hother : Plain other?)
    (hne : ¬ (moment = later ∧ suffix? = other? ∧ kind = another)) :
    Disk.Apart (layout.backupPath moment suffix? kind.fileName)
      (layout.backupPath later other? another.fileName) := by
  have hlong (moment : Moment) (suffix? : Option String) (kind : StoreKind) :
      2 < (backupName moment suffix? kind.fileName).toList.length := by
    have hlength : "backup_".toList.length = 7 := rfl
    rw [backup_name_eq, List.length_append, hlength]
    omega
  refine ⟨?_, ?_, fun heq => hne ?_⟩
  · rw [last_name_backup h]
    exact hlong _ _ _
  · rw [last_name_backup hother]
    exact hlong _ _ _
  · rw [last_name_backup h, last_name_backup hother] at heq
    exact backup_name_injective (String.toList_inj.1 heq)

end Layout

end Notekeeper
