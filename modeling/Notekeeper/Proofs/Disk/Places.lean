import Notekeeper.Proofs.Disk.Frame

/-!
# Writes counted one by one

Every write that is asked for counts, whether the disk takes it or not, so the count tells at which
write a procedure has stopped; and it changes no file at a path that leads elsewhere
(`Disk.write_ends`). Two paths of which one prolongs the last name of the other never lead to the same
place (`Disk.elsewhere_of_longer`), whatever that name is.
-/

namespace Notekeeper

/-- A path that goes on after its first character begins where it begins without that. -/
theorem Path.is_absolute_append {front : String} (h : front ≠ "") (tail : String) :
    isAbsolute (front ++ tail) = isAbsolute front := by
  obtain ⟨first, rest, hfront⟩ : ∃ first rest, front.toList = first :: rest :=
    List.exists_cons_of_ne_nil fun hnil => h (String.toList_eq_nil_iff.1 hnil)
  have hslash : ("/" : String).toList = ['/'] := rfl
  rw [Bool.eq_iff_iff, isAbsolute, isAbsolute, String.startsWith_string_iff,
    String.startsWith_string_iff, String.toList_append, hfront, hslash]
  simp

/-- What is put after a path without a slash prolongs its last name. -/
theorem Path.names_append (path : String) {tail : String} (hslash : '/' ∉ tail.toList) :
    ∃ front last, names path = front ++ [last] ∧ names (path ++ tail) = front ++ [last ++ tail] := by
  obtain ⟨pieces, last, hsplit, hlonger⟩ := Text.split_append_of_not_mem path.toList hslash
  refine ⟨pieces.map String.ofList, String.ofList last, ?_, ?_⟩
  · simp [names, Text.splitAt, hsplit]
  · simp [names, Text.splitAt, hlonger]

namespace Disk

variable {disk later : Disk} {path other : String}

/-- Whatever two paths lead to are different places. -/
def Elsewhere (disk : Disk) (path other : String) : Prop :=
  ∀ place spot, disk.find? path = some place → disk.find? other = some spot → place ≠ spot

theorem Elsewhere.symm (h : disk.Elsewhere path other) : disk.Elsewhere other path :=
  fun place spot hplace hspot => (h spot place hspot hplace).symm

/-- Paths go on leading to different places where the folders are the same. -/
theorem Elsewhere.of_same_folders (h : disk.Elsewhere path other) (hsame : disk.SameFolders later) :
    later.Elsewhere path other := by
  intro place spot hplace hspot
  rw [hsame.find] at hplace hspot
  exact h place spot hplace hspot

/-- Paths of different names lead to different places. -/
theorem Apart.elsewhere (h : Apart path other) (disk : Disk) : disk.Elsewhere path other := by
  rintro place spot hplace hspot rfl
  have hlast := (find_last h.proper hplace).symm.trans (find_last h.other_proper hspot)
  exact h.names_ne (String.ofList_injective (Option.some.inj hlast))

/-- Names are followed in stretches. -/
theorem follow_append (front rest : List String) (place : Place) :
    disk.follow? place (front ++ rest) =
      (disk.follow? place front).bind fun inner => disk.follow? inner rest := by
  induction front generalizing place with
  | nil => rfl
  | cons name front ih =>
      simp only [List.cons_append, follow?, ih]
      split
      · rfl
      · split
        · rfl
        · split
          · rfl
          · split <;> rfl

/-- A name leads to the folder it is met in, to the one above it, or to what bears it there. -/
theorem follow_single {name : String} {place found : Place}
    (h : disk.follow? place [name] = some found) :
    found = place ∨ found = place.dropLast ∨ found = place ++ [name] := by
  simp only [follow?] at h
  split at h
  · cases h
  · split at h
    · exact .inl (Option.some.inj h).symm
    · split at h
      · exact .inr (.inl (Option.some.inj h).symm)
      · split at h
        · cases h
        · exact .inr (.inr (Option.some.inj h).symm)

/-- A name of more than two characters leads to what bears it in the folder it is met in. -/
theorem follow_proper {name : String} {place found : Place} (hname : 2 < name.length)
    (h : disk.follow? place [name] = some found) : found = place ++ [name] := by
  have hidle : Path.isIdle name = false := by
    simp only [Path.isIdle, Bool.or_eq_false_iff, beq_eq_false_iff_ne]
    constructor <;> (rintro rfl; revert hname; decide)
  have hup : name ≠ ".." := by
    rintro rfl
    revert hname
    decide
  simp only [follow?, hidle, hup] at h
  split at h
  · cases h
  · simp only [Bool.false_eq_true, if_false] at h
    split at h
    · cases h
    · exact (Option.some.inj h).symm

/-- A path and a longer one, which prolongs its last name to one of more than two characters, lead
to different places. -/
theorem elsewhere_of_longer (disk : Disk) (path : String) {tail : String}
    (hslash : '/' ∉ tail.toList) (hlength : 2 < tail.length) :
    disk.Elsewhere path (path ++ tail) := by
  intro place spot hplace hspot
  unfold find? at hplace hspot
  split at hplace
  next hvalid =>
    split at hspot
    · have hne : path ≠ "" := by
        rintro rfl
        simp [Path.isValid] at hvalid
      obtain ⟨front, last, hnames, hmore⟩ := Path.names_append path hslash
      have hstart : disk.startOf (path ++ tail) = disk.startOf path := by
        rw [startOf, Path.is_absolute_append hne, startOf]
      rw [hnames, follow_append, Option.bind_eq_some_iff] at hplace
      rw [hmore, hstart, follow_append, Option.bind_eq_some_iff] at hspot
      obtain ⟨inner, hinner, hplace⟩ := hplace
      obtain ⟨same, hsame, hspot⟩ := hspot
      obtain rfl : inner = same := Option.some.inj (hinner.symm.trans hsame)
      have hlonger : (last ++ tail).length = last.length + tail.length := String.length_append ..
      have hproper : 2 < (last ++ tail).length := by
        rw [hlonger]
        omega
      obtain rfl := follow_proper hproper hspot
      -- the longer name leads one deeper than its folder, the shorter one at most beside it
      rcases follow_single hplace with rfl | rfl | rfl
      · simp
      · intro heq
        have hlengths := congrArg List.length heq
        simp only [List.length_dropLast, List.length_append, List.length_singleton] at hlengths
        omega
      · intro heq
        have hnames := (List.append_cancel_left heq).symm
        have hlengths := congrArg String.length (List.head_eq_of_cons_eq hnames)
        rw [hlonger] at hlengths
        omega
    · cases hspot
  · cases hplace

/-! ## Single writes -/

/-- A file put at a place changes no file at a path that leads elsewhere. -/
theorem elsewhere_put_file {place : Place} (octets : ByteArray) (hfind : disk.find? path = some place)
    (hfree : disk.isFolderAt place = false) (h : disk.Elsewhere path other) :
    (disk.putFile place octets).octets? other = disk.octets? other := by
  have hplace := (put_file_folders octets hfree).find other
  cases hfound : disk.find? other with
  | none => simp [octets?, atPath?, hplace, hfound]
  | some spot =>
      have hne := h place spot hfind hfound
      simp [octets?, atPath?, hplace, hfound, at_put_file (ne_root_of_free hfree), hne]

/-- A write counts, whether the disk takes it or not. It changes no folder and no file at a path that
leads elsewhere, and if the disk does not take it, no file at all. -/
theorem write_ends (path : String) (octets : ByteArray) (disk : Disk) :
    (write path octets).Meets disk
      (fun _ left => disk.SameFolders left ∧ left.writes = disk.writes + 1 ∧
        left.octets? path = some octets ∧
        ∀ other, disk.Elsewhere path other → left.octets? other = disk.octets? other)
      fun fault left => fault = .disk ∧ disk.SameFolders left ∧ left.writes = disk.writes + 1 ∧
        ∀ other, left.octets? other = disk.octets? other := by
  let counted := { disk with writes := disk.writes + 1 }
  have hcounted : disk.SameFolders counted := ⟨rfl, rfl, fun _ => rfl⟩
  have hsame := disk.octets_counted (disk.writes + 1)
  unfold Attempt.Meets write
  cases hplace : disk.filePlace? path with
  | none => exact ⟨rfl, hcounted, rfl, hsame⟩
  | some place =>
      obtain ⟨hfind, hfree⟩ := Option.filter_eq_some_iff.1 hplace
      have hfind : counted.find? path = some place := (hcounted.find path).trans hfind
      have hfree : counted.isFolderAt place = false := by
        rw [hcounted.folders]
        simpa using hfree
      cases disk.refuses disk.writes with
      | true => exact ⟨rfl, hcounted, rfl, hsame⟩
      | false =>
          refine ⟨hcounted.trans (put_file_folders octets hfree), rfl,
            octets_put_file octets hfind hfree, fun other hother => ?_⟩
          exact (elsewhere_put_file octets hfind hfree (hother.of_same_folders hcounted)).trans
            (hsame other)

end Disk

end Notekeeper
