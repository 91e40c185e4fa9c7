import Mathlib
import Notekeeper.Disk.Basic
import Notekeeper.Proofs.Attempt
import Notekeeper.Proofs.Text.Lines

/-!
# What writing a file leaves alone

A write changes the file at its path and no file that bears another name (`Disk.write_meets`). That
needs two things: writing a file makes and unmakes no folder, so paths go on leading where they led,
and a path leads to a place that ends with its last name. Making folders that have been made once
changes nothing (`Disk.make_folders_meets`).
-/

namespace Notekeeper

/-- A text is read back from its octets. -/
theorem Text.decode_encode (text : String) : Text.decode? (Text.encode text) = some text := by
  have hvalid : text.toByteArray.IsValidUTF8 := text.isValidUTF8
  simp [Text.decode?, Text.encode, String.fromUTF8?, hvalid, String.fromUTF8]

namespace Path

/-- What stands behind the last slash of a path. -/
def lastName (path : String) : List Char :=
  (Text.split '/' path.toList).getLast (Text.split_ne_nil '/' path.toList)

/-- The last of the names in a path is what stands behind the last slash. -/
theorem names_eq (path : String) :
    ∃ front, names path = front ++ [String.ofList (lastName path)] := by
  refine ⟨(Text.split '/' path.toList).dropLast.map String.ofList, ?_⟩
  conv => lhs; rw [names, Text.splitAt, ← List.dropLast_concat_getLast (Text.split_ne_nil '/' _)]
  simp [lastName]

/-- A text without a slash prolongs the last name of a path. -/
theorem last_name_append (front : String) {tail : String} (h : '/' ∉ tail.toList) :
    lastName (front ++ tail) = lastName front ++ tail.toList := by
  obtain ⟨pieces, last, hfront, hall⟩ := Text.split_append_of_not_mem front.toList h
  simp [lastName, hfront, hall]

/-- Behind a slash a path has the last name of what follows. -/
theorem last_name_slash (front rest : String) : lastName (front ++ "/" ++ rest) = lastName rest := by
  have hslash : ("/" : String).toList = ['/'] := rfl
  have hsplit := Text.split_append_separator '/' front.toList rest.toList
  have hne := Text.split_ne_nil '/' rest.toList
  simp only [lastName, String.toList_append, hslash, List.append_assoc, List.singleton_append,
    hsplit]
  exact List.getLast_append_of_ne_nil _ hne

/-- A path inside a folder has the last name of its own. -/
theorem last_name_join (folder name : String) : lastName (join folder name) = lastName name := by
  unfold join
  split
  · rfl
  · split
    next hfolder =>
      rcases hfolder with hempty | hslash
      · obtain rfl : folder = "" := by simpa using hempty
        simp
      · have hsuffix : ("/" : String).toList <:+ folder.toList := by
          simpa only [String.copy_toSlice] using
            (String.Slice.endsWith_string_iff (s := folder.toSlice)).1 hslash
        obtain ⟨front, hfront⟩ := hsuffix
        obtain rfl : folder = String.ofList front ++ "/" := by
          rw [← String.toList_inj]
          simp [← hfront]
        exact last_name_slash _ _
    next => exact last_name_slash _ _

end Path

namespace Disk

/-! ## Paths on disks with the same folders -/

/-- Every folder of a disk is a folder of another, on which relative paths begin in the same folder
and the same writes are refused. -/
structure FoldersStay (disk later : Disk) : Prop where
  here : later.here = disk.here
  refuses : later.refuses = disk.refuses
  folders : ∀ place, disk.isFolderAt place → later.isFolderAt place

/-- Two disks have the same folders. -/
structure SameFolders (disk later : Disk) : Prop where
  here : later.here = disk.here
  refuses : later.refuses = disk.refuses
  folders : ∀ place, later.isFolderAt place = disk.isFolderAt place

variable {disk later last : Disk}

theorem FoldersStay.refl (disk : Disk) : disk.FoldersStay disk :=
  ⟨rfl, rfl, fun _ h => h⟩

theorem FoldersStay.trans (h : disk.FoldersStay later) (hlast : later.FoldersStay last) :
    disk.FoldersStay last :=
  ⟨hlast.here.trans h.here, hlast.refuses.trans h.refuses,
    fun place hplace => hlast.folders place (h.folders place hplace)⟩

theorem SameFolders.refl (disk : Disk) : disk.SameFolders disk :=
  ⟨rfl, rfl, fun _ => rfl⟩

theorem SameFolders.trans (h : disk.SameFolders later) (hlast : later.SameFolders last) :
    disk.SameFolders last :=
  ⟨hlast.here.trans h.here, hlast.refuses.trans h.refuses,
    fun place => (hlast.folders place).trans (h.folders place)⟩

theorem SameFolders.symm (h : disk.SameFolders later) : later.SameFolders disk :=
  ⟨h.here.symm, h.refuses.symm, fun place => (h.folders place).symm⟩

theorem SameFolders.stay (h : disk.SameFolders later) : disk.FoldersStay later :=
  ⟨h.here, h.refuses, fun place hplace => by rw [h.folders place]; exact hplace⟩

/-- Names lead to the same place where the folders are the same. -/
theorem SameFolders.follow (h : disk.SameFolders later) (names : List String) (place : Place) :
    later.follow? place names = disk.follow? place names := by
  induction names generalizing place with
  | nil => rfl
  | cons name rest ih => simp only [follow?, h.folders, ih]

/-- A path leads to the same place where the folders are the same. -/
theorem SameFolders.find (h : disk.SameFolders later) (path : String) :
    later.find? path = disk.find? path := by
  simp only [find?, startOf, h.here, h.follow]

/-- What stands at a path is the same where the folders are the same and the file at the path. -/
theorem SameFolders.at_path {path : String} (h : disk.SameFolders later)
    (hfile : later.octets? path = disk.octets? path) : later.atPath? path = disk.atPath? path := by
  have hfolder (place : Place) :
      later.at? place = some .folder ↔ disk.at? place = some .folder := by
    simpa only [isFolderAt, beq_iff_eq] using Bool.eq_iff_iff.1 (h.folders place)
  simp only [octets?, atPath?, h.find] at hfile ⊢
  cases hfind : disk.find? path with
  | none => rfl
  | some place =>
      rw [hfind] at hfile
      simp only [Option.bind_some] at hfile ⊢
      cases hbefore : disk.at? place with
      | none =>
          cases hafter : later.at? place with
          | none => rfl
          | some entry =>
              cases entry with
              | folder => rw [(hfolder place).1 hafter] at hbefore; cases hbefore
              | file octets => simp [hbefore, hafter] at hfile
      | some entry =>
          cases entry with
          | folder => exact (hfolder place).2 hbefore
          | file octets =>
              cases hafter : later.at? place with
              | none => simp [hbefore, hafter] at hfile
              | some other =>
                  cases other with
                  | folder => rw [(hfolder place).1 hafter] at hbefore; cases hbefore
                  | file others => simpa [hbefore, hafter] using hfile

/-- A disk takes every write to a path. -/
structure Takes (disk : Disk) (path : String) : Prop where
  place : (disk.filePlace? path).isSome
  refuses : ∀ number, disk.refuses number = false

/-- Writes are taken where the folders are the same. -/
theorem Takes.of_same_folders {path : String} (h : disk.Takes path)
    (hsame : disk.SameFolders later) : later.Takes path := by
  refine ⟨?_, fun number => by rw [hsame.refuses, h.refuses]⟩
  have hplace := h.place
  simp only [filePlace?, hsame.find, hsame.folders] at hplace ⊢
  exact hplace

/-- Names that end with a proper one lead to a place that ends with it. -/
theorem follow_last {front : List String} {name : String} {place found : Place}
    (hname : 2 < name.length) (h : disk.follow? place (front ++ [name]) = some found) :
    found.getLast? = some name := by
  induction front generalizing place with
  | nil =>
      have hidle : Path.isIdle name = false := by
        simp only [Path.isIdle, Bool.or_eq_false_iff, beq_eq_false_iff_ne]
        constructor <;> (rintro rfl; revert hname; decide)
      have hup : name ≠ ".." := by
        rintro rfl
        revert hname
        decide
      simp only [List.nil_append, follow?, hidle, hup] at h
      split at h
      · cases h
      · simp only [Bool.false_eq_true, if_false] at h
        split at h
        · cases h
        · obtain rfl := Option.some.inj h
          simp
  | cons first front ih =>
      simp only [List.cons_append, follow?] at h
      split at h
      · cases h
      · split at h
        · exact ih h
        · split at h
          · exact ih h
          · split at h
            · cases h
            · exact ih h

/-- A path that ends with a proper name leads to a place that ends with it. -/
theorem find_last {path : String} {found : Place} (hname : 2 < (Path.lastName path).length)
    (h : disk.find? path = some found) :
    found.getLast? = some (String.ofList (Path.lastName path)) := by
  obtain ⟨front, hnames⟩ := Path.names_eq path
  unfold find? at h
  split at h
  · rw [hnames] at h
    exact follow_last (by simpa using hname) h
  · cases h

/-! ## Writing and reading -/

/-- A path names a file that a write to another path cannot meet. -/
structure Apart (path other : String) : Prop where
  proper : 2 < (Path.lastName path).length
  other_proper : 2 < (Path.lastName other).length
  names_ne : Path.lastName path ≠ Path.lastName other

theorem Apart.symm {path other : String} (h : Apart path other) : Apart other path :=
  ⟨h.other_proper, h.proper, h.names_ne.symm⟩

/-- The files of a disk that paths apart from a given one lead to are those of another disk. -/
def SameBut (disk later : Disk) (path : String) : Prop :=
  ∀ other, Apart path other → later.octets? other = disk.octets? other

/-- What stands at the places of a disk after a file has been put at one. -/
theorem at_put_file {place : Place} (hne : place ≠ []) (octets : ByteArray) (spot : Place) :
    (disk.putFile place octets).at? spot =
      if place = spot then some (.file octets) else disk.at? spot := by
  by_cases hspot : place = spot
  · subst hspot
    simp [at?, putFile, hne]
  · simp [at?, putFile, Std.ExtTreeMap.getElem?_insert, hspot]

/-- No file stands at the root. -/
theorem ne_root_of_free {place : Place} (h : disk.isFolderAt place = false) : place ≠ [] := by
  rintro rfl
  simp [isFolderAt, at?] at h

/-- A file put where no folder stands changes no folder. -/
theorem put_file_folders {place : Place} (octets : ByteArray)
    (h : disk.isFolderAt place = false) : disk.SameFolders (disk.putFile place octets) := by
  refine ⟨rfl, rfl, fun spot => ?_⟩
  unfold isFolderAt at *
  rw [at_put_file (ne_root_of_free h)]
  split
  next hspot =>
    subst hspot
    rw [h]
    simp
  next => rfl

/-- A file put at the place of a path has that path. -/
theorem octets_put_file {path : String} {place : Place} (octets : ByteArray)
    (hfind : disk.find? path = some place) (h : disk.isFolderAt place = false) :
    (disk.putFile place octets).octets? path = some octets := by
  have hplace : (disk.putFile place octets).find? path = some place :=
    ((put_file_folders octets h).find path).trans hfind
  simp [octets?, atPath?, hplace, at_put_file (ne_root_of_free h)]

/-- A file put at the place of a path changes no file of another name. -/
theorem others_put_file {path : String} {place : Place} (octets : ByteArray)
    (hfind : disk.find? path = some place) (h : disk.isFolderAt place = false) :
    disk.SameBut (disk.putFile place octets) path := by
  intro other hother
  have hplace := (put_file_folders octets h).find other
  cases hfound : disk.find? other with
  | none => simp [octets?, atPath?, hplace, hfound]
  | some spot =>
      have hspot : place ≠ spot := by
        rintro rfl
        have hlast := (find_last hother.proper hfind).symm.trans
          (find_last hother.other_proper hfound)
        exact hother.names_ne (String.ofList_injective (Option.some.inj hlast))
      simp [octets?, atPath?, hplace, hfound, at_put_file (ne_root_of_free h), hspot]

/-- A file put at a place is at every path that leads there, and at no other. -/
theorem octets_put_file_cases {place : Place} (octets : ByteArray)
    (h : disk.isFolderAt place = false) (other : String) :
    (disk.putFile place octets).octets? other = disk.octets? other ∨
      (disk.putFile place octets).octets? other = some octets := by
  have hfind := (put_file_folders octets h).find other
  cases hfound : disk.find? other with
  | none => exact .inl (by simp [octets?, atPath?, hfind, hfound])
  | some spot =>
      by_cases hspot : place = spot
      · subst hspot
        exact .inr (by simp [octets?, atPath?, hfind, hfound, at_put_file (ne_root_of_free h)])
      · refine .inl ?_
        simp [octets?, atPath?, hfind, hfound, at_put_file (ne_root_of_free h), hspot]

/-- Counting a write changes no file. -/
theorem octets_counted (disk : Disk) (count : Nat) (other : String) :
    Disk.octets? { disk with writes := count } other = disk.octets? other := by
  have hcounted : disk.SameFolders { disk with writes := count } := ⟨rfl, rfl, fun _ => rfl⟩
  simp only [octets?, atPath?, hcounted.find]
  rfl

/-- A write puts the octets at its path and changes no folder and no file of another name. A write
that fails changes nothing but the count, and fails because the disk does not take it. -/
theorem write_meets (path : String) (octets : ByteArray) (disk : Disk) :
    (write path octets).Meets disk
      (fun _ left => disk.SameFolders left ∧ left.octets? path = some octets ∧
        disk.SameBut left path)
      fun fault left => fault = .disk ∧ left = { disk with writes := disk.writes + 1 } ∧
        ¬ disk.Takes path := by
  unfold Attempt.Meets write
  cases hplace : disk.filePlace? path with
  | none =>
      refine ⟨rfl, rfl, fun htakes => ?_⟩
      have hsome := htakes.place
      simp [hplace] at hsome
  | some place =>
      obtain ⟨hfind, hfree⟩ := Option.filter_eq_some_iff.1 hplace
      have hfree : disk.isFolderAt place = false := by simpa using hfree
      let counted := { disk with writes := disk.writes + 1 }
      have hcounted : disk.SameFolders counted := ⟨rfl, rfl, fun _ => rfl⟩
      have hfind : counted.find? path = some place := (hcounted.find path).trans hfind
      cases hrefused : disk.refuses disk.writes with
      | true =>
          refine ⟨rfl, rfl, fun htakes => ?_⟩
          rw [htakes.refuses] at hrefused
          cases hrefused
      | false =>
          have hput := @put_file_folders counted _ octets hfree
          have hothers := others_put_file octets hfind hfree
          refine ⟨hcounted.trans hput, octets_put_file octets hfind hfree, fun other hother => ?_⟩
          rw [hothers other hother, octets_counted]

/-- Whether a write succeeds or fails, the file at any path is as it was or holds the octets. -/
theorem write_octets (path : String) (octets : ByteArray) (other : String) (disk : Disk) :
    (write path octets).Meets disk
      (fun _ left => left.octets? other = disk.octets? other ∨ left.octets? other = some octets)
      fun _ left => left.octets? other = disk.octets? other := by
  have hcounted := disk.octets_counted (disk.writes + 1) other
  unfold Attempt.Meets write
  cases hplace : disk.filePlace? path with
  | none => exact hcounted
  | some place =>
      obtain ⟨-, hfree⟩ := Option.filter_eq_some_iff.1 hplace
      cases hrefused : disk.refuses disk.writes with
      | true => exact hcounted
      | false =>
          let counted := { disk with writes := disk.writes + 1 }
          have hfree : disk.isFolderAt place = false := by simpa using hfree
          have hput := @octets_put_file_cases counted _ octets hfree other
          exact hput.imp_left fun hsame => hsame.trans hcounted

/-- Whether a write succeeds or fails, it changes no folder and no files of other names. -/
theorem write_stays {path : String} {files : List String} (hfiles : ∀ own ∈ files, Apart path own)
    (before : Disk) (octets : ByteArray) :
    (write path octets).Keeps fun left => before.SameFolders left ∧
      ∀ own ∈ files, left.octets? own = before.octets? own := by
  rintro disk ⟨hfolders, hothers⟩
  refine (write_meets path octets disk).mono (fun _ left hleft => ?_) fun _ left hleft => ?_
  · exact ⟨hfolders.trans hleft.1, fun own hown =>
      (hleft.2.2 own (hfiles own hown)).trans (hothers own hown)⟩
  · obtain ⟨-, rfl, -⟩ := hleft
    have hcounted : disk.SameFolders { disk with writes := disk.writes + 1 } :=
      ⟨rfl, rfl, fun _ => rfl⟩
    refine ⟨hfolders.trans hcounted, fun own hown => ?_⟩
    rw [← hothers own hown, octets_counted]

/-! ## Making folders -/

/-- A folder that is put on a disk leaves all folders. -/
theorem put_folder_stay (disk : Disk) (place : Place) :
    disk.FoldersStay (disk.putFolder place) := by
  refine ⟨rfl, rfl, fun spot hspot => ?_⟩
  simp only [isFolderAt, at?, putFolder, Std.ExtTreeMap.getElem?_insert] at hspot ⊢
  split
  · rfl
  · split
    · rfl
    · simpa [*] using hspot

section

variable {name : String} {place : Place} {rest : List String}

/-- An idle name asks for no folder. -/
theorem make_folders_below_idle (hidle : Path.isIdle name = true) (disk : Disk) :
    makeFoldersBelow place (name :: rest) disk = makeFoldersBelow place rest disk := by
  simp [makeFoldersBelow, hidle, bind, EStateM.bind, get, getThe, MonadStateOf.get, EStateM.get]

/-- Two dots ask for no folder. -/
theorem make_folders_below_up (disk : Disk) :
    makeFoldersBelow place (".." :: rest) disk = makeFoldersBelow place.dropLast rest disk := by
  have hidle : Path.isIdle ".." = false := rfl
  simp [makeFoldersBelow, hidle, bind, EStateM.bind, get, getThe, MonadStateOf.get, EStateM.get]

/-- A folder that is there is not made. -/
theorem make_folders_below_there (hidle : Path.isIdle name = false) (hup : name ≠ "..")
    (hthere : disk.isFolderAt (place ++ [name]) = true) :
    makeFoldersBelow place (name :: rest) disk = makeFoldersBelow (place ++ [name]) rest disk := by
  simp [makeFoldersBelow, hidle, hup, hthere, bind, EStateM.bind, get, getThe, MonadStateOf.get,
    EStateM.get]

/-- A folder that is missing is made unless something is in the way. -/
theorem make_folders_below_missing (hidle : Path.isIdle name = false) (hup : name ≠ "..")
    (hmissing : disk.isFolderAt (place ++ [name]) = false) :
    makeFoldersBelow place (name :: rest) disk = .error .disk disk ∨
      makeFoldersBelow place (name :: rest) disk =
        makeFoldersBelow (place ++ [name]) rest (disk.putFolder (place ++ [name])) := by
  simp only [makeFoldersBelow, hidle, hup, bind, EStateM.bind, get, getThe, MonadStateOf.get,
    EStateM.get, hmissing, Bool.false_eq_true, if_false]
  split
  · exact .inl rfl
  · exact .inr rfl

end

/-- Folders that have been made below a place are found there again. -/
theorem make_folders_below_meets (names : List String) (place : Place) (disk : Disk) :
    (makeFoldersBelow place names).Meets disk
      (fun _ left => disk.FoldersStay left ∧
        ∀ later, left.FoldersStay later → makeFoldersBelow place names later = .ok () later)
      fun fault _ => fault = .disk := by
  induction names generalizing place disk with
  | nil => exact ⟨.refl disk, fun _ _ => rfl⟩
  | cons name rest ih =>
      by_cases hidle : Path.isIdle name = true
      · rw [Attempt.meets_congr (make_folders_below_idle hidle disk)]
        refine (ih place disk).mono (fun _ left hleft => ⟨hleft.1, ?_⟩) fun _ _ h => h
        intro later hlater
        rw [make_folders_below_idle hidle, hleft.2 later hlater]
      · have hidle : Path.isIdle name = false := by simpa using hidle
        by_cases hup : name = ".."
        · subst hup
          rw [Attempt.meets_congr (make_folders_below_up disk)]
          refine (ih place.dropLast disk).mono (fun _ left hleft => ⟨hleft.1, ?_⟩) fun _ _ h => h
          intro later hlater
          rw [make_folders_below_up, hleft.2 later hlater]
        · -- a folder that stands before the rest is made is found afterwards
          have hagain (left : Disk) (hinner : left.isFolderAt (place ++ [name]))
              (h : ∀ later, left.FoldersStay later →
                makeFoldersBelow (place ++ [name]) rest later = .ok () later) (later : Disk)
              (hlater : left.FoldersStay later) :
              makeFoldersBelow place (name :: rest) later = .ok () later := by
            rw [make_folders_below_there hidle hup (hlater.folders _ hinner), h later hlater]
          by_cases hinner : disk.isFolderAt (place ++ [name]) = true
          · rw [Attempt.meets_congr (make_folders_below_there hidle hup hinner)]
            refine (ih (place ++ [name]) disk).mono (fun _ left hleft => ⟨hleft.1, ?_⟩) fun _ _ h => h
            exact hagain left (hleft.1.folders _ hinner) hleft.2
          · have hput := put_folder_stay disk (place ++ [name])
            have hmade : (disk.putFolder (place ++ [name])).isFolderAt (place ++ [name]) := by
              simp [isFolderAt, at?, putFolder]
            rcases @make_folders_below_missing disk name place rest hidle hup (by simpa using hinner)
              with hblocked | hnext
            · simp [Attempt.Meets, hblocked]
            · rw [Attempt.meets_congr hnext]
              refine (ih _ _).mono (fun _ left hleft => ⟨hput.trans hleft.1, ?_⟩) fun _ _ h => h
              exact hagain left (hleft.1.folders _ hmade) hleft.2

/-- Making folders unmakes none, and making them again changes nothing. -/
theorem make_folders_meets (path : String) (disk : Disk) :
    (makeFolders path).Meets disk
      (fun _ left => disk.FoldersStay left ∧
        ∀ later, left.FoldersStay later → makeFolders path later = .ok () later)
      fun fault _ => fault = .disk := by
  unfold makeFolders
  split
  next =>
    split
    next =>
      simp only [Attempt.meets_bind, Attempt.meets_get]
      refine (make_folders_below_meets _ _ disk).mono (fun _ left hleft =>
        ⟨hleft.1, fun later hlater => ?_⟩) fun _ _ h => h
      have hstart : later.startOf path = disk.startOf path := by
        simp [startOf, hlater.here, hleft.1.here]
      rw [← hleft.2 later hlater]
      simp [hstart, bind, EStateM.bind, get, getThe, MonadStateOf.get, EStateM.get]
    next => simp
  next => exact ⟨.refl disk, fun _ _ => rfl⟩

end Disk

end Notekeeper
