import Notekeeper.Package.Archive
import Notekeeper.Proofs.Package.Octets

/-!
# What is packed can be taken out

`Archive.extract_pack` takes the file out of the archive that `Archive.pack` makes. Every number that
is looked at stands where it was put: the trailer at the end, the only entry of the directory in
front of it, and the file at the beginning.
-/

namespace Notekeeper.Package

namespace Archive

variable {octets content : ByteArray} {start : Nat} {name : List UInt8}

/-- The fields of a directory entry that is packed. -/
def entryFields (name : List UInt8) (content : ByteArray) : List UInt8 :=
  toLittleEndian 4 directoryMark ++ toLittleEndian 2 10 ++ sharedFields name content ++
    toLittleEndian 2 0 ++ toLittleEndian 2 0 ++ toLittleEndian 2 0 ++ toLittleEndian 2 0 ++
    toLittleEndian 4 0 ++ toLittleEndian 4 0 ++ name

/-- The fields of a trailer that is packed. -/
def trailerFields (entryLength fileLength : Nat) : List UInt8 :=
  toLittleEndian 4 trailerMark ++ toLittleEndian 2 0 ++ toLittleEndian 2 0 ++
    toLittleEndian 2 1 ++ toLittleEndian 2 1 ++ toLittleEndian 4 entryLength ++
    toLittleEndian 4 fileLength ++ toLittleEndian 2 0

/-- The fields before a file that is packed, and the file. -/
def fileFields (name : List UInt8) (content : ByteArray) : List UInt8 :=
  toLittleEndian 4 fileMark ++ sharedFields name content ++ toLittleEndian 2 0 ++ name ++
    content.toList

/-- A packed file is as long as its name and content with thirty octets before them. -/
theorem length_file_fields : (fileFields name content).length = 30 + name.length + content.size := by
  have hcontent : content.toList.length = content.size := by
    rw [octets_to_list]
    rfl
  simp only [fileFields, sharedFields, List.length_append, length_to_little_endian, hcontent]

/-- A packed entry is as long as its name with 46 octets before it. -/
theorem length_entry_fields : (entryFields name content).length = 46 + name.length := by
  simp only [entryFields, sharedFields, List.length_append, length_to_little_endian]

/-- The entry of the directory is read as it was packed. -/
theorem entry_at (h : Holds octets start (entryFields name content)) (hname : name.length < 2 ^ 16)
    (hcontent : content.size < 2 ^ 32) :
    DirectoryEntry.at? octets start =
      some (⟨name, false, 0, (checksum content).toNat, content.size, content.size, 0, false⟩,
        start + 46 + name.length) := by
  have hfinish := h.finish_le
  simp only [entryFields, sharedFields, holds_append, List.length_append, length_to_little_endian,
    Nat.add_assoc, Nat.reduceAdd, and_assoc] at h hfinish
  obtain ⟨hmark, -, -, hflags, hmethod, -, -, hchecksum, hcompressed, hsize, hlength, hextra, hcomment,
    -, -, -, hoffset, htext⟩ := h
  have hsum : (checksum content).toNat < 256 ^ 4 := (checksum content).toNat_lt
  have hnone : Holds octets (start + (46 + name.length)) [] :=
    ⟨hfinish, by simp⟩
  have hextra_octets := hnone.octets_at
  rw [List.length_nil] at hextra_octets
  simp [DirectoryEntry.at?, Nat.add_assoc, hmark.number_at (by decide),
    hflags.number_at (by decide), hmethod.number_at (by decide), hchecksum.number_at hsum,
    hcompressed.number_at hcontent, hsize.number_at hcontent, hlength.number_at hname,
    hextra.number_at (by decide), hcomment.number_at (by decide), hoffset.number_at (by decide),
    htext.octets_at, hextra_octets, hfinish, guard, DirectoryEntry.withExtra?,
    DirectoryEntry.sealedMethod]

/-- The trailer is read as it was packed. -/
theorem trailer_at {entryLength fileLength : Nat}
    (h : Holds octets start (trailerFields entryLength fileLength))
    (hentry : entryLength < 2 ^ 32) (hfile : fileLength < 2 ^ 32) :
    Trailer.at? octets start = some ⟨start, 0, 0, 1, 1, entryLength, fileLength, 0⟩ := by
  have hfinish := h.finish_le
  simp only [trailerFields, holds_append, List.length_append, length_to_little_endian,
    Nat.reduceAdd, and_assoc] at h hfinish
  obtain ⟨-, hdisk, hdirectory, hcount, htotal, hsize, hoffset, hcomment⟩ := h
  simp [Trailer.at?, hdisk.number_at (by decide), hdirectory.number_at (by decide),
    hcount.number_at (by decide), htotal.number_at (by decide), hsize.number_at hentry,
    hoffset.number_at hfile, hcomment.number_at (by decide), trailerLength, hfinish, guard]

/-- The parts of an archive, where they stand. -/
theorem pack_holds (name : String) (content : ByteArray) (hname : name.toUTF8.toList.length = 12) :
    (pack name content).size = 122 + content.size ∧
      Holds (pack name content) 0 (fileFields name.toUTF8.toList content) ∧
      Holds (pack name content) (42 + content.size) (entryFields name.toUTF8.toList content) ∧
      Holds (pack name content) (100 + content.size) (trailerFields 58 (42 + content.size)) := by
  have hfile : (fileFields name.toUTF8.toList content).length = 42 + content.size := by
    rw [length_file_fields, hname]
  have hentry : (entryFields name.toUTF8.toList content).length = 58 := by
    rw [length_entry_fields, hname]
  have hpack : pack name content =
      ⟨(fileFields name.toUTF8.toList content ++ entryFields name.toUTF8.toList content ++
        trailerFields (entryFields name.toUTF8.toList content).length
          (fileFields name.toUTF8.toList content).length).toArray⟩ := rfl
  rw [hfile, hentry] at hpack
  have hwhole := holds_self (fileFields name.toUTF8.toList content ++
    entryFields name.toUTF8.toList content ++ trailerFields 58 (42 + content.size))
  rw [← hpack, holds_append, holds_append, List.length_append, hfile, hentry] at hwhole
  refine ⟨?_, hwhole.1.1, by simpa using hwhole.1.2, ?_⟩
  · rw [hpack]
    change (List.toArray _).size = _
    rw [List.size_toArray, List.length_append, List.length_append, hfile, hentry]
    simp [trailerFields]
    omega
  · have htrailer := hwhole.2
    rwa [show 0 + (42 + content.size + 58) = 100 + content.size by omega] at htrailer

/-- A file that was packed under a name of twelve octets is taken out as it was. -/
theorem extract_pack (name : String) (content : ByteArray) (hname : name.toUTF8.toList.length = 12)
    (hcontent : content.size < 2 ^ 32 - 64) :
    extract? name (pack name content) = some ⟨content, true⟩ := by
  obtain ⟨hsize, hfile, hentry, htrailer⟩ := pack_holds name content hname
  have htrailer_at := trailer_at htrailer (by decide) (by omega)
  have hentry_at := entry_at hentry (by omega) (by omega)
  have hmark : numberAt? (pack name content) (100 + content.size) 4 = some trailerMark := by
    simp only [trailerFields, holds_append, and_assoc] at htrailer
    exact htrailer.1.number_at (by decide)
  have hfind : Trailer.find? (pack name content) =
      some ⟨100 + content.size, 0, 0, 1, 1, 58, 42 + content.size, 0⟩ := by
    have hstart : (pack name content).size - trailerLength = 100 + content.size := by
      rw [hsize, trailerLength]
      omega
    rw [Trailer.find?, if_neg (by rw [hsize, trailerLength]; omega), hstart, Trailer.search?,
      if_pos hmark, htrailer_at]
  -- the octets where a locator would begin are the attributes of the entry
  have hattributes : numberAt? (pack name content) (80 + content.size) 4 = some 0 := by
    have hfields := hentry
    simp only [entryFields, sharedFields, holds_append, List.length_append,
      length_to_little_endian, Nat.reduceAdd, and_assoc] at hfields
    obtain ⟨-, -, -, -, -, -, -, -, -, -, -, -, -, -, -, hexternal, -⟩ := hfields
    have hnumber := hexternal.number_at (by decide)
    rwa [show 42 + content.size + 38 = 80 + content.size by omega] at hnumber
  have hplace : Trailer.place? ⟨100 + content.size, 0, 0, 1, 1, 58, 42 + content.size, 0⟩
      (pack name content) = some ⟨42 + content.size, 1, 0⟩ := by
    have hstart : (pack name content).size - 42 = 80 + content.size := by
      rw [hsize]
      omega
    have hlocator : Trailer.locator? ⟨100 + content.size, 0, 0, 1, 1, 58, 42 + content.size, 0⟩
        (pack name content) = none := by
      simp [Trailer.locator?, trailerLength, locatorLength, hstart, hattributes, locatorMark, guard]
    have hshift : 100 + content.size - 58 - (42 + content.size) = 0 := by omega
    have hbound : 58 + (42 + content.size) ≤ 100 + content.size := by omega
    simp [Trailer.place?, hlocator, Trailer.narrowPlace?, hshift, hbound, guard]
  have hlist : DirectoryEntry.list? (pack name content) 1 (42 + content.size) =
      some [⟨name.toUTF8.toList, false, 0, (checksum content).toNat, content.size, content.size, 0,
        false⟩] := by
    simp [DirectoryEntry.list?, hentry_at]
  simp only [fileFields, sharedFields, holds_append, List.length_append, length_to_little_endian,
    Nat.reduceAdd, and_assoc, hname, Nat.zero_add] at hfile
  obtain ⟨hfile_mark, -, -, -, -, -, -, -, -, hname_length, hextra, -, hdata⟩ := hfile
  have hcontent_length : content.toList.length = content.size := by
    rw [octets_to_list]
    rfl
  have hextract : (pack name content).extract 42 (42 + content.size) = content := by
    have hpart := hdata.extract
    rw [hcontent_length, octets_to_list] at hpart
    exact hpart
  have hfinish : min (42 + content.size) (122 + content.size) = 42 + content.size := by omega
  simp only [extract?, hfind, hplace, hlist, List.reverse_cons, List.reverse_nil, List.nil_append,
    List.find?_cons_of_pos, BEq.rfl, Option.bind_eq_bind, Option.bind_some, guard,
    hfile_mark.number_at (by decide), hname_length.number_at (by decide),
    hextra.number_at (by decide), hsize, Bool.not_false, and_self, if_true, Option.pure_def,
    Nat.zero_add, Nat.add_zero, Nat.reduceAdd, hfinish, hextract, extraction?, decide_true]

end Archive

end Notekeeper.Package
