import Mathlib
import Notekeeper.Package.Archive.Octets

/-!
# Parts of octets

`Holds octets start part` says that some octets stand in others at a place. What is made of parts
put together is held if every part is held at its own place (`holds_append`), and a number that is
held is read there (`Holds.number_at`).
-/

namespace Notekeeper.Package

/-- The octets of an array as a list. -/
theorem octets_to_list (octets : ByteArray) : octets.toList = octets.data.toList := by
  have hloop (count start : Nat) (front : List UInt8) (hcount : octets.size = start + count)
      (hfront : front.reverse = octets.data.toList.take start) :
      ByteArray.toList.loop octets start front = octets.data.toList := by
    have hsize : octets.data.toList.length = octets.size := rfl
    induction count generalizing start front with
    | zero =>
        rw [ByteArray.toList.loop, if_neg (by omega), hfront, List.take_of_length_le (by omega)]
    | succ count ih =>
        rw [ByteArray.toList.loop, if_pos (by omega)]
        refine ih (start + 1) _ (by omega) ?_
        have hstart : start < octets.data.toList.length := by omega
        have hget : octets.get! start = octets.data.toList[start] := by
          have hdata : start < octets.data.size := hstart
          change octets.data[start]! = _
          rw [getElem!_pos octets.data start hdata, Array.getElem_toList]
        rw [List.reverse_cons, hfront, hget, List.take_succ_eq_append_getElem hstart]
  exact hloop octets.size 0 [] (by omega) rfl

/-- Some octets stand in others, from a place on. -/
structure Holds (octets : ByteArray) (start : Nat) (part : List UInt8) : Prop where
  within : start ≤ octets.size
  isPart : part <+: octets.data.toList.drop start

variable {octets : ByteArray} {start width number : Nat} {front part rest : List UInt8}

/-- Octets hold themselves. -/
theorem holds_self (part : List UInt8) : Holds ⟨part.toArray⟩ 0 part :=
  ⟨Nat.zero_le _, by simp⟩

/-- Parts end within what holds them. -/
theorem Holds.finish_le (h : Holds octets start part) : start + part.length ≤ octets.size := by
  have hsize : octets.data.toList.length = octets.size := rfl
  have hlength := h.isPart.length_le
  have hwithin := h.within
  rw [List.length_drop] at hlength
  omega

/-- What is put together is held where its parts are held one behind the other. -/
theorem holds_append :
    Holds octets start (front ++ rest) ↔
      Holds octets start front ∧ Holds octets (start + front.length) rest := by
  constructor
  · intro h
    obtain ⟨back, hback⟩ := h.isPart
    have hfront : Holds octets start front :=
      ⟨h.within, rest ++ back, by rw [← hback, List.append_assoc]⟩
    refine ⟨hfront, hfront.finish_le, back, ?_⟩
    rw [← List.drop_drop, ← hback, List.append_assoc, List.drop_left]
  · rintro ⟨hfront, hrest⟩
    refine ⟨hfront.within, ?_⟩
    obtain ⟨back, hback⟩ := hfront.isPart
    have hdrop : octets.data.toList.drop (start + front.length) = back := by
      rw [← List.drop_drop, ← hback, List.drop_left]
    have hpart := hrest.isPart
    rw [hdrop] at hpart
    rw [← hback]
    exact (List.prefix_append_right_inj front).2 hpart

/-- What stands between two places. -/
theorem Holds.extract (h : Holds octets start part) :
    octets.extract start (start + part.length) = ⟨part.toArray⟩ := by
  obtain ⟨back, hback⟩ := h.isPart
  apply ByteArray.ext
  apply Array.ext'
  simp [ByteArray.data_extract, List.extract_eq_take_drop, ← hback]

/-- Octets that are held are read at their place. -/
theorem Holds.octets_at (h : Holds octets start part) :
    octetsAt? octets start part.length = some part := by
  rw [octetsAt?, if_pos h.finish_le, octets_to_list, h.extract]

/-! ## Numbers -/

/-- A number has as many octets as it is given. -/
@[simp]
theorem length_to_little_endian (width number : Nat) :
    (toLittleEndian width number).length = width := by
  induction width generalizing number with
  | zero => rfl
  | succ width ih => simp [toLittleEndian, ih]

/-- A number that fits is read back from its octets. -/
theorem little_endian_to (h : number < 256 ^ width) :
    littleEndian (toLittleEndian width number) = number := by
  induction width generalizing number with
  | zero =>
      have hzero : number = 0 := by simpa using h
      simp [toLittleEndian, littleEndian, hzero]
  | succ width ih =>
      have hrest : number / 256 < 256 ^ width :=
        Nat.div_lt_of_lt_mul (by rwa [Nat.pow_succ'] at h)
      have hoctet : (number % 256).toUInt8.toNat = number % 256 := by
        simp [Nat.toUInt8]
      rw [toLittleEndian, littleEndian, ih hrest, hoctet]
      exact Nat.mod_add_div number 256

/-- A number that is held is read at its place. -/
theorem Holds.number_at (h : Holds octets start (toLittleEndian width number))
    (hfits : number < 256 ^ width) : numberAt? octets start width = some number := by
  have hoctets := h.octets_at
  rw [length_to_little_endian] at hoctets
  rw [numberAt?, hoctets, Option.map_some, little_endian_to hfits]

end Notekeeper.Package
