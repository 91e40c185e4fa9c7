import Notekeeper.Proofs.Number.Decimal
import Notekeeper.Proofs.Store.Change

/-!
# Room for versions

Versions are whole numbers, but a clock that is kept is a word of 64 bits. A store has room for some
versions if that many can be given in it one after the other and the last is still the value of a
clock (`Store.HasRoom`). Every change of a store takes up room for the version that it gives, so that
the versions in a store are those of clocks as long as there was room for all that have been given.
What is said of versions without a condition is said of whole numbers.
-/

namespace Notekeeper

/-- The value of a clock from which some steps can be counted within its range. -/
def Decimal.HasRoom (number : Int) (steps : Nat) : Prop :=
  least ≤ number ∧ number + steps ≤ greatest

instance (number : Int) (steps : Nat) : Decidable (Decimal.HasRoom number steps) :=
  inferInstanceAs (Decidable (_ ∧ _))

namespace Store

/-- Some versions can be given in a store, one after the other, within the range of its clock. -/
structure HasRoom (store : Store) (steps : Nat) : Prop where
  clock : Decimal.HasRoom store.clock steps
  versions : ∀ (id : String) (note : Note), store.notes[id]? = some note →
    Decimal.HasRoom note.version steps

/-- Whether a store has room is decided by looking at its clock and its notes. -/
instance (store : Store) (steps : Nat) : Decidable (store.HasRoom steps) :=
  decidable_of_iff
    (Decimal.HasRoom store.clock steps ∧ ∀ note ∈ store.all, Decimal.HasRoom note.version steps)
    ⟨fun ⟨hclock, hnotes⟩ =>
      ⟨hclock, fun id note hfound => hnotes note (Store.mem_all.2 ⟨id, hfound⟩)⟩,
    fun h => ⟨h.clock, fun note hmem =>
      have ⟨id, hfound⟩ := Store.mem_all.1 hmem
      h.versions id note hfound⟩⟩

end Store

variable {store : Store} {note : Note} {number other : Int} {id : String} {steps fewer : Nat}

namespace Decimal

/-- Room for some steps is room for fewer. -/
theorem HasRoom.mono (h : HasRoom number steps) (hfewer : fewer ≤ steps) :
    HasRoom number fewer := by
  unfold HasRoom at *
  omega

/-- A number with room is in range. -/
theorem HasRoom.in_range (h : HasRoom number steps) : InRange number := by
  unfold HasRoom InRange at *
  omega

/-- The higher of two numbers has the room that both have. -/
theorem HasRoom.max (h : HasRoom number steps) (hother : HasRoom other steps) :
    HasRoom (max number other) steps := by
  unfold HasRoom at *
  omega

/-- The next number has room for one step less. -/
theorem HasRoom.next (h : HasRoom number (steps + 1)) : HasRoom (1 + number) steps := by
  unfold HasRoom at *
  omega

end Decimal

namespace Store

/-- Room for some versions is room for fewer. -/
theorem HasRoom.mono (h : store.HasRoom steps) (hfewer : fewer ≤ steps) : store.HasRoom fewer :=
  ⟨h.clock.mono hfewer, fun id note hfound => (h.versions id note hfound).mono hfewer⟩

/-- The versions in a store with room are in range. -/
theorem HasRoom.in_range (h : store.HasRoom steps) (hfound : store.get? id = some note) :
    Decimal.InRange note.version :=
  (h.versions id note hfound).in_range

/-- A note that is put in takes up no room. -/
theorem HasRoom.restore (h : store.HasRoom steps) (hnote : Decimal.HasRoom note.version steps) :
    (store.restore note).HasRoom steps := by
  refine ⟨h.clock.max hnote, fun id found hfound => ?_⟩
  rw [get_restore] at hfound
  split at hfound
  · obtain rfl := Option.some.inj hfound
    exact hnote
  · exact h.versions id found hfound

/-- A note that is added takes up room for its version. -/
theorem HasRoom.add (h : store.HasRoom (steps + 1))
    (hnote : Decimal.HasRoom note.version (steps + 1)) : (store.add note).HasRoom steps := by
  refine ⟨(h.clock.max hnote).next, fun id found hfound => ?_⟩
  rw [get_add] at hfound
  split at hfound
  · obtain rfl := Option.some.inj hfound
    exact (h.clock.max hnote).next
  · exact (h.versions id found hfound).mono (Nat.le_succ steps)

/-- A note that is revised takes up room for its version. -/
theorem HasRoom.revise (h : store.HasRoom (steps + 1))
    (hnote : Decimal.HasRoom note.version (steps + 1)) (id : String) :
    (store.revise id note).HasRoom steps := by
  refine ⟨(h.clock.max hnote).next, fun other found hfound => ?_⟩
  rw [get_revise] at hfound
  split at hfound
  · obtain rfl := Option.some.inj hfound
    exact (h.clock.max hnote).next
  · exact (h.versions other found hfound).mono (Nat.le_succ steps)

/-- The removal of a note takes up room on the clock. -/
theorem HasRoom.without (h : store.HasRoom (steps + 1)) (id : String) :
    (store.without id).HasRoom steps := by
  have hclock := h.clock.next
  rw [Int.add_comm] at hclock
  refine ⟨hclock, fun other found hfound => ?_⟩
  rw [get_without] at hfound
  split at hfound
  · cases hfound
  · exact (h.versions other found hfound).mono (Nat.le_succ steps)

/-- A save takes up no room. -/
theorem HasRoom.saved (h : store.HasRoom steps) : store.saved.HasRoom steps := by
  obtain ⟨-, hnotes, hclock, -⟩ := store.saved_eq
  refine ⟨by rw [hclock]; exact h.clock, fun id found hfound => ?_⟩
  rw [hnotes, get_with_defaults, Option.map_eq_some_iff] at hfound
  obtain ⟨held, hheld, rfl⟩ := hfound
  exact h.versions id held hheld

end Store

end Notekeeper
