import Notekeeper.Proofs.Store.Change
import Notekeeper.Proofs.Supply
import Notekeeper.Sync.Merge

/-!
# Copies that a merge makes

A merge makes copies of notes under the next tokens, one after the other. With tokens that are
distinct and unused (`Supply.FreshFor`) the ids of these copies are distinct and used nowhere else
(`Sync.fresh_copies`), so that what is done to other ids leaves them alone.
-/

namespace Notekeeper

namespace Sync

/-! ## Tokens for copies -/

/-- The supply after a number of copies has been made. -/
def afterCopies (supply : Supply) (count : Nat) : Supply :=
  { supply with
    tokensTaken := supply.tokensTaken + count
    momentsTaken := supply.momentsTaken + count }

/-- The ids of the next copies. -/
def copyIds (supply : Supply) (count : Nat) : List String :=
  (List.range count).map supply.token

variable {supply : Supply} {used : String → Prop} {id : String} {count : Nat}

/-- The supply after some copies and then others. -/
theorem after_copies_append (supply : Supply) (count more : Nat) :
    afterCopies supply (count + more) = afterCopies (afterCopies supply count) more := by
  simp only [afterCopies, Nat.add_assoc]

/-- A token that is still to come after some copies. -/
theorem token_after_copies (supply : Supply) (count ahead : Nat) :
    (afterCopies supply count).token ahead = supply.token (count + ahead) := by
  simp only [afterCopies, Supply.token, Nat.add_assoc]

/-- The ids of some copies and then of others. -/
theorem copy_ids_append (supply : Supply) (count more : Nat) :
    copyIds supply (count + more) = copyIds supply count ++ copyIds (afterCopies supply count) more := by
  have htokens : (afterCopies supply count).token = supply.token ∘ (count + ·) := by
    funext ahead
    exact token_after_copies supply count ahead
  simp only [copyIds, List.range_add, List.map_append, List.map_map, htokens]

/-- Copies have tokens for their ids. -/
theorem mem_copy_ids : id ∈ copyIds supply count ↔ ∃ ahead < count, supply.token ahead = id := by
  simp [copyIds]

theorem length_copy_ids (supply : Supply) (count : Nat) : (copyIds supply count).length = count := by
  simp [copyIds]

/-- Making copies leads on. -/
theorem leads_to_copies (supply : Supply) (count : Nat) :
    supply.LeadsTo (afterCopies supply count) :=
  ⟨rfl, rfl, Nat.le_add_right _ _⟩

/-- The ids of copies are taken by making them. -/
theorem spends_copies (h : id ∈ copyIds supply count) :
    supply.Spends (afterCopies supply count) id := by
  obtain ⟨ahead, hahead, htoken⟩ := mem_copy_ids.1 h
  exact ⟨ahead, Nat.add_lt_add_left hahead _, htoken⟩

/-- The ids of copies are distinct and unused; the tokens after them are distinct still, and no id in
use or of a copy is among them. -/
theorem fresh_copies (h : supply.FreshFor used) (count : Nat) :
    (copyIds supply count).Nodup ∧ (∀ id ∈ copyIds supply count, ¬ used id) ∧
      (afterCopies supply count).FreshFor fun id => used id ∨ id ∈ copyIds supply count := by
  refine ⟨List.Nodup.map (fun first second => h.distinct first second) List.nodup_range, ?_, ?_⟩
  · intro id hmem hused
    obtain ⟨ahead, -, rfl⟩ := mem_copy_ids.1 hmem
    exact h.unused _ hused ahead rfl
  · exact (h.leads_to (leads_to_copies supply count)).mono fun id hid => hid.imp_right spends_copies

/-! ## Notes and their copies -/

/-- A store holds a copy of a note under another id. It differs from the note in nothing but its id,
which is a token, a suffix to its name that tells the moment read when the token was taken and the id
of the note, and a higher version. -/
def HoldsCopy (suffix : Moment → String → String) (supply : Supply) (store : Store) (note : Note)
    (id : String) : Prop :=
  ∃ ahead version, id = supply.token ahead ∧ note.version < version ∧
    store.get? id = some
      { note.renamedCopy id (suffix (supply.moments (supply.momentsTaken + ahead)) note.id) with
        version := version }

variable {store other : Store} {suffix : Moment → String → String} {note : Note}

/-- Whether a store holds a copy is told by the note it has under the id of the copy. -/
theorem HoldsCopy.of_get_eq (h : HoldsCopy suffix supply store note id)
    (hget : other.get? id = store.get? id) : HoldsCopy suffix supply other note id := by
  obtain ⟨ahead, version, htoken, hversion, hcopy⟩ := h
  exact ⟨ahead, version, htoken, hversion, hget.trans hcopy⟩

/-- What is copied after other copies have been made is copied further ahead. -/
theorem HoldsCopy.after_copies (h : HoldsCopy suffix (afterCopies supply count) store note id) :
    HoldsCopy suffix supply store note id := by
  obtain ⟨ahead, version, htoken, hversion, hcopy⟩ := h
  refine ⟨count + ahead, version, ?_, hversion, ?_⟩
  · rw [htoken, token_after_copies]
  · rw [hcopy, afterCopies, Nat.add_assoc]

/-- A store that a copy has been added to holds it. -/
theorem holds_copy_added (store : Store) (supply : Supply) (hname : note.name ≠ "")
    (hfolder : note.folder ≠ "") :
    HoldsCopy suffix supply (store.add (datedCopy suffix note supply)) note (supply.token 0) := by
  have hcopy_name : (datedCopy suffix note supply).name ≠ "" := by
    simp [datedCopy, Note.renamedCopy, hname]
  have hdefaults : (datedCopy suffix note supply).withDefaults = datedCopy suffix note supply :=
    Note.with_defaults_of_ne hcopy_name hfolder
  refine ⟨0, 1 + max store.clock note.version, rfl, by omega, ?_⟩
  have hid : (datedCopy suffix note supply).id = supply.token 0 := rfl
  rw [Store.get?, Store.get_add, if_pos hid, hdefaults]
  rfl

/-- Notes have been copied into a store, one after the other, under the next tokens. -/
def Copied (suffix : Moment → String → String) (store : Store) (notes : List Note)
    (supply : Supply) : Prop :=
  List.Forall₂ (HoldsCopy suffix supply store) notes (copyIds supply notes.length)

/-- Copies stay where nothing is done to their ids, and others are made after them. -/
theorem Copied.append {notes more : List Note} (h : Copied suffix store notes supply)
    (hmore : Copied suffix other more (afterCopies supply notes.length))
    (hget : ∀ id ∈ copyIds supply notes.length, other.get? id = store.get? id) :
    Copied suffix other (notes ++ more) supply := by
  have hkept : List.Forall₂ (HoldsCopy suffix supply other) notes (copyIds supply notes.length) := by
    rw [Copied, List.forall₂_iff_zip] at h
    rw [List.forall₂_iff_zip]
    exact ⟨h.1, fun hmem => (h.2 hmem).of_get_eq (hget _ (List.of_mem_zip hmem).2)⟩
  rw [Copied, List.length_append, copy_ids_append]
  exact List.rel_append hkept (hmore.imp fun _ _ hcopy => hcopy.after_copies)

/-- Copies stay where nothing is done to their ids. -/
theorem Copied.of_get_eq {notes : List Note} (h : Copied suffix store notes supply)
    (hget : ∀ id ∈ copyIds supply notes.length, other.get? id = store.get? id) :
    Copied suffix other notes supply := by
  have hkept : Copied suffix other (notes ++ []) supply := h.append .nil hget
  rwa [List.append_nil] at hkept

end Sync

end Notekeeper
