import Notekeeper.Proofs.Store.Basic
import Notekeeper.Store.Listing

/-!
# The order in which notes are listed

Ids are listed by the versions of their notes, highest first, and by id within a version
(`Store.Precedes`). A keyed store lists the notes that satisfy a condition, all of them and no
others, in this order (`Store.mem_select`, `Store.Keyed.pairwise_select`), and sorts ids in
alphabetical order into it (`Store.sort_ids_meets`).
-/

namespace Notekeeper

/-- Sorting by a key, highest first, leaves elements with the same key in their order. -/
theorem pairwise_merge_sort {Element : Type} {before : Element → Element → Prop}
    (key : Element → Int) {elements : List Element} (h : elements.Pairwise before) :
    (elements.mergeSort fun first second => decide (key second ≤ key first)).Pairwise
      fun first second => key second < key first ∨ key first = key second ∧ before first second := by
  have htrans (first second third : Element) :
      decide (key second ≤ key first) = true → decide (key third ≤ key second) = true →
        decide (key third ≤ key first) = true := by
    simp only [decide_eq_true_eq]
    omega
  have htotal (first second : Element) :
      (decide (key second ≤ key first) || decide (key first ≤ key second)) = true := by
    simp only [Bool.or_eq_true, decide_eq_true_eq]
    omega
  -- The elements with one key stand in the sorted list as they stand in the list.
  have hstable (value : Int) :
      (elements.mergeSort fun first second => decide (key second ≤ key first)).filter
        (fun element => key element = value) = elements.filter fun element => key element = value := by
    have hequal : (elements.filter fun element => key element = value).Pairwise
        fun first second => decide (key second ≤ key first) = true := by
      refine List.pairwise_of_forall_mem_list fun first hfirst second hsecond => ?_
      simp only [List.mem_filter, decide_eq_true_eq] at hfirst hsecond ⊢
      omega
    have hsub := (List.sublist_mergeSort htrans htotal hequal List.filter_sublist).filter
      fun element => key element = value
    rw [List.filter_filter] at hsub
    simp only [Bool.and_self] at hsub
    refine (hsub.eq_of_length ?_).symm
    exact ((List.mergeSort_perm elements _).filter _).length_eq.symm
  rw [List.pairwise_iff_forall_sublist]
  intro first second hsub
  have hle : key second ≤ key first := by
    have hsorted := (List.pairwise_mergeSort htrans htotal elements).sublist hsub
    simpa using hsorted
  rcases Int.lt_or_eq_of_le hle with hlt | heq
  · exact .inl hlt
  · refine .inr ⟨heq.symm, ?_⟩
    have hkept := hsub.filter fun element => key element = key first
    rw [hstable] at hkept
    simp only [List.filter_cons, heq, decide_true, ↓reduceIte, List.filter_nil] at hkept
    exact List.pairwise_iff_forall_sublist.1 h (hkept.trans List.filter_sublist)

/-- The alphabetical order that collections of texts are kept in. -/
theorem compare_lt_iff {first second : String} : compare first second = .lt ↔ first < second :=
  compareOfLessAndEq_eq_lt

namespace Store

/-- One id is listed before another one: its note has the higher version, or both have the same one
and its id comes first. -/
def Precedes (store : Store) (first second : String) : Prop :=
  ∃ former latter, store.get? first = some former ∧ store.get? second = some latter ∧
    (latter.version < former.version ∨ former.version = latter.version ∧ first < second)

variable {store : Store}

/-- No id is listed before itself. -/
theorem Precedes.ne {first second : String} (h : store.Precedes first second) : first ≠ second := by
  rintro rfl
  obtain ⟨former, latter, hformer, hlatter, horder⟩ := h
  obtain rfl := Option.some.inj (hformer.symm.trans hlatter)
  rcases horder with hlt | ⟨-, hlt⟩
  · exact Int.lt_irrefl _ hlt
  · exact String.lt_irrefl _ hlt

/-- Ids that are listed in order are listed once. -/
theorem nodup_of_precedes {ids : List String} (h : ids.Pairwise store.Precedes) : ids.Nodup :=
  h.imp Precedes.ne

/-- Of two ids at most one is listed before the other. -/
theorem Precedes.asymm {first second : String} (h : store.Precedes first second) :
    ¬ store.Precedes second first := by
  obtain ⟨former, latter, hformer, hlatter, horder⟩ := h
  rintro ⟨later, earlier, hlater, hearlier, hother⟩
  obtain rfl := Option.some.inj (hformer.symm.trans hearlier)
  obtain rfl := Option.some.inj (hlatter.symm.trans hlater)
  rcases horder with hlt | ⟨heq, hlt⟩
  · omega
  · rcases hother with hversion | ⟨-, hback⟩
    · omega
    · exact String.lt_asymm hlt hback

/-- There is one list of some ids in the order of listings. -/
theorem eq_of_precedes {ids others : List String} (h : ids.Pairwise store.Precedes)
    (hothers : others.Pairwise store.Precedes) (hmem : ∀ id, id ∈ ids ↔ id ∈ others) :
    ids = others := by
  have hperm : ids.Perm others :=
    (List.perm_ext_iff_of_nodup (nodup_of_precedes h) (nodup_of_precedes hothers)).2 hmem
  exact hperm.eq_of_pairwise (fun _ _ _ _ hbefore hafter => absurd hafter hbefore.asymm) h hothers

/-! ## All notes -/

/-- The sorted ids are those under which there is a note. -/
theorem Keyed.mem_sorted_ids (h : store.Keyed) {id : String} :
    id ∈ store.sortedIds ↔ ∃ note, store.get? id = some note := by
  rw [sortedIds, ← has_iff, ← mem_ids_iff_has, ← h.map_id_all, List.mem_map, List.mem_map]
  simp only [newestFirst, List.mem_mergeSort]

/-- All ids are listed in order. -/
theorem Keyed.pairwise_sorted_ids (h : store.Keyed) : store.sortedIds.Pairwise store.Precedes := by
  have hids : store.all.Pairwise fun former latter => former.id < latter.id := by
    have hkeys := Std.ExtTreeMap.ordered_keys (t := store.notes)
    rw [← ids, ← h.map_id_all, List.pairwise_map] at hkeys
    exact hkeys.imp fun hlt => compare_lt_iff.1 hlt
  have hfound (note : Note) (hmem : note ∈ newestFirst store.all) :
      store.get? note.id = some note := h.mem_all.1 (List.mem_mergeSort.1 hmem)
  rw [sortedIds, List.pairwise_map]
  refine (pairwise_merge_sort Note.version hids).imp_of_mem fun hformer hlatter horder => ?_
  exact ⟨_, _, hfound _ hformer, hfound _ hlatter, horder⟩

/-! ## Notes that satisfy a condition -/

/-- The ids of the notes that satisfy a condition. -/
theorem Keyed.mem_select (h : store.Keyed) {condition : Note → Bool} {id : String} :
    id ∈ store.select condition ↔ ∃ note, store.get? id = some note ∧ condition note = true := by
  rw [select, List.mem_filter, h.mem_sorted_ids, Option.any_eq_true]
  constructor
  · rintro ⟨-, note, hfound, hholds⟩
    exact ⟨note, hfound, hholds⟩
  · rintro ⟨note, hfound, hholds⟩
    exact ⟨⟨note, hfound⟩, note, hfound, hholds⟩

/-- The ids of the notes that satisfy a condition are listed in order. -/
theorem Keyed.pairwise_select (h : store.Keyed) (condition : Note → Bool) :
    (store.select condition).Pairwise store.Precedes :=
  h.pairwise_sorted_ids.filter _

/-! ## Ids in alphabetical order -/

/-- Ids of notes are given the versions of their notes. -/
theorem versioned_of_forall {ids : List String} (h : ∀ id ∈ ids, ∃ note, store.get? id = some note) :
    ∃ entries, store.versioned ids = .ok entries ∧ entries.map Prod.fst = ids ∧
      ∀ entry ∈ entries, ∃ note, store.get? entry.1 = some note ∧ entry.2 = note.version := by
  induction ids with
  | nil => exact ⟨[], rfl, rfl, by simp⟩
  | cons id ids ih =>
      obtain ⟨note, hfound⟩ := h id List.mem_cons_self
      obtain ⟨entries, hversioned, hids, hentries⟩ :=
        ih fun other hmem => h other (List.mem_cons_of_mem _ hmem)
      refine ⟨(id, note.version) :: entries, ?_, by rw [List.map_cons, hids], ?_⟩
      · simp only [versioned, hfound, hversioned]
        rfl
      · rintro entry hmem
        rcases List.mem_cons.1 hmem with rfl | hmem
        · exact ⟨note, hfound, rfl⟩
        · exact hentries entry hmem

/-- Ids of notes that stand in alphabetical order are sorted into the order of the listings. -/
theorem sort_ids_meets {ids : List String} (hknown : ∀ id ∈ ids, ∃ note, store.get? id = some note)
    (hids : ids.Pairwise (· < ·)) :
    ∃ sorted, store.sortIds ids = .ok sorted ∧ (∀ id, id ∈ sorted ↔ id ∈ ids) ∧
      sorted.Pairwise store.Precedes := by
  obtain ⟨entries, hversioned, hmap, hentries⟩ := versioned_of_forall hknown
  refine ⟨_, by rw [sortIds, hversioned]; rfl, fun id => ?_, ?_⟩
  · rw [← hmap, List.mem_map, List.mem_map]
    simp only [List.mem_mergeSort]
  · rw [← hmap, List.pairwise_map] at hids
    rw [List.pairwise_map]
    refine (pairwise_merge_sort Prod.snd hids).imp_of_mem fun {first second} hfirst hsecond horder => ?_
    obtain ⟨former, hformer, hfirst⟩ := hentries _ (List.mem_mergeSort.1 hfirst)
    obtain ⟨latter, hlatter, hsecond⟩ := hentries _ (List.mem_mergeSort.1 hsecond)
    rw [hfirst, hsecond] at horder
    exact ⟨former, latter, hformer, hlatter, horder⟩

/-- Ids that stand in the order of listings already are left as they are. -/
theorem sort_ids_of_precedes {ids : List String} (h : ids.Pairwise store.Precedes)
    (hknown : ∀ id ∈ ids, ∃ note, store.get? id = some note) : store.sortIds ids = .ok ids := by
  obtain ⟨entries, hversioned, rfl, hentries⟩ := versioned_of_forall hknown
  have hsorted : entries.Pairwise fun former latter => decide (latter.2 ≤ former.2) = true := by
    rw [List.pairwise_map] at h
    refine h.imp_of_mem fun {former latter} hformer hlatter horder => ?_
    obtain ⟨first, hfirst, hversion⟩ := hentries former hformer
    obtain ⟨second, hsecond, hother⟩ := hentries latter hlatter
    obtain ⟨same, other, hsame, hothers, hprecedes⟩ := horder
    obtain rfl := Option.some.inj (hfirst.symm.trans hsame)
    obtain rfl := Option.some.inj (hsecond.symm.trans hothers)
    rw [decide_eq_true_iff, hversion, hother]
    omega
  rw [sortIds, hversioned]
  exact congrArg (fun sorted => Except.ok (sorted.map Prod.fst)) (List.mergeSort_of_pairwise hsorted)

end Store

end Notekeeper
