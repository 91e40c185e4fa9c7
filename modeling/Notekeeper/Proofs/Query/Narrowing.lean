import Notekeeper.Proofs.Query.Governing
import Notekeeper.Store.Selection

/-!
# Listing by folder and tag, and searching for them

A list of notes can be narrowed to a folder and a tag without a query. Listing goes its own way: it
takes the ids of the folder, keeps those in the set of the ids with the tag and sorts what is left.
That is one condition on notes (`Note.isWithin`) and the order of all listings (`Store.Keyed.listed`),
so a list agrees with every query that finds the notes with this condition
(`Query.Found.Lists.list_notes_eq`). The queries for a folder, for a tag and for both do
(`Query.list_notes_eq_search`).
-/

namespace Notekeeper

/-- Whether a note is in a folder and carries a tag, as far as they are given. -/
def Note.isWithin (folder? tag? : Option String) (note : Note) : Bool :=
  folder?.all (fun folder => note.isInFolder (Text.lowercase folder)) &&
    tag?.all fun tag => note.carriesTag (Text.lowercase tag)

namespace Store

variable {store : Store}

/-- The ids in alphabetical order. -/
theorem pairwise_ids : store.ids.Pairwise (· < ·) :=
  (Std.ExtTreeMap.ordered_keys (t := store.notes)).imp fun hlt => compare_lt_iff.1 hlt

/-- Keeping the ids in the set of those with a tag keeps the ids of the notes that carry it. -/
theorem Keyed.filter_tagged (h : store.Keyed) (ids : List String) (tag : String) :
    ids.filter (Std.ExtTreeSet.ofList (store.withTag tag) : TextSet).contains =
      ids.filter fun id => (store.get? id).any (Note.carriesTag (Text.lowercase tag)) := by
  refine List.filter_congr fun id _ => Bool.eq_iff_iff.2 ?_
  rw [Std.ExtTreeSet.contains_ofList, List.contains_iff_mem, withTag, h.mem_select,
    Option.any_eq_true]

/-- Ids of notes that are in the order of listings or in alphabetical order are sorted into the order
of listings, also if only some of them are kept. -/
theorem sort_ids_filter {ids : List String} (hknown : ∀ id ∈ ids, ∃ note, store.get? id = some note)
    (horder : ids.Pairwise store.Precedes ∨ ids.Pairwise (· < ·)) (keeps : String → Bool) :
    ∃ sorted, store.sortIds (ids.filter keeps) = .ok sorted ∧
      (∀ id, id ∈ sorted ↔ id ∈ ids.filter keeps) ∧ sorted.Pairwise store.Precedes := by
  have hkept (id : String) (hmem : id ∈ ids.filter keeps) : ∃ note, store.get? id = some note :=
    hknown id (List.mem_filter.1 hmem).1
  rcases horder with hprecedes | halphabetical
  · have hfiltered := hprecedes.filter keeps
    exact ⟨_, sort_ids_of_precedes hfiltered hkept, fun _ => .rfl, hfiltered⟩
  · exact sort_ids_meets hkept (halphabetical.filter keeps)

/-- The ids that a folder leaves, in the order in which they are found. -/
def idsIn (store : Store) : Option String → List String
  | some folder => store.inFolder folder
  | none => store.ids

/-- The ids that a folder leaves are those of its notes. -/
theorem Keyed.mem_ids_in (h : store.Keyed) {folder? : Option String} {id : String} :
    id ∈ store.idsIn folder? ↔ ∃ note, store.get? id = some note ∧
      folder?.all (fun folder => note.isInFolder (Text.lowercase folder)) = true := by
  cases folder? with
  | some folder => exact h.mem_select
  | none => simp only [idsIn, mem_ids, Option.isSome_iff_exists, Option.all_none, and_true]

/-- The ids that a folder leaves are those of notes. -/
theorem Keyed.known_of_mem (h : store.Keyed) {folder? : Option String} {id : String}
    (hmem : id ∈ store.idsIn folder?) : ∃ note, store.get? id = some note := by
  obtain ⟨note, hfound, -⟩ := h.mem_ids_in.1 hmem
  exact ⟨note, hfound⟩

/-- Listing sorts the ids that the folder leaves and whose notes carry the tag. -/
theorem Keyed.list_notes_eq_sorted (h : store.Keyed) (folder? tag? : Option String)
    (limit? : Option Nat) :
    store.listNotes folder? tag? limit? =
      (store.sortIds ((store.idsIn folder?).filter fun id => (store.get? id).any fun note =>
        tag?.all fun tag => note.carriesTag (Text.lowercase tag))).map (store.fetch limit?) := by
  cases tag? with
  | some tag =>
      have hkept := h.filter_tagged (store.idsIn folder?) tag
      cases folder? <;>
        exact congrArg (fun ids => (store.sortIds ids).map (store.fetch limit?)) hkept
  | none =>
      have hkept : (store.idsIn folder?).filter (fun id => (store.get? id).any fun note =>
          (none : Option String).all fun tag => note.carriesTag (Text.lowercase tag)) =
            store.idsIn folder? :=
        List.filter_eq_self.2 fun id hmem => by
          obtain ⟨note, hfound⟩ := h.known_of_mem hmem
          rw [hfound]
          rfl
      rw [hkept]
      cases folder? <;> rfl

/-- The notes of a folder and of a tag are listed, all of them and no others, in the order of
listings. -/
theorem Keyed.listed (h : store.Keyed) (folder? tag? : Option String) :
    ∃ ids, (∀ limit?, store.listNotes folder? tag? limit? = .ok (store.fetch limit? ids)) ∧
      (∀ id, id ∈ ids ↔ ∃ note, store.get? id = some note ∧ note.isWithin folder? tag? = true) ∧
      ids.Pairwise store.Precedes := by
  -- The sort is stable, so the order of what it is given decides within a version.
  have horder : (store.idsIn folder?).Pairwise store.Precedes ∨
      (store.idsIn folder?).Pairwise (· < ·) := by
    cases folder? with
    | some folder => exact .inl (h.pairwise_select _)
    | none => exact .inr pairwise_ids
  obtain ⟨ids, hsorted, hids, hprecedes⟩ := sort_ids_filter (fun _ => h.known_of_mem) horder
    fun id => (store.get? id).any fun note =>
      tag?.all fun tag => note.carriesTag (Text.lowercase tag)
  refine ⟨ids, fun limit? => ?_, fun id => ?_, hprecedes⟩
  · rw [h.list_notes_eq_sorted, hsorted]
    rfl
  · rw [hids, List.mem_filter, h.mem_ids_in, Option.any_eq_true]
    simp only [Note.isWithin, Bool.and_eq_true]
    constructor
    · rintro ⟨⟨note, hfound, hfolder⟩, same, hsame, htag⟩
      obtain rfl := Option.some.inj (hfound.symm.trans hsame)
      exact ⟨note, hfound, hfolder, htag⟩
    · rintro ⟨note, hfound, hfolder, htag⟩
      exact ⟨⟨note, hfound, hfolder⟩, note, hfound, htag⟩

end Store

namespace Query

variable {store : Store}

/-- A list of notes agrees with any query that finds the notes within the folder and the tag. -/
theorem Found.Lists.list_notes_eq {found : Found} {folder? tag? : Option String}
    {marks : List String} (h : found.Lists store (Note.isWithin folder? tag?) marks)
    (hkeyed : store.Keyed) (limit? : Option Nat) :
    store.listNotes folder? tag? limit? = .ok (store.fetch limit? found.ids) := by
  obtain ⟨ids, hlisted, hmem, horder⟩ := hkeyed.listed folder? tag?
  obtain rfl : ids = found.ids :=
    Store.eq_of_precedes horder h.order fun id => (hmem id).trans (h.mem id).symm
  exact hlisted limit?

/-- A prefix in front of a quoted text finds the notes in which the text is found by the aspect. -/
theorem search_prefixed_quoted (hkeyed : store.Keyed) (chosen : Aspect) (phrase : Phrase) :
    (search store (Stretch.prefixed chosen 0 (.quoted phrase) .done).print).Lists store
      (chosen.finds phrase.text) (if chosen = .fulltext then [phrase.text] else []) := by
  have hdepth : (Stretch.prefixed chosen 0 (.quoted phrase) .done).tree.depth ≤ maxDepth := by
    rw [tree_prefixed]
    exact Nat.le_of_ble_eq_true rfl
  have hlists := Stretch.search_lists hkeyed _ hdepth
  rw [tree_prefixed] at hlists
  exact hlists

/-- A prefix in front of a text in double quotation marks as it is written. -/
theorem print_prefixed_quoted (chosen : Aspect) {phrase : Phrase} (hquote : phrase.quote = .double) :
    (Stretch.prefixed chosen 0 (.quoted phrase) .done).print =
      chosen.marker ++ "\"" ++ phrase.text ++ "\"" := by
  rw [← String.toList_inj]
  simp [Stretch.print, Stretch.prefixed, Stretch.chars, Stretch.blanks, Group.chars, hquote,
    Quote.mark]

/-- The query for a folder and a tag, with each prefix in parentheses with its text. -/
def narrowingQuery (folder tag : Phrase) : Stretch :=
  prefixedFirst .folder 0 (.quoted folder) .and
    (.parenthesized (.prefixed .tag 0 (.quoted tag) .done))

/-- The query for a folder and a tag in double quotation marks as it is written. -/
theorem print_narrowing {folder tag : Phrase} (hfolder : folder.quote = .double)
    (htag : tag.quote = .double) :
    (narrowingQuery folder tag).print =
      "(folder:\"" ++ folder.text ++ "\") and (tag:\"" ++ tag.text ++ "\")" := by
  rw [← String.toList_inj]
  simp [narrowingQuery, prefixedFirst, Stretch.joinedTo, Stretch.print, Stretch.prefixed,
    Stretch.chars, Stretch.blanks, Group.chars, hfolder, htag, Quote.mark, Aspect.marker,
    Operator.word]

/-- The query for a folder and a tag finds the notes within both. -/
theorem search_narrowing (hkeyed : store.Keyed) (folder tag : Phrase) :
    (search store (narrowingQuery folder tag).print).Lists store
      (Note.isWithin (some folder.text) (some tag.text)) [] := by
  have hdepth : (narrowingQuery folder tag).tree.depth ≤ maxDepth := by
    rw [narrowingQuery, tree_prefixed_first]
    exact Nat.le_of_ble_eq_true rfl
  exact search_prefixed_first hkeyed hdepth

/-- Listing by folder and tag agrees with searching for them: with both, with a folder only and with
a tag only the same notes come in the same order, whatever the texts are, as long as they can be put
in quotation marks. -/
theorem list_notes_eq_search (hkeyed : store.Keyed) {folder tag : String} (hfolder : folder ≠ "")
    (hfolderMark : '"' ∉ folder.toList) (htag : tag ≠ "") (htagMark : '"' ∉ tag.toList)
    (limit? : Option Nat) :
    store.listNotes (some folder) (some tag) limit? =
        .ok (store.fetch limit?
          (search store ("(folder:\"" ++ folder ++ "\") and (tag:\"" ++ tag ++ "\")")).ids) ∧
      store.listNotes (some folder) none limit? =
        .ok (store.fetch limit? (search store ("folder:\"" ++ folder ++ "\"")).ids) ∧
      store.listNotes none (some tag) limit? =
        .ok (store.fetch limit? (search store ("tag:\"" ++ tag ++ "\"")).ids) := by
  let quotedFolder : Phrase := ⟨.double, folder, hfolder, hfolderMark⟩
  let quotedTag : Phrase := ⟨.double, tag, htag, htagMark⟩
  have hboth := search_narrowing hkeyed quotedFolder quotedTag
  have hinFolder := search_prefixed_quoted hkeyed .folder quotedFolder
  have hwithTag := search_prefixed_quoted hkeyed .tag quotedTag
  rw [print_narrowing rfl rfl] at hboth
  rw [print_prefixed_quoted .folder rfl] at hinFolder
  rw [print_prefixed_quoted .tag rfl] at hwithTag
  have hcondition : Note.isWithin (some folder) none = Aspect.folder.finds folder :=
    funext fun note => Bool.and_true _
  rw [← hcondition] at hinFolder
  exact ⟨hboth.list_notes_eq hkeyed limit?, hinFolder.list_notes_eq hkeyed limit?,
    hwithTag.list_notes_eq hkeyed limit?⟩

/-- A store with a note whose folder and tag look like parts of a query, and one without tags in the
default folder. -/
def labelledNotes : Store :=
  (({} : Store).add
    { Note.blank .tally with
      id := "i", folder := "work) and (tag:", tags := Std.ExtTreeSet.ofList ["or 'late"] }).add
    { Note.blank .tally with id := "j" }

/-- The notes of the sample lie under their ids. -/
theorem labelled_notes_keyed : labelledNotes.Keyed :=
  ((Store.keyed_of_empty rfl).add _).add _

/-- A folder and a tag that look like parts of a query are found as they are. -/
theorem list_notes_eq_search_labelled :
    labelledNotes.Keyed ∧ "work) and (tag:" ≠ "" ∧ '"' ∉ "work) and (tag:".toList ∧
      "or 'late" ≠ "" ∧ '"' ∉ "or 'late".toList ∧
      "i" ∈ (search labelledNotes "(folder:\"work) and (tag:\") and (tag:\"or 'late\")").ids ∧
      labelledNotes.listNotes (some "work) and (tag:") (some "or 'late") none =
        .ok (labelledNotes.fetch none
          (search labelledNotes "(folder:\"work) and (tag:\") and (tag:\"or 'late\")").ids) ∧
      labelledNotes.listNotes (some "work) and (tag:") none none =
        .ok (labelledNotes.fetch none (search labelledNotes "folder:\"work) and (tag:\"").ids) ∧
      labelledNotes.listNotes none (some "or 'late") none =
        .ok (labelledNotes.fetch none (search labelledNotes "tag:\"or 'late\"").ids) := by
  have hfolder : "work) and (tag:" ≠ "" := by decide
  have hfolderMark : '"' ∉ "work) and (tag:".toList := by decide
  have htag : "or 'late" ≠ "" := by decide
  have htagMark : '"' ∉ "or 'late".toList := by decide
  have hlists := search_narrowing labelled_notes_keyed ⟨.double, _, hfolder, hfolderMark⟩
    ⟨.double, _, htag, htagMark⟩
  rw [print_narrowing rfl rfl] at hlists
  have hwithin : (labelledNotes.get? "i").any
      (Note.isWithin (some "work) and (tag:") (some "or 'late")) = true := by
    decide +kernel
  exact ⟨labelled_notes_keyed, hfolder, hfolderMark, htag, htagMark,
    (hlists.mem_iff_any "i").2 hwithin,
    list_notes_eq_search labelled_notes_keyed hfolder hfolderMark htag htagMark none⟩

end Query

end Notekeeper
