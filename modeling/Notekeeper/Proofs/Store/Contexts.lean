import Mathlib.Data.List.Basic
import Mathlib.Data.List.TakeWhile
import Notekeeper.Proofs.Store.Ranking
import Notekeeper.Store.Listing

/-!
# Which context markers a store lists

The markers of a text are found by a scan that goes on behind every word it has read, whether the word
turns out to be a marker or not. `Marks` says of a single place in a text, without a scan, that a marker
stands there. No word holds an at sign, so the scan passes over no candidate (`mem_candidates_iff`), and
a store lists exactly the markers of its bodies (`contexts_exact`). A word runs over one class of
characters and its neighbours are looked up in another one; inside ASCII the two agree
(`word_classes_of_ascii`).
-/

namespace Notekeeper

namespace ContextMarker

open Text (isMarkerChar isWordChar)

/-! ## Words that run on as far as they can -/

/-- A text begins with a word of a class of characters, the longest there is, and another text
follows. -/
structure RunsOn (inWord : Char → Bool) (text word after : List Char) : Prop where
  text_eq : text = word ++ after
  word_ne_nil : word ≠ []
  of_class : ∀ char ∈ word, inWord char = true
  no_more : ∀ char ∈ after.head?, inWord char = false

section

variable {inWord besideWord : Char → Bool} {text word after : List Char}

/-- The longest word of a class is what is read as long as the characters are of that class. -/
theorem runs_on_iff :
    RunsOn inWord text word after ↔
      word = text.takeWhile inWord ∧ after = text.dropWhile inWord ∧ word ≠ [] := by
  constructor
  · rintro ⟨rfl, hne, hclass, hends⟩
    have htake : after.takeWhile inWord = [] ∧ after.dropWhile inWord = after := by
      cases after with
      | nil => exact ⟨rfl, rfl⟩
      | cons char rest => simp [hends char rfl]
    rw [List.takeWhile_append_of_pos hclass, List.dropWhile_append_of_pos hclass, htake.1, htake.2,
      List.append_nil]
    exact ⟨rfl, rfl, hne⟩
  · rintro ⟨rfl, rfl, hne⟩
    refine ⟨List.takeWhile_append_dropWhile.symm, hne, fun char hmem => ?_, fun char hmem => ?_⟩
    · exact List.mem_takeWhile_imp hmem
    · have hhead := List.head?_dropWhile_not inWord text
      rw [Option.mem_def.1 hmem] at hhead
      exact hhead

/-- Two classes that agree on the characters of a text have the same longest word there. -/
theorem RunsOn.congr {other : Char → Bool} (h : RunsOn inWord text word after)
    (hagree : ∀ char ∈ text, inWord char = other char) : RunsOn other text word after := by
  obtain ⟨rfl, hne, hclass, hends⟩ := h
  refine ⟨rfl, hne, fun char hmem => ?_, fun char hmem => ?_⟩
  · rw [← hagree char (List.mem_append_left _ hmem), hclass char hmem]
  · rw [← hagree char (List.mem_append_right _ (List.mem_of_head? hmem)), hends char hmem]

end

/-! ## The scan -/

section

variable {before : Option Char} {char : Char} {text front rest : List Char} {candidate : Candidate}

/-- A candidate stands somewhere in a text that stands behind a character, if any. -/
def Stands (before : Option Char) (text : List Char) (candidate : Candidate) : Prop :=
  ∃ front rest, text = front ++ '@' :: rest ∧ candidate.before = front.getLast?.or before ∧
    RunsOn isMarkerChar rest candidate.word candidate.after

/-- Nothing stands in an empty text. -/
theorem not_stands_nil : ¬Stands before [] candidate := by
  rintro ⟨front, rest, heq, -⟩
  simp at heq

/-- Behind its first character a text goes on as one that stands behind that character. -/
theorem last_of_cons (before : Option Char) (char : Char) (rest : List Char) :
    (char :: rest).getLast?.or before = rest.getLast?.or (some char) := by
  rw [List.getLast?_cons]
  cases rest.getLast? <;> rfl

/-- A candidate stands at the first character, or it stands behind it. -/
theorem stands_cons_iff :
    Stands before (char :: rest) candidate ↔
      (char = '@' ∧ candidate.before = before ∧
          RunsOn isMarkerChar rest candidate.word candidate.after) ∨
        Stands (some char) rest candidate := by
  constructor
  · rintro ⟨front, behind, heq, hbefore, hword⟩
    cases front with
    | nil =>
        obtain ⟨rfl, rfl⟩ := List.cons.inj heq
        exact .inl ⟨rfl, hbefore, hword⟩
    | cons first front =>
        obtain ⟨rfl, rfl⟩ := List.cons.inj heq
        exact .inr ⟨front, behind, rfl, by rw [hbefore, last_of_cons], hword⟩
  · rintro (⟨rfl, hbefore, hword⟩ | ⟨front, behind, rfl, hbefore, hword⟩)
    · exact ⟨[], rest, rfl, hbefore, hword⟩
    · exact ⟨char :: front, behind, rfl, by rw [hbefore, last_of_cons], hword⟩

/-- No candidate stands at a character that is no at sign. -/
theorem stands_append_iff (h : '@' ∉ front) :
    Stands before (front ++ rest) candidate ↔
      Stands (front.getLast?.or before) rest candidate := by
  induction front generalizing before with
  | nil => simp
  | cons first front ih =>
      obtain ⟨hfirst, hfront⟩ := List.ne_and_not_mem_of_not_mem_cons h
      rw [List.cons_append, stands_cons_iff, ih hfront, last_of_cons]
      exact or_iff_right fun hstands => hfirst hstands.1.symm

/-- A word holds no at sign. -/
theorem RunsOn.no_at_sign {word after : List Char} (h : RunsOn isMarkerChar text word after) :
    '@' ∉ word := by
  intro hmem
  have hclass := h.of_class '@' hmem
  revert hclass
  decide +kernel

/-- The scan finds every candidate of a text, and nothing else: behind a word it has read it passes over
none, because no word holds an at sign. -/
theorem mem_candidates_iff : candidate ∈ candidates before text ↔ Stands before text candidate := by
  fun_induction candidates before text with
  | case1 before => simp [not_stands_nil]
  | case2 before char rest word after hword ih =>
      obtain ⟨rfl, hne⟩ := hword
      have hruns : RunsOn isMarkerChar rest word after := runs_on_iff.2 ⟨rfl, rfl, hne⟩
      have hbehind : Stands (some '@') rest candidate ↔ Stands word.getLast? after candidate := by
        obtain ⟨last, hlast⟩ := Option.ne_none_iff_exists'.1 (mt List.getLast?_eq_none_iff.1 hne)
        rw [hruns.text_eq, stands_append_iff hruns.no_at_sign, hlast, Option.some_or]
      have hhere : candidate = ⟨before, word, after⟩ ↔ candidate.before = before ∧
          RunsOn isMarkerChar rest candidate.word candidate.after := by
        constructor
        · rintro rfl
          exact ⟨rfl, hruns⟩
        · rintro ⟨hbefore, hother⟩
          obtain ⟨hsame, hrest, -⟩ := runs_on_iff.1 hother
          obtain ⟨found, read, left⟩ := candidate
          obtain rfl : found = before := hbefore
          obtain rfl : read = word := hsame
          obtain rfl : left = after := hrest
          rfl
      rw [List.mem_cons, ih, stands_cons_iff, hbehind, hhere, and_iff_right rfl]
  | case3 before char rest word hword ih =>
      rw [ih, stands_cons_iff]
      refine (or_iff_right ?_).symm
      rintro ⟨hsign, -, hruns⟩
      obtain ⟨hsame, -, hne⟩ := runs_on_iff.1 hruns
      rw [hsame] at hne
      exact hword ⟨hsign, hne⟩

/-! ## Markers -/

/-- A candidate is a marker if no word character stands before its sign and no dot and word character
behind its word. -/
theorem is_marker_iff :
    candidate.isMarker = true ↔
      (∀ char ∈ candidate.before, isWordChar char = false) ∧
        ∀ char more, candidate.after = '.' :: char :: more → isWordChar char = false := by
  have hdomain : continuesDomain candidate.after = false ↔
      ∀ char more, candidate.after = '.' :: char :: more → isWordChar char = false := by
    constructor
    · intro h char more heq
      rwa [heq] at h
    · intro h
      unfold continuesDomain
      split
      next char more heq => exact h char more heq
      next => rfl
  rw [Candidate.isMarker, Bool.and_eq_true, Bool.not_eq_true', Bool.not_eq_true', hdomain,
    Option.any_eq_false]
  simp

end

/-- A marker stands in a text: an at sign, and a word that runs on from it as far as it can, with no
character that makes up words before the sign, and no dot and such a character behind the word. -/
def Marks (inWord besideWord : Char → Bool) (text word : List Char) : Prop :=
  ∃ front rest after, text = front ++ '@' :: rest ∧ RunsOn inWord rest word after ∧
    (∀ char ∈ front.getLast?, besideWord char = false) ∧
      ∀ char more, after = '.' :: char :: more → besideWord char = false

/-- The markers of a text are the ones that stand in it. -/
theorem mem_list_iff {text context : String} :
    context ∈ list text ↔
      ∃ word, Marks isMarkerChar isWordChar text.toList word ∧
        context = String.ofList (Text.lower ('@' :: word)) := by
  simp only [list, List.mem_map, List.mem_filter, mem_candidates_iff, is_marker_iff]
  constructor
  · rintro ⟨candidate, ⟨⟨front, rest, htext, hbefore, hruns⟩, hfront, hafter⟩, rfl⟩
    rw [hbefore, Option.or_none] at hfront
    exact ⟨candidate.word, ⟨front, rest, candidate.after, htext, hruns, hfront, hafter⟩, rfl⟩
  · rintro ⟨word, ⟨front, rest, after, htext, hruns, hfront, hafter⟩, rfl⟩
    exact ⟨⟨front.getLast?, word, after⟩,
      ⟨⟨front, rest, htext, Option.or_none.symm, hruns⟩, hfront, hafter⟩, rfl⟩

example : list "mail bob@example.com or @user.name, then @@Home and @Errands." =
    ["@home", "@errands"] := by decide +kernel

/-- Classes that agree on the characters of a text mark the same there. -/
theorem Marks.congr {inWord besideWord inOther besideOther : Char → Bool} {text word : List Char}
    (h : Marks inWord besideWord text word)
    (hin : ∀ char ∈ text, inWord char = inOther char)
    (hbeside : ∀ char ∈ text, besideWord char = besideOther char) :
    Marks inOther besideOther text word := by
  obtain ⟨front, rest, after, rfl, hruns, hfront, hafter⟩ := h
  refine ⟨front, rest, after, rfl, hruns.congr fun char hmem => hin char ?_, fun char hmem => ?_,
    fun char more heq => ?_⟩
  · exact List.mem_append_right _ (List.mem_cons_of_mem _ hmem)
  · rw [← hbeside char (List.mem_append_left _ (List.mem_of_getLast? hmem)), hfront char hmem]
  · have hmem : char ∈ rest := by
      rw [hruns.text_eq, heq]
      simp
    rw [← hbeside char (List.mem_append_right _ (List.mem_cons_of_mem _ hmem)), hafter char more heq]

/-- Inside ASCII both classes hold the letters, the digits and the low line. -/
theorem word_classes_of_ascii {char : Char} (h : char.toNat < 128) :
    isMarkerChar char = (char.isAlphanum || char == '_') ∧
      isWordChar char = (char.isAlphanum || char == '_') := by
  have hall : ∀ code : Fin 128,
      isMarkerChar (Char.ofNat code) = ((Char.ofNat code).isAlphanum || Char.ofNat code == '_') ∧
        isWordChar (Char.ofNat code) = ((Char.ofNat code).isAlphanum || Char.ofNat code == '_') := by
    decide +kernel
  have hchar := hall ⟨char.toNat, h⟩
  rwa [Char.ofNat_toNat] at hchar

end ContextMarker

namespace Store

open ContextMarker (Marks)
open Text (isMarkerChar isWordChar)

/-- A store lists the markers that stand in the bodies of its notes, lower-cased, each once and in
order, and nothing else. Where the characters beside a word and those inside it are told apart by one
class, the markers are those of that class. -/
theorem contexts_exact (store : Store) :
    store.contexts.Pairwise (· < ·) ∧
      (∀ context, context ∈ store.contexts ↔
        ∃ note ∈ store.all, ∃ word, Marks isMarkerChar isWordChar note.body.toList word ∧
          context = String.ofList (Text.lower ('@' :: word))) ∧
      ∀ isPart : Char → Bool,
        (∀ note ∈ store.all, ∀ char ∈ note.body.toList,
          isMarkerChar char = isPart char ∧ isWordChar char = isPart char) →
        ∀ context, context ∈ store.contexts ↔
          ∃ note ∈ store.all, ∃ word, Marks isPart isPart note.body.toList word ∧
            context = String.ofList (Text.lower ('@' :: word)) := by
  have hsorted : store.contexts.Pairwise (· < ·) :=
    Std.ExtTreeSet.ordered_toList.imp fun hlt => compare_lt_iff.1 hlt
  have hmem (context : String) : context ∈ store.contexts ↔
      ∃ note ∈ store.all, ∃ word, Marks isMarkerChar isWordChar note.body.toList word ∧
        context = String.ofList (Text.lower ('@' :: word)) := by
    rw [contexts, Std.ExtTreeSet.mem_toList, Std.ExtTreeSet.mem_ofList, List.contains_iff_mem,
      List.mem_flatMap]
    simp only [ContextMarker.mem_list_iff]
  refine ⟨hsorted, hmem, fun isPart hagree context => ?_⟩
  rw [hmem context]
  constructor
  · rintro ⟨note, hnote, word, hmarks, rfl⟩
    exact ⟨note, hnote, word, hmarks.congr (fun char hchar => (hagree note hnote char hchar).1)
      (fun char hchar => (hagree note hnote char hchar).2), rfl⟩
  · rintro ⟨note, hnote, word, hmarks, rfl⟩
    exact ⟨note, hnote, word, hmarks.congr (fun char hchar => (hagree note hnote char hchar).1.symm)
      (fun char hchar => (hagree note hnote char hchar).2.symm), rfl⟩

end Store

end Notekeeper
