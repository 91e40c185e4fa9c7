import Notekeeper.Proofs.Query.Stretch

/-!
# What a prefix governs

A prefix has no closing mark, so it ends where the group around it ends: an operator that follows is
put in below the prefix, which then governs both operands (`tree_prefixed_pair`). Only in parentheses
with its group does it govern this group alone (`tree_prefixed_first`). The two ways to write a query
find the same exactly if the prefix does not matter to the second operand (`prefix_governs_both`):
it is the one for full texts, which is the default, or no text of the operand is exposed to it
(`Tree.exposes`).
-/

namespace Notekeeper.Query

/-! ## Texts under no prefix -/

/-- Whether a node has a deciding text under no prefix, given which of its children have. -/
def Kind.exposes (kind : Kind) (children : List Bool) : Bool :=
  match kind, children with
  | .text _, _ => true
  | .operator _, left :: right :: _ => left || right
  | .closedGroup _, child :: _ => child
  | _, _ => false

mutual

/-- Whether a text that decides on the truth of a tree stands under no prefix in the tree, so that
it is matched with the aspect that the nearest prefix above the tree names. -/
def Tree.exposes : Tree → Bool
  | .node kind children => kind.exposes (exposesEach children)

/-- Which of some trees have a deciding text under no prefix. -/
def Tree.exposesEach : List Tree → List Bool
  | [] => []
  | tree :: trees => tree.exposes :: exposesEach trees

end

/-- A tree whose texts all stand under prefixes means the same under any prefix. -/
theorem Tree.same_of_not_exposes {tree : Tree} (h : tree.exposes = false) (aspect other : Aspect) :
    (∀ note, tree.holds note aspect = tree.holds note other) ∧
      tree.marks aspect = tree.marks other := by
  induction tree with
  | node kind children ih =>
      match kind, children with
      | .empty, _ | .openGroup _, _ | .root, [] | .aspect _, [] | .closedGroup _, []
      | .operator _, [] | .operator _, [_] => exact ⟨fun _ => rfl, rfl⟩
      | .text string, _ => cases h
      | .closedGroup _, child :: _ => exact ih child List.mem_cons_self h
      | .aspect chosen, child :: _ => exact ⟨fun _ => rfl, rfl⟩
      | .root, child :: _ => exact ⟨fun _ => rfl, rfl⟩
      | .operator joiner, left :: right :: _ =>
          obtain ⟨hleft, hright⟩ := Bool.or_eq_false_iff.1 h
          obtain ⟨hholds, hmarks⟩ := ih left List.mem_cons_self hleft
          obtain ⟨hothers, hmore⟩ := ih right (by simp) hright
          exact ⟨fun note => congrArg₂ joiner.holds (hholds note) (hothers note),
            congrArg₂ List.append hmarks hmore⟩

/-- Under another prefix than the one for full texts fewer texts are marked. -/
theorem Tree.length_marks_le {aspect : Aspect} (haspect : aspect ≠ .fulltext) (tree : Tree) :
    (tree.marks aspect).length + tree.exposes.toNat ≤ (tree.marks .fulltext).length := by
  induction tree with
  | node kind children ih =>
      match kind, children with
      | .empty, _ | .openGroup _, _ | .root, [] | .aspect _, [] | .closedGroup _, []
      | .operator _, [] | .operator _, [_] => exact Nat.le_refl _
      | .text string, below =>
          have hmarks : Tree.marks aspect (.node (.text string) below) = [] := if_neg haspect
          rw [hmarks]
          exact Nat.le_refl 1
      | .closedGroup _, child :: _ => exact ih child List.mem_cons_self
      | .aspect chosen, child :: _ => exact Nat.le_refl _
      | .root, child :: _ => exact Nat.le_refl _
      | .operator joiner, left :: right :: others =>
          -- One exposed operand is enough: the other one has no more marks under the prefix either.
          have hleft := ih left List.mem_cons_self
          have hright := ih right (by simp)
          have hmarks (chosen : Aspect) :
              Tree.marks chosen (.node (.operator joiner) (left :: right :: others)) =
                left.marks chosen ++ right.marks chosen := rfl
          have hexposes : Tree.exposes (.node (.operator joiner) (left :: right :: others)) =
              (left.exposes || right.exposes) := rfl
          rw [hmarks, hmarks, hexposes, List.length_append, List.length_append]
          cases hfirst : left.exposes <;> cases hsecond : right.exposes <;>
            simp only [hfirst, hsecond, Bool.toNat_false, Bool.toNat_true, Bool.or_false,
              Bool.or_true] at hleft hright ⊢ <;> omega

/-- A tree means the same under a prefix and under none exactly if the prefix is the one for full
texts or all texts of the tree stand under prefixes of their own. -/
theorem Tree.marks_eq_iff (tree : Tree) (aspect : Aspect) :
    tree.marks aspect = tree.marks .fulltext ↔ aspect = .fulltext ∨ tree.exposes = false := by
  constructor
  · intro heq
    by_cases haspect : aspect = .fulltext
    · exact .inl haspect
    · have hfewer := tree.length_marks_le haspect
      rw [heq] at hfewer
      refine .inr (Bool.eq_false_iff.2 fun hexposes => ?_)
      rw [hexposes, Bool.toNat_true] at hfewer
      omega
  · rintro (rfl | hexposes)
    · rfl
    · exact (same_of_not_exposes hexposes aspect .fulltext).2

/-! ## Two groups behind a prefix -/

/-- A prefix, some blanks and a group in front of a stretch. -/
def Stretch.prefixed (chosen : Aspect) (blanks : Nat) (governed : Group) (rest : Stretch) : Stretch :=
  .marker chosen ((Stretch.group governed rest).blanks blanks)

/-- An operator and its second operand, with single blanks around the operator. -/
def Stretch.joinedTo (joiner : Operator) (operand : Group) : Stretch :=
  .blank (.joiner joiner (.blank (.group operand .done)))

/-- A prefix in front of two groups that are joined. -/
def prefixedPair (chosen : Aspect) (blanks : Nat) (left : Group) (joiner : Operator) (right : Group) :
    Stretch :=
  .prefixed chosen blanks left (.joinedTo joiner right)

/-- A prefix in front of the first one of two groups that are joined, in parentheses with it. -/
def prefixedFirst (chosen : Aspect) (blanks : Nat) (left : Group) (joiner : Operator) (right : Group) :
    Stretch :=
  .group (.parenthesized (.prefixed chosen blanks left .done)) (.joinedTo joiner right)

/-- Blanks are not seen in the tree. -/
theorem Stretch.extend_blanks (rest : Stretch) (count : Nat) (outline : Outline) :
    (rest.blanks count).extend outline = rest.extend outline := by
  induction count with
  | zero => rfl
  | succ count ih => exact ih

section

variable (chosen : Aspect) (blanks : Nat) (left : Group) (joiner : Operator) (right : Group)

/-- A prefix in front of a single group stands above it. -/
theorem tree_prefixed :
    (Stretch.prefixed chosen blanks left .done).tree =
      .node .root [.node (.aspect chosen) [left.tree]] := by
  simp only [Stretch.tree, Stretch.prefixed, Stretch.extend, Stretch.extend_blanks,
    Outline.whole_eq]
  rfl

/-- A prefix in front of two groups stands above the operator. -/
theorem tree_prefixed_pair :
    (prefixedPair chosen blanks left joiner right).tree =
      .node .root [.node (.aspect chosen) [.node (.operator joiner) [left.tree, right.tree]]] := by
  simp only [Stretch.tree, prefixedPair, Stretch.prefixed, Stretch.extend, Stretch.extend_blanks,
    Outline.whole_eq]
  rfl

/-- A prefix in parentheses with the first group stands below the operator. -/
theorem tree_prefixed_first :
    (prefixedFirst chosen blanks left joiner right).tree =
      .node .root [.node (.operator joiner)
        [.node (.closedGroup '(') [.node (.aspect chosen) [left.tree]], right.tree]] := by
  simp only [Stretch.tree, prefixedFirst, Stretch.prefixed, Stretch.extend, Group.inside,
    Stretch.extend_blanks, Outline.whole_eq]
  rfl

end

/-! ## What is found -/

variable {store : Store} {chosen : Aspect} {blanks : Nat} {left right : Group} {joiner : Operator}

/-- A prefix in front of two groups that are joined governs both. -/
theorem search_prefixed_pair (hkeyed : store.Keyed)
    (hdepth : (prefixedPair chosen blanks left joiner right).tree.depth ≤ maxDepth) :
    (search store (prefixedPair chosen blanks left joiner right).print).Lists store
      (fun note => joiner.holds (left.tree.holds note chosen) (right.tree.holds note chosen))
      (left.tree.marks chosen ++ right.tree.marks chosen) := by
  have hlists := Stretch.search_lists hkeyed _ hdepth
  rw [tree_prefixed_pair] at hlists
  exact hlists

/-- A prefix that is in parentheses with the first group governs this one only. -/
theorem search_prefixed_first (hkeyed : store.Keyed)
    (hdepth : (prefixedFirst chosen blanks left joiner right).tree.depth ≤ maxDepth) :
    (search store (prefixedFirst chosen blanks left joiner right).print).Lists store
      (fun note => joiner.holds (left.tree.holds note chosen) (right.tree.holds note .fulltext))
      (left.tree.marks chosen ++ right.tree.marks .fulltext) := by
  have hlists := Stretch.search_lists hkeyed _ hdepth
  rw [tree_prefixed_first] at hlists
  exact hlists

/-- A prefix in front of two groups that are joined governs both, and one in parentheses with the
first group governs this one only. So the two queries find the same exactly if the prefix is the one
for full texts, which is the default, or all texts of the second group stand under prefixes of their
own. -/
theorem prefix_governs_both (hkeyed : store.Keyed)
    (hdepth : (prefixedPair chosen blanks left joiner right).tree.depth ≤ maxDepth)
    (hother : (prefixedFirst chosen blanks left joiner right).tree.depth ≤ maxDepth) :
    (search store (prefixedPair chosen blanks left joiner right).print).Lists store
        (fun note => joiner.holds (left.tree.holds note chosen) (right.tree.holds note chosen))
        (left.tree.marks chosen ++ right.tree.marks chosen) ∧
      (search store (prefixedFirst chosen blanks left joiner right).print).Lists store
        (fun note => joiner.holds (left.tree.holds note chosen) (right.tree.holds note .fulltext))
        (left.tree.marks chosen ++ right.tree.marks .fulltext) ∧
      (search store (prefixedPair chosen blanks left joiner right).print =
          search store (prefixedFirst chosen blanks left joiner right).print ↔
        chosen = .fulltext ∨ right.tree.exposes = false) := by
  have hpair := search_prefixed_pair hkeyed hdepth
  have hfirst := search_prefixed_first hkeyed hother
  refine ⟨hpair, hfirst, fun heq => ?_, fun hsame => ?_⟩
  · -- The marks tell the two apart even where the store has no note that does.
    have hmarks := hpair.highlights.symm.trans ((congrArg Found.highlights heq).trans hfirst.highlights)
    exact (right.tree.marks_eq_iff chosen).1 (List.append_cancel_left hmarks)
  · have hmeaning : (∀ note, right.tree.holds note chosen = right.tree.holds note .fulltext) ∧
        right.tree.marks chosen = right.tree.marks .fulltext := by
      rcases hsame with rfl | hexposes
      · exact ⟨fun _ => rfl, rfl⟩
      · exact Tree.same_of_not_exposes hexposes chosen .fulltext
    rw [hmeaning.2] at hpair
    exact hpair.eq hfirst fun note => congrArg (joiner.holds _) (hmeaning.1 note)

/-- A word in quotation marks, which the queries of the sample put into a folder. -/
def quotedWork : Group :=
  .quoted ⟨.double, "Work", by decide, by decide⟩

/-- A word in quotation marks, which the queries of the sample look for in the full text. -/
def quotedPears : Group :=
  .quoted ⟨.double, "Pears", by decide, by decide⟩

/-- The same word with a prefix of its own. -/
def prefixedPears : Group :=
  .parenthesized (.prefixed .fulltext 0 quotedPears .done)

example : (prefixedPair .folder 0 quotedWork .and prefixedPears).print =
    "folder:\"Work\" and (fulltext:\"Pears\")" := by decide +kernel

/-- A prefix does not reach into a group with a prefix of its own. -/
theorem prefix_governs_both_own :
    twoNotes.Keyed ∧
      (prefixedPair .folder 0 quotedWork .and prefixedPears).tree.depth ≤ maxDepth ∧
      (prefixedFirst .folder 0 quotedWork .and prefixedPears).tree.depth ≤ maxDepth ∧
      prefixedPears.tree.exposes = false ∧
      search twoNotes (prefixedPair .folder 0 quotedWork .and prefixedPears).print =
        search twoNotes (prefixedFirst .folder 0 quotedWork .and prefixedPears).print :=
  have hpair : (prefixedPair .folder 0 quotedWork .and prefixedPears).tree.depth ≤ maxDepth := by
    decide +kernel
  have hfirst : (prefixedFirst .folder 0 quotedWork .and prefixedPears).tree.depth ≤ maxDepth := by
    decide +kernel
  have hexposes : prefixedPears.tree.exposes = false := by decide +kernel
  ⟨two_notes_keyed, hpair, hfirst, hexposes,
    (prefix_governs_both two_notes_keyed hpair hfirst).2.2.2 (.inr hexposes)⟩

/-- The prefix in front of two quoted texts reaches the second one: a note that is in the folder and
holds the text is found only if the prefix stands in parentheses with the first one. -/
theorem prefix_governs_second :
    ("i" ∉ (search twoNotes "folder:\"Work\" and \"Pears\"").ids ∧
        (search twoNotes "folder:\"Work\" and \"Pears\"").highlights = []) ∧
      "i" ∈ (search twoNotes "(folder:\"Work\") and \"Pears\"").ids ∧
        (search twoNotes "(folder:\"Work\") and \"Pears\"").highlights = ["Pears"] := by
  have hpair : (prefixedPair .folder 0 quotedWork .and quotedPears).print =
      "folder:\"Work\" and \"Pears\"" := by decide +kernel
  have hfirst : (prefixedFirst .folder 0 quotedWork .and quotedPears).print =
      "(folder:\"Work\") and \"Pears\"" := by decide +kernel
  have hdeep : (prefixedPair .folder 0 quotedWork .and quotedPears).tree.depth ≤ maxDepth := by
    decide +kernel
  have hother : (prefixedFirst .folder 0 quotedWork .and quotedPears).tree.depth ≤ maxDepth := by
    decide +kernel
  have hboth := search_prefixed_pair two_notes_keyed hdeep
  have hone := search_prefixed_first two_notes_keyed hother
  rw [hpair] at hboth
  rw [hfirst] at hone
  refine ⟨⟨?_, hboth.highlights⟩, ?_, hone.highlights⟩
  · rw [hboth.mem_iff_any]
    decide +kernel
  · rw [hone.mem_iff_any]
    decide +kernel

end Notekeeper.Query
