import Mathlib.Data.List.Nodup
import Mathlib.Data.List.Perm.Subperm
import Mathlib.Data.List.ProdSigma
import Mathlib.Data.Prod.Basic
import Mathlib.Logic.Relation
import Notekeeper.Proofs.Query.Building

/-!
# The array of a query is a tree

Whatever tokens are built in, in whatever order, the array is a tree (`Arena.IsTree`): parents and
children name each other, every node but the root is the child of exactly one node and is reached
from the root without cycles, and each node has a number of children that fits its kind. From the
current node the parents lead up to the root past the open groups (`Arena.Climbs`), and a closing
mark takes the first of these. The only token that does not fit is a closing mark where there is none
(`grow_is_tree`).
-/

namespace Notekeeper.Query

/-! ## Numbers of children -/

/-- Whether a node of a kind may have a number of children. A text that was put in the place of a
closed group keeps the children of the group. -/
def Kind.Admits (kind : Kind) (count : Nat) : Prop :=
  match kind with
  | .root => count = 1
  | .empty => count = 0
  | .text _ => True
  | .operator _ => count = 2
  | .openGroup _ | .closedGroup _ | .aspect _ => 0 < count

/-- Every node of a tree has a number of children that fits its kind. -/
inductive Tree.Fits : Tree → Prop where
  | node {kind : Kind} {children : List Tree} (admits : kind.Admits children.length)
      (below : ∀ child ∈ children, Fits child) : Fits (.node kind children)

/-- A level fits once the current subtree is in its place. -/
structure Level.Fits (level : Level) : Prop where
  admits : level.kind.Admits (level.earlier.length + 1)
  below : ∀ child ∈ level.earlier, child.Fits

/-- Every node of a tree under construction has a number of children that fits its kind. -/
structure Outline.Fits (outline : Outline) : Prop where
  focus : outline.focus.Fits
  levels : ∀ level ∈ outline.levels, level.Fits

/-- An empty place fits. -/
theorem fits_empty : (Tree.node .empty []).Fits :=
  .node rfl (by simp)

/-- The trees below the top of a tree that fits. -/
theorem Tree.Fits.children {tree : Tree} (h : tree.Fits) : ∀ child ∈ tree.children, child.Fits := by
  cases h with
  | node _ below => exact below

/-- A level with its current subtree in place. -/
theorem Level.Fits.around {level : Level} {inner : Tree} (h : level.Fits) (hinner : inner.Fits) :
    (level.around inner).Fits := by
  refine .node (by simpa using h.admits) fun child hmem => ?_
  rcases List.mem_append.1 hmem with hmem | hmem
  · exact h.below child hmem
  · exact List.mem_singleton.1 hmem ▸ hinner

namespace Outline

variable {outline next : Outline}

/-- The whole tree of an outline that fits. -/
theorem Fits.whole (h : outline.Fits) : outline.whole.Fits := by
  obtain ⟨focus, levels⟩ := outline
  obtain ⟨hfocus, hlevels⟩ := h
  induction levels generalizing focus with
  | nil => exact .node rfl (List.forall_mem_singleton.2 hfocus)
  | cons level levels ih =>
      rw [List.forall_mem_cons] at hlevels
      exact ih (level.around focus) (hlevels.1.around hfocus) hlevels.2

/-- A group that is closed still fits. -/
theorem Fits.close {focus : Tree} {levels : List Level} (hfocus : focus.Fits)
    (hlevels : ∀ level ∈ levels, level.Fits) (h : close focus levels = some next) : next.Fits := by
  induction levels generalizing focus with
  | nil =>
      obtain ⟨kind, children⟩ := focus
      cases hfocus with
      | node admits below =>
          cases kind with
          | openGroup mark =>
              obtain rfl := Option.some.inj h
              exact ⟨.node admits below, hlevels⟩
          | _ => cases h
  | cons level levels ih =>
      have hup := List.forall_mem_cons.1 hlevels
      obtain ⟨kind, children⟩ := focus
      cases kind with
      | openGroup mark =>
          obtain rfl := Option.some.inj h
          cases hfocus with
          | node admits below => exact ⟨.node admits below, hlevels⟩
      | _ => exact ih (hup.1.around hfocus) hup.2 h

/-- A group or a prefix over an empty place fits. -/
theorem Fits.descend (h : outline.Fits) {kind : Kind} (hkind : ∀ count, kind.Admits (count + 1)) :
    (outline.descend kind).Fits where
  focus := fits_empty
  levels := List.forall_mem_cons.2 ⟨⟨hkind _, h.focus.children⟩, h.levels⟩

/-- A token that is built in keeps the numbers of children fitting. -/
theorem Fits.step {token : Token} (h : outline.Fits) (hstep : outline.step token = some next) :
    next.Fits := by
  cases token with
  | text string =>
      obtain rfl := Option.some.inj hstep
      exact ⟨.node trivial h.focus.children, h.levels⟩
  | opening mark =>
      obtain rfl := Option.some.inj hstep
      exact h.descend fun count => Nat.succ_pos count
  | aspect chosen =>
      obtain rfl := Option.some.inj hstep
      exact h.descend fun count => Nat.succ_pos count
  | operator joiner =>
      obtain rfl := Option.some.inj hstep
      have hlevel : (Level.mk (.operator joiner) [outline.focus]).Fits :=
        ⟨rfl, List.forall_mem_singleton.2 h.focus⟩
      exact ⟨fits_empty, List.forall_mem_cons.2 ⟨hlevel, h.levels⟩⟩
  | closing mark => exact Fits.close h.focus h.levels hstep

/-- Tokens that are built in keep the numbers of children fitting. -/
theorem Fits.read {tokens : List Token} (h : outline.Fits) (hread : outline.read tokens = some next) :
    next.Fits := by
  induction tokens generalizing outline with
  | nil => exact Option.some.inj hread ▸ h
  | cons token tokens ih =>
      obtain ⟨reached, hstep, hread⟩ := Option.bind_eq_some_iff.1 hread
      exact ih (h.step hstep) hread

/-- Whatever is read from the start fits. -/
theorem fits_of_read {tokens : List Token} (h : start.read tokens = some outline) : outline.Fits :=
  Fits.read ⟨fits_empty, by simp [start]⟩ h

end Outline

/-! ## Nodes that refer to each other -/

/-- One node has another one among its children. -/
def Arena.Child (arena : Arena) (above below : Nat) : Prop :=
  ∃ node, arena.nodes[above]? = some node ∧ below ∈ node.children

/-- The nodes form a tree under the root at position 0. -/
structure Arena.IsTree (arena : Arena) : Prop where
  /-- The root has one child. -/
  root : ∃ query, arena.nodes[0]? = some ⟨.root, none, [query]⟩
  /-- Children and parents stand in the array and name each other. -/
  mirrored : ∀ above below, arena.Child above below ↔
    ∃ node, arena.nodes[below]? = some node ∧ node.parent = some above
  /-- Every node but the root occurs once among all children. -/
  once : ∀ position, 0 < position → position < arena.nodes.size →
    (arena.nodes.toList.flatMap Node.children).count position = 1
  reached : ∀ position < arena.nodes.size, Relation.ReflTransGen arena.Child 0 position
  acyclic : ∀ position, ¬ Relation.TransGen arena.Child position position
  fits : ∀ node ∈ arena.nodes, node.kind.Admits node.children.length

namespace Site

/-- What is true of a tree with positions as soon as it is true of the trees below its top is true of
every such tree. -/
theorem induction {motive : Site → Prop}
    (node : ∀ position kind children, (∀ child ∈ children, motive child) →
      motive (.node position kind children)) (site : Site) : motive site :=
  site.rec (motive_2 := fun sites => ∀ child ∈ sites, motive child) node (by simp)
    fun _ _ hhead htail => List.forall_mem_cons.2 ⟨hhead, htail⟩

/-- The nodes of some trees, one tree after the other. -/
theorem entries_each_eq (parent : Option Nat) (sites : List Site) :
    entriesEach parent sites = sites.flatMap fun site => site.entries parent := by
  induction sites with
  | nil => rfl
  | cons site sites ih => rw [entriesEach, ih, List.flatMap_cons]

/-- Some trees lose their positions each on its own. -/
theorem tree_each_eq (sites : List Site) : treeEach sites = sites.map tree := by
  induction sites with
  | nil => rfl
  | cons site sites ih => rw [treeEach, ih, List.map_cons]

/-- The top of a tree and the nodes below it. -/
theorem mem_entries {position : Nat} {kind : Kind} {children : List Site} {parent : Option Nat}
    {entry : Nat × Node} :
    entry ∈ (Site.node position kind children).entries parent ↔
      entry = (position, ⟨kind, parent, children.map Site.position⟩) ∨
        ∃ child ∈ children, entry ∈ child.entries (some position) := by
  rw [entries, List.mem_cons, entries_each_eq, List.mem_flatMap]

/-- The top of a tree is among its nodes. -/
theorem top_mem (site : Site) (parent : Option Nat) :
    ∃ node, (site.position, node) ∈ site.entries parent ∧ node.parent = parent := by
  obtain ⟨position, kind, children⟩ := site
  exact ⟨_, mem_entries.2 (.inl rfl), rfl⟩

/-- The children of a node are nodes that name it as their parent. -/
theorem entries_down {site : Site} {parent : Option Nat} :
    ∀ entry ∈ site.entries parent, ∀ below ∈ entry.2.children,
      ∃ node, (below, node) ∈ site.entries parent ∧ node.parent = some entry.1 := by
  induction site using induction generalizing parent with
  | node position kind children ih =>
      intro entry hentry below hbelow
      rcases mem_entries.1 hentry with rfl | ⟨child, hchild, hentry⟩
      · obtain ⟨child, hchild, rfl⟩ := List.mem_map.1 hbelow
        obtain ⟨node, hnode, hparent⟩ := child.top_mem (some position)
        exact ⟨node, mem_entries.2 (.inr ⟨child, hchild, hnode⟩), hparent⟩
      · obtain ⟨node, hnode, hparent⟩ := ih child hchild entry hentry below hbelow
        exact ⟨node, mem_entries.2 (.inr ⟨child, hchild, hnode⟩), hparent⟩

/-- Every node but the top names as its parent a node that has it among its children. -/
theorem entries_up {site : Site} {parent : Option Nat} :
    ∀ entry ∈ site.entries parent, entry.1 = site.position ∧ entry.2.parent = parent ∨
      ∃ above ∈ site.entries parent, entry.2.parent = some above.1 ∧ entry.1 ∈ above.2.children := by
  induction site using induction generalizing parent with
  | node position kind children ih =>
      intro entry hentry
      rcases mem_entries.1 hentry with rfl | ⟨child, hchild, hentry⟩
      · exact .inl ⟨rfl, rfl⟩
      · rcases ih child hchild entry hentry with ⟨hposition, hparent⟩ | ⟨above, habove, hparent⟩
        · refine .inr ⟨_, mem_entries.2 (.inl rfl), hparent, ?_⟩
          exact hposition ▸ List.mem_map_of_mem hchild
        · exact .inr ⟨above, mem_entries.2 (.inr ⟨child, hchild, habove⟩), hparent⟩

/-- The positions of a tree are that of its top and those that its nodes have as children. -/
theorem positions_perm (site : Site) (parent : Option Nat) :
    (site.position :: (site.entries parent).flatMap fun entry => entry.2.children).Perm
      ((site.entries parent).map Prod.fst) := by
  induction site using induction generalizing parent with
  | node position kind children ih =>
      -- The children of the top and those of the trees below it, one tree after the other.
      have hbelow : (children.map Site.position ++
          (entriesEach (some position) children).flatMap fun entry => entry.2.children).Perm
            ((entriesEach (some position) children).map Prod.fst) := by
        induction children with
        | nil => exact .refl _
        | cons child children ihchildren =>
            have hfirst := ih child List.mem_cons_self (some position)
            have hothers := ihchildren fun other hmem => ih other (List.mem_cons_of_mem _ hmem)
            simp only [entriesEach, List.map_cons, List.map_append, List.flatMap_append]
            refine .trans (.cons _ ?_) (hfirst.append hothers)
            exact List.perm_append_comm_assoc _ _ _
      exact hbelow.cons position

/-- In a tree that fits every node has a number of children that fits its kind. -/
theorem entries_fit {site : Site} {parent : Option Nat} (h : site.tree.Fits) :
    ∀ entry ∈ site.entries parent, entry.2.kind.Admits entry.2.children.length := by
  induction site using induction generalizing parent with
  | node position kind children ih =>
      rw [tree, tree_each_eq] at h
      cases h with
      | node admits below =>
          intro entry hentry
          rcases mem_entries.1 hentry with rfl | ⟨child, hchild, hentry⟩
          · simpa using admits
          · exact ih child hchild (below _ (List.mem_map_of_mem hchild)) entry hentry

/-- In an array with the nodes of a tree the children lead from its top to each of them. -/
theorem reached {arena : Arena} {site : Site} {parent : Option Nat}
    (h : ∀ entry ∈ site.entries parent, arena.nodes[entry.1]? = some entry.2) :
    ∀ entry ∈ site.entries parent, Relation.ReflTransGen arena.Child site.position entry.1 := by
  induction site using induction generalizing parent with
  | node position kind children ih =>
      intro entry hentry
      rcases mem_entries.1 hentry with rfl | ⟨child, hchild, hentry⟩
      · exact .refl
      · have hbelow := ih child hchild
          (fun other hmem => h other (mem_entries.2 (.inr ⟨child, hchild, hmem⟩))) entry hentry
        have htop := h _ (mem_entries.2 (.inl rfl))
        exact .head ⟨_, htop, List.mem_map_of_mem hchild⟩ hbelow

end Site

namespace Arena

variable {arena : Arena}

/-- Every node of the array is one of those that are laid in it. -/
theorem Laid.mem_iff {entries : List (Nat × Node)} (h : arena.Laid entries) {position : Nat}
    {node : Node} : (position, node) ∈ entries ↔ arena.nodes[position]? = some node := by
  refine ⟨fun hmem => h.found _ hmem, fun hfound => ?_⟩
  have hbounded : entries.map Prod.fst ⊆ List.range arena.nodes.size := by
    intro other hmem
    obtain ⟨entry, hentry, rfl⟩ := List.mem_map.1 hmem
    exact List.mem_range.2 (Array.getElem?_eq_some_iff.1 (h.found entry hentry)).1
  have hall := (List.subperm_of_subset h.nodup hbounded).perm_of_length_le (by simp [h.size])
  have hlt : position < arena.nodes.size := (Array.getElem?_eq_some_iff.1 hfound).1
  obtain ⟨entry, hentry, rfl⟩ := List.mem_map.1 (hall.mem_iff.2 (List.mem_range.2 hlt))
  have hsame : entry.2 = node := Option.some.inj ((h.found entry hentry).symm.trans hfound)
  exact hsame ▸ hentry

/-- The nodes of the array are those that are laid in it, in some order. -/
theorem Laid.nodes_perm {entries : List (Nat × Node)} (h : arena.Laid entries) :
    (entries.map Prod.snd).Perm arena.nodes.toList := by
  have hnumbered : (entries.map Prod.swap).Perm arena.nodes.toList.zipIdx := by
    refine (List.perm_ext_iff_of_nodup ?_ ?_).2 fun entry => ?_
    · exact (List.Nodup.of_map _ h.nodup).map Prod.swap_injective
    · exact List.Nodup.of_map Prod.snd (by rw [List.zipIdx_map_snd]; exact List.nodup_range')
    · obtain ⟨node, position⟩ := entry
      rw [List.mem_map_swap, h.mem_iff, List.mk_mem_zipIdx_iff_getElem?, Array.getElem?_toList]
  have hnodes := hnumbered.map Prod.fst
  rw [List.map_map, List.zipIdx_map_fst] at hnodes
  exact hnodes

/-- Where every node is reached from a root without parent and has one parent, there are no
cycles. -/
theorem acyclic_of_reached (hroot : ∃ node, arena.nodes[0]? = some node ∧ node.parent = none)
    (hmirrored : ∀ above below, arena.Child above below ↔
      ∃ node, arena.nodes[below]? = some node ∧ node.parent = some above)
    (hreached : ∀ position < arena.nodes.size, Relation.ReflTransGen arena.Child 0 position)
    (position : Nat) : ¬ Relation.TransGen arena.Child position position := by
  intro hcycle
  have hlt : position < arena.nodes.size := by
    obtain ⟨below, ⟨node, hfound, -⟩, -⟩ := Relation.TransGen.head'_iff.1 hcycle
    exact (Array.getElem?_eq_some_iff.1 hfound).1
  -- A cycle at a node is one at its parent, and so one at the root.
  have hpath := hreached position hlt
  induction hpath with
  | refl =>
      obtain ⟨above, -, hchild⟩ := Relation.TransGen.tail'_iff.1 hcycle
      obtain ⟨node, hfound, hparent⟩ := (hmirrored above 0).1 hchild
      obtain ⟨root, hfirst, hnone⟩ := hroot
      obtain rfl := Option.some.inj (hfound.symm.trans hfirst)
      rw [hnone] at hparent
      cases hparent
  | @tail former latter _ hchild ih =>
      obtain ⟨above, hback, hlast⟩ := Relation.TransGen.tail'_iff.1 hcycle
      obtain ⟨node, hfound, hparent⟩ := (hmirrored former latter).1 hchild
      obtain ⟨same, hsame, hother⟩ := (hmirrored above latter).1 hlast
      obtain rfl := Option.some.inj (hfound.symm.trans hsame)
      obtain rfl := Option.some.inj (hparent.symm.trans hother)
      obtain ⟨other, hstands, hbelow⟩ := hchild
      exact ih (Relation.TransGen.head' ⟨other, hstands, hbelow⟩ hback)
        (Array.getElem?_eq_some_iff.1 hstands).1

/-- An array with the nodes of a whole tree that fits is a tree. -/
theorem Laid.is_tree {query : Site}
    (h : arena.Laid ((Site.node 0 .root [query]).entries none))
    (hfits : (Site.node 0 .root [query]).tree.Fits) : arena.IsTree := by
  have hroot : arena.nodes[0]? = some ⟨.root, none, [query.position]⟩ :=
    h.found (0, _) (Site.mem_entries.2 (.inl rfl))
  have hmirrored (above below : Nat) : arena.Child above below ↔
      ∃ node, arena.nodes[below]? = some node ∧ node.parent = some above := by
    constructor
    · rintro ⟨node, hfound, hbelow⟩
      obtain ⟨child, hchild, hparent⟩ := Site.entries_down _ (h.mem_iff.2 hfound) below hbelow
      exact ⟨child, h.mem_iff.1 hchild, hparent⟩
    · rintro ⟨node, hfound, hparent⟩
      rcases Site.entries_up _ (h.mem_iff.2 hfound) with ⟨-, hnone⟩ | ⟨other, hother, hnamed, hbelow⟩
      · cases hparent.symm.trans hnone
      · obtain rfl := Option.some.inj (hnamed.symm.trans hparent)
        exact ⟨other.2, h.mem_iff.1 hother, hbelow⟩
  have hentry {position : Nat} (hlt : position < arena.nodes.size) :
      (position, arena.nodes[position]) ∈ (Site.node 0 .root [query]).entries none :=
    h.mem_iff.2 (Array.getElem?_eq_getElem hlt)
  have hreached (position : Nat) (hlt : position < arena.nodes.size) :
      Relation.ReflTransGen arena.Child 0 position :=
    Site.reached h.found _ (hentry hlt)
  refine ⟨⟨_, hroot⟩, hmirrored, fun position hpos hlt => ?_, hreached,
    acyclic_of_reached ⟨_, hroot, rfl⟩ hmirrored hreached, fun node hmem => ?_⟩
  · have hchildren := (h.nodes_perm.flatMap_right Node.children).count_eq position
    rw [List.flatMap_map] at hchildren
    have hpositions := (Site.positions_perm (.node 0 .root [query]) none).count_eq position
    rw [List.count_eq_one_of_mem h.nodup (List.mem_map_of_mem (hentry hlt)), Site.position,
      List.count_cons_of_ne (Nat.ne_of_lt hpos)] at hpositions
    exact hchildren.symm.trans hpositions
  · obtain ⟨position, hlt, rfl⟩ := Array.mem_iff_getElem.1 hmem
    exact Site.entries_fit hfits _ (hentry hlt)

end Arena

/-! ## The way up -/

/-- The opening mark of a node that is an open group. -/
def Kind.openMark? : Kind → Option Char
  | .openGroup mark => some mark
  | _ => none

namespace Arena

variable {arena : Arena}

/-- From a position the parents lead over some number of nodes up to the root, past some open groups:
their positions and opening marks, the nearest group first. -/
inductive Climbs (arena : Arena) : Nat → Nat → List (Nat × Char) → Prop where
  | top {node : Node} (found : arena.nodes[0]? = some node) (kind : node.kind = .root)
      (parent : node.parent = none) : Climbs arena 1 0 []
  | group {length position above : Nat} {node : Node} {mark : Char} {groups : List (Nat × Char)}
      (found : arena.nodes[position]? = some node) (kind : node.kind = .openGroup mark)
      (parent : node.parent = some above) (outer : Climbs arena length above groups) :
      Climbs arena (length + 1) position ((position, mark) :: groups)
  | other {length position above : Nat} {node : Node} {groups : List (Nat × Char)}
      (found : arena.nodes[position]? = some node) (kind : ∀ mark, node.kind ≠ .openGroup mark)
      (parent : node.parent = some above) (outer : Climbs arena length above groups) :
      Climbs arena (length + 1) position groups

/-- A node that is no open group is passed on the way up. -/
theorem close_up {position above : Nat} {node : Node} (found : arena.nodes[position]? = some node)
    (kind : ∀ mark, node.kind ≠ .openGroup mark) (parent : node.parent = some above) (steps : Nat) :
    arena.closeWithin (steps + 1) position = arena.closeWithin steps above := by
  obtain ⟨stands, _, children⟩ := node
  obtain rfl : _ = some above := parent
  cases stands with
  | openGroup mark => exact absurd rfl (kind mark)
  | _ => simp only [closeWithin, Arena.node, found]; rfl

/-- A closing mark closes the first open group on the way up. -/
theorem Climbs.close_group {length position place steps : Nat} {mark : Char}
    {outer : List (Nat × Char)} (h : arena.Climbs length position ((place, mark) :: outer))
    (hsteps : length ≤ steps) :
    ∃ node, arena.nodes[place]? = some node ∧ node.kind = .openGroup mark ∧
      arena.closeWithin steps position =
        .ok (arena.put place { node with kind := .closedGroup mark }, place) := by
  generalize hgroups : (place, mark) :: outer = groups at h
  induction h generalizing steps with
  | top => cases hgroups
  | @group _ _ _ node _ _ found kind _ _ _ =>
      obtain ⟨more, rfl⟩ := Nat.exists_eq_add_of_le' (Nat.le_of_add_left_le hsteps)
      obtain ⟨⟨rfl, rfl⟩, -⟩ := List.cons.inj hgroups
      refine ⟨node, found, kind, ?_⟩
      simp only [closeWithin, Arena.node, found, kind, bind, Except.bind]
      rfl
  | other found kind parent _ ih =>
      obtain ⟨more, rfl⟩ := Nat.exists_eq_add_of_le' (Nat.le_of_add_left_le hsteps)
      rw [close_up found kind parent]
      exact ih (Nat.le_of_succ_le_succ hsteps) hgroups

end Arena

/-- One step further down the way up passes a node more. -/
theorem Arena.Climbs.onward {arena : Arena} {length position above : Nat} {node : Node}
    {groups : List (Nat × Char)} (h : arena.Climbs length above groups)
    (found : arena.nodes[position]? = some node) (parent : node.parent = some above) :
    ∃ more, arena.Climbs (length + 1) position more ∧
      more.map Prod.snd = node.kind.openMark?.toList ++ groups.map Prod.snd := by
  cases hkind : node.kind with
  | openGroup mark => exact ⟨_, .group found hkind parent h, rfl⟩
  | _ => exact ⟨groups, .other found (by simp [hkind]) parent h, rfl⟩

/-- The opening marks of the open groups at and above the current node, the nearest one first. -/
def Outline.opened (outline : Outline) : List Char :=
  outline.focus.kind.openMark?.toList ++ outline.levels.filterMap fun level => level.kind.openMark?

/-- From the current node the parents lead up to the root past the open groups of the outline. -/
theorem Arena.Laid.climbs {arena : Arena} {focus : Site} {stages : List Stage}
    (h : arena.Laid (Plan.mk focus stages).entries) :
    ∃ groups, arena.Climbs (stages.length + 2) focus.position groups ∧
      groups.map Prod.snd = (Plan.mk focus stages).outline.opened := by
  induction stages generalizing focus with
  | nil =>
      obtain ⟨position, kind, children⟩ := focus
      have hroot := h.found (0, ⟨.root, none, [position]⟩) (by simp [Plan.entries, Stage.above,
        Stage.holder, Site.position])
      have hfocus := h.found (position, ⟨kind, some 0, children.map Site.position⟩) List.mem_cons_self
      exact (Climbs.top hroot rfl rfl).onward hfocus rfl
  | cons stage stages ih =>
      obtain ⟨position, kind, children⟩ := focus
      obtain ⟨outer, houter, hmarks⟩ := ih (h.perm (Plan.entries_around _ stage stages))
      have hfocus := h.found
        (position, ⟨kind, some stage.position, children.map Site.position⟩) List.mem_cons_self
      obtain ⟨groups, hgroups, hopened⟩ := houter.onward hfocus rfl
      refine ⟨groups, hgroups, hopened.trans ?_⟩
      rw [hmarks]
      cases stage with
      | mk place kind earlier => cases kind <;> rfl

namespace Growth.Follows

variable {growth : Growth} {outline : Outline}

/-- The array of an outline that fits is a tree. -/
theorem is_tree (h : growth.Follows outline) (hfits : outline.Fits) : growth.1.IsTree := by
  obtain ⟨⟨focus, stages⟩, rfl, -, hlaid⟩ := h
  have hlaid := hlaid.perm (Plan.entries_enclose focus stages)
  have htree := Stage.tree_enclose focus stages
  have hwhole := hfits.whole
  obtain ⟨query, hroot⟩ := Stage.enclose_eq focus stages
  rw [hroot] at hlaid htree
  exact hlaid.is_tree (htree ▸ hwhole)

/-- The way up from the current node passes the open groups of the outline. -/
theorem climbs (h : growth.Follows outline) :
    ∃ length groups, growth.1.Climbs length growth.2 groups ∧ length ≤ growth.1.nodes.size ∧
      groups.map Prod.snd = outline.opened := by
  obtain ⟨⟨focus, stages⟩, rfl, hposition, hlaid⟩ := h
  obtain ⟨groups, hgroups, hopened⟩ := hlaid.climbs
  have hsize := Plan.length_stages_lt ⟨focus, stages⟩
  rw [hlaid.size] at hsize
  exact ⟨_, groups, hposition ▸ hgroups, hsize, hopened⟩

end Growth.Follows

/-! ## Building -/

namespace Outline

/-- The open groups when the current subtree is taken one level up. -/
theorem opened_around {kind : Kind} (h : kind.openMark? = none) (children : List Tree) (level : Level)
    (levels : List Level) :
    (Outline.mk (.node kind children) (level :: levels)).opened =
      (Outline.mk (level.around (.node kind children)) levels).opened := by
  obtain ⟨stands, earlier⟩ := level
  simp only [opened, Tree.kind, h, Level.around]
  cases stands <;> rfl

/-- Where there is an open group a closing mark closes the nearest one. -/
theorem close_of_opened {focus : Tree} {levels : List Level} {mark : Char} {outer : List Char}
    (h : (Outline.mk focus levels).opened = mark :: outer) :
    ∃ next, close focus levels = some next ∧ next.focus.kind = .closedGroup mark ∧
      next.opened = outer := by
  induction levels generalizing focus with
  | nil =>
      obtain ⟨kind, children⟩ := focus
      cases kind with
      | openGroup same =>
          obtain ⟨rfl, rfl⟩ := List.cons.inj h
          exact ⟨_, close_open same children [], rfl, rfl⟩
      | _ => cases h
  | cons level levels ih =>
      obtain ⟨kind, children⟩ := focus
      cases kind with
      | openGroup same =>
          obtain ⟨rfl, rfl⟩ := List.cons.inj h
          exact ⟨_, close_open same children _, rfl, rfl⟩
      | _ =>
          rw [opened_around rfl] at h
          exact ih h

/-- A token that does not fit is a closing mark without an open group above the current node. -/
theorem opened_of_step {outline : Outline} {token : Token} (h : outline.step token = none) :
    outline.opened = [] ∧ ∃ mark, token = .closing mark := by
  cases token with
  | closing mark =>
      refine ⟨?_, mark, rfl⟩
      cases hopened : outline.opened with
      | nil => rfl
      | cons nearest outer =>
          obtain ⟨next, hclose, -⟩ := close_of_opened hopened
          cases h.symm.trans hclose
  | _ => cases h

/-- Tokens that cannot all be built in have a first one that does not fit. -/
theorem exists_of_not_read {outline : Outline} {tokens : List Token}
    (h : outline.read tokens = none) :
    ∃ fitting token more reached, tokens = fitting ++ token :: more ∧
      outline.read fitting = some reached ∧ reached.step token = none := by
  induction tokens generalizing outline with
  | nil => cases h
  | cons token tokens ih =>
      cases hstep : outline.step token with
      | none => exact ⟨[], token, tokens, outline, rfl, rfl, hstep⟩
      | some next =>
          rw [read_cons hstep] at h
          obtain ⟨fitting, other, more, reached, rfl, hread, hother⟩ := ih h
          exact ⟨token :: fitting, other, more, reached, rfl, (read_cons hstep _).trans hread, hother⟩

end Outline

/-- Any tokens, which may be the first ones of others, are built into a tree whose current node has
the open groups above it, up to the root. Only a closing mark without an open group above the current
node is rejected, and in the end a tree that is too deep. -/
theorem grow_is_tree (tokens : List Token) :
    (∃ growth, grow tokens = .ok growth ∧ growth.1.IsTree ∧ growth.1.Shows 0 growth.1.toTree ∧
      (∃ length groups, growth.1.Climbs length growth.2 groups ∧ length ≤ growth.1.nodes.size) ∧
      build tokens =
        if maxDepth < growth.1.toTree.depth then .error .tooDeep else .ok growth.1) ∨
    ∃ fitting mark more growth length, tokens = fitting ++ .closing mark :: more ∧
      grow fitting = .ok growth ∧ growth.1.IsTree ∧ growth.1.Climbs length growth.2 [] ∧
      length ≤ growth.1.nodes.size ∧ build tokens = .error .unmatchedClosing := by
  cases hread : Outline.start.read tokens with
  | some outline =>
      obtain ⟨growth, hgrow, hfollows⟩ := grow_of_read hread
      obtain ⟨length, groups, hclimbs, hlength, -⟩ := hfollows.climbs
      obtain ⟨htree, hshows, -⟩ := hfollows.whole
      exact .inl ⟨growth, hgrow, hfollows.is_tree (Outline.fits_of_read hread), htree ▸ hshows,
        ⟨length, groups, hclimbs, hlength⟩, hfollows.build_eq hgrow⟩
  | none =>
      obtain ⟨fitting, token, more, reached, htokens, hfitting, hstep⟩ :=
        Outline.exists_of_not_read hread
      obtain ⟨hopened, mark, rfl⟩ := Outline.opened_of_step hstep
      obtain ⟨growth, hgrow, hfollows⟩ := grow_of_read hfitting
      obtain ⟨length, groups, hclimbs, hlength, hmarks⟩ := hfollows.climbs
      obtain rfl : groups = [] := List.map_eq_nil_iff.1 (hmarks.trans hopened)
      exact .inr ⟨fitting, mark, more, growth, length, htokens, hgrow,
        hfollows.is_tree (Outline.fits_of_read hfitting), hclimbs, hlength, build_of_not_read hread⟩

end Notekeeper.Query
