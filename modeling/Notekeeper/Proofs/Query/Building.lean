import Mathlib.Data.List.Forall2
import Notekeeper.Proofs.Query.Outline

/-!
# Building a query tree in an array

The array in which a query tree is built holds, at every time, exactly the nodes of the tree under
construction (`Growth.Follows`): building in a token fails where the outline of the tree has no place
for it, and otherwise leads to the array of the next outline (`Growth.Follows.step`). `build` thus
accepts the queries whose outline can be read to the end and whose tree is not too deep
(`build_of_read`, `build_of_not_read`), and the array it returns shows this tree.
-/

namespace Notekeeper.Query

/-! ## Nodes at positions -/

/-- The array consists of some nodes at their positions. -/
structure Arena.Laid (arena : Arena) (entries : List (Nat × Node)) : Prop where
  nodup : (entries.map Prod.fst).Nodup
  found : ∀ entry ∈ entries, arena.nodes[entry.1]? = some entry.2
  size : entries.length = arena.nodes.size

namespace Arena.Laid

variable {arena : Arena} {position : Nat} {node : Node} {entries rest : List (Nat × Node)}

/-- The nodes may be listed in any order. -/
theorem perm (h : arena.Laid entries) {others : List (Nat × Node)} (hperm : entries.Perm others) :
    arena.Laid others where
  nodup := (hperm.map Prod.fst).nodup h.nodup
  found := fun entry hmem => h.found entry (hperm.mem_iff.2 hmem)
  size := hperm.length_eq.symm.trans h.size

/-- A node of the array is found at its position. -/
theorem node_eq (h : arena.Laid ((position, node) :: rest)) : arena.node position = .ok node := by
  have hfound := h.found (position, node) List.mem_cons_self
  simp only [Arena.node, hfound]

/-- Another node is put in the place of one. -/
theorem put (h : arena.Laid ((position, node) :: rest)) (other : Node) :
    (arena.put position other).Laid ((position, other) :: rest) := by
  have hfound := h.found (position, node) List.mem_cons_self
  have hlt : position < arena.nodes.size := (Array.getElem?_eq_some_iff.1 hfound).1
  refine ⟨h.nodup, fun entry hmem => ?_, by simpa [Arena.put] using h.size⟩
  rcases List.mem_cons.1 hmem with rfl | hmem
  · simp [Arena.put, hlt]
  · have hne : position ≠ entry.1 := by
      have hnodup := h.nodup
      rw [List.map_cons, List.nodup_cons] at hnodup
      exact fun heq => hnodup.1 (List.mem_map.2 ⟨entry, hmem, heq.symm⟩)
    simp only [Arena.put, Array.getElem?_setIfInBounds_ne hne]
    exact h.found entry (List.mem_cons_of_mem _ hmem)

/-- A node is added behind all others. -/
theorem push (h : arena.Laid entries) (node : Node) :
    (⟨arena.nodes.push node⟩ : Arena).Laid ((arena.nodes.size, node) :: entries) := by
  have hlt (entry : Nat × Node) (hmem : entry ∈ entries) : entry.1 < arena.nodes.size :=
    (Array.getElem?_eq_some_iff.1 (h.found entry hmem)).1
  refine ⟨?_, fun entry hmem => ?_, by simp [h.size]⟩
  · rw [List.map_cons, List.nodup_cons]
    refine ⟨fun hmem => ?_, h.nodup⟩
    obtain ⟨entry, hmem, heq⟩ := List.mem_map.1 hmem
    have hbound := hlt entry hmem
    omega
  · rcases List.mem_cons.1 hmem with rfl | hmem
    · simp
    · have hne := Nat.ne_of_lt (hlt entry hmem)
      simp [Array.getElem?_push, hne, h.found entry hmem]

/-- A node gets an empty place as its last child. -/
theorem add_child (h : arena.Laid ((position, node) :: rest)) :
    ∃ grown fresh, arena.addChild position = .ok (grown, fresh) ∧
      grown.Laid ((fresh, ⟨.empty, some position, []⟩) ::
        (position, { node with children := node.children ++ [fresh] }) :: rest) := by
  have hpush := (h.push ⟨.empty, some position, []⟩).perm (.swap _ _ _)
  refine ⟨_, arena.nodes.size, ?_, (hpush.put _).perm (.swap _ _ _)⟩
  rw [addChild, hpush.node_eq]
  rfl

/-- A node becomes a group or a prefix over an empty place. -/
theorem open_node (h : arena.Laid ((position, node) :: rest)) (kind : Kind) :
    ∃ grown fresh, arena.open position kind = .ok (grown, fresh) ∧
      grown.Laid ((fresh, ⟨.empty, some position, []⟩) ::
        (position, { node with kind := kind, children := node.children ++ [fresh] }) :: rest) := by
  obtain ⟨grown, fresh, hadd, hlaid⟩ := (h.put { node with kind := kind }).add_child
  refine ⟨grown, fresh, ?_, hlaid⟩
  rw [Arena.open, h.node_eq]
  exact hadd

/-- The third node is brought to the front. -/
theorem third_first (first second third : Nat × Node) (rest : List (Nat × Node)) :
    (first :: second :: third :: rest).Perm (third :: first :: second :: rest) :=
  (List.Perm.swap _ _ _).cons _ |>.trans (.swap _ _ _)

/-- An operator is put in between a node and the node above it. -/
theorem splice {above : Nat} {parent : Node}
    (h : arena.Laid ((position, node) :: (above, parent) :: rest)) (habove : node.parent = some above)
    (joiner : Operator) :
    ∃ grown place fresh, arena.splice position joiner = .ok (grown, fresh) ∧
      grown.Laid ((fresh, ⟨.empty, some place, []⟩) ::
        (place, ⟨.operator joiner, some above, [position, fresh]⟩) ::
        (position, { node with parent := some place }) ::
        (above, { parent with
          children := parent.children.map fun child => if child = position then place else child }) ::
        rest) := by
  -- Each node is brought to the front of the list when it is its turn.
  have habove_first := (h.push ⟨.operator joiner, some above, [position]⟩).perm
    (third_first _ _ _ _)
  have hposition_first := (habove_first.put { parent with
    children := parent.children.map fun child =>
      if child = position then arena.nodes.size else child }).perm (third_first _ _ _ _)
  have hplace_first := (hposition_first.put { node with parent := some arena.nodes.size }).perm
    (third_first _ _ _ _)
  obtain ⟨grown, fresh, hadd, hlaid⟩ := hplace_first.add_child
  refine ⟨grown, arena.nodes.size, fresh, ?_, hlaid⟩
  simp only [Arena.splice, h.node_eq, habove, bind, Except.bind, habove_first.node_eq,
    hposition_first.node_eq]
  exact hadd

/-- An open group is closed where it is met. -/
theorem close_open {mark : Char} {parent : Option Nat} {children : List Nat}
    (h : arena.Laid ((position, ⟨.openGroup mark, parent, children⟩) :: rest)) (steps : Nat) :
    arena.closeWithin (steps + 1) position =
      .ok (arena.put position ⟨.closedGroup mark, parent, children⟩, position) := by
  rw [closeWithin, h.node_eq]
  rfl

/-- Any other node is passed on the way up. -/
theorem close_other (h : arena.Laid ((position, node) :: rest))
    (hkind : ∀ mark, node.kind ≠ .openGroup mark) (steps : Nat) :
    arena.closeWithin (steps + 1) position =
      match node.parent with
      | some above => arena.closeWithin steps above
      | none => .error .unmatchedClosing := by
  rw [closeWithin, h.node_eq]
  obtain ⟨kind, parent, children⟩ := node
  cases kind with
  | openGroup mark => exact absurd rfl (hkind mark)
  | _ => rfl

end Arena.Laid

/-! ## Trees with positions -/

/-- A query tree with the positions of its nodes. -/
inductive Site where
  | node (position : Nat) (kind : Kind) (children : List Site)

namespace Site

/-- The position of the top. -/
def position : Site → Nat
  | .node position _ _ => position

mutual

/-- The tree without the positions. -/
def tree : Site → Tree
  | .node _ kind children => .node kind (treeEach children)

/-- Some trees without the positions. -/
def treeEach : List Site → List Tree
  | [] => []
  | site :: sites => site.tree :: treeEach sites

end

mutual

/-- The nodes of a tree at their positions, when the top has a parent. -/
def entries (parent : Option Nat) : Site → List (Nat × Node)
  | .node position kind children =>
      (position, ⟨kind, parent, children.map Site.position⟩) :: entriesEach (some position) children

/-- The nodes of some trees at their positions, when their tops have one parent. -/
def entriesEach (parent : Option Nat) : List Site → List (Nat × Node)
  | [] => []
  | site :: sites => site.entries parent ++ entriesEach parent sites

end

/-- Trees that follow on one another lose their positions one after the other. -/
theorem tree_each_append (sites others : List Site) :
    treeEach (sites ++ others) = treeEach sites ++ treeEach others := by
  induction sites with
  | nil => rfl
  | cons site sites ih => simp only [List.cons_append, treeEach, ih]

/-- The nodes of trees that follow on one another. -/
theorem entries_each_append (parent : Option Nat) (sites others : List Site) :
    entriesEach parent (sites ++ others) = entriesEach parent sites ++ entriesEach parent others := by
  induction sites with
  | nil => rfl
  | cons site sites ih => simp only [List.cons_append, entriesEach, ih, List.append_assoc]

/-- The tops of trees are among their nodes. -/
theorem position_mem {sites : List Site} {position : Nat}
    (h : position ∈ sites.map Site.position) (parent : Option Nat) :
    position ∈ (entriesEach parent sites).map Prod.fst := by
  induction sites with
  | nil => simp at h
  | cons site sites ih =>
      obtain ⟨top, kind, children⟩ := site
      rw [List.map_cons, List.mem_cons] at h
      rcases h with rfl | h
      · simp [entriesEach, entries]
      · simp [entriesEach, ih h]

end Site

/-- A level of an outline with positions. -/
structure Stage where
  position : Nat
  kind : Kind
  earlier : List Site

namespace Stage

/-- The level without the positions. -/
def level (stage : Stage) : Level := ⟨stage.kind, Site.treeEach stage.earlier⟩

/-- The tree at a level when the current subtree is complete. -/
def around (stage : Stage) (inner : Site) : Site :=
  .node stage.position stage.kind (stage.earlier ++ [inner])

/-- The position of the node above the current one. -/
def above : List Stage → Nat
  | [] => 0
  | stage :: _ => stage.position

/-- The node above the current one, which stands at a position. -/
def holder (inner : Nat) : List Stage → Node
  | [] => ⟨.root, none, [inner]⟩
  | stage :: stages =>
      ⟨stage.kind, some (above stages), stage.earlier.map Site.position ++ [inner]⟩

/-- All nodes that are neither in the current subtree nor right above it. -/
def surroundings : List Stage → List (Nat × Node)
  | [] => []
  | stage :: stages =>
      Site.entriesEach (some stage.position) stage.earlier ++
        (above stages, holder stage.position stages) :: surroundings stages

/-- The whole tree with a subtree under some levels. -/
def enclose (inner : Site) : List Stage → Site
  | [] => .node 0 .root [inner]
  | stage :: stages => enclose (stage.around inner) stages

/-- A level and the tree at it lose their positions alike. -/
theorem tree_around (stage : Stage) (inner : Site) :
    (stage.around inner).tree = stage.level.around inner.tree := by
  simp only [around, Site.tree, Site.tree_each_append, Site.treeEach, Level.around, level]

/-- The whole tree loses its positions with its levels. -/
theorem tree_enclose (inner : Site) (stages : List Stage) :
    (enclose inner stages).tree = Outline.enclose inner.tree (stages.map level) := by
  induction stages generalizing inner with
  | nil => rfl
  | cons stage stages ih => rw [enclose, ih, tree_around, List.map_cons, Outline.enclose]

/-- The node above the current one is linked to another node in its place. -/
theorem relink_holder (place : Nat) {inner : Nat} {stages : List Stage}
    (h : inner ∉ (surroundings stages).map Prod.fst) :
    { holder inner stages with
      children := (holder inner stages).children.map fun child =>
        if child = inner then place else child } = holder place stages := by
  cases stages with
  | nil => simp [holder]
  | cons stage stages =>
      have hkept : (stage.earlier.map Site.position).map
          (fun child => if child = inner then place else child) =
            stage.earlier.map Site.position := by
        refine (List.map_congr_left fun child hmem => ?_).trans (List.map_id _)
        have hne : child ≠ inner := by
          rintro rfl
          apply h
          simp [surroundings, Site.position_mem hmem]
        simp [hne]
      simp [holder, hkept]

end Stage

/-! ## The array of an outline -/

/-- An outline with positions. -/
structure Plan where
  focus : Site
  stages : List Stage

namespace Plan

/-- The outline without the positions. -/
def outline (plan : Plan) : Outline := ⟨plan.focus.tree, plan.stages.map Stage.level⟩

/-- The nodes of an outline at their positions. -/
def entries (plan : Plan) : List (Nat × Node) :=
  plan.focus.entries (some (Stage.above plan.stages)) ++
    (Stage.above plan.stages, Stage.holder plan.focus.position plan.stages) ::
      Stage.surroundings plan.stages

/-- The nodes are the same ones when the current subtree is taken one level up. -/
theorem entries_around (focus : Site) (stage : Stage) (stages : List Stage) :
    (Plan.mk focus (stage :: stages)).entries.Perm (Plan.mk (stage.around focus) stages).entries := by
  simp only [entries, Stage.around, Site.entries, Site.entries_each_append, Site.entriesEach,
    Site.position, Stage.surroundings, Stage.above, Stage.holder, List.map_append, List.map_cons,
    List.map_nil, List.append_nil, List.cons_append]
  refine List.perm_middle.trans (.cons _ ?_)
  rw [← List.append_assoc]
  exact List.perm_append_comm.append_right _

/-- The nodes of an outline are those of its whole tree. -/
theorem entries_enclose (focus : Site) (stages : List Stage) :
    (Plan.mk focus stages).entries.Perm ((Stage.enclose focus stages).entries none) := by
  induction stages generalizing focus with
  | nil =>
      simp only [entries, Stage.above, Stage.holder, Stage.surroundings, Stage.enclose, Site.entries,
        Site.entriesEach, List.map_cons, List.map_nil, List.append_nil]
      exact List.perm_append_comm
  | cons stage stages ih => exact (entries_around focus stage stages).trans (ih (stage.around focus))

/-- There is a node for each level and two more. -/
theorem length_stages_lt (plan : Plan) : plan.stages.length + 1 < plan.entries.length := by
  obtain ⟨⟨position, kind, children⟩, stages⟩ := plan
  have hsurroundings (stages : List Stage) :
      stages.length ≤ (Stage.surroundings stages).length := by
    induction stages with
    | nil => simp
    | cons stage stages ih =>
        simp only [Stage.surroundings, List.length_cons, List.length_append]
        omega
  have hlength := hsurroundings stages
  simp only [entries, Site.entries, List.length_append, List.length_cons]
  omega

end Plan

/-- The array holds the tree under construction, and the current node is that of the outline. -/
def Growth.Follows (growth : Growth) (outline : Outline) : Prop :=
  ∃ plan : Plan, plan.outline = outline ∧ growth.2 = plan.focus.position ∧
    growth.1.Laid plan.entries

/-- Building succeeds where there is a next outline, and the array then follows it. -/
def Reaches (result : Except Rejection Growth) : Option Outline → Prop
  | none => result = .error .unmatchedClosing
  | some outline => ∃ growth, result = .ok growth ∧ growth.Follows outline

/-- The nearest open group is found and closed, or there is none. -/
theorem Arena.Laid.close {arena : Arena} {focus : Site} {stages : List Stage} {steps : Nat}
    (h : arena.Laid (Plan.mk focus stages).entries) (hsteps : stages.length + 1 < steps) :
    Reaches (arena.closeWithin steps focus.position)
      (Outline.close focus.tree (stages.map Stage.level)) := by
  induction stages generalizing focus steps with
  | nil =>
      obtain ⟨steps, rfl⟩ : ∃ more, steps = more + 2 := ⟨steps - 2, by simp at hsteps; omega⟩
      obtain ⟨position, kind, children⟩ := focus
      by_cases hopen : ∃ mark, kind = .openGroup mark
      · obtain ⟨mark, rfl⟩ := hopen
        exact ⟨_, h.close_open _, ⟨.node position (.closedGroup mark) children, []⟩, rfl, rfl,
          h.put _⟩
      · have hkind (mark : Char) : kind ≠ .openGroup mark := fun heq => hopen ⟨mark, heq⟩
        have hroot := h.perm (Plan.entries_enclose _ _)
        rw [Site.tree, List.map_nil, Outline.close_nil hkind]
        calc arena.closeWithin (steps + 2) position
          _ = arena.closeWithin (steps + 1) 0 := h.close_other hkind _
          _ = .error .unmatchedClosing := hroot.close_other (fun mark => by simp) _
  | cons stage stages ih =>
      obtain ⟨steps, rfl⟩ : ∃ more, steps = more + 1 := ⟨steps - 1, by omega⟩
      obtain ⟨position, kind, children⟩ := focus
      by_cases hopen : ∃ mark, kind = .openGroup mark
      · obtain ⟨mark, rfl⟩ := hopen
        exact ⟨_, h.close_open _, ⟨.node position (.closedGroup mark) children, stage :: stages⟩, rfl,
          rfl, h.put _⟩
      · have hkind (mark : Char) : kind ≠ .openGroup mark := fun heq => hopen ⟨mark, heq⟩
        have hup : arena.closeWithin (steps + 1) position = arena.closeWithin steps stage.position :=
          h.close_other hkind _
        have hleft : stages.length + 1 < steps := by
          rw [List.length_cons] at hsteps
          omega
        have hnext := ih (h.perm (Plan.entries_around _ stage stages)) hleft
        rw [Stage.tree_around] at hnext
        rw [Site.tree, List.map_cons, Outline.close_cons hkind, ← Site.tree]
        exact hup ▸ hnext

namespace Growth.Follows

variable {growth : Growth} {outline : Outline}

/-- The array at the start. -/
theorem start : Growth.Follows (Arena.start, 1) Outline.start := by
  refine ⟨⟨.node 1 .empty [], []⟩, rfl, rfl, by decide, ?_, rfl⟩
  simp [Plan.entries, Site.entries, Site.entriesEach, Stage.above, Stage.holder, Stage.surroundings,
    Site.position, Arena.start]

/-- A group or a prefix is opened. -/
theorem descend (h : growth.Follows outline) (kind : Kind) :
    Reaches (growth.1.open growth.2 kind) (some (outline.descend kind)) := by
  obtain ⟨⟨⟨position, old, children⟩, stages⟩, rfl, hposition, hlaid⟩ := h
  obtain ⟨grown, fresh, hopen, hgrown⟩ := hlaid.open_node kind
  rw [hposition]
  exact ⟨_, hopen, ⟨.node fresh .empty [], ⟨position, kind, children⟩ :: stages⟩, rfl, rfl, hgrown⟩

/-- An operator is put in. -/
theorem join (h : growth.Follows outline) (joiner : Operator) :
    Reaches (growth.1.splice growth.2 joiner) (outline.step (.operator joiner)) := by
  obtain ⟨⟨⟨position, kind, children⟩, stages⟩, rfl, hposition, hlaid⟩ := h
  -- The nodes of the current subtree are moved behind the node above it.
  have hnodes : (Plan.mk (.node position kind children) stages).entries.Perm
      ((position, ⟨kind, some (Stage.above stages), children.map Site.position⟩) ::
        (Stage.above stages, Stage.holder position stages) ::
        (Site.entriesEach (some position) children ++ Stage.surroundings stages)) :=
    List.perm_middle.cons _
  have hlaid := hlaid.perm hnodes
  have hother : position ∉ (Stage.surroundings stages).map Prod.fst := by
    have hnodup := hlaid.nodup
    simp only [List.map_cons, List.map_append, List.nodup_cons, List.mem_cons, List.mem_append,
      not_or] at hnodup
    exact hnodup.1.2.2
  obtain ⟨grown, place, fresh, hsplice, hgrown⟩ := hlaid.splice rfl joiner
  rw [Stage.relink_holder place hother] at hgrown
  rw [hposition]
  refine ⟨_, hsplice, ⟨.node fresh .empty [],
    ⟨place, .operator joiner, [.node position kind children]⟩ :: stages⟩, rfl, rfl, hgrown.perm ?_⟩
  simp only [Plan.entries, Site.entries, Site.entriesEach, Stage.above, Stage.holder,
    Stage.surroundings, Site.position, List.map_cons, List.map_nil, List.append_nil, List.nil_append,
    List.cons_append]
  exact ((List.perm_middle.symm.cons _).cons _).cons _

/-- One token is built in. -/
theorem step (h : growth.Follows outline) (token : Token) :
    Reaches (growth.step token) (outline.step token) := by
  cases token with
  | text string =>
      obtain ⟨⟨⟨position, kind, children⟩, stages⟩, rfl, hposition, hlaid⟩ := h
      refine ⟨(growth.1.put position ⟨.text string, some (Stage.above stages),
        children.map Site.position⟩, position), ?_,
        ⟨.node position (.text string) children, stages⟩, rfl, rfl, hlaid.put _⟩
      have hnode : growth.1.node position = _ := hlaid.node_eq
      simp only [Growth.step, hposition, Site.position, hnode]
      rfl
  | opening mark => exact h.descend (.openGroup mark)
  | aspect chosen => exact h.descend (.aspect chosen)
  | operator joiner => exact h.join joiner
  | closing mark =>
      obtain ⟨⟨focus, stages⟩, rfl, hposition, hlaid⟩ := h
      have hsize := Plan.length_stages_lt ⟨focus, stages⟩
      rw [hlaid.size] at hsize
      simp only [Growth.step, Arena.close, hposition]
      exact hlaid.close hsize

/-- All tokens are built in. -/
theorem read (h : growth.Follows outline) (tokens : List Token) :
    Reaches (tokens.foldlM Growth.step growth) (outline.read tokens) := by
  induction tokens generalizing growth outline with
  | nil => exact ⟨growth, rfl, h⟩
  | cons token tokens ih =>
      have hstep := h.step token
      rw [List.foldlM_cons, Outline.read, List.foldlM_cons]
      cases hreached : outline.step token with
      | none =>
          rw [hreached] at hstep
          rw [show growth.step token = _ from hstep]
          rfl
      | some reached =>
          rw [hreached] at hstep
          obtain ⟨grown, hgrown, hfollows⟩ := hstep
          rw [hgrown]
          exact ih hfollows

end Growth.Follows

/-! ## The tree in the array -/

/-- The array shows a tree below a position: its nodes stand where the nodes above them say. -/
inductive Arena.Shows (arena : Arena) : Nat → Tree → Prop where
  | node {position : Nat} {node : Node} {trees : List Tree}
      (found : arena.nodes[position]? = some node)
      (children : List.Forall₂ arena.Shows node.children trees) :
      arena.Shows position (.node node.kind trees)

mutual

/-- An array with the nodes of a tree shows it. -/
theorem Arena.shows_site (arena : Arena) (parent : Option Nat) : (site : Site) →
    (∀ entry ∈ site.entries parent, arena.nodes[entry.1]? = some entry.2) →
    arena.Shows site.position site.tree
  | .node position kind children, hfound => by
      rw [Site.entries] at hfound
      have htop := hfound _ List.mem_cons_self
      have hbelow := arena.shows_sites (some position) children fun entry hmem =>
        hfound entry (List.mem_cons_of_mem _ hmem)
      exact .node htop hbelow

/-- An array with the nodes of some trees shows them. -/
theorem Arena.shows_sites (arena : Arena) (parent : Option Nat) : (sites : List Site) →
    (∀ entry ∈ Site.entriesEach parent sites, arena.nodes[entry.1]? = some entry.2) →
    List.Forall₂ arena.Shows (sites.map Site.position) (Site.treeEach sites)
  | [], _ => .nil
  | site :: sites, hfound => by
      rw [Site.entriesEach] at hfound
      have hfirst := arena.shows_site parent site fun entry hmem =>
        hfound entry (List.mem_append_left _ hmem)
      have hothers := arena.shows_sites parent sites fun entry hmem =>
        hfound entry (List.mem_append_right _ hmem)
      exact .cons hfirst hothers

end

mutual

/-- An array with the nodes of a tree gives it back within as many levels as the tree has nodes. -/
theorem Arena.tree_within_site (arena : Arena) (parent : Option Nat) : (levels : Nat) →
    (site : Site) → (∀ entry ∈ site.entries parent, arena.nodes[entry.1]? = some entry.2) →
    (site.entries parent).length ≤ levels → arena.treeWithin levels site.position = site.tree
  | 0, .node position kind children, _, hlevels => by simp [Site.entries] at hlevels
  | levels + 1, .node position kind children, hfound, hlevels => by
      rw [Site.entries] at hfound hlevels
      have htop := hfound _ List.mem_cons_self
      have hbelow := arena.tree_within_sites (some position) levels children
        (fun entry hmem => hfound entry (List.mem_cons_of_mem _ hmem)) (Nat.le_of_succ_le_succ hlevels)
      simp only [treeWithin, Site.position, htop, Site.tree, hbelow]

/-- An array with the nodes of some trees gives them back within as many levels as they have
nodes. -/
theorem Arena.tree_within_sites (arena : Arena) (parent : Option Nat) (levels : Nat) :
    (sites : List Site) →
    (∀ entry ∈ Site.entriesEach parent sites, arena.nodes[entry.1]? = some entry.2) →
    (Site.entriesEach parent sites).length ≤ levels →
    ((sites.map Site.position).map fun child => arena.treeWithin levels child) = Site.treeEach sites
  | [], _, _ => rfl
  | site :: sites, hfound, hlevels => by
      rw [Site.entriesEach] at hfound hlevels
      rw [List.length_append] at hlevels
      have hfirst := arena.tree_within_site parent levels site
        (fun entry hmem => hfound entry (List.mem_append_left _ hmem)) (by omega)
      have hothers := arena.tree_within_sites parent levels sites
        (fun entry hmem => hfound entry (List.mem_append_right _ hmem)) (by omega)
      rw [List.map_cons, List.map_cons, hfirst, hothers, Site.treeEach]

end

/-- Whatever is under the levels, the root is on top. -/
theorem Stage.enclose_eq (focus : Site) (stages : List Stage) :
    ∃ query, enclose focus stages = .node 0 .root [query] := by
  induction stages generalizing focus with
  | nil => exact ⟨focus, rfl⟩
  | cons stage stages ih => exact ih (stage.around focus)

/-- The array of an outline shows its whole tree, under the root. -/
theorem Growth.Follows.whole {growth : Growth} {outline : Outline} (h : growth.Follows outline) :
    growth.1.toTree = outline.whole ∧ growth.1.Shows 0 outline.whole ∧
      ∃ children, growth.1.node 0 = .ok ⟨.root, none, children⟩ := by
  obtain ⟨⟨focus, stages⟩, rfl, -, hlaid⟩ := h
  have hlaid := hlaid.perm (Plan.entries_enclose focus stages)
  have htree : (Stage.enclose focus stages).tree = (Plan.mk focus stages).outline.whole :=
    Stage.tree_enclose focus stages
  obtain ⟨query, hroot⟩ := Stage.enclose_eq focus stages
  rw [← htree]
  rw [hroot] at hlaid ⊢
  exact ⟨growth.1.tree_within_site none _ _ hlaid.found (Nat.le_of_eq hlaid.size),
    growth.1.shows_site none _ hlaid.found, _, hlaid.node_eq⟩

/-- Tokens whose outline can be read to the end grow into the tree of the outline. -/
theorem grow_of_read {tokens : List Token} {outline : Outline}
    (h : Outline.start.read tokens = some outline) :
    ∃ growth, grow tokens = .ok growth ∧ growth.Follows outline := by
  have hreaches := Growth.Follows.start.read tokens
  rw [h] at hreaches
  exact hreaches

/-- Tokens that are built in to the end are accepted unless their tree is too deep. -/
theorem Growth.Follows.build_eq {growth : Growth} {outline : Outline} {tokens : List Token}
    (h : growth.Follows outline) (hgrow : grow tokens = .ok growth) :
    build tokens = if maxDepth < growth.1.toTree.depth then .error .tooDeep else .ok growth.1 := by
  obtain ⟨-, -, children, hroot⟩ := h.whole
  simp only [build, hgrow, hroot, bind, Except.bind]
  split <;> rfl

/-- A query whose outline can be read to the end has the tree of the outline, unless it is too
deep. -/
theorem build_of_read {tokens : List Token} {outline : Outline}
    (h : Outline.start.read tokens = some outline) :
    ∃ arena : Arena, arena.toTree = outline.whole ∧ arena.Shows 0 outline.whole ∧
      build tokens = if maxDepth < outline.whole.depth then .error .tooDeep else .ok arena := by
  obtain ⟨growth, hgrow, hfollows⟩ := grow_of_read h
  obtain ⟨htree, hshows, -⟩ := hfollows.whole
  exact ⟨growth.1, htree, hshows, htree ▸ hfollows.build_eq hgrow⟩

/-- A query whose outline cannot be read to the end has a closing mark too many. -/
theorem build_of_not_read {tokens : List Token} (h : Outline.start.read tokens = none) :
    build tokens = .error .unmatchedClosing := by
  have hreaches := Growth.Follows.start.read tokens
  rw [h] at hreaches
  have hgrow : grow tokens = .error .unmatchedClosing := hreaches
  rw [build, hgrow]
  rfl

/-- The array of an accepted query shows the tree that is taken from it, whole. -/
theorem shows_of_build {tokens : List Token} {arena : Arena} (h : build tokens = .ok arena) :
    arena.Shows 0 arena.toTree := by
  cases hread : Outline.start.read tokens with
  | none =>
      rw [build_of_not_read hread] at h
      cases h
  | some outline =>
      obtain ⟨shown, htree, hshows, hbuild⟩ := build_of_read hread
      rw [hbuild] at h
      split at h
      · cases h
      · obtain rfl := Except.ok.inj h
        exact htree ▸ hshows

end Notekeeper.Query
