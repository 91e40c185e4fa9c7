import Notekeeper.Query.Tree

/-!
# Building the query tree

Tokens are built into a tree whose nodes stand in an array and refer to their parent and children by
position, since an operator is put in above a node that already has its place (`Arena.splice`).
`build` rejects a closing mark without an open group above the current node, and a tree deeper than
`maxDepth`. `Arena.toTree` is the tree that the array describes.
-/

namespace Notekeeper.Query

/-- The greatest depth of a query tree. -/
def maxDepth : Nat := 256

/-- A node with the positions of its parent and its children. -/
structure Node where
  kind : Kind
  parent : Option Nat
  children : List Nat
  deriving DecidableEq, Repr

/-- Nodes that refer to each other by position. The root stands at position 0. -/
structure Arena where
  nodes : Array Node
  deriving DecidableEq, Repr

/-- Why a query has no tree. -/
inductive Rejection where
  /-- A closing mark without an open group above the current node. -/
  | unmatchedClosing
  /-- An operator at a node without parent. -/
  | withoutParent
  /-- A position without a node. -/
  | missingNode
  /-- A node at position 0 that is not the root. -/
  | rootReplaced
  /-- A tree deeper than `maxDepth`. -/
  | tooDeep
  deriving DecidableEq, Repr

/-- The root over one empty place. -/
def Arena.start : Arena :=
  ⟨#[⟨.root, none, [1]⟩, ⟨.empty, some 0, []⟩]⟩

/-- The node at a position. -/
def Arena.node (arena : Arena) (position : Nat) : Except Rejection Node :=
  match arena.nodes[position]? with
  | some node => .ok node
  | none => .error .missingNode

/-- The arena with another node at a position. -/
def Arena.put (arena : Arena) (position : Nat) (node : Node) : Arena :=
  ⟨arena.nodes.setIfInBounds position node⟩

/-- The arena with an empty place as new last child of a node, and the position of that place. -/
def Arena.addChild (arena : Arena) (position : Nat) : Except Rejection (Arena × Nat) := do
  let fresh := arena.nodes.size
  let grown : Arena := ⟨arena.nodes.push ⟨.empty, some position, []⟩⟩
  let node ← grown.node position
  return (grown.put position { node with children := node.children ++ [fresh] }, fresh)

/-- A node becomes a group or a prefix over an empty place. -/
def Arena.open (arena : Arena) (position : Nat) (kind : Kind) :
    Except Rejection (Arena × Nat) := do
  let node ← arena.node position
  (arena.put position { node with kind := kind }).addChild position

/-- An operator takes the place of a node, which becomes its first operand; its second operand is an
empty place. -/
def Arena.splice (arena : Arena) (position : Nat) (joiner : Operator) :
    Except Rejection (Arena × Nat) := do
  let node ← arena.node position
  match node.parent with
  | none => .error .withoutParent
  | some above =>
      let fresh := arena.nodes.size
      let grown : Arena := ⟨arena.nodes.push ⟨.operator joiner, some above, [position]⟩⟩
      let parent ← grown.node above
      let relinked :=
        grown.put above
          { parent with
            children := parent.children.map fun child => if child = position then fresh else child }
      let moved ← relinked.node position
      (relinked.put position { moved with parent := some fresh }).addChild fresh

/-- The nearest open group at or above a node is closed. The way up passes every node at most once,
so the number of nodes bounds it. -/
def Arena.closeWithin (arena : Arena) : Nat → Nat → Except Rejection (Arena × Nat)
  | 0, _ => .error .unmatchedClosing
  | steps + 1, position => do
      let node ← arena.node position
      match node.kind with
      | .openGroup mark =>
          return (arena.put position { node with kind := .closedGroup mark }, position)
      | _ =>
          match node.parent with
          | some above => arena.closeWithin steps above
          | none => .error .unmatchedClosing

/-- The nearest open group at or above a node is closed. -/
def Arena.close (arena : Arena) (position : Nat) : Except Rejection (Arena × Nat) :=
  arena.closeWithin arena.nodes.size position

/-- An arena in which the tokens so far have been built in, and the position of the current node. -/
abbrev Growth := Arena × Nat

/-- One token is built in. -/
def Growth.step (growth : Growth) : Token → Except Rejection Growth
  | .text string => do
      let node ← growth.1.node growth.2
      return (growth.1.put growth.2 { node with kind := .text string }, growth.2)
  | .opening mark => growth.1.open growth.2 (.openGroup mark)
  | .aspect chosen => growth.1.open growth.2 (.aspect chosen)
  | .operator joiner => growth.1.splice growth.2 joiner
  | .closing _ => growth.1.close growth.2

/-- All tokens built in, from left to right. -/
def grow (tokens : List Token) : Except Rejection Growth :=
  tokens.foldlM Growth.step (Arena.start, 1)

/-- The tree below a position, down to a number of levels. -/
def Arena.treeWithin (arena : Arena) : Nat → Nat → Tree
  | 0, _ => .node .empty []
  | levels + 1, position =>
      match arena.nodes[position]? with
      | some node => .node node.kind (node.children.map fun child => arena.treeWithin levels child)
      | none => .node .empty []

/-- The tree below the root. A tree has no more levels than nodes. -/
def Arena.toTree (arena : Arena) : Tree :=
  arena.treeWithin arena.nodes.size 0

/-- The tree of a list of tokens. -/
def build (tokens : List Token) : Except Rejection Arena := do
  let growth ← grow tokens
  let root ← growth.1.node 0
  if maxDepth < growth.1.toTree.depth then .error .tooDeep
  else if root.kind ≠ .root ∨ root.parent ≠ none then .error .rootReplaced
  else return growth.1

end Notekeeper.Query
