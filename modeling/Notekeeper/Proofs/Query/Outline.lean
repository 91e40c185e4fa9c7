import Notekeeper.Query.Arena

/-!
# Query trees under construction

An `Outline` is a query tree that is being built from left to right: the current subtree and the
nodes above it, each with the children that are complete. The current subtree always lies in the
last child of a node, and the root is above them all, so a closing mark is the only token that may
not fit (`Outline.step`).
-/

namespace Notekeeper.Query

/-- A node above the current subtree with its complete children; the current subtree is in another
child, which is its last. -/
structure Level where
  kind : Kind
  earlier : List Tree

/-- The tree at a level when the current subtree is complete. -/
def Level.around (level : Level) (inner : Tree) : Tree :=
  .node level.kind (level.earlier ++ [inner])

/-- A query tree under construction. -/
structure Outline where
  /-- The current subtree. -/
  focus : Tree
  /-- The nodes above it, from the nearest one up to the child of the root. -/
  levels : List Level

namespace Outline

/-- The root over one empty place. -/
def start : Outline := ⟨.node .empty [], []⟩

/-- The whole tree with a subtree under some levels. -/
def enclose (inner : Tree) : List Level → Tree
  | [] => .node .root [inner]
  | level :: levels => enclose (level.around inner) levels

/-- The whole tree. -/
def whole (outline : Outline) : Tree :=
  enclose outline.focus outline.levels

/-- The current node becomes a group or a prefix over an empty place, which comes after the children
that the node has already. -/
def descend (outline : Outline) (kind : Kind) : Outline :=
  ⟨.node .empty [], ⟨kind, outline.focus.children⟩ :: outline.levels⟩

/-- The nearest open group at or above the current node is closed. -/
def close : Tree → List Level → Option Outline
  | .node (.openGroup mark) children, levels => some ⟨.node (.closedGroup mark) children, levels⟩
  | .node _ _, [] => none
  | focus, level :: levels => close (level.around focus) levels

/-- One token is built in. -/
def step (outline : Outline) : Token → Option Outline
  | .text string => some ⟨.node (.text string) outline.focus.children, outline.levels⟩
  | .opening mark => some (outline.descend (.openGroup mark))
  | .aspect chosen => some (outline.descend (.aspect chosen))
  | .operator joiner =>
      some ⟨.node .empty [], ⟨.operator joiner, [outline.focus]⟩ :: outline.levels⟩
  | .closing _ => close outline.focus outline.levels

/-- Tokens are built in from left to right. -/
def read (outline : Outline) (tokens : List Token) : Option Outline :=
  tokens.foldlM step outline

/-- Reading goes on behind a token that fits. -/
theorem read_cons {outline next : Outline} {token : Token} (h : outline.step token = some next)
    (tokens : List Token) : outline.read (token :: tokens) = next.read tokens := by
  rw [read, List.foldlM_cons, h]
  rfl

/-- Tokens are read one after the other. -/
theorem read_append (outline : Outline) (tokens more : List Token) :
    outline.read (tokens ++ more) = (outline.read tokens).bind fun reached => reached.read more :=
  List.foldlM_append

/-- An open group is closed where it is met. -/
theorem close_open (mark : Char) (children : List Tree) (levels : List Level) :
    close (.node (.openGroup mark) children) levels =
      some ⟨.node (.closedGroup mark) children, levels⟩ := by
  cases levels <;> rfl

/-- A node that is not an open group is passed on the way up. -/
theorem close_cons {kind : Kind} (h : ∀ mark, kind ≠ .openGroup mark) (children : List Tree)
    (level : Level) (levels : List Level) :
    close (.node kind children) (level :: levels) =
      close (level.around (.node kind children)) levels := by
  cases kind with
  | openGroup mark => exact absurd rfl (h mark)
  | _ => rfl

/-- Without an open group at or above the current node nothing is closed. -/
theorem close_nil {kind : Kind} (h : ∀ mark, kind ≠ .openGroup mark) (children : List Tree) :
    close (.node kind children) [] = none := by
  cases kind with
  | openGroup mark => exact absurd rfl (h mark)
  | _ => rfl

end Outline

end Notekeeper.Query
