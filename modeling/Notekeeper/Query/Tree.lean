import Notekeeper.Query.Token

/-!
# Query trees

The tree of a query. A node is the root, a text, an operator with its two operands, a group or a
prefix with its content, or a place that nothing has filled yet. `Tree.lines` draws a tree with one
node a line.
-/

namespace Notekeeper.Query

/-- What stands at a node of a query tree. -/
inductive Kind where
  /-- The node above the whole query. -/
  | root
  /-- A place still to be filled. -/
  | empty
  /-- A text to search for. -/
  | text (string : String)
  /-- A group whose closing mark has not been met. -/
  | openGroup (mark : Char)
  /-- A group whose closing mark has been met. -/
  | closedGroup (mark : Char)
  /-- An operator over its two operands. -/
  | operator (joiner : Operator)
  /-- A prefix over what it governs. -/
  | aspect (chosen : Aspect)
  deriving DecidableEq, Repr

/-- The name of an operator in a drawing of the tree. -/
def Operator.title : Operator → String
  | and => "And"
  | or => "Or"

/-- The name of an aspect in a drawing of the tree. -/
def Aspect.title : Aspect → String
  | fulltext => "Fulltext"
  | folder => "Folder"
  | tag => "Tag"

/-- The node in a drawing of the tree. -/
def Kind.describe : Kind → String
  | root => "ExecRoot"
  | empty => "Empty"
  | text string => "SearchString(" ++ Text.quoted string ++ ")"
  | openGroup mark => "Opening(" ++ Text.quotedSingle mark ++ ")"
  | closedGroup mark => "Closed(" ++ Text.quotedSingle mark ++ ")"
  | operator joiner => "Operator(" ++ joiner.title ++ ")"
  | aspect chosen => "SearchType(" ++ chosen.title ++ ")"

/-- A query tree. -/
inductive Tree where
  | node (kind : Kind) (children : List Tree)

/-- What stands at the top of a tree. -/
def Tree.kind : Tree → Kind
  | .node kind _ => kind

/-- The trees below the top of a tree. -/
def Tree.children : Tree → List Tree
  | .node _ children => children

/-- The subtree that a path of child positions leads to. -/
def Tree.at? (tree : Tree) : List Nat → Option Tree
  | [] => some tree
  | position :: path => (tree.children[position]?).bind fun child => child.at? path

mutual

/-- The length of the longest path down from the top, counted in edges. -/
def Tree.depth : Tree → Nat
  | .node _ children => depthBelow children

/-- The length of the longest path into some trees, counted from the node above them. -/
def Tree.depthBelow : List Tree → Nat
  | [] => 0
  | tree :: trees => max (tree.depth + 1) (depthBelow trees)

end

mutual

/-- The nodes with their distance from the top, a node before what is below it, from left to
right. -/
def Tree.listing (distance : Nat) : Tree → List (Nat × Kind)
  | .node kind children => (distance, kind) :: listingBelow (distance + 1) children

/-- The listings of some trees one after another. -/
def Tree.listingBelow (distance : Nat) : List Tree → List (Nat × Kind)
  | [] => []
  | tree :: trees => tree.listing distance ++ listingBelow distance trees

end

/-- A drawing of the tree: a line for each node, indented by its distance from the top. -/
def Tree.draw (tree : Tree) : String :=
  "\n".intercalate ((tree.listing 0).map fun entry =>
    String.ofList (List.replicate entry.1 ' ') ++ entry.2.describe)

end Notekeeper.Query
