import TreeInspector.Source.Tree

/-! # The outline of a source tree

The outline is an owned copy of the shape of a source tree for display. Holes are left out, every
node keeps the path of its source node, and a node is marked when an error lies at or below it.
Finding a node walks the outline's own children, so on a tree with holes a position in the outline
and an index of the source may differ.
-/

namespace TreeInspector

/-- A displayed node: the path of its source, whether an error lies at or below it, and the
displayed children. -/
inductive Outline where
  | node (source : NodePath) (errorBelow : Bool) (children : List Outline)

namespace Outline

/-- The path of the source node. -/
def source : Outline → NodePath
  | .node source .. => source

/-- Whether an error lies at or below the node. -/
def errorBelow : Outline → Bool
  | .node _ errorBelow _ => errorBelow

/-- The displayed children in order. -/
def children : Outline → List Outline
  | .node _ _ children => children

/-- Whether nothing is displayed below the node. -/
def isLeaf (outline : Outline) : Bool := outline.children.isEmpty

mutual

/-- The outline of the tree found at a path, or the first crash in pre-order. -/
def build (path : NodePath) : SourceTree → Except Crash Outline
  | .node _ _ (some crash) _ => .error crash
  | .node _ flagged none slots => do
    let children ← buildSlots path 0 slots
    return .node path (flagged || children.any errorBelow) children

/-- The outlines of the children present in the slots from an index on. -/
def buildSlots (path : NodePath) (index : Nat) : List (Option SourceTree) → Except Crash (List Outline)
  | [] => .ok []
  | none :: rest => buildSlots path (index + 1) rest
  | some child :: rest => do
    let first ← build (path.child index) child
    let others ← buildSlots path (index + 1) rest
    return first :: others

end

/-- The outline of a whole tree. -/
def ofTree (tree : SourceTree) : Except Crash Outline := build [] tree

/-- Follow positions among the displayed children. -/
def descend? : Outline → NodePath → Option Outline
  | outline, [] => some outline
  | outline, position :: rest => outline.children[position]?.bind fun child => descend? child rest

/-- Find the node for a path: the path must pass through this node, and the rest of it is followed
among the displayed children. -/
def find? (outline : Outline) (path : NodePath) : Option Outline :=
  if outline.source.leadsTo path then outline.descend? (path.drop outline.source.depth) else none

mutual

/-- The number of displayed nodes. -/
def nodeCount : Outline → Nat
  | .node _ _ children => 1 + nodeCountAll children

/-- The number of displayed nodes of a list of outlines. -/
def nodeCountAll : List Outline → Nat
  | [] => 0
  | first :: rest => nodeCount first + nodeCountAll rest

end

mutual

/-- The displayed nodes, a node before its children and children in order. -/
def preorder : Outline → List Outline
  | .node source errorBelow children => .node source errorBelow children :: preorderAll children

/-- The displayed nodes of a list of outlines. -/
def preorderAll : List Outline → List Outline
  | [] => []
  | first :: rest => preorder first ++ preorderAll rest

end

mutual

/-- Two outlines with the same paths, marks and shape. -/
def same : Outline → Outline → Bool
  | .node source errorBelow children, .node source' errorBelow' children' =>
    source == source' && errorBelow == errorBelow' && sameAll children children'

/-- Two lists of outlines that are the same one by one. -/
def sameAll : List Outline → List Outline → Bool
  | [], [] => true
  | first :: rest, first' :: rest' => same first first' && sameAll rest rest'
  | _, _ => false

end

mutual

/-- The pre-order list has one entry per node. -/
theorem length_preorder : (outline : Outline) → outline.preorder.length = outline.nodeCount
  | .node _ _ children => by simp [preorder, nodeCount, length_preorderAll children, Nat.add_comm]

theorem length_preorderAll : (outlines : List Outline) →
    (preorderAll outlines).length = nodeCountAll outlines
  | [] => rfl
  | first :: rest => by
    simp [preorderAll, nodeCountAll, length_preorder first, length_preorderAll rest]

end

end Outline

end TreeInspector
