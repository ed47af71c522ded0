import TreeInspector.Layout.Geometry
import TreeInspector.Source.Tree

/-! # Layout of a tree

Every node is a one-line text box. Leaves are packed from left to right, parents are centered over
their children, and every depth has its own row. Texts are measured first, from the leaves up; then
boxes are placed in pre-order with an explicit stack of the nodes still to place. Holes are left
out, and a placed node is named by its position among the children that are present.
-/

namespace TreeInspector

open Scalar

variable {α : Type} [Scalar α]

/-- The width and height of a text at a font size. -/
abbrev Measurer (α : Type) := String → α → α × α

/-- Measures without a font: six tenths of the font size per character and at least one character,
one line of twelve tenths. -/
def estimate : Measurer α := fun text fontSize =>
  (ofNat (Nat.max 1 text.length) * fontSize * tenths 6, fontSize * tenths 12)

/-- The distances of a layout. -/
structure Metrics (α : Type) where
  fontSize : α
  levelGap : α
  nodeGap : α
  padX : α
  padY : α

namespace Metrics

/-- The distances at scale one. -/
def standard : Metrics α := ⟨ofNat 11, ofNat 17, ofNat 7, ofNat 2, ofNat 1⟩

/-- All distances times a scale. -/
def scaled (scale : α) : Metrics α :=
  let base : Metrics α := standard
  { fontSize := base.fontSize * scale
    levelGap := base.levelGap * scale
    nodeGap := base.nodeGap * scale
    padX := base.padX * scale
    padY := base.padY * scale }

end Metrics

/-- A node with its text, its own error mark, the width of its box, the width reserved for it with
everything below it, and its children. -/
inductive Measured (α : Type) where
  | node (text : String) (flagged : Bool) (width span : α) (children : List (Measured α))

namespace Measured

/-- The text in the box. -/
def text : Measured α → String
  | .node text .. => text

/-- Whether the node itself is marked as an error. -/
def flagged : Measured α → Bool
  | .node _ flagged .. => flagged

/-- The width of the box. -/
def width : Measured α → α
  | .node _ _ width .. => width

/-- The width reserved for the node and everything below it. -/
def span : Measured α → α
  | .node _ _ _ span _ => span

/-- The children in order. -/
def children : Measured α → List (Measured α)
  | .node _ _ _ _ children => children

/-- The width of neighbouring spans with the gaps between them. -/
def rowWidth (metrics : Metrics α) (nodes : List (Measured α)) : α :=
  sum (nodes.map span) + metrics.nodeGap * ofNat (nodes.length - 1)

mutual

/-- Measure a tree, or report the first crash in pre-order. -/
def measure (rules : RuleNames) (measurer : Measurer α) (metrics : Metrics α) :
    SourceTree → Except Crash (Measured α)
  | .node _ _ (some crash) _ => .error crash
  | .node label flagged none slots => do
    let text := rules.textFor label
    let width := (measurer text metrics.fontSize).1 + ofNat 2 * metrics.padX
    let children ← measureSlots rules measurer metrics slots
    return .node text flagged width (larger width (rowWidth metrics children)) children

/-- Measure the children that are present. -/
def measureSlots (rules : RuleNames) (measurer : Measurer α) (metrics : Metrics α) :
    List (Option SourceTree) → Except Crash (List (Measured α))
  | [] => .ok []
  | none :: rest => measureSlots rules measurer metrics rest
  | some child :: rest => do
    let first ← measure rules measurer metrics child
    let others ← measureSlots rules measurer metrics rest
    return first :: others

end

mutual

/-- The number of measured nodes. -/
def size : Measured α → Nat
  | .node _ _ _ _ children => 1 + sizeAll children

/-- The number of nodes of a list of measured nodes. -/
def sizeAll : List (Measured α) → Nat
  | [] => 0
  | first :: rest => size first + sizeAll rest

end

end Measured

/-- A placed node. Its parent is named by its position in the layout. -/
structure Placed (α : Type) where
  path : NodePath
  text : String
  box : Box α
  flagged : Bool
  parent : Option Nat
  depth : Nat

/-- A node still to be placed: where it goes and what it hangs from. -/
structure Pending (α : Type) where
  node : Measured α
  path : NodePath
  left : α
  depth : Nat
  parent : Option Nat

namespace Pending

/-- The height of every box. -/
def boxHeight (measurer : Measurer α) (metrics : Metrics α) : α :=
  (measurer "X" metrics.fontSize).2 + ofNat 2 * metrics.padY

/-- Place a node in the middle of its span, in the row of its depth. -/
def place (metrics : Metrics α) (height : α) (pending : Pending α) : Placed α :=
  let middle := pending.left + pending.node.span * tenths 5
  let top := metrics.nodeGap + ofNat pending.depth * (height + metrics.levelGap)
  { path := pending.path
    text := pending.node.text
    box := ⟨⟨middle - pending.node.width * tenths 5, top⟩,
      ⟨middle + pending.node.width * tenths 5, top + height⟩⟩
    flagged := pending.node.flagged
    parent := pending.parent
    depth := pending.depth }

/-- The nodes of a row from a left edge on, each span followed by a gap. -/
def row (metrics : Metrics α) (path : NodePath) (depth : Nat) (parent : Option Nat) :
    Nat → α → List (Measured α) → List (Pending α)
  | _, _, [] => []
  | position, left, first :: rest =>
    ⟨first, path.child position, left, depth, parent⟩ ::
      row metrics path depth parent (position + 1) (left + (first.span + metrics.nodeGap)) rest

/-- The children of a node at a position of the layout, centered under its span. -/
def below (metrics : Metrics α) (position : Nat) (pending : Pending α) : List (Pending α) :=
  let children := pending.node.children
  let left := pending.left +
    (pending.node.span - Measured.rowWidth metrics children) * tenths 5
  row metrics pending.path (pending.depth + 1) (some position) 0 left children

/-- Place the nodes of a stack and everything below them, a node before its children. The fuel is
the number of nodes; the position is that of the next placed node. -/
def placeAll (metrics : Metrics α) (height : α) : Nat → Nat → List (Pending α) → List (Placed α)
  | 0, _, _ | _, _, [] => []
  | fuel + 1, position, next :: stack =>
    next.place metrics height ::
      placeAll metrics height fuel (position + 1) (next.below metrics position ++ stack)

end Pending

/-- The boxes of a subtree in drawing order, the size of the drawing and the font size. -/
structure Layout (α : Type) where
  nodes : List (Placed α)
  size : Point α
  fontSize : α

namespace Layout

/-- The drawing of nothing. -/
def empty : Layout α :=
  ⟨[], ⟨ofNat 0, ofNat 0⟩, (Metrics.standard : Metrics α).fontSize⟩

/-- The deepest row, counting from zero. -/
def deepest (nodes : List (Placed α)) : Nat := nodes.foldl (fun depth node => Nat.max depth node.depth) 0

/-- Place a measured tree whose root has the given path. -/
def ofMeasured (measurer : Measurer α) (metrics : Metrics α) (path : NodePath)
    (tree : Measured α) : Layout α :=
  let height := Pending.boxHeight measurer metrics
  let margin := metrics.nodeGap
  let nodes := Pending.placeAll metrics height tree.size 0 [⟨tree, path, margin, 0, none⟩]
  let levels : α := ofNat (deepest nodes + 1)
  { nodes
    size := ⟨tree.span + ofNat 2 * margin,
      ofNat 2 * margin + levels * height + (levels - ofNat 1) * metrics.levelGap⟩
    fontSize := metrics.fontSize }

/-- Lay out the subtree at a path; a path that leads nowhere gives the drawing of nothing. -/
def ofTree (root : SourceTree) (focus : NodePath) (rules : RuleNames) (measurer : Measurer α)
    (metrics : Metrics α) : Except Crash (Layout α) :=
  match root.resolve? focus with
  | none => .ok empty
  | some top => (Measured.measure rules measurer metrics top).map (ofMeasured measurer metrics focus)

/-- The boxes of every parent and child, in the order of the children. -/
def edges (layout : Layout α) : List (Box α × Box α) :=
  layout.nodes.filterMap fun node =>
    (node.parent.bind fun parent => layout.nodes[parent]?).map fun parent => (parent.box, node.box)

/-- The first node whose box contains a point. -/
def nodeAt? (layout : Layout α) (point : Point α) : Option (Placed α) :=
  layout.nodes.find? fun node => node.box.contains point

end Layout

end TreeInspector
