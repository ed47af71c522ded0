import TreeInspector.Outline.Basic
import TreeInspector.Window.Basic

/-! # Rows of the outline

On the screen the outline is shown as rows. A node's children are shown while the node is expanded;
at first only roots are. A node keeps its own state while it is hidden, and every window has states of
its own.
-/

namespace TreeInspector

/-- The nodes, by window and path, whose state differs from the first one. -/
structure Expansion where
  toggled : List (WindowId × NodePath)

namespace Expansion

/-- The first state of everything. -/
def initial : Expansion := ⟨[]⟩

/-- Whether a node shows its children. -/
def isExpanded (expansion : Expansion) (id : WindowId) (path : NodePath) : Bool :=
  path.isRoot != expansion.toggled.contains (id, path)

/-- Expand a collapsed node or collapse an expanded one. -/
def toggle (id : WindowId) (path : NodePath) (expansion : Expansion) : Expansion :=
  if expansion.toggled.contains (id, path) then
    ⟨expansion.toggled.filter fun key => key != (id, path)⟩
  else ⟨(id, path) :: expansion.toggled⟩

/-- Toggling changes the state of the toggled node and of no other. -/
theorem isExpanded_toggle (expansion : Expansion) (id other : WindowId) (path node : NodePath) :
    (expansion.toggle id path).isExpanded other node =
      if other = id ∧ node = path then !expansion.isExpanded other node
      else expansion.isExpanded other node := by
  unfold toggle isExpanded
  by_cases same : other = id ∧ node = path
  · obtain ⟨rfl, rfl⟩ := same
    cases known : expansion.toggled.contains (other, node) <;>
      cases root : NodePath.isRoot node <;>
      simp_all
  · have differs : (other, node) ≠ (id, path) := by
      simpa [Prod.mk.injEq] using same
    rw [if_neg same]
    split <;> simp [List.contains_eq_mem, differs]

end Expansion

namespace Outline

mutual

/-- The nodes shown of an outline, from the top. -/
def visible (isExpanded : NodePath → Bool) : Outline → List Outline
  | .node source errorBelow children =>
    .node source errorBelow children ::
      (if isExpanded source then visibleAll isExpanded children else [])

/-- The nodes shown of a list of outlines. -/
def visibleAll (isExpanded : NodePath → Bool) : List Outline → List Outline
  | [] => []
  | first :: rest => visible isExpanded first ++ visibleAll isExpanded rest

end

end Outline

/-- A row as it is drawn: its text, the colour of the text if it is not that of all texts, and whether the
row is highlighted. -/
structure Row where
  text : String
  color : Option (Nat × Nat × Nat)
  highlighted : Bool

namespace Window

/-- The nodes a window's outline shows, from the top. -/
def rows (window : Window) (expansion : Expansion) : List Outline :=
  window.outline.visible (expansion.isExpanded window.id)

/-- The icon in front of a node's text, where rows show icons. -/
def icon (shown : Outline) : String :=
  if showsIcons then (if shown.isLeaf then "🗋 " else "🗀 ") else ""

/-- The row of a node. -/
def row (window : Window) (shown : Outline) : Row where
  text := icon shown ++ window.session.nodeText shown.source
  color := if shown.errorBelow then some errorColor else none
  highlighted := window.selected == some shown.source

/-- The rows a window's outline draws, from the top. -/
def drawnRows (window : Window) (expansion : Expansion) : List Row :=
  (window.rows expansion).map window.row

end Window

end TreeInspector
