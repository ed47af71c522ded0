import TreeInspector.Proofs.Layout.Preorder
import TreeInspector.Proofs.Screen.Frames
import TreeInspector.View.Scene

/-! # What can be done with an open window

Events, reading the text of any path and drawing the view may follow each other in any order. Only two
things in them could crash: a layout counts the children of every node below the focus, and a drawing
looks up the parent of every box. A window in working order does both without a crash, and is in working
order afterwards.
-/

namespace TreeInspector

open SourceTree

namespace Layout

variable {α : Type} [Scalar α]

/-- The crash of looking past the end of a list. -/
def outOfBounds (length index : Nat) : Crash :=
  .message ("index out of bounds: the len is " ++ Nat.repr length ++ " but the index is " ++ Nat.repr index)

/-- The edge that leads to a node, looked up by a drawing. -/
def lookUpEdge (layout : Layout α) (node : Placed α) : Except Crash (Option (Box α × Box α)) :=
  match node.parent with
  | none => .ok none
  | some parent =>
    match layout.nodes[parent]? with
    | some found => .ok (some (found.box, node.box))
    | none => .error (outOfBounds layout.nodes.length parent)

/-- The edges of a layout, looked up by a drawing. -/
def lookUpEdges (layout : Layout α) : Except Crash (List (Box α × Box α)) :=
  layout.nodes.filterMapM layout.lookUpEdge

omit [Scalar α] in
/-- Where all parents are there, the edges are those of the layout. -/
theorem lookUpEdges_eq {layout : Layout α} (inside : ∀ node ∈ layout.nodes, ∀ parent,
    node.parent = some parent → parent < layout.nodes.length) : layout.lookUpEdges = .ok layout.edges := by
  have found : ∀ node ∈ layout.nodes, layout.lookUpEdge node = .ok
      ((node.parent.bind fun parent => layout.nodes[parent]?).map fun parent => (parent.box, node.box)) := by
    intro node member
    rw [lookUpEdge]
    cases hangs : node.parent with
    | none => rfl
    | some parent => simp [List.getElem?_eq_getElem (inside node member parent hangs)]
  exact Crash.filterMapM_eq_ok found

/-- Every parent in a layout is one of its nodes. -/
theorem parent_lt {root : SourceTree} {focus : NodePath} {rules : RuleNames} {measurer : Measurer α}
    {metrics : Metrics α} {layout : Layout α} (laid : ofTree root focus rules measurer metrics = .ok layout)
    {node : Placed α} (member : node ∈ layout.nodes) {parent : Nat} (hangs : node.parent = some parent) :
    parent < layout.nodes.length := by
  obtain ⟨top, reached⟩ := exists_resolve?_of_mem_nodes laid member
  obtain ⟨position, found⟩ := List.mem_iff_getElem?.mp member
  have bound := (List.getElem?_eq_some_iff.mp found).1
  cases position with
  | zero =>
    obtain ⟨first, others, nodes, _, _, alone⟩ := exists_top reached laid
    rw [nodes] at found
    cases found
    rw [alone] at hangs
    cases hangs
  | succ position =>
    obtain ⟨earlier, _, _, same, before, _⟩ := exists_parent reached laid found
    cases same.symm.trans hangs
    omega

end Layout

/-- Draw a view; the drawing crashes where an edge does. -/
def View.draw (view : View) : Except Crash String := view.layout.lookUpEdges.map fun _ => view.scene

namespace Window

/-- What can be done with a window: let an event happen, read the text of a path, draw the view. -/
inductive Use where
  | event (event : Event)
  | readText (path : NodePath)
  | draw

/-- Use a window: the window behind it, and the text that was read or drawn. -/
def use (window : Window) : Use → Except Crash (Window × String)
  | .event event => (window.handle event).map fun next => (next, "")
  | .readText path => .ok (window, window.session.nodeText path)
  | .draw => window.view.draw.map fun scene => (window, scene)

/-- Use a window in several ways, one after the other. -/
def useAll (window : Window) (uses : List Use) : Except Crash Window :=
  uses.foldlM (fun window use => (window.use use).map Prod.fst) window

variable {window : Window} (steady : window.Steady)
include steady

theorem Steady.draw : window.view.draw = .ok window.view.scene := by
  have edges := Layout.lookUpEdges_eq fun _ member _ hangs => Layout.parent_lt steady.shows.fresh member hangs
  rw [View.draw, edges]
  rfl

theorem Steady.use (use : Use) : ∃ next text, window.use use = .ok (next, text) ∧ next.Steady := by
  cases use with
  | event event =>
    obtain ⟨next, handled, steady, _⟩ := steady.handle event
    exact ⟨next, "", by rw [Window.use, handled]; rfl, steady⟩
  | readText path => exact ⟨window, _, rfl, steady⟩
  | draw => exact ⟨window, _, by rw [Window.use, steady.draw]; rfl, steady⟩

/-- A window in working order can be used in any way. -/
theorem Steady.useAll (uses : List Use) : ∃ final, window.useAll uses = .ok final ∧ final.Steady := by
  induction uses generalizing window with
  | nil => exact ⟨window, rfl, steady⟩
  | cons use uses ih =>
    obtain ⟨next, text, used, steady⟩ := steady.use use
    obtain ⟨final, ran, steady⟩ := ih steady
    refine ⟨final, ?_, steady⟩
    rw [Window.useAll, List.foldlM_cons, used]
    exact ran

end Window

end TreeInspector
