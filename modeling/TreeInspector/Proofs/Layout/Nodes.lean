import TreeInspector.Layout.Basic
import TreeInspector.Proofs.Source.Nodes
import TreeInspector.Proofs.Source.Passes

/-! # The nodes a layout places

Measuring is one pass over the present children of every node, as building an outline is, and fails
only on a crash. The stack of nodes still to place always holds whole subtrees, so the placed nodes
are the nodes of the focused subtree in pre-order, each with its text and its own error mark. The
path of a placed node counts positions among the present children; in a compact tree it is the path
of the source node.

Nothing here depends on the arithmetic: the statements hold for any scalars.
-/

namespace TreeInspector

open SourceTree Scalar

variable {α : Type} [Scalar α]

namespace Measured

section Measure

variable {rules : RuleNames} {measurer : Measurer α} {metrics : Metrics α}

theorem measureSlots_eq (start : Nat) (slots : List (Option SourceTree)) :
    measureSlots rules measurer metrics slots =
      (presentFrom start slots).mapM fun entry => measure rules measurer metrics entry.2 := by
  induction slots generalizing start with
  | nil => rfl
  | cons slot rest ih =>
    cases slot with
    | none => rw [measureSlots, presentFrom, ih (start + 1)]
    | some child => rw [measureSlots, presentFrom, List.mapM_cons, ih (start + 1)]

/-- What a measured node is made of. -/
theorem measure_eq_ok_iff {tree : SourceTree} {measured : Measured α} :
    measure rules measurer metrics tree = .ok measured ↔ tree.crash = none ∧ ∃ width children,
      width = (measurer (rules.textFor tree.label) metrics.fontSize).1 + ofNat 2 * metrics.padX ∧
      (tree.present.mapM fun entry => measure rules measurer metrics entry.2) = .ok children ∧
        measured = .node (rules.textFor tree.label) tree.flagged width
          (larger width (rowWidth metrics children)) children := by
  obtain ⟨label, flagged, crash, slots⟩ := tree
  cases crash with
  | some crash => simp [measure, SourceTree.crash]
  | none =>
    simp only [measure, bind_eq_ok_iff, measureSlots_eq 0, SourceTree.crash, SourceTree.flagged,
      SourceTree.label, present, SourceTree.slots, true_and]
    constructor
    · rintro ⟨children, passed, same⟩
      cases same
      exact ⟨_, children, rfl, passed, rfl⟩
    · rintro ⟨_, children, rfl, passed, rfl⟩
      exact ⟨children, passed, rfl⟩

theorem text_of_measure {tree : SourceTree} {measured : Measured α}
    (success : measure rules measurer metrics tree = .ok measured) :
    measured.text = rules.textFor tree.label := by
  obtain ⟨_, _, _, _, _, rfl⟩ := measure_eq_ok_iff.mp success
  rfl

theorem flagged_of_measure {tree : SourceTree} {measured : Measured α}
    (success : measure rules measurer metrics tree = .ok measured) : measured.flagged = tree.flagged := by
  obtain ⟨_, _, _, _, _, rfl⟩ := measure_eq_ok_iff.mp success
  rfl

/-- The measured children are those of the children that are there, in order. -/
theorem children_of_measure {tree : SourceTree} {measured : Measured α}
    (success : measure rules measurer metrics tree = .ok measured) :
    (tree.present.mapM fun entry => measure rules measurer metrics entry.2) = .ok measured.children := by
  obtain ⟨_, _, children, _, passed, rfl⟩ := measure_eq_ok_iff.mp success
  exact passed

/-- A sound tree can be measured. -/
theorem exists_measure {tree : SourceTree} (sound : tree.Sound) :
    ∃ measured, measure rules measurer metrics tree = .ok measured := by
  induction tree using childInduction with
  | step tree ih =>
    obtain ⟨children, passed⟩ : ∃ children,
        (tree.present.mapM fun entry => measure rules measurer metrics entry.2) = .ok children := by
      apply Crash.exists_mapM
      rintro ⟨index, child⟩ entry
      have found := (mem_present tree index child).mp entry
      exact ih index child found (sound.child found)
    exact ⟨_, measure_eq_ok_iff.mpr ⟨sound.here, _, children, rfl, passed, rfl⟩⟩

end Measure

omit [Scalar α] in
theorem size_eq (measured : Measured α) : measured.size = 1 + sizeAll measured.children := by
  obtain ⟨text, flagged, width, span, children⟩ := measured
  rfl

omit [Scalar α] in
theorem sizeAll_append (first second : List (Measured α)) :
    sizeAll (first ++ second) = sizeAll first + sizeAll second := by
  induction first with
  | nil => rw [List.nil_append, sizeAll, Nat.zero_add]
  | cons measured rest ih => rw [List.cons_append, sizeAll, sizeAll, ih, Nat.add_assoc]

end Measured

namespace Pending

variable {metrics : Metrics α} {height : α}

/-- What is still to be placed is the measured form of a tree. -/
def StandsFor (rules : RuleNames) (measurer : Measurer α) (metrics : Metrics α) (tree : SourceTree)
    (pending : Pending α) : Prop :=
  Measured.measure rules measurer metrics tree = .ok pending.node

theorem map_node_row (path : NodePath) (depth : Nat) (parent : Option Nat) (position : Nat) (left : α)
    (nodes : List (Measured α)) : (row metrics path depth parent position left nodes).map Pending.node = nodes := by
  induction nodes generalizing position left with
  | nil => rfl
  | cons first rest ih => rw [row, List.map_cons, ih]

/-- What is left to place below a node is its children. -/
theorem map_node_below (position : Nat) (pending : Pending α) :
    (pending.below metrics position).map Pending.node = pending.node.children :=
  map_node_row ..

theorem mem_row {path : NodePath} {depth : Nat} {parent : Option Nat} {position : Nat} {left : α}
    {nodes : List (Measured α)} {pending : Pending α}
    (member : pending ∈ row metrics path depth parent position left nodes) :
    ∃ offset, nodes[offset]? = some pending.node ∧ pending.path = path.child (position + offset) := by
  induction nodes generalizing position left with
  | nil => cases member
  | cons first rest ih =>
    rw [row] at member
    rcases List.mem_cons.mp member with rfl | later
    · exact ⟨0, rfl, rfl⟩
    · obtain ⟨offset, found, same⟩ := ih later
      refine ⟨offset + 1, found, ?_⟩
      rw [same, Nat.add_assoc, Nat.add_comm 1]

/-- A child is named by its position among the measured children. -/
theorem mem_below {position : Nat} {pending child : Pending α}
    (member : child ∈ pending.below metrics position) :
    ∃ offset, pending.node.children[offset]? = some child.node ∧ child.path = pending.path.child offset := by
  obtain ⟨offset, found, same⟩ := mem_row member
  rw [Nat.zero_add] at same
  exact ⟨offset, found, same⟩

/-- What holds of the nodes on the stack and passes on to children holds of all nodes placed. -/
theorem exists_of_mem_placeAll {kept : Pending α → Prop}
    (passed : ∀ position pending, kept pending → ∀ child ∈ pending.below metrics position, kept child)
    {fuel position : Nat} {stack : List (Pending α)} (start : ∀ pending ∈ stack, kept pending)
    {placed : Placed α} (member : placed ∈ placeAll metrics height fuel position stack) :
    ∃ pending, kept pending ∧ placed = pending.place metrics height := by
  induction fuel generalizing position stack with
  | zero =>
    rw [placeAll] at member
    cases member
  | succ fuel ih =>
    cases stack with
    | nil =>
      rw [placeAll] at member
      · cases member
      · intro impossible
        cases impossible
    | cons next stack =>
      rw [placeAll] at member
      rcases List.mem_cons.mp member with rfl | later
      · exact ⟨next, start next (List.mem_cons_self ..), rfl⟩
      · refine ih ?_ later
        intro pending among
        rcases List.mem_append.mp among with below | waiting
        · exact passed position next (start next (List.mem_cons_self ..)) pending below
        · exact start pending (List.mem_cons_of_mem _ waiting)

/-- With fuel for all nodes of the stack, the placed texts and marks are those of the subtrees on
the stack, one after the other, each in pre-order. -/
theorem labels_placeAll (height : α) {rules : RuleNames} {measurer : Measurer α} {trees : List SourceTree}
    {stack : List (Pending α)}
    (measured : List.Forall₂ (StandsFor rules measurer metrics) trees stack)
    {fuel : Nat} (enough : Measured.sizeAll (stack.map Pending.node) ≤ fuel) (position : Nat) :
    (placeAll metrics height fuel position stack).map (fun placed => (placed.text, placed.flagged)) =
      (trees.flatMap preorder).map fun node => (rules.textFor node.label, node.flagged) := by
  induction fuel generalizing position trees stack with
  | zero =>
    cases measured with
    | nil => rfl
    | cons first rest =>
      rw [List.map_cons, Measured.sizeAll, Measured.size_eq] at enough
      omega
  | succ fuel ih =>
    cases measured with
    | nil => rfl
    | @cons tree next trees stack first rest =>
      have below : List.Forall₂ (StandsFor rules measurer metrics)
          (tree.present.map Prod.snd) (next.below metrics position) := by
        rw [List.forall₂_map_left_iff]
        have children := Crash.mapM_eq_ok_iff.mp (Measured.children_of_measure first)
        rwa [← map_node_below position next, List.forall₂_map_right_iff] at children
      have smaller : Measured.sizeAll ((next.below metrics position ++ stack).map Pending.node) ≤ fuel := by
        rw [List.map_cons, Measured.sizeAll, Measured.size_eq] at enough
        rw [List.map_append, Measured.sizeAll_append, map_node_below]
        omega
      have step := ih (List.rel_append below rest) smaller (position + 1)
      rw [placeAll, List.map_cons, step, List.flatMap_cons, preorder_eq, List.flatMap_append,
        List.flatMap_map, List.cons_append, List.map_cons]
      congr 1
      exact Prod.ext (Measured.text_of_measure first) (Measured.flagged_of_measure first)

end Pending

namespace Layout

variable {root : SourceTree} {rules : RuleNames} {measurer : Measurer α} {metrics : Metrics α}

/-- A sound tree can be laid out at every focus, also at one that leads nowhere. -/
theorem exists_ofTree (sound : root.Sound) (focus : NodePath) :
    ∃ layout, ofTree root focus rules measurer metrics = .ok layout := by
  unfold ofTree
  cases reached : root.resolve? focus with
  | none => exact ⟨empty, rfl⟩
  | some top =>
    obtain ⟨measured, success⟩ : ∃ measured, Measured.measure rules measurer metrics top = .ok measured :=
      Measured.exists_measure (sound.below reached)
    exact ⟨ofMeasured measurer metrics focus measured, by simp only [success, Except.map]⟩

theorem ofTree_eq_ok {focus : NodePath} {top : SourceTree} {layout : Layout α}
    (reached : root.resolve? focus = some top)
    (laid : ofTree root focus rules measurer metrics = .ok layout) :
    ∃ measured, Measured.measure rules measurer metrics top = .ok measured ∧
      layout = ofMeasured measurer metrics focus measured := by
  simp only [ofTree, reached] at laid
  cases success : Measured.measure rules measurer metrics top with
  | error crash =>
    rw [success] at laid
    cases laid
  | ok measured =>
    rw [success] at laid
    cases laid
    exact ⟨measured, rfl, rfl⟩

/-- The first box of a layout shows the focused node. -/
theorem exists_first {focus : NodePath} {top : SourceTree} {layout : Layout α}
    (reached : root.resolve? focus = some top)
    (laid : ofTree root focus rules measurer metrics = .ok layout) :
    ∃ first others, layout.nodes = first :: others ∧ first.path = focus ∧
      first.text = rules.textFor top.label ∧ first.flagged = top.flagged := by
  obtain ⟨measured, success, rfl⟩ := ofTree_eq_ok reached laid
  rw [ofMeasured, Measured.size_eq, Nat.add_comm, Pending.placeAll]
  exact ⟨_, _, rfl, rfl, Measured.text_of_measure success, Measured.flagged_of_measure success⟩

/-- The boxes of a layout show the nodes of the focused subtree in pre-order. -/
theorem labels_ofTree {focus : NodePath} {top : SourceTree} {layout : Layout α}
    (reached : root.resolve? focus = some top)
    (laid : ofTree root focus rules measurer metrics = .ok layout) :
    layout.nodes.map (fun placed => (placed.text, placed.flagged)) =
      top.preorder.map fun node => (rules.textFor node.label, node.flagged) := by
  obtain ⟨measured, success, rfl⟩ := ofTree_eq_ok reached laid
  have stack : List.Forall₂ (Pending.StandsFor rules measurer metrics)
      [top] [⟨measured, focus, metrics.nodeGap, 0, none⟩] := .cons success .nil
  have enough : Measured.sizeAll [measured] ≤ measured.size := by simp only [Measured.sizeAll, Nat.add_zero, le_refl]
  have labels := Pending.labels_placeAll (Pending.boxHeight measurer metrics) stack enough 0
  rwa [List.flatMap_cons, List.flatMap_nil, List.append_nil] at labels

/-- A box is marked exactly if some node of the focused subtree is. -/
theorem exists_flagged_iff {focus : NodePath} {top : SourceTree} {layout : Layout α}
    (reached : root.resolve? focus = some top)
    (laid : ofTree root focus rules measurer metrics = .ok layout) :
    (∃ placed ∈ layout.nodes, placed.flagged = true) ↔
      ∃ path node, top.resolve? path = some node ∧ node.flagged = true := by
  have marks : layout.nodes.map Placed.flagged = top.preorder.map flagged := by
    have labels := congrArg (List.map Prod.snd) (labels_ofTree reached laid)
    rwa [List.map_map, List.map_map] at labels
  have marked : (∃ placed ∈ layout.nodes, placed.flagged = true) ↔
      ∃ node ∈ top.preorder, node.flagged = true := by
    rw [← List.mem_map, marks, List.mem_map]
  simp only [marked, mem_preorder_iff]
  constructor
  · rintro ⟨node, ⟨path, found⟩, mark⟩
    exact ⟨path, node, found, mark⟩
  · rintro ⟨path, node, found, mark⟩
    exact ⟨node, ⟨path, found⟩, mark⟩

/-- A layout with boxes is that of a node. -/
theorem exists_resolve?_of_mem_nodes {focus : NodePath} {layout : Layout α}
    (laid : ofTree root focus rules measurer metrics = .ok layout) {placed : Placed α}
    (member : placed ∈ layout.nodes) : ∃ top, root.resolve? focus = some top := by
  cases reached : root.resolve? focus with
  | none =>
    simp only [ofTree, reached] at laid
    cases laid
    cases member
  | some top => exact ⟨top, rfl⟩

/-- In a compact tree, a box stands for the node at its path. -/
theorem resolve?_of_mem_nodes (compact : root.Compact) {focus : NodePath} {layout : Layout α}
    (laid : ofTree root focus rules measurer metrics = .ok layout) {placed : Placed α}
    (member : placed ∈ layout.nodes) : ∃ node, root.resolve? placed.path = some node ∧
      placed.text = rules.textFor node.label ∧ placed.flagged = node.flagged := by
  obtain ⟨top, reached⟩ := exists_resolve?_of_mem_nodes laid member
  obtain ⟨measured, success, rfl⟩ := ofTree_eq_ok reached laid
  obtain ⟨pending, ⟨node, found, measuredNode⟩, rfl⟩ : ∃ pending : Pending α,
      (∃ node, root.resolve? pending.path = some node ∧
        pending.StandsFor rules measurer metrics node) ∧
      placed = pending.place metrics (Pending.boxHeight measurer metrics) := by
    refine Pending.exists_of_mem_placeAll ?_ ?_ member
    · rintro position pending ⟨node, found, measuredNode⟩ child below
      obtain ⟨offset, among, path⟩ := Pending.mem_below below
      obtain ⟨⟨index, source⟩, entry, childMeasured⟩ :=
        (Crash.getElem?_mapM_iff (Measured.children_of_measure measuredNode) offset _).mp among
      rw [(compact.below found).here.getElem?_present] at entry
      obtain ⟨_, atOffset, same⟩ := Option.map_eq_some_iff.mp entry
      cases same
      refine ⟨source, ?_, childMeasured⟩
      rw [path, NodePath.child, resolve?_below found, resolve?_cons, atOffset]
      rfl
    · intro pending only
      obtain rfl := List.mem_singleton.mp only
      exact ⟨top, reached, success⟩
  exact ⟨node, found, Measured.text_of_measure measuredNode, Measured.flagged_of_measure measuredNode⟩

end Layout

end TreeInspector
