import TreeInspector.Proofs.Layout.Nodes
import TreeInspector.Proofs.Outline.Find

/-! # The order of a layout

Placing nodes from a stack is a recursive walk through the focused subtree: a node, then its present
children in index order, each with everything below it. The stack is a list of subtrees still to be
walked, and every node on it hangs from a node that was placed before, so the position recorded for a
parent is the position of the source parent in the walk.

`walk` is that recursion, with the path of every node. `hangs_placeAll` carries what is known of a
pending node (its place in the walk, its parent, its depth and its path) from the stack to the placed
nodes.
-/

namespace TreeInspector

open SourceTree Scalar

namespace SourceTree

mutual

/-- The nodes of the tree found at a path, each with its own path, a node before its children. -/
def walk (path : NodePath) : SourceTree → List (NodePath × SourceTree)
  | .node label flagged crash slots => (path, .node label flagged crash slots) :: walkSlots path 0 slots

/-- The nodes of the children present in the slots from an index on. -/
def walkSlots (path : NodePath) (index : Nat) : List (Option SourceTree) → List (NodePath × SourceTree)
  | [] => []
  | none :: rest => walkSlots path (index + 1) rest
  | some child :: rest => walk (path.child index) child ++ walkSlots path (index + 1) rest

end

/-- The present children of the node at a path, each with its path. -/
def offspring (entry : NodePath × SourceTree) : List (NodePath × SourceTree) :=
  entry.2.present.map fun child => (entry.1.child child.1, child.2)

/-- The walks through several subtrees, one after the other. -/
def walkAll (entries : List (NodePath × SourceTree)) : List (NodePath × SourceTree) :=
  entries.flatMap fun entry => entry.2.walk entry.1

theorem walkSlots_eq (path : NodePath) (start : Nat) (slots : List (Option SourceTree)) :
    walkSlots path start slots =
      (presentFrom start slots).flatMap fun child => child.2.walk (path.child child.1) := by
  induction slots generalizing start with
  | nil => rfl
  | cons slot rest ih =>
    cases slot with
    | none => rw [walkSlots, presentFrom, ih]
    | some child => rw [walkSlots, presentFrom, List.flatMap_cons, ih]

theorem walk_eq (path : NodePath) (tree : SourceTree) :
    tree.walk path = (path, tree) :: walkAll (offspring (path, tree)) := by
  obtain ⟨label, flagged, crash, slots⟩ := tree
  rw [walk, walkSlots_eq, walkAll, offspring, List.flatMap_map]
  rfl

theorem walkAll_cons (entry : NodePath × SourceTree) (entries : List (NodePath × SourceTree)) :
    walkAll (entry :: entries) = entry :: walkAll (offspring entry ++ entries) := by
  rw [walkAll, List.flatMap_cons, walk_eq, walkAll, walkAll, List.flatMap_append]
  rfl

theorem nodes_walk (path : NodePath) (tree : SourceTree) :
    (tree.walk path).map Prod.snd = tree.preorder := by
  induction tree using childInduction generalizing path with
  | step tree ih =>
    rw [walk_eq, preorder_eq, List.map_cons, walkAll, offspring, List.flatMap_map, List.map_flatMap]
    congr 1
    apply List.flatMap_congr
    intro entry member
    exact ih entry.1 entry.2 ((mem_present tree entry.1 entry.2).mp member) _

/-- Without a gap, the indices of the present children count up. -/
theorem Gapless.indices_present {tree : SourceTree} (gapless : tree.Gapless) :
    tree.present.map Prod.fst = List.range' 0 tree.present.length := by
  apply List.ext_getElem
  · rw [List.length_map, List.length_range']
  · intro position bound _
    rw [List.length_map] at bound
    have found := List.getElem?_eq_getElem bound
    rw [gapless.getElem?_present] at found
    obtain ⟨child, _, same⟩ := Option.map_eq_some_iff.mp found
    rw [List.getElem_map, ← same, List.getElem_range']
    omega

/-- A walk leads to the nodes at the paths that resolve. -/
theorem resolve?_of_mem_walk {root tree node : SourceTree} {path target : NodePath}
    (found : root.resolve? path = some tree) (member : (target, node) ∈ tree.walk path) :
    root.resolve? target = some node := by
  induction tree using childInduction generalizing path with
  | step tree ih =>
    rw [walk_eq] at member
    rcases List.mem_cons.mp member with same | later
    · cases same
      exact found
    · obtain ⟨_, among, inside⟩ := List.mem_flatMap.mp later
      obtain ⟨⟨index, child⟩, entry, rfl⟩ := List.mem_map.mp among
      have present := (mem_present tree index child).mp entry
      refine ih index child present ?_ inside
      rw [NodePath.child, resolve?_below found, resolve?_cons, present]
      rfl

/-- An outline displays the nodes of the walk. -/
theorem paths_walk {path : NodePath} {tree : SourceTree} {outline : Outline}
    (built : Outline.build path tree = .ok outline) :
    (tree.walk path).map Prod.fst = outline.preorder.map Outline.source := by
  induction tree using childInduction generalizing path outline with
  | step tree ih =>
    obtain ⟨_, children, passed, rfl⟩ := Outline.build_eq_ok_iff.mp built
    have visited := Crash.mapM_eq_ok_iff.mp passed
    rw [walk_eq, Outline.preorder_eq, List.map_cons, List.map_cons, walkAll, offspring, List.flatMap_map,
      List.map_flatMap, List.map_flatMap, Outline.source_node, Outline.children_node]
    congr 1
    have present : ∀ entry ∈ tree.present, tree.childAt? entry.1 = some entry.2 :=
      fun entry member => (mem_present tree entry.1 entry.2).mp member
    clear passed built
    generalize tree.present = entries at visited present
    induction visited with
    | nil => rfl
    | @cons entry child entries children childBuilt _ rest =>
      obtain ⟨here, later⟩ := List.forall_mem_cons.mp present
      rw [List.flatMap_cons, List.flatMap_cons, ih entry.1 entry.2 here childBuilt, rest later]

end SourceTree

variable {α : Type} [Scalar α]

namespace Measured

/-- A tree cannot be measured only because some node of it crashes. -/
theorem exists_crash_of_measure {rules : RuleNames} {measurer : Measurer α} {metrics : Metrics α}
    {tree : SourceTree} {crash : Crash} (failed : measure rules measurer metrics tree = .error crash) :
    ∃ rest node, tree.resolve? rest = some node ∧ node.crash = some crash := by
  refine exists_crash_of_fails (fun (_ : Unit) tree => measure rules measurer metrics tree = .error crash)
    (fun _ tree failed => ?_) () failed
  obtain ⟨label, flagged, here, slots⟩ := tree
  cases here with
  | some here =>
    cases failed
    exact .inl rfl
  | none =>
    simp only [measure, bind_eq_error_iff, measureSlots_eq 0] at failed
    rcases failed with failed | ⟨_, _, impossible⟩
    · obtain ⟨⟨index, child⟩, member, below⟩ := Crash.exists_of_mapM_eq_error failed
      exact .inr ⟨index, child, (), (mem_present (.node label flagged none slots) index child).mp member, below⟩
    · cases impossible

/-- Only a sound tree can be measured. -/
theorem sound_of_measure {rules : RuleNames} {measurer : Measurer α} {metrics : Metrics α}
    {tree : SourceTree} {measured : Measured α}
    (success : measure rules measurer metrics tree = .ok measured) : tree.Sound := by
  induction tree using childInduction generalizing measured with
  | step tree ih =>
    refine everywhere_iff.mpr ⟨(measure_eq_ok_iff.mp success).1, ?_⟩
    intro index source found
    obtain ⟨child, childMeasured⟩ := Crash.exists_result_of_mem (children_of_measure success)
      ((mem_present tree index source).mpr found)
    exact ih index source found childMeasured

end Measured

namespace Pending

variable {rules : RuleNames} {measurer : Measurer α} {metrics : Metrics α} {focus : NodePath}
  {compact : Prop}

/-- A pending node is the source node at a path below the focus, and hangs from a node whose path comes
before. Where `compact` holds, it is also named by its path. -/
structure Hangs (rules : RuleNames) (measurer : Measurer α) (metrics : Metrics α) (focus : NodePath)
    (compact : Prop) (before : List NodePath) (entry : NodePath × SourceTree) (pending : Pending α) :
    Prop where
  stands : pending.StandsFor rules measurer metrics entry.2
  parent : ∃ position path index,
    pending.parent = some position ∧ before[position]? = some path ∧ entry.1 = path.child index
  depth : focus.length + pending.depth = entry.1.length
  named : compact → entry.2.Compact ∧ pending.path = entry.1

theorem Hangs.later {before : List NodePath} {entry : NodePath × SourceTree} {pending : Pending α}
    (hangs : pending.Hangs rules measurer metrics focus compact before entry) (more : List NodePath) :
    pending.Hangs rules measurer metrics focus compact (before ++ more) entry := by
  obtain ⟨position, path, index, parent, found, child⟩ := hangs.parent
  have bound : position < before.length := (List.getElem?_eq_some_iff.mp found).1
  exact { hangs with
    parent := ⟨position, path, index, parent, by rw [List.getElem?_append_left bound, found], child⟩ }

theorem hangs_row (path : NodePath) (depth : Nat) (parent : Option Nat)
    {entries : List (Nat × SourceTree)} {nodes : List (Measured α)}
    (visited : List.Forall₂
      (fun entry node => Measured.measure rules measurer metrics entry.2 = .ok node) entries nodes)
    (position : Nat) (left : α)
    (aligned : compact → entries.map Prod.fst = List.range' position entries.length) :
    List.Forall₂ (fun (entry : Nat × SourceTree) (pending : Pending α) =>
        pending.StandsFor rules measurer metrics entry.2 ∧ pending.parent = parent ∧
          pending.depth = depth ∧ (compact → pending.path = path.child entry.1))
      entries (row metrics path depth parent position left nodes) := by
  induction visited generalizing position left with
  | nil => exact .nil
  | cons measured _ ih =>
    have split := fun holds => List.cons_eq_cons.mp (aligned holds)
    refine .cons ⟨measured, rfl, rfl, ?_⟩ (ih _ _ fun holds => (split holds).2)
    intro holds
    rw [(split holds).1]

/-- The children of a placed node hang from it. -/
theorem hangs_below {path : NodePath} {tree : SourceTree} {pending : Pending α}
    (stands : pending.StandsFor rules measurer metrics tree)
    (depth : focus.length + pending.depth = path.length)
    (named : compact → tree.Compact ∧ pending.path = path) (before : List NodePath) :
    List.Forall₂ (Hangs rules measurer metrics focus compact (before ++ [path]))
      (offspring (path, tree)) (pending.below metrics before.length) := by
  have visited := Crash.mapM_eq_ok_iff.mp (Measured.children_of_measure stands)
  have hang := hangs_row pending.path (pending.depth + 1) (some before.length) visited 0
    (pending.left + (pending.node.span - Measured.rowWidth metrics pending.node.children) * tenths 5)
    fun holds => (named holds).1.here.indices_present
  have children : ∀ entry ∈ tree.present, compact → entry.2.Compact := by
    intro entry member holds
    exact (named holds).1.child ((mem_present tree entry.1 entry.2).mp member)
  rw [offspring, List.forall₂_map_left_iff]
  refine ((List.forall₂_and_left _ _).mpr ⟨children, hang⟩).imp ?_
  rintro entry child ⟨inside, measured, parent, deeper, path'⟩
  constructor
  · exact measured
  · exact ⟨before.length, path, entry.1, parent, List.getElem?_concat_length, rfl⟩
  · rw [deeper, NodePath.child, List.length_append, ← depth]
    rfl
  · intro holds
    exact ⟨inside holds, by rw [path' holds, (named holds).2]⟩

/-- With fuel for all nodes of the stack, the node placed at a position is the node of the walk at that
position, and hangs from one of those before. -/
theorem hangs_placeAll (height : α) {before : List NodePath} {entries : List (NodePath × SourceTree)}
    {stack : List (Pending α)}
    (hang : List.Forall₂ (Hangs rules measurer metrics focus compact before) entries stack)
    {fuel : Nat} (enough : Measured.sizeAll (stack.map Pending.node) ≤ fuel) {position : Nat}
    {placed : Placed α}
    (found : (placeAll metrics height fuel before.length stack)[position]? = some placed) :
    ∃ entry, ∃ pending : Pending α, (walkAll entries)[position]? = some entry ∧
      placed = pending.place metrics height ∧
      pending.Hangs rules measurer metrics focus compact
        (before ++ ((walkAll entries).take position).map Prod.fst) entry := by
  induction fuel generalizing before entries stack position with
  | zero =>
    rw [placeAll] at found
    cases found
  | succ fuel ih =>
    cases hang with
    | nil => cases found
    | @cons entry next entries stack first rest =>
      rw [placeAll] at found
      rw [walkAll_cons]
      cases position with
      | zero =>
        cases found
        exact ⟨entry, next, rfl, rfl, first.later _⟩
      | succ position =>
        have below := hangs_below first.stands first.depth first.named before
        have waiting := rest.imp fun _ _ hangs => hangs.later [entry.1]
        have smaller :
            Measured.sizeAll ((next.below metrics before.length ++ stack).map Pending.node) ≤ fuel := by
          rw [List.map_cons, Measured.sizeAll, Measured.size_eq] at enough
          rw [List.map_append, Measured.sizeAll_append, map_node_below]
          omega
        rw [List.getElem?_cons_succ, ← List.length_singleton (a := entry.1), ← List.length_append] at found
        obtain ⟨other, pending, among, same, hangs⟩ := ih (List.rel_append below waiting) smaller found
        refine ⟨other, pending, among, same, ?_⟩
        rwa [List.append_assoc] at hangs

end Pending

/-- Where a function has a value everywhere, its values are listed one by one. -/
private theorem forall₂_filterMap {β γ : Type} {value? : β → Option γ} {list : List β}
    (defined : ∀ element ∈ list, ∃ value, value? element = some value) :
    List.Forall₂ (fun element value => value? element = some value) list (list.filterMap value?) := by
  induction list with
  | nil => exact .nil
  | cons first rest ih =>
    obtain ⟨⟨value, here⟩, later⟩ := List.forall_mem_cons.mp defined
    rw [List.filterMap_cons_some here]
    exact .cons here (ih later)

namespace Layout

variable {root top : SourceTree} {focus : NodePath} {rules : RuleNames} {measurer : Measurer α}
  {metrics : Metrics α} {layout : Layout α}

/-- The focused node before anything is placed. -/
def start (metrics : Metrics α) (focus : NodePath) (measured : Measured α) : Pending α :=
  ⟨measured, focus, metrics.nodeGap, 0, none⟩

/-- The focused node is placed first, and then everything below it. -/
theorem nodes_ofMeasured (measured : Measured α) :
    let height := Pending.boxHeight measurer metrics
    (ofMeasured measurer metrics focus measured).nodes =
      (start metrics focus measured).place metrics height ::
        Pending.placeAll metrics height (Measured.sizeAll measured.children) 1
          ((start metrics focus measured).below metrics 0) := by
  intro height
  change Pending.placeAll metrics height measured.size 0 [start metrics focus measured] = _
  rw [Measured.size_eq, Nat.add_comm, Pending.placeAll, List.append_nil]

/-- A subtree is laid out unless a node of it crashes. -/
theorem crash_or_layout (reached : root.resolve? focus = some top) :
    (∃ path node crash, top.resolve? path = some node ∧ node.crash = some crash ∧
      ofTree root focus rules measurer metrics = .error crash) ∨
    ∃ layout, ofTree root focus rules measurer metrics = .ok layout := by
  simp only [ofTree, reached]
  cases measured : Measured.measure rules measurer metrics top with
  | error crash =>
    obtain ⟨path, node, found, crashes⟩ := Measured.exists_crash_of_measure measured
    exact .inl ⟨path, node, crash, found, crashes, rfl⟩
  | ok tree => exact .inr ⟨_, rfl⟩

section Placed

variable (reached : root.resolve? focus = some top)
  (laid : ofTree root focus rules measurer metrics = .ok layout)
include reached laid

theorem sound_of_ofTree : top.Sound := by
  obtain ⟨measured, success, _⟩ := ofTree_eq_ok reached laid
  exact Measured.sound_of_measure success

/-- The walk follows the order of paths. -/
theorem paths_ordered : ((top.walk focus).map Prod.fst).Pairwise fun first second =>
    first.order second = .lt := by
  obtain ⟨outline, built⟩ := Outline.exists_build (sound_of_ofTree reached laid) focus
  rw [paths_walk built]
  exact Outline.sources_ordered built

theorem labels_walk : layout.nodes.map (fun placed => (placed.text, placed.flagged)) =
    (top.walk focus).map fun entry => (rules.textFor entry.2.label, entry.2.flagged) := by
  rw [labels_ofTree reached laid, ← nodes_walk focus top, List.map_map]
  rfl

theorem length_nodes : layout.nodes.length = (top.walk focus).length := by
  have lengths := congrArg List.length (labels_walk reached laid)
  rwa [List.length_map, List.length_map] at lengths

/-- The focused node comes first and hangs from nothing. -/
theorem exists_top : ∃ first others, layout.nodes = first :: others ∧ first.path = focus ∧
    first.depth = 0 ∧ first.parent = none := by
  obtain ⟨measured, _, rfl⟩ := ofTree_eq_ok reached laid
  exact ⟨_, _, nodes_ofMeasured measured, rfl, rfl, rfl⟩

/-- Every other node hangs from one before it. -/
theorem exists_hangs {position : Nat} {placed : Placed α}
    (found : layout.nodes[position + 1]? = some placed) :
    ∃ entry, ∃ pending : Pending α, (top.walk focus)[position + 1]? = some entry ∧
      placed = pending.place metrics (Pending.boxHeight measurer metrics) ∧
      pending.Hangs rules measurer metrics focus top.Compact
        (((top.walk focus).take (position + 1)).map Prod.fst) entry := by
  obtain ⟨measured, success, rfl⟩ := ofTree_eq_ok reached laid
  have stands : (start metrics focus measured).StandsFor rules measurer metrics top := success
  have below := Pending.hangs_below stands rfl (fun compact : top.Compact => ⟨compact, rfl⟩) []
  have enough : Measured.sizeAll (((start metrics focus measured).below metrics 0).map Pending.node) ≤
      Measured.sizeAll measured.children := by
    rw [Pending.map_node_below]
    exact le_rfl
  rw [nodes_ofMeasured, List.getElem?_cons_succ] at found
  rw [walk_eq]
  exact Pending.hangs_placeAll _ below enough found

/-- The rows of a layout are the depths below the focus. -/
theorem depth_eq {position : Nat} {placed : Placed α} {entry : NodePath × SourceTree}
    (found : layout.nodes[position]? = some placed) (among : (top.walk focus)[position]? = some entry) :
    focus.length + placed.depth = entry.1.length := by
  cases position with
  | zero =>
    obtain ⟨first, others, nodes, _, depth, _⟩ := exists_top reached laid
    rw [nodes] at found
    rw [walk_eq] at among
    cases found
    cases among
    rw [depth, Nat.add_zero]
  | succ position =>
    obtain ⟨other, pending, amongOther, rfl, hangs⟩ := exists_hangs reached laid found
    cases among.symm.trans amongOther
    exact hangs.depth

theorem paths_nodes (compact : top.Compact) :
    layout.nodes.map Placed.path = (top.walk focus).map Prod.fst := by
  apply List.ext_getElem?
  intro position
  rw [List.getElem?_map, List.getElem?_map]
  cases found : layout.nodes[position]? with
  | none =>
    rw [List.getElem?_eq_none_iff, length_nodes reached laid, ← List.getElem?_eq_none_iff] at found
    rw [found]
    rfl
  | some placed =>
    cases position with
    | zero =>
      obtain ⟨first, others, nodes, path, _, _⟩ := exists_top reached laid
      rw [nodes] at found
      cases found
      rw [walk_eq, Option.map_some, path]
      rfl
    | succ position =>
      obtain ⟨entry, pending, among, rfl, hangs⟩ := exists_hangs reached laid found
      rw [among, Option.map_some, Option.map_some, ← (hangs.named compact).2]
      rfl

/-- The parent recorded for a node is the position of its source parent, which comes before it. -/
theorem exists_parent {position : Nat} {placed : Placed α}
    (found : layout.nodes[position + 1]? = some placed) : ∃ parent path index,
      placed.parent = some parent ∧ parent ≤ position ∧
      ((top.walk focus).map Prod.fst)[parent]? = some path ∧
      ((top.walk focus).map Prod.fst)[position + 1]? = some (path.child index) := by
  obtain ⟨entry, pending, among, rfl, hangs⟩ := exists_hangs reached laid found
  obtain ⟨parent, path, index, same, before, child⟩ := hangs.parent
  rw [List.map_take, List.getElem?_take] at before
  split_ifs at before with earlier
  refine ⟨parent, path, index, same, Nat.le_of_lt_succ earlier, before, ?_⟩
  rw [List.getElem?_map, among, Option.map_some, child]

/-- Every node but the first has an edge, and it leads from the box of its parent to its own. -/
theorem forall₂_edges : List.Forall₂ (fun placed edge => ∃ position parent,
      placed.parent = some position ∧ layout.nodes[position]? = some parent ∧
        edge = (parent.box, placed.box))
    layout.nodes.tail layout.edges := by
  obtain ⟨first, others, nodes, _, _, alone⟩ := exists_top reached laid
  rw [edges, nodes, List.filterMap_cons_none (by rw [alone]; rfl), List.tail_cons, ← nodes]
  refine (forall₂_filterMap ?_).imp ?_
  · intro placed member
    obtain ⟨position, found⟩ := List.mem_iff_getElem?.mp member
    have later : layout.nodes[position + 1]? = some placed := by rw [nodes, List.getElem?_cons_succ, found]
    obtain ⟨parent, _, _, same, earlier, _, _⟩ := exists_parent reached laid later
    have bound : parent < layout.nodes.length := by
      have past := (List.getElem?_eq_some_iff.mp later).1
      omega
    rw [same, Option.bind_some, List.getElem?_eq_getElem bound]
    exact ⟨_, rfl⟩
  · intro placed edge leads
    obtain ⟨parent, found, same⟩ := Option.map_eq_some_iff.mp leads
    obtain ⟨position, recorded, found⟩ := Option.bind_eq_some_iff.mp found
    exact ⟨position, parent, recorded, found, same.symm⟩

end Placed

/-- The boxes of a layout follow the walk through the focused subtree. -/
structure Follows (rules : RuleNames) (root : SourceTree) (focus : NodePath) (top : SourceTree)
    (layout : Layout α) : Prop where
  /-- The walk leads through the source nodes below the focus in the order of their paths. -/
  sources : ∀ entry ∈ top.walk focus, root.resolve? entry.1 = some entry.2
  ordered : ((top.walk focus).map Prod.fst).Pairwise fun first second => first.order second = .lt
  /-- Boxes show the texts and marks of these nodes, one by one. -/
  labels : layout.nodes.map (fun placed => (placed.text, placed.flagged)) =
    (top.walk focus).map fun entry => (rules.textFor entry.2.label, entry.2.flagged)
  /-- The first node has no parent, and the parent of any other is the position of its source parent. -/
  first : layout.nodes.head?.map Placed.parent = some none
  parents : ∀ position placed, layout.nodes[position + 1]? = some placed → ∃ parent path index,
    placed.parent = some parent ∧ parent ≤ position ∧
    ((top.walk focus).map Prod.fst)[parent]? = some path ∧
    ((top.walk focus).map Prod.fst)[position + 1]? = some (path.child index)
  /-- Every node but the first has an edge from its parent. -/
  edges : layout.edges.length = layout.nodes.length - 1 ∧
    List.Forall₂ (fun placed edge => ∃ position parent, placed.parent = some position ∧
      layout.nodes[position]? = some parent ∧ edge = (parent.box, placed.box))
      layout.nodes.tail layout.edges
  /-- Without a hole in front of a child, boxes are named by the paths of their nodes. -/
  paths : top.Compact → layout.nodes.map Placed.path = (top.walk focus).map Prod.fst
  /-- These are the paths displayed by the node of the outline found at the focus. -/
  outline : root.Compact → ∀ outline, Outline.ofTree root = .ok outline → ∃ shown,
    outline.find? focus = some shown ∧
      layout.nodes.map Placed.path = shown.preorder.map Outline.source

/-- Unless a node below the focus crashes, the subtree is laid out, and its boxes follow the walk. -/
theorem ofTree_follows_walk (root : SourceTree) (focus : NodePath) (rules : RuleNames)
    (measurer : Measurer α) (metrics : Metrics α) {top : SourceTree}
    (reached : root.resolve? focus = some top) :
    (∃ path node crash, top.resolve? path = some node ∧ node.crash = some crash ∧
      ofTree root focus rules measurer metrics = .error crash) ∨
    ∃ layout, ofTree root focus rules measurer metrics = .ok layout ∧
      layout.Follows rules root focus top := by
  refine (crash_or_layout reached).imp_right ?_
  rintro ⟨layout, laid⟩
  refine ⟨layout, laid, ?_⟩
  obtain ⟨outline, built⟩ := Outline.exists_build (sound_of_ofTree reached laid) focus
  obtain ⟨first, others, nodes, _, _, alone⟩ := exists_top reached laid
  have edges := forall₂_edges reached laid
  constructor
  case sources => exact fun entry member => resolve?_of_mem_walk reached member
  case ordered => exact paths_ordered reached laid
  case labels => exact labels_walk reached laid
  case first => rw [nodes, List.head?_cons, Option.map_some, alone]
  case parents => exact fun _ _ found => exists_parent reached laid found
  case edges => exact ⟨by rw [← edges.length_eq, List.length_tail], edges⟩
  case paths => exact paths_nodes reached laid
  case outline =>
    intro compact whole builtWhole
    have found := (Outline.descend?_eq_some_iff builtWhole compact focus outline).mpr ⟨top, reached, built⟩
    refine ⟨outline, (Outline.find?_ofTree builtWhole focus).trans found, ?_⟩
    rw [paths_nodes reached laid (compact.below reached), paths_walk built]

/-- With a hole in front of its leaf, a tree of two nodes is laid out all the same. -/
theorem ofTree_follows_walk_gapped : gapped.resolve? [] = some gapped ∧ ∃ layout : Layout Single,
    ofTree gapped [] .empty estimate .standard = .ok layout ∧ layout.Follows .empty gapped [] gapped := by
  refine ⟨rfl, ?_⟩
  rcases ofTree_follows_walk gapped [] .empty estimate (.standard : Metrics Single) rfl with crashed | laid
  · obtain ⟨_, _, _, _, _, impossible⟩ := crashed
    cases impossible
  · exact laid

end Layout

end TreeInspector
