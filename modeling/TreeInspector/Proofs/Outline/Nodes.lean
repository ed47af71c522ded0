import Mathlib.Data.Set.Card
import TreeInspector.Outline.Basic
import TreeInspector.Proofs.Source.Nodes
import TreeInspector.Proofs.Source.Passes
import TreeInspector.Session

/-! # The nodes an outline displays

Building an outline is one pass over the present children of every node. Every displayed node is
itself the outline built at its own path, so what holds of a built outline as a whole holds of each
of its nodes: it lists exactly the paths that resolve below it, in increasing order, and its mark
says whether one of them leads to an error. Holes shift nothing, because a node keeps the path of
its source and not its position.
-/

namespace TreeInspector

open SourceTree

namespace Outline

theorem buildSlots_eq (path : NodePath) (start : Nat) (slots : List (Option SourceTree)) :
    buildSlots path start slots =
      (presentFrom start slots).mapM fun entry => build (path.child entry.1) entry.2 := by
  induction slots generalizing start with
  | nil => rfl
  | cons slot rest ih =>
    cases slot with
    | none => rw [buildSlots, presentFrom, ih]
    | some child => rw [buildSlots, presentFrom, List.mapM_cons, ih]

/-- What a built outline is made of. -/
theorem build_eq_ok_iff {path : NodePath} {tree : SourceTree} {outline : Outline} :
    build path tree = .ok outline ↔ tree.crash = none ∧ ∃ children,
      (tree.present.mapM fun entry => build (path.child entry.1) entry.2) = .ok children ∧
        outline = .node path (tree.flagged || children.any errorBelow) children := by
  obtain ⟨label, flagged, crash, slots⟩ := tree
  cases crash with
  | some crash => simp [build, SourceTree.crash]
  | none =>
    simp only [build, bind_eq_ok_iff, buildSlots_eq, SourceTree.crash, SourceTree.flagged,
      present, SourceTree.slots, true_and]
    constructor
    · rintro ⟨children, passed, same⟩
      cases same
      exact ⟨children, passed, rfl⟩
    · rintro ⟨children, passed, rfl⟩
      exact ⟨children, passed, rfl⟩

@[simp] theorem source_node (path : NodePath) (marked : Bool) (children : List Outline) :
    (node path marked children).source = path := rfl

@[simp] theorem children_node (path : NodePath) (marked : Bool) (children : List Outline) :
    (node path marked children).children = children := rfl

section Children

variable {path : NodePath} {tree : SourceTree} {outline : Outline}

theorem source_of_build (built : build path tree = .ok outline) : outline.source = path := by
  obtain ⟨_, children, _, rfl⟩ := build_eq_ok_iff.mp built
  rfl

/-- The displayed children are the outlines of the children that are there. -/
theorem mem_children_iff (built : build path tree = .ok outline) (child : Outline) :
    child ∈ outline.children ↔ ∃ index source,
      tree.childAt? index = some source ∧ build (path.child index) source = .ok child := by
  obtain ⟨_, children, passed, rfl⟩ := build_eq_ok_iff.mp built
  simp only [children_node, Crash.mem_mapM_iff passed, Prod.exists, mem_present]

theorem exists_child (built : build path tree = .ok outline) {index : Nat} {source : SourceTree}
    (found : tree.childAt? index = some source) :
    ∃ child, build (path.child index) source = .ok child := by
  obtain ⟨_, children, passed, _⟩ := build_eq_ok_iff.mp built
  exact Crash.exists_result_of_mem passed ((mem_present tree index source).mpr found)

/-- The displayed children follow their indices. -/
theorem children_ordered (built : build path tree = .ok outline) :
    outline.children.Pairwise fun first second => ∃ index source index' source',
      build (path.child index) source = .ok first ∧
        build (path.child index') source' = .ok second ∧ index < index' := by
  obtain ⟨_, children, passed, rfl⟩ := build_eq_ok_iff.mp built
  refine (Crash.pairwise_mapM passed (present_increasing tree)).imp ?_
  rintro first second ⟨entry, other, firstBuilt, secondBuilt, less⟩
  exact ⟨_, _, _, _, firstBuilt, secondBuilt, less⟩

end Children

/-- An outline cannot be built only because some node of the tree crashes. -/
theorem exists_crash_of_build {path : NodePath} {tree : SourceTree} {crash : Crash}
    (failed : build path tree = .error crash) :
    ∃ rest node, tree.resolve? rest = some node ∧ node.crash = some crash := by
  refine exists_crash_of_fails (fun path tree => build path tree = .error crash) (fun path tree failed => ?_) path
    failed
  obtain ⟨label, flagged, here, slots⟩ := tree
  cases here with
  | some here =>
    cases failed
    exact .inl rfl
  | none =>
    simp only [build, bind_eq_error_iff, buildSlots_eq] at failed
    rcases failed with failed | ⟨_, _, impossible⟩
    · obtain ⟨⟨index, child⟩, member, below⟩ := Crash.exists_of_mapM_eq_error failed
      exact .inr ⟨index, child, _, (mem_present (.node label flagged none slots) index child).mp member, below⟩
    · cases impossible

theorem sound_of_build {path : NodePath} {tree : SourceTree} {outline : Outline}
    (built : build path tree = .ok outline) : tree.Sound := by
  induction tree using childInduction generalizing path outline with
  | step tree ih =>
    refine everywhere_iff.mpr ⟨(build_eq_ok_iff.mp built).1, ?_⟩
    intro index source found
    obtain ⟨child, childBuilt⟩ := exists_child built found
    exact ih index source found childBuilt

/-- A sound tree has an outline at every path. -/
theorem exists_build {tree : SourceTree} (sound : tree.Sound) (path : NodePath) :
    ∃ outline, build path tree = .ok outline := by
  cases result : build path tree with
  | ok outline => exact ⟨outline, rfl⟩
  | error crash =>
    obtain ⟨rest, node, reached, crashes⟩ := exists_crash_of_build result
    rw [sound rest node reached] at crashes
    contradiction

theorem preorderAll_eq (outlines : List Outline) : preorderAll outlines = outlines.flatMap preorder := by
  induction outlines with
  | nil => rfl
  | cons first rest ih => rw [preorderAll, ih, List.flatMap_cons]

theorem preorder_eq (outline : Outline) :
    outline.preorder = outline :: outline.children.flatMap preorder := by
  obtain ⟨path, marked, children⟩ := outline
  rw [preorder, preorderAll_eq, children_node]

/-- The displayed nodes are the outlines built at the ends of the paths that resolve. -/
theorem mem_preorder_iff {path : NodePath} {tree : SourceTree} {outline : Outline}
    (built : build path tree = .ok outline) (shown : Outline) :
    shown ∈ outline.preorder ↔
      ∃ rest node, tree.resolve? rest = some node ∧ build (path ++ rest) node = .ok shown := by
  induction tree using childInduction generalizing path outline with
  | step tree ih =>
    rw [preorder_eq, List.mem_cons, List.mem_flatMap]
    constructor
    · rintro (rfl | ⟨child, member, inside⟩)
      · exact ⟨[], tree, rfl, by rw [List.append_nil]; exact built⟩
      · obtain ⟨index, source, found, childBuilt⟩ := (mem_children_iff built child).mp member
        obtain ⟨rest, node, reached, shownBuilt⟩ := (ih index source found childBuilt).mp inside
        rw [NodePath.child_append] at shownBuilt
        exact ⟨index :: rest, node, by rw [resolve?_cons, found]; exact reached, shownBuilt⟩
    · rintro ⟨rest, node, reached, shownBuilt⟩
      cases rest with
      | nil =>
        cases reached
        rw [List.append_nil, built] at shownBuilt
        exact .inl (Except.ok.inj shownBuilt).symm
      | cons index rest =>
        obtain ⟨source, found, reached⟩ := Option.bind_eq_some_iff.mp reached
        obtain ⟨child, childBuilt⟩ := exists_child built found
        refine .inr ⟨child, (mem_children_iff built child).mpr ⟨index, source, found, childBuilt⟩, ?_⟩
        rw [← NodePath.child_append] at shownBuilt
        exact (ih index source found childBuilt).mpr ⟨rest, node, reached, shownBuilt⟩

/-- Every displayed node has a path of the tree below the outline's own. -/
theorem source_of_mem_preorder {path : NodePath} {tree : SourceTree} {outline shown : Outline}
    (built : build path tree = .ok outline) (member : shown ∈ outline.preorder) :
    ∃ rest, shown.source = path ++ rest := by
  obtain ⟨rest, node, _, shownBuilt⟩ := (mem_preorder_iff built shown).mp member
  exact ⟨rest, source_of_build shownBuilt⟩

/-- The paths of the displayed nodes are the paths that resolve. -/
theorem mem_sources_iff {path : NodePath} {tree : SourceTree} {outline : Outline}
    (built : build path tree = .ok outline) (target : NodePath) :
    target ∈ outline.preorder.map source ↔
      ∃ rest, target = path ++ rest ∧ (tree.resolve? rest).isSome = true := by
  simp only [List.mem_map, mem_preorder_iff built, Option.isSome_iff_exists]
  constructor
  · rintro ⟨shown, ⟨rest, node, reached, shownBuilt⟩, rfl⟩
    exact ⟨rest, source_of_build shownBuilt, node, reached⟩
  · rintro ⟨rest, rfl, node, reached⟩
    obtain ⟨shown, shownBuilt⟩ := exists_build ((sound_of_build built).below reached) (path ++ rest)
    exact ⟨shown, ⟨rest, node, reached, shownBuilt⟩, source_of_build shownBuilt⟩

/-- Pre-order is the order of paths. -/
theorem sources_ordered {path : NodePath} {tree : SourceTree} {outline : Outline}
    (built : build path tree = .ok outline) :
    (outline.preorder.map source).Pairwise fun first second => first.order second = .lt := by
  induction tree using childInduction generalizing path outline with
  | step tree ih =>
    -- The source of everything at or below a child continues the path by the index of the child.
    have under {index : Nat} {below : SourceTree} {child shown : Outline}
        (childBuilt : build (path.child index) below = .ok child) (member : shown ∈ child.preorder) :
        ∃ rest, shown.source = path ++ index :: rest := by
      obtain ⟨rest, same⟩ := source_of_mem_preorder childBuilt member
      exact ⟨rest, by rw [same, NodePath.child_append]⟩
    rw [List.pairwise_map, preorder_eq, List.pairwise_cons, List.pairwise_flatMap]
    refine ⟨?_, ?_, ?_⟩
    · intro shown member
      obtain ⟨child, among, inside⟩ := List.mem_flatMap.mp member
      obtain ⟨index, _, _, childBuilt⟩ := (mem_children_iff built child).mp among
      obtain ⟨rest, same⟩ := under childBuilt inside
      rw [source_of_build built, same]
      exact NodePath.order_append_cons path index rest
    · intro child among
      obtain ⟨index, source, found, childBuilt⟩ := (mem_children_iff built child).mp among
      exact List.pairwise_map.mp (ih index source found childBuilt)
    · refine (children_ordered built).imp ?_
      rintro first second ⟨index, _, index', _, firstBuilt, secondBuilt, less⟩ shown inside shown' inside'
      obtain ⟨rest, same⟩ := under firstBuilt inside
      obtain ⟨rest', same'⟩ := under secondBuilt inside'
      rw [same, same', NodePath.order_append]
      exact NodePath.order_cons_of_lt less rest rest'

/-- A node is marked when an error lies at or below it. -/
theorem errorBelow_iff {path : NodePath} {tree : SourceTree} {outline : Outline}
    (built : build path tree = .ok outline) :
    outline.errorBelow = true ↔
      ∃ rest node, tree.resolve? rest = some node ∧ node.flagged = true := by
  induction tree using childInduction generalizing path outline with
  | step tree ih =>
    have mark : outline.errorBelow = (tree.flagged || outline.children.any errorBelow) := by
      obtain ⟨_, children, _, rfl⟩ := build_eq_ok_iff.mp built
      rfl
    rw [mark, Bool.or_eq_true, List.any_eq_true]
    constructor
    · rintro (here | ⟨child, member, marked⟩)
      · exact ⟨[], tree, rfl, here⟩
      · obtain ⟨index, source, found, childBuilt⟩ := (mem_children_iff built child).mp member
        obtain ⟨rest, node, reached, flagged⟩ := (ih index source found childBuilt).mp marked
        exact ⟨index :: rest, node, by rw [resolve?_cons, found]; exact reached, flagged⟩
    · rintro ⟨rest, node, reached, flagged⟩
      cases rest with
      | nil =>
        cases reached
        exact .inl flagged
      | cons index rest =>
        obtain ⟨source, found, reached⟩ := Option.bind_eq_some_iff.mp reached
        obtain ⟨child, childBuilt⟩ := exists_child built found
        refine .inr ⟨child, (mem_children_iff built child).mpr ⟨index, source, found, childBuilt⟩, ?_⟩
        exact (ih index source found childBuilt).mpr ⟨rest, node, reached, flagged⟩

/-- The number of displayed nodes is the number of paths that resolve. -/
theorem nodeCount_eq_ncard {path : NodePath} {tree : SourceTree} {outline : Outline}
    (built : build path tree = .ok outline) :
    outline.nodeCount =
      Set.ncard { target | ∃ rest, target = path ++ rest ∧ (tree.resolve? rest).isSome = true } := by
  have distinct := NodePath.nodup_of_ordered (sources_ordered built)
  have same : { target | ∃ rest, target = path ++ rest ∧ (tree.resolve? rest).isSome = true } =
      ((outline.preorder.map source).toFinset : Set NodePath) := by
    ext target
    rw [Finset.mem_coe, List.mem_toFinset, mem_sources_iff built, Set.mem_ofPred_eq]
  rw [same, Set.ncard_coe_finset, List.toFinset_card_of_nodup distinct, List.length_map, length_preorder]

section Whole

variable {tree : SourceTree} {outline : Outline}

/-- A node displayed for a whole tree was built at a path of the tree. -/
theorem built_of_mem_preorder (built : ofTree tree = .ok outline) {shown : Outline}
    (member : shown ∈ outline.preorder) : ∃ node,
      tree.resolve? shown.source = some node ∧ build shown.source node = .ok shown := by
  obtain ⟨path, node, reached, shownBuilt⟩ := (mem_preorder_iff built shown).mp member
  rw [List.nil_append] at shownBuilt
  rw [source_of_build shownBuilt]
  exact ⟨node, reached, shownBuilt⟩

theorem mem_sources_ofTree_iff (built : ofTree tree = .ok outline) (path : NodePath) :
    path ∈ outline.preorder.map source ↔ (tree.resolve? path).isSome = true := by
  rw [mem_sources_iff built]
  constructor
  · rintro ⟨rest, rfl, resolves⟩
    exact resolves
  · intro resolves
    exact ⟨path, rfl, resolves⟩

end Whole

/-- Unless a node of the tree crashes, the outline of the tree lists exactly the paths that resolve,
each once and in increasing order. Every displayed node is marked exactly if an error lies at or
below it, shows the text of the node it stands for and counts the nodes at or below that one. -/
theorem ofTree_lists_nodes (tree : SourceTree) :
    (∃ path node crash, tree.resolve? path = some node ∧ node.crash = some crash ∧
      ofTree tree = .error crash) ∨
    ∃ outline, ofTree tree = .ok outline ∧
      (∀ path, path ∈ outline.preorder.map source ↔ (tree.resolve? path).isSome = true) ∧
      (outline.preorder.map source).Nodup ∧
      ((outline.preorder.map source).Pairwise fun first second => first.order second = .lt) ∧
      ∀ shown ∈ outline.preorder,
        (shown.errorBelow = true ↔ ∃ path node, shown.source.leadsTo path = true ∧
          tree.resolve? path = some node ∧ node.flagged = true) ∧
        (∃ node, tree.resolve? shown.source = some node ∧ ∀ session : Session, session.root = tree →
          session.nodeText shown.source = session.rules.textFor node.label) ∧
        shown.nodeCount = Set.ncard { path |
          shown.source.leadsTo path = true ∧ (tree.resolve? path).isSome = true } := by
  cases result : ofTree tree with
  | error crash =>
    obtain ⟨path, node, reached, crashes⟩ := exists_crash_of_build result
    exact .inl ⟨path, node, crash, reached, crashes, rfl⟩
  | ok outline =>
    have ordered := sources_ordered result
    refine .inr ⟨outline, rfl, mem_sources_ofTree_iff result, NodePath.nodup_of_ordered ordered, ordered, ?_⟩
    intro shown member
    obtain ⟨node, reached, shownBuilt⟩ := built_of_mem_preorder result member
    refine ⟨?_, ⟨node, reached, ?_⟩, ?_⟩
    · rw [errorBelow_iff shownBuilt]
      constructor
      · rintro ⟨rest, other, below, flagged⟩
        obtain ⟨leads, target⟩ := (leadsTo_and_resolve?_iff reached _ other).mpr ⟨rest, rfl, below⟩
        exact ⟨shown.source ++ rest, other, leads, target, flagged⟩
      · rintro ⟨path, other, leads, target, flagged⟩
        obtain ⟨rest, _, below⟩ := (leadsTo_and_resolve?_iff reached path other).mp ⟨leads, target⟩
        exact ⟨rest, other, below, flagged⟩
    · rintro session rfl
      rw [Session.nodeText, reached]
    · rw [nodeCount_eq_ncard shownBuilt]
      congr 1
      ext path
      simp only [Set.mem_ofPred_eq, Option.isSome_iff_exists, ← exists_and_left,
        leadsTo_and_resolve?_iff reached]
      exact exists_comm

end Outline

end TreeInspector
