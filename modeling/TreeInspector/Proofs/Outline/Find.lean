import TreeInspector.Proofs.Outline.Nodes

/-! # Finding displayed nodes

A path is followed among the displayed children by position. In a compact tree positions are
indices, so following a path in the outline and resolving it in the tree lead to the same node.
Conversely, an outline that finds all of its own nodes belongs to a compact tree: with a hole in
front of a child, the last child of that node has an index past the number of displayed children.
-/

namespace TreeInspector

open SourceTree

namespace Outline

variable {path : NodePath} {tree : SourceTree} {outline : Outline}

/-- The displayed child at a position was built from the present child at that position. -/
theorem getElem?_children_iff (built : build path tree = .ok outline) (position : Nat) (child : Outline) :
    outline.children[position]? = some child ↔ ∃ index source,
      tree.present[position]? = some (index, source) ∧ build (path.child index) source = .ok child := by
  obtain ⟨_, children, passed, rfl⟩ := build_eq_ok_iff.mp built
  simp only [children_node, Crash.getElem?_mapM_iff passed, Prod.exists]

theorem length_children (built : build path tree = .ok outline) :
    outline.children.length = tree.present.length := by
  obtain ⟨_, children, passed, rfl⟩ := build_eq_ok_iff.mp built
  exact Crash.length_mapM passed

/-- In a compact tree, following a path in the outline is resolving it in the tree. -/
theorem descend?_eq_some_iff (built : build path tree = .ok outline) (compact : tree.Compact)
    (rest : NodePath) (shown : Outline) :
    outline.descend? rest = some shown ↔
      ∃ node, tree.resolve? rest = some node ∧ build (path ++ rest) node = .ok shown := by
  induction rest generalizing path tree outline with
  | nil =>
    simp only [descend?, resolve?_nil, List.append_nil, Option.some.injEq, exists_eq_left', built,
      Except.ok.injEq]
  | cons index rest ih =>
    simp only [descend?, resolve?_cons, Option.bind_eq_some_iff, getElem?_children_iff built,
      compact.here.getElem?_present, Option.map_eq_some_iff, Prod.mk.injEq]
    constructor
    · rintro ⟨child, ⟨_, source, ⟨_, found, rfl, rfl⟩, childBuilt⟩, below⟩
      obtain ⟨node, reached, shownBuilt⟩ := (ih childBuilt (compact.child found)).mp below
      rw [NodePath.child_append] at shownBuilt
      exact ⟨node, ⟨_, found, reached⟩, shownBuilt⟩
    · rintro ⟨node, ⟨source, found, reached⟩, shownBuilt⟩
      obtain ⟨child, childBuilt⟩ := exists_child built found
      rw [← NodePath.child_append] at shownBuilt
      exact ⟨child, ⟨index, source, ⟨_, found, rfl, rfl⟩, childBuilt⟩,
        (ih childBuilt (compact.child found)).mpr ⟨node, reached, shownBuilt⟩⟩

/-- Only a compact tree has an outline in which every path of the tree can be followed. -/
theorem compact_of_descend? (built : build path tree = .ok outline)
    (followed : ∀ rest, (tree.resolve? rest).isSome = true → (outline.descend? rest).isSome = true) :
    tree.Compact := by
  induction tree using childInduction generalizing path outline with
  | step tree ih =>
    have gapless : tree.Gapless := by
      apply gapless_of_bounded
      intro index present
      obtain ⟨source, found⟩ := Option.isSome_iff_exists.mp present
      have reached := followed [index] (by rw [resolve?_cons, found]; rfl)
      obtain ⟨shown, below⟩ := Option.isSome_iff_exists.mp reached
      obtain ⟨child, here, _⟩ := Option.bind_eq_some_iff.mp below
      rw [← length_children built]
      exact (List.getElem?_eq_some_iff.mp here).1
    refine everywhere_iff.mpr ⟨gapless, ?_⟩
    intro index source found
    obtain ⟨child, childBuilt⟩ := exists_child built found
    have here : outline.children[index]? = some child := by
      refine (getElem?_children_iff built index child).mpr ⟨index, source, ?_, childBuilt⟩
      rw [gapless.getElem?_present, found]
      rfl
    refine ih index source found childBuilt ?_
    intro rest resolves
    have reached := followed (index :: rest) (by rw [resolve?_cons, found]; exact resolves)
    rwa [descend?, here] at reached

/-- From the root of the tree, finding a path is following it. -/
theorem find?_ofTree (built : ofTree tree = .ok outline) (target : NodePath) :
    outline.find? target = outline.descend? target := by
  rw [find?, source_of_build built]
  rfl

/-- In a compact tree, finding a path from a displayed node is resolving it in the whole tree, as long as
the path passes through the node. -/
theorem find?_eq_some_iff (built : ofTree tree = .ok outline) (compact : tree.Compact) {start : Outline}
    (member : start ∈ outline.preorder) (target : NodePath) (shown : Outline) :
    start.find? target = some shown ↔ start.source.leadsTo target = true ∧
      ∃ node, tree.resolve? target = some node ∧ build target node = .ok shown := by
  obtain ⟨node, reached, startBuilt⟩ := built_of_mem_preorder built member
  rw [find?]
  split_ifs with leads
  · obtain ⟨rest, rfl⟩ := (NodePath.leadsTo_iff _ _).mp leads
    rw [NodePath.depth, List.drop_left, descend?_eq_some_iff startBuilt (compact.below reached),
      resolve?_below reached, and_iff_right leads]
  · exact iff_of_false id fun found => leads found.1

/-- In a compact tree, the paths that are found are those that resolve. -/
theorem find?_isSome_iff (built : ofTree tree = .ok outline) (compact : tree.Compact) (target : NodePath) :
    (outline.find? target).isSome = true ↔ (tree.resolve? target).isSome = true := by
  rw [find?_ofTree built, Option.isSome_iff_exists, Option.isSome_iff_exists]
  constructor
  · rintro ⟨shown, found⟩
    obtain ⟨node, reached, _⟩ := (descend?_eq_some_iff built compact target shown).mp found
    exact ⟨node, reached⟩
  · rintro ⟨node, reached⟩
    obtain ⟨shown, shownBuilt⟩ := exists_build ((sound_of_build built).below reached) ([] ++ target)
    exact ⟨shown, (descend?_eq_some_iff built compact target shown).mpr ⟨node, reached, shownBuilt⟩⟩

/-- An outline finds all of its own nodes exactly if its tree is compact. -/
theorem finds_nodes_iff (built : ofTree tree = .ok outline) :
    (∀ shown ∈ outline.preorder, (outline.find? shown.source).isSome = true) ↔ tree.Compact := by
  constructor
  · intro finds
    apply compact_of_descend? built
    intro target resolves
    obtain ⟨shown, member, rfl⟩ := List.mem_map.mp ((mem_sources_ofTree_iff built target).mpr resolves)
    rw [← find?_ofTree built]
    exact finds shown member
  · intro compact shown member
    rw [find?_isSome_iff built compact]
    exact (mem_sources_ofTree_iff built _).mp (List.mem_map_of_mem member)

end Outline

end TreeInspector
