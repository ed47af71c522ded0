import TreeInspector.CommandLine.Basic
import TreeInspector.Outline.Rows
import TreeInspector.Proofs.Outline.Drawing

/-! # Rows of an outline

The rows are drawn by one recursion over the displayed nodes, which stops at nodes that are not expanded,
and states are kept by path. No two displayed nodes have one path, and the nodes above a displayed node are
those whose paths it continues. So a node has a row exactly if all nodes above it are expanded; and toggling
a node shows or hides rows of nodes below it and of no others.
-/

namespace TreeInspector

namespace NodePath

/-- Whether the first path addresses a node above that of the second one. -/
def isAbove (above path : NodePath) : Bool := above.leadsTo path && above != path

theorem isAbove_iff (above path : NodePath) :
    above.isAbove path = true ↔ ∃ index rest, path = above ++ index :: rest := by
  rw [isAbove, Bool.and_eq_true, leadsTo_iff, bne_iff_ne]
  constructor
  · rintro ⟨⟨rest, rfl⟩, differs⟩
    cases rest with
    | nil => exact absurd (List.append_nil above).symm differs
    | cons index rest => exact ⟨index, rest, rfl⟩
  · rintro ⟨index, rest, rfl⟩
    refine ⟨⟨index :: rest, rfl⟩, fun same => ?_⟩
    have lengths := congrArg List.length same
    simp at lengths

end NodePath

namespace SourceTree

/-- A path that is above one that resolves resolves too. -/
theorem isSome_resolve?_of_isAbove {tree : SourceTree} {above path : NodePath}
    (isAbove : above.isAbove path = true) (resolves : (tree.resolve? path).isSome = true) :
    (tree.resolve? above).isSome = true := by
  obtain ⟨index, rest, rfl⟩ := (NodePath.isAbove_iff _ _).mp isAbove
  rw [resolve?_append] at resolves
  exact Option.isSome_of_isSome_bind resolves

end SourceTree

namespace Expansion

/-- Toggle nodes one after the other. -/
def toggleAll (toggles : List (WindowId × NodePath)) (expansion : Expansion) : Expansion :=
  toggles.foldl (fun expansion key => expansion.toggle key.1 key.2) expansion

theorem toggleAll_append (first second : List (WindowId × NodePath)) (expansion : Expansion) :
    expansion.toggleAll (first ++ second) = (expansion.toggleAll first).toggleAll second := by
  rw [toggleAll, List.foldl_append, ← toggleAll, ← toggleAll]

/-- A node has changed its state exactly if it was toggled an odd number of times. -/
theorem isExpanded_toggleAll (toggles : List (WindowId × NodePath)) (expansion : Expansion) (id : WindowId)
    (path : NodePath) : (expansion.toggleAll toggles).isExpanded id path =
      (expansion.isExpanded id path != decide (toggles.count (id, path) % 2 = 1)) := by
  induction toggles generalizing expansion with
  | nil => simp [toggleAll]
  | cons key toggles ih =>
    have later := ih (expansion.toggle key.1 key.2)
    rw [toggleAll] at later
    rw [toggleAll, List.foldl_cons, later, isExpanded_toggle, List.count_cons]
    by_cases same : id = key.1 ∧ path = key.2
    · have here : (key == (id, path)) = true := by simp [same]
      rw [if_pos same, if_pos here]
      rcases Nat.mod_two_eq_zero_or_one (toggles.count (id, path)) with even | odd
      · have next : (toggles.count (id, path) + 1) % 2 = 1 := by omega
        simp [even, next]
      · have next : (toggles.count (id, path) + 1) % 2 = 0 := by omega
        simp [odd, next]
    · have elsewhere : ¬(key == (id, path)) = true := by
        rw [beq_iff_eq]
        rintro rfl
        exact same ⟨rfl, rfl⟩
      rw [if_neg same, if_neg elsewhere, Nat.add_zero]

/-- A node that was not toggled keeps its state. -/
theorem isExpanded_toggleAll_of_notMem {toggles : List (WindowId × NodePath)} (expansion : Expansion)
    {id : WindowId} {path : NodePath} (absent : (id, path) ∉ toggles) :
    (expansion.toggleAll toggles).isExpanded id path = expansion.isExpanded id path := by
  rw [isExpanded_toggleAll, List.count_eq_zero_of_not_mem absent]
  simp

end Expansion

namespace Outline

/-! ## Shown nodes -/

theorem visibleAll_eq (isExpanded : NodePath → Bool) (outlines : List Outline) :
    visibleAll isExpanded outlines = outlines.flatMap (visible isExpanded) := by
  induction outlines with
  | nil => rfl
  | cons first rest ih => rw [visibleAll, ih, List.flatMap_cons]

theorem visible_eq (isExpanded : NodePath → Bool) (outline : Outline) :
    outline.visible isExpanded = outline ::
      if isExpanded outline.source then outline.children.flatMap (visible isExpanded) else [] := by
  cases outline
  rw [visible, visibleAll_eq, source_node, children_node]

/-- Whether all nodes on the way from a path down to a node are expanded. -/
def expandedAlong (isExpanded : NodePath → Bool) : NodePath → NodePath → Bool
  | _, [] => true
  | path, index :: rest => isExpanded path && expandedAlong isExpanded (path.child index) rest

theorem expandedAlong_iff (isExpanded : NodePath → Bool) (path rest : NodePath) :
    expandedAlong isExpanded path rest = true ↔
      ∀ before index after, rest = before ++ index :: after → isExpanded (path ++ before) = true := by
  induction rest generalizing path with
  | nil => simp [expandedAlong]
  | cons first rest ih =>
    rw [expandedAlong, Bool.and_eq_true, ih]
    constructor
    · rintro ⟨here, further⟩ before index after split
      cases before with
      | nil => rwa [List.append_nil]
      | cons next before =>
        obtain ⟨rfl, same⟩ := List.cons.inj split
        rw [← NodePath.child_append]
        exact further before index after same
    · intro all
      refine ⟨?_, fun before index after split => ?_⟩
      · rw [← List.append_nil path]
        exact all [] first rest rfl
      · rw [NodePath.child_append]
        exact all (first :: before) index after (congrArg (List.cons first) split)

/-- From the root, these are the nodes above. -/
theorem expandedAlong_root_iff (isExpanded : NodePath → Bool) (path : NodePath) :
    expandedAlong isExpanded [] path = true ↔
      ∀ above : NodePath, above.isAbove path = true → isExpanded above = true := by
  rw [expandedAlong_iff]
  simp only [NodePath.isAbove_iff, List.nil_append]
  constructor
  · rintro along above ⟨index, rest, split⟩
    exact along above index rest split
  · intro all before index after split
    exact all before ⟨index, after, split⟩

/-- The nodes that are shown are those with only expanded nodes on the way down to them, in pre-order. -/
theorem visible_eq_filter_along {path : NodePath} {tree : SourceTree} {outline : Outline}
    (built : build path tree = .ok outline) (isExpanded : NodePath → Bool) :
    outline.visible isExpanded = outline.preorder.filter fun shown =>
      expandedAlong isExpanded path (shown.source.drop path.length) := by
  induction tree using SourceTree.childInduction generalizing path outline with
  | step tree ih =>
    have here := source_of_build built
    have further : (outline.children.flatMap preorder).filter
          (fun shown => expandedAlong isExpanded path (shown.source.drop path.length)) =
        if isExpanded path then outline.children.flatMap (visible isExpanded) else [] := by
      rw [List.filter_flatMap]
      -- Behind the first step, the way down to a node is that from the child it lies at or below.
      have each : ∀ child ∈ outline.children, child.preorder.filter
            (fun shown => expandedAlong isExpanded path (shown.source.drop path.length)) =
          if isExpanded path then child.visible isExpanded else [] := by
        intro child among
        obtain ⟨index, source, found, childBuilt⟩ := (mem_children_iff built child).mp among
        have steps : ∀ shown ∈ child.preorder,
            expandedAlong isExpanded path (shown.source.drop path.length) =
              (isExpanded path && expandedAlong isExpanded (path.child index)
                (shown.source.drop (path.child index).length)) := by
          intro shown inside
          obtain ⟨rest, same⟩ := source_of_mem_preorder childBuilt inside
          rw [same, List.drop_left, NodePath.child_append, List.drop_left, expandedAlong]
        rw [List.filter_congr steps]
        cases expanded : isExpanded path with
        | false => simp
        | true =>
          simp only [Bool.true_and, if_true]
          exact (ih index source found childBuilt).symm
      rw [List.flatMap_congr each]
      cases isExpanded path with
      | false => simp
      | true => rfl
    have itself : expandedAlong isExpanded path (outline.source.drop path.length) = true := by
      rw [here, List.drop_length, expandedAlong]
    rw [visible_eq, preorder_eq, List.filter_cons, if_pos itself, further, here]

section Whole

variable {tree : SourceTree} {outline : Outline} (built : ofTree tree = .ok outline)
include built

/-- A path above a displayed node is that of a displayed node. -/
theorem exists_above {shown : Outline} (member : shown ∈ outline.preorder) {path : NodePath}
    (isAbove : path.isAbove shown.source = true) : ∃ above ∈ outline.preorder, above.source = path := by
  have resolves := (mem_sources_ofTree_iff built _).mp (List.mem_map_of_mem member)
  exact List.mem_map.mp ((mem_sources_ofTree_iff built path).mpr
    (SourceTree.isSome_resolve?_of_isAbove isAbove resolves))

/-- The nodes below a displayed node are those whose paths continue its own. -/
theorem isAbove_iff_below {above shown : Outline} (isNode : above ∈ outline.preorder)
    (member : shown ∈ outline.preorder) :
    above.source.isAbove shown.source = true ↔ shown ∈ preorderAll above.children := by
  obtain ⟨node, reached, aboveBuilt⟩ := built_of_mem_preorder built isNode
  rw [NodePath.isAbove_iff, preorderAll_eq, List.mem_flatMap]
  constructor
  · rintro ⟨index, rest, continues⟩
    obtain ⟨target, found, shownBuilt⟩ := built_of_mem_preorder built member
    rw [continues, SourceTree.resolve?_below reached] at found
    rw [continues] at shownBuilt
    have inside : shown ∈ above.preorder :=
      (mem_preorder_iff aboveBuilt shown).mpr ⟨index :: rest, target, found, shownBuilt⟩
    rw [preorder_eq, List.mem_cons, List.mem_flatMap] at inside
    refine inside.resolve_left ?_
    rintro rfl
    have lengths := congrArg List.length continues
    simp at lengths
  · rintro ⟨child, among, inside⟩
    obtain ⟨index, source, _, childBuilt⟩ := (mem_children_iff aboveBuilt child).mp among
    obtain ⟨rest, same⟩ := source_of_mem_preorder childBuilt inside
    exact ⟨index, rest, by rw [same, NodePath.child_append]⟩

/-- The nodes that are shown are those with only expanded nodes above them, in pre-order. -/
theorem visible_eq_filter (isExpanded : NodePath → Bool) :
    outline.visible isExpanded = outline.preorder.filter fun shown =>
      outline.preorder.all fun above => !above.source.isAbove shown.source || isExpanded above.source := by
  rw [visible_eq_filter_along built]
  apply List.filter_congr
  intro shown member
  rw [Bool.eq_iff_iff, List.length_nil, List.drop_zero, expandedAlong_root_iff, List.all_eq_true]
  simp only [Bool.or_eq_true, Bool.not_eq_true', ← Bool.not_eq_true, ← imp_iff_not_or]
  constructor
  · intro all above _ isAbove
    exact all above.source isAbove
  · intro all path isAbove
    obtain ⟨above, isNode, rfl⟩ := exists_above built member isAbove
    exact all above isNode isAbove

/-- Collapsing a node hides the nodes below it and no others. -/
theorem visible_collapse {before after : NodePath → Bool} {path : NodePath} (expanded : before path = true)
    (collapsed : after path = false) (others : ∀ other, other ≠ path → after other = before other) :
    outline.visible after = (outline.visible before).filter fun shown => !path.isAbove shown.source := by
  rw [visible_eq_filter_along built, visible_eq_filter_along built, List.filter_filter]
  apply List.filter_congr
  intro shown _
  rw [Bool.eq_iff_iff, List.length_nil, List.drop_zero, Bool.and_eq_true, Bool.not_eq_true',
    expandedAlong_root_iff, expandedAlong_root_iff]
  constructor
  · intro all
    refine ⟨Bool.eq_false_iff.mpr fun isAbove => ?_, fun above isAbove => ?_⟩
    · rw [all path isAbove] at collapsed
      cases collapsed
    · by_cases same : above = path
      · rwa [same]
      · rw [← others above same]
        exact all above isAbove
  · rintro ⟨aside, all⟩ above isAbove
    have differs : above ≠ path := by
      rintro rfl
      rw [isAbove] at aside
      cases aside
    rw [others above differs]
    exact all above isAbove

/-- The rows belong to different paths. -/
theorem nodup_visible (isExpanded : NodePath → Bool) : ((outline.visible isExpanded).map source).Nodup := by
  rw [visible_eq_filter_along built]
  exact (NodePath.nodup_of_ordered (sources_ordered built)).sublist (List.filter_sublist.map _)

end Whole

end Outline

/-! ## Rows of a window -/

/-- The line of a node in a printed outline, by its row: a group of three characters for every level above
the node, a mark if the row is coloured, and the text of the row. -/
def Row.IsPrinted (row : Row) (depth : Nat) (line : String) : Prop :=
  ∃ groups : List String, groups.length = depth ∧ (∀ group ∈ groups, group.length = 3) ∧
    line = String.join groups ++ (if row.color.isSome then "! " else "") ++ row.text

namespace Window

/-- How the outline of a window is drawn while the outlines are in some state. -/
structure DrawsOutline (window : Window) (expansion : Expansion) : Prop where
  /-- What is drawn is the outline of the window's tree. -/
  mirrors : Outline.ofTree window.session.root = .ok window.outline
  /-- The nodes below a node are those whose paths continue its own. -/
  above : ∀ above ∈ window.outline.preorder, ∀ shown ∈ window.outline.preorder,
    above.source.isAbove shown.source = true ↔ shown ∈ Outline.preorderAll above.children
  /-- The nodes with rows are those with only expanded nodes above them, in pre-order. -/
  rows : window.rows expansion = window.outline.preorder.filter fun shown => window.outline.preorder.all
    fun above => !above.source.isAbove shown.source || expansion.isExpanded window.id above.source
  /-- A row has the text of its node, and the colour of errors if the node or one below it is an error. -/
  texts : ∀ shown ∈ window.outline.preorder, (window.row shown).text = window.session.nodeText shown.source
  colors : ∀ shown ∈ window.outline.preorder,
    (window.row shown).color = if shown.errorBelow then some errorColor else none
  /-- Every node has in its row the text and the mark that are printed for it. -/
  printed : ∀ session text, session.root = window.session.root → session.rules = window.session.rules →
    CommandLine.outline session = .ok text →
      List.Forall₂ (fun line shown => (window.row shown).IsPrinted shown.source.depth line) (linesOf text)
        window.outline.preorder
  /-- At most one row is highlighted, that of the selected node. -/
  single : (window.drawnRows expansion).countP Row.highlighted ≤ 1
  selected : ∀ shown ∈ window.rows expansion,
    (window.row shown).highlighted = true ↔ window.selected = some shown.source
  /-- Toggling an expanded node takes away the rows of the nodes below it and no others. -/
  collapses : ∀ path, expansion.isExpanded window.id path = true →
    window.rows (expansion.toggle window.id path) =
      (window.rows expansion).filter fun shown => !path.isAbove shown.source
  /-- Toggling a collapsed node adds rows of nodes below it and no others. -/
  expands : ∀ path, expansion.isExpanded window.id path = false → window.rows expansion =
    (window.rows (expansion.toggle window.id path)).filter fun shown => !path.isAbove shown.source
  /-- Toggling nodes of other windows does nothing to the rows. -/
  others : ∀ id path, id ≠ window.id → window.rows (expansion.toggle id path) = window.rows expansion

theorem text_row (window : Window) (shown : Outline) :
    (window.row shown).text = window.session.nodeText shown.source := String.empty_append

theorem isSome_color_row (window : Window) (shown : Outline) :
    (window.row shown).color.isSome = shown.errorBelow := by
  rw [row]
  cases shown.errorBelow <;> rfl

theorem isPrinted_row {window : Window} {session : Session} (root : session.root = window.session.root)
    (rules : session.rules = window.session.rules) {line : String} {shown : Outline}
    (isLine : Outline.IsLine session line shown) :
    (window.row shown).IsPrinted shown.source.depth line := by
  obtain ⟨groups, depth, width, rfl⟩ := isLine
  refine ⟨groups, depth, width, ?_⟩
  rw [text_row, isSome_color_row, Session.nodeText, Session.nodeText, root, rules]

theorem countP_highlighted_le (window : Window) (expansion : Expansion)
    (distinct : ((window.rows expansion).map Outline.source).Nodup) :
    (window.drawnRows expansion).countP Row.highlighted ≤ 1 := by
  rw [drawnRows, List.countP_map]
  cases chosen : window.selected with
  | none =>
    have nothing : Row.highlighted ∘ window.row = fun _ => false := by
      funext shown
      rw [Function.comp_apply, row, chosen]
      rfl
    rw [nothing, List.countP_false]
    exact Nat.zero_le _
  | some path =>
    have matching : Row.highlighted ∘ window.row = (· == path) ∘ Outline.source := by
      funext shown
      rw [Function.comp_apply, row, chosen, Function.comp_apply, Bool.eq_iff_iff, beq_iff_eq, beq_iff_eq,
        Option.some.injEq, eq_comm]
    rw [matching, ← List.countP_map]
    exact List.nodup_iff_count_le_one.mp distinct path

/-- A window with the outline of its tree draws it as it should, whatever was toggled. -/
theorem drawsOutline {window : Window} (mirrors : Outline.ofTree window.session.root = .ok window.outline)
    (expansion : Expansion) : window.DrawsOutline expansion where
  mirrors := mirrors
  above above isNode shown member := Outline.isAbove_iff_below mirrors isNode member
  rows := Outline.visible_eq_filter mirrors _
  texts shown _ := window.text_row shown
  colors shown _ := rfl
  printed session text root rules printed := by
    rw [CommandLine.outline, root, mirrors] at printed
    cases printed
    exact (Outline.lines_of_build mirrors session).imp fun _ _ => isPrinted_row root rules
  single := window.countP_highlighted_le expansion (Outline.nodup_visible mirrors _)
  selected shown _ := beq_iff_eq
  collapses path expanded := by
    refine Outline.visible_collapse mirrors expanded ?_ fun other differs => ?_
    · rw [Expansion.isExpanded_toggle, if_pos ⟨rfl, rfl⟩, expanded, Bool.not_true]
    · rw [Expansion.isExpanded_toggle, if_neg fun same => differs same.2]
  expands path collapsed := by
    refine Outline.visible_collapse mirrors ?_ collapsed fun other differs => ?_
    · rw [Expansion.isExpanded_toggle, if_pos ⟨rfl, rfl⟩, collapsed, Bool.not_false]
    · rw [Expansion.isExpanded_toggle, if_neg fun same => differs same.2]
  others id path differs := by
    have kept : (expansion.toggle id path).isExpanded window.id = expansion.isExpanded window.id := by
      funext node
      rw [Expansion.isExpanded_toggle, if_neg fun same => differs same.1.symm]
    rw [Window.rows, kept, Window.rows]

end Window

end TreeInspector
