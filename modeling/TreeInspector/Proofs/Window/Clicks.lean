import TreeInspector.Proofs.Outline.Find
import TreeInspector.Proofs.Window.History

/-! # Clicking rows and boxes

A click on a row of the outline selects the path of the row, and a click on a box of the view selects
the path of the box. Rows carry the indices of their nodes, while finding a path and numbering the
boxes count the displayed children only. Both counts agree in a compact tree, and then every click
roots the view at the node that was clicked. With a hole in front of a child they do not: some row is
not found any more, whatever happened to the window before.
-/

namespace TreeInspector

namespace Window

/-- Selecting the path is accepted and roots the view at a node with the given text and mark. -/
structure RootsAt (window : Window) (path : NodePath) (text : String) (flagged : Bool) : Prop where
  accepted : (window.outline.find? path).isSome = true
  shown : ∃ next first others, window.select path = .ok next ∧ next.selected = some path ∧
    next.view.focus = path ∧ next.view.layout.nodes = first :: others ∧ first.path = path ∧
    first.text = text ∧ first.flagged = flagged

/-- Every row and every box can be clicked to root the view at its node. The mark of a row tells of
the whole subtree, so it is compared with all the boxes that are shown then. -/
structure ClicksReach (window : Window) : Prop where
  rows : ∀ row ∈ window.outline.preorder, ∃ node, window.session.root.resolve? row.source = some node ∧
    window.RootsAt row.source (window.session.nodeText row.source) node.flagged
  marks : ∀ row ∈ window.outline.preorder, ∀ next, window.select row.source = .ok next →
    (row.errorBelow = true ↔ ∃ placed ∈ next.view.layout.nodes, placed.flagged = true)
  boxes : ∀ placed ∈ window.view.layout.nodes, window.RootsAt placed.path placed.text placed.flagged

section Reached

variable {window : Window} (shows : window.view.Shows window.session) (sound : window.session.root.Sound)
include shows sound

/-- A path that is found and leads to a node is selected, with the layout of the subtree there. -/
theorem exists_select {path : NodePath} (found : (window.outline.find? path).isSome = true) :
    ∃ next, window.select path = .ok next ∧ next.selected = some path ∧ next.view.focus = path ∧
      View.layoutFor window.session.root window.session.rules path window.session.scale =
        .ok next.view.layout := by
  obtain ⟨view, shows, selected⟩ := select_of_find? shows sound found
  exact ⟨_, selected, rfl, shows.focus, shows.fresh⟩

theorem rootsAt_of_resolve? {path : NodePath} {node : SourceTree}
    (found : (window.outline.find? path).isSome = true)
    (reached : window.session.root.resolve? path = some node) :
    window.RootsAt path (window.session.rules.textFor node.label) node.flagged := by
  obtain ⟨next, selected, row, focus, laid⟩ := exists_select shows sound found
  obtain ⟨first, others, nodes, top, text, flagged⟩ := Layout.exists_first reached laid
  exact ⟨found, next, first, others, selected, row, focus, nodes, top, text, flagged⟩

/-- Where positions are indices, all clicks reach their nodes. -/
theorem clicksReach_of_compact (outlined : Outline.ofTree window.session.root = .ok window.outline)
    (compact : window.session.root.Compact) : window.ClicksReach := by
  have finds (path : NodePath) (node : SourceTree)
      (reached : window.session.root.resolve? path = some node) :
      (window.outline.find? path).isSome = true := by
    rw [Outline.find?_isSome_iff outlined compact, reached]
    rfl
  refine ⟨?_, ?_, ?_⟩
  · intro row member
    obtain ⟨node, reached, _⟩ := Outline.built_of_mem_preorder outlined member
    have text : window.session.nodeText row.source = window.session.rules.textFor node.label := by
      rw [Session.nodeText, reached]
    refine ⟨node, reached, ?_⟩
    rw [text]
    exact rootsAt_of_resolve? shows sound (finds _ _ reached) reached
  · intro row member next selected
    obtain ⟨node, reached, built⟩ := Outline.built_of_mem_preorder outlined member
    obtain ⟨other, same, _, _, laid⟩ := exists_select shows sound (finds _ _ reached)
    obtain rfl : other = next := Except.ok.inj (same.symm.trans selected)
    rw [Outline.errorBelow_iff built]
    exact (Layout.exists_flagged_iff reached laid).symm
  · intro placed member
    obtain ⟨node, reached, text, flagged⟩ := Layout.resolve?_of_mem_nodes compact shows.fresh member
    rw [text, flagged]
    exact rootsAt_of_resolve? shows sound (finds _ _ reached) reached

end Reached

/-- After every run of events, all clicks reach their nodes exactly if the tree is compact. -/
theorem clicksReach_iff_compact {id : WindowId} {session : Session} {window : Window}
    (built : construct id session = .ok window) (events : List Event) :
    ∃ current, window.handleAll events = .ok current ∧
      (current.ClicksReach ↔ session.root.Compact) := by
  have sound := sound_of_construct built
  obtain ⟨current, ran, _, reflects⟩ := (reflects_construct built).handleAll sound events
  have root : current.session.root = session.root := by rw [reflects.session]
  have outlined : Outline.ofTree session.root = .ok current.outline := by
    rw [reflects.outline]
    exact outline_of_construct built
  rw [← root] at sound outlined ⊢
  refine ⟨current, ran, ?_, clicksReach_of_compact reflects.view sound outlined⟩
  intro reach
  apply (Outline.finds_nodes_iff outlined).mp
  intro row member
  obtain ⟨_, _, roots⟩ := reach.rows row member
  exact roots.accepted

theorem clicksReach_trailing : SourceTree.trailing.Compact ∧ ∃ window current,
    construct 1 { root := .trailing, rules := .empty } = .ok window ∧
    window.handleAll [.select [1], .adjustScale 250, .select [0, 1], .select [0, 0]] = .ok current ∧
    current.ClicksReach := by
  obtain ⟨outline, outlined⟩ : ∃ outline, Outline.ofTree .trailing = .ok outline := ⟨_, rfl⟩
  have compact : SourceTree.trailing.Compact := by
    apply (Outline.finds_nodes_iff outlined).mp
    cases outlined
    decide
  obtain ⟨window, built⟩ := exists_construct 1 { root := .trailing, rules := .empty }
    (Outline.sound_of_build outlined)
  obtain ⟨current, ran, reach⟩ := clicksReach_iff_compact built
    [.select [1], .adjustScale 250, .select [0, 1], .select [0, 0]]
  exact ⟨compact, window, current, built, ran, reach.mpr compact⟩

/-- The row behind a hole is not found, and its box names the hole: the view becomes empty. -/
theorem clicks_miss_gapped : ∃ window, construct 1 { root := .gapped, rules := .empty } = .ok window ∧
    (∃ row ∈ window.outline.preorder, row.source = [1] ∧ window.select row.source = .ok window) ∧
    (∃ placed ∈ window.view.layout.nodes, placed.text = "leaf" ∧ ∃ next,
      window.select placed.path = .ok next ∧ next.view.layout.nodes = []) ∧
    ¬window.ClicksReach := by
  refine ⟨_, rfl, ⟨.node [1] true [], .tail _ (.head _), rfl, rfl⟩,
    ⟨_, .tail _ (.head _), rfl, _, rfl, rfl⟩, ?_⟩
  intro reach
  obtain ⟨_, _, roots⟩ := reach.rows (.node [1] true []) (.tail _ (.head _))
  exact absurd roots.accepted (by decide)

end Window

end TreeInspector
