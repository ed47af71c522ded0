import TreeInspector.Document.ParseTree
import TreeInspector.Proofs.Outline.Find
import TreeInspector.Proofs.Window.History

/-! # Finding nodes and selecting them

In a tree without holes in front of children, an outline can be walked like the tree itself. From every
displayed node, a path is found exactly if it passes through that node and resolves in the tree, and what
is found is the outline that would be built there. So a window accepts a selection exactly if it names a
node of the tree. All trees without holes are of this kind, and so are all parse trees.
-/

namespace TreeInspector

open SourceTree

namespace SourceTree

/-- The tree has no holes. -/
def Whole : SourceTree → Prop := Everywhere fun node => none ∉ node.slots

theorem Whole.compact {tree : SourceTree} (whole : tree.Whole) : tree.Compact := by
  intro path node reached index next
  have bound : index < node.slots.length := by
    obtain ⟨_, found⟩ := Option.isSome_iff_exists.mp next
    have later := (List.getElem?_eq_some_iff.mp ((childAt?_eq_some_iff _ _ _).mp found)).1
    omega
  obtain ⟨child, present⟩ := Option.ne_none_iff_exists'.mp
    (ne_of_mem_of_not_mem (List.getElem_mem bound) (whole path node reached))
  rw [childAt?, List.getElem?_eq_getElem bound, present]
  rfl

end SourceTree

namespace ParseTree

theorem toSources_eq (trees : List ParseTree) : toSources trees = trees.map fun tree => some tree.toSource := by
  induction trees with
  | nil => rfl
  | cons first rest ih => rw [toSources, ih, List.map_cons]

theorem slots_toSource (tree : ParseTree) :
    tree.toSource.slots = tree.children.map fun child => some child.toSource := by
  cases tree with
  | rule => exact toSources_eq _
  | token => rfl
  | error => rfl

theorem crash_toSource (tree : ParseTree) : tree.toSource.crash = none := by cases tree <;> rfl

/-- All nodes of a parse tree are parse trees. -/
theorem everywhere_toSource {property : SourceTree → Prop} (each : ∀ tree : ParseTree, property tree.toSource)
    (tree : ParseTree) : Everywhere property tree.toSource := by
  intro path node reached
  induction path generalizing tree with
  | nil =>
    cases reached
    exact each tree
  | cons index rest ih =>
    obtain ⟨child, found, below⟩ := Option.bind_eq_some_iff.mp reached
    rw [childAt?_eq_some_iff, slots_toSource, List.getElem?_map, Option.map_eq_some_iff] at found
    obtain ⟨source, _, same⟩ := found
    cases same
    exact ih source below

theorem whole_toSource (tree : ParseTree) : tree.toSource.Whole := by
  apply everywhere_toSource
  intro tree
  rw [slots_toSource]
  simp

theorem sound_toSource (tree : ParseTree) : tree.toSource.Sound := everywhere_toSource crash_toSource tree

end ParseTree

/-- An outline can be walked like its tree. -/
structure Outline.Mirrors (outline : Outline) (tree : SourceTree) : Prop where
  /-- A path is found from a node exactly if it passes through the node and resolves. -/
  finds : ∀ start ∈ outline.preorder, ∀ path, (start.find? path).isSome = true ↔
    start.source.leadsTo path = true ∧ (tree.resolve? path).isSome = true
  /-- What is found is the one node with the path, and the outline that is built there. -/
  found : ∀ start ∈ outline.preorder, ∀ path shown, start.find? path = some shown →
    shown ∈ outline.preorder ∧ (∀ other ∈ outline.preorder, other.source = path ↔ other = shown) ∧
      ∃ node, tree.resolve? path = some node ∧ Outline.build path node = .ok shown
  /-- It is the same from every node that the path passes through. -/
  agrees : ∀ start ∈ outline.preorder, ∀ other ∈ outline.preorder, ∀ path,
    start.source.leadsTo path = true → other.source.leadsTo path = true → start.find? path = other.find? path
  /-- A window accepts a selection exactly if it names a node, whatever happened to the window before. -/
  selects : ∀ id session window, session.root = tree → Window.construct id session = .ok window →
    ∀ events, ∃ current, window.handleAll events = .ok current ∧ ∀ path,
      if (tree.resolve? path).isSome then ∃ next, current.select path = .ok next ∧
        next.selected = some path ∧ next.session.focused = path ∧ next.view.focus = path
      else current.select path = .ok current

namespace Outline

variable {tree : SourceTree} {outline : Outline}

/-- At most one displayed node has a path. -/
theorem eq_of_source_eq (built : ofTree tree = .ok outline) {shown other : Outline}
    (member : shown ∈ outline.preorder) (memberOther : other ∈ outline.preorder)
    (same : shown.source = other.source) : shown = other :=
  List.inj_on_of_nodup_map (NodePath.nodup_of_ordered (sources_ordered built)) member memberOther same

/-- A selection is accepted exactly if it names a node. -/
theorem select_iff (compact : tree.Compact) {id : WindowId} {session : Session} {window : Window}
    (root : session.root = tree) (built : Window.construct id session = .ok window)
    (events : List Window.Event) : ∃ current, window.handleAll events = .ok current ∧ ∀ path,
      if (tree.resolve? path).isSome then ∃ next, current.select path = .ok next ∧
        next.selected = some path ∧ next.session.focused = path ∧ next.view.focus = path
      else current.select path = .ok current := by
  subst root
  have sound := Window.sound_of_construct built
  obtain ⟨current, ran, _, outlined, reflects⟩ := Window.handleAll_reflects built events
  have same : current.session.root = session.root := by rw [reflects.session]
  refine ⟨current, ran, fun path => ?_⟩
  have accepts := find?_isSome_iff outlined compact path
  split_ifs with resolves
  · obtain ⟨view, shows, selected⟩ :=
      Window.select_of_find? reflects.view (same ▸ sound) (accepts.mpr resolves)
    exact ⟨_, selected, rfl, rfl, shows.focus⟩
  · exact Window.select_of_not_find? (mt accepts.mp resolves)

/-- In a tree without holes in front of children, the outline can be walked like the tree. -/
theorem mirrors (compact : tree.Compact) (built : ofTree tree = .ok outline) : outline.Mirrors tree := by
  have found {start : Outline} (member : start ∈ outline.preorder) :=
    find?_eq_some_iff built compact member
  constructor
  case finds =>
    intro start member path
    rw [Option.isSome_iff_exists, Option.isSome_iff_exists]
    simp only [found member]
    constructor
    · rintro ⟨shown, leads, node, reached, _⟩
      exact ⟨leads, node, reached⟩
    · rintro ⟨leads, node, reached⟩
      obtain ⟨shown, shownBuilt⟩ := exists_build ((sound_of_build built).below reached) path
      exact ⟨shown, leads, node, reached, shownBuilt⟩
  case found =>
    intro start member path shown located
    obtain ⟨_, node, reached, shownBuilt⟩ := (found member path shown).mp located
    have among : shown ∈ outline.preorder := (mem_preorder_iff built shown).mpr ⟨path, node, reached, shownBuilt⟩
    refine ⟨among, fun other memberOther => ⟨fun same => ?_, ?_⟩, node, reached, shownBuilt⟩
    · exact eq_of_source_eq built memberOther among (same.trans (source_of_build shownBuilt).symm)
    · rintro rfl
      exact source_of_build shownBuilt
  case agrees =>
    intro start member other memberOther path leads leadsOther
    apply Option.ext
    intro shown
    rw [found member, found memberOther, and_iff_right leads, and_iff_right leadsOther]
  case selects =>
    exact fun _ _ _ root built events => select_iff compact root built events

/-- Outlines of trees without holes can be walked like the trees, and every parse tree has such an
outline. -/
theorem mirrors_of_compact (compact : tree.Compact) (built : ofTree tree = .ok outline) :
    outline.Mirrors tree ∧ ∀ parsed : ParseTree, parsed.toSource.Whole ∧ ∃ displayed,
      ofTree parsed.toSource = .ok displayed ∧ displayed.Mirrors parsed.toSource := by
  refine ⟨mirrors compact built, fun parsed => ⟨parsed.whole_toSource, ?_⟩⟩
  obtain ⟨displayed, parsedBuilt⟩ := exists_build parsed.sound_toSource []
  exact ⟨displayed, parsedBuilt, mirrors parsed.whole_toSource.compact parsedBuilt⟩

theorem mirrors_nested :
    let tree := (ParseTree.rule 0 none [.token "a", .rule 1 (some "b") [.error "c", .rule 2 none []]]).toSource
    tree.Compact ∧ ∃ outline inner shown, ofTree tree = .ok outline ∧ outline.Mirrors tree ∧
      inner ∈ outline.preorder ∧ inner.source = [1] ∧
      inner.find? [1, 0] = some shown ∧ shown.source = [1, 0] ∧
      inner.find? [0] = none ∧ inner.find? [1, 0, 0] = none ∧ inner.find? [1, 2] = none := by
  intro tree
  have compact : tree.Compact := (ParseTree.whole_toSource _).compact
  obtain ⟨outline, built⟩ : ∃ outline, ofTree tree = .ok outline := ⟨_, rfl⟩
  have mirrors := (mirrors_of_compact compact built).1
  cases built
  exact ⟨compact, _, _, _, rfl, mirrors, .tail _ (.tail _ (.head _)), rfl, rfl, rfl, rfl, rfl, rfl⟩

end Outline

end TreeInspector
