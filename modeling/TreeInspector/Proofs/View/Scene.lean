import TreeInspector.Proofs.Layout.Preorder
import TreeInspector.Proofs.Text.Spelling
import TreeInspector.Proofs.View.Elements
import TreeInspector.Proofs.Window.History

/-! # What a scene tells

The scene of a view can be read back: divided into lines and each line into tags, it shows one element
for the canvas, the background, every edge and every box, and one text for every label. Labels may be
any text at all. They pass through two escapes, one that keeps them on their line and one that keeps
them inside their element, and neither loses anything: what is read back is the label that was laid
out, so a scene determines the labels and marks of its view.
-/

namespace TreeInspector

open Markup

namespace Scene

/-- What is written of a text that has nothing to spell out needs no spelling either. -/
theorem isForbidden_of_mem_content {text : String}
    (spelled : ∀ c ∈ text.toList, Spelling.isForbidden c = false) {c : Char}
    (member : c ∈ (content text).toList) : Spelling.isForbidden c = false := by
  rcases (of_mem_content member).2.2 with source | entity
  · exact spelled c source
  · have entities : "&;ampltg".toList.all (fun c => !Spelling.isForbidden c) = true := by decide
    simpa using List.all_eq_true.mp entities c entity

theorem isControl_of_isForbidden {c : Char} (allowed : Spelling.isForbidden c = false) :
    Spelling.isControl c = false := by
  simp only [Spelling.isForbidden, Bool.or_eq_false_iff] at allowed
  exact allowed.1.1

/-- An element shows a node: its content is the label, and its colour tells of the mark. -/
structure Labels (node : Placed Single) (element : Segment) : Prop where
  clean : ∀ c ∈ element.behind, c ≠ '<' ∧ c ≠ '>' ∧ Spelling.isControl c = false
  decodes : String.ofList (decode element.behind) = node.text
  fill : element.fields.lookup "fill" = some (labelColor true) ↔ node.flagged = true

theorem labels_text (fontSize : Single) {node : Placed Single}
    (spelled : ∀ c ∈ node.text.toList, Spelling.isForbidden c = false) :
    Labels node (segmentOf (textTag fontSize node, (content node.text).toList)) where
  clean := by
    intro c member
    simp only [segmentOf] at member
    obtain ⟨less, greater, _⟩ := of_mem_content member
    exact ⟨less, greater, isControl_of_isForbidden (isForbidden_of_mem_content spelled member)⟩
  decodes := by simp only [segmentOf, decode_content, String.ofList_toList]
  fill := by
    have found : (textTag fontSize node).fields.lookup "fill" = some (labelColor node.flagged) := rfl
    simp only [segmentOf, (readable_text fontSize node).fields_eq, found]
    cases node.flagged <;> decide

/-- An element shows one label with one mark. -/
theorem Labels.unique {first second : Placed Single} {element : Segment} (left : Labels first element)
    (right : Labels second element) : (first.text, first.flagged) = (second.text, second.flagged) := by
  rw [← left.decodes, ← right.decodes, Prod.mk.injEq]
  exact ⟨rfl, Bool.eq_iff_iff.mpr (left.fill.symm.trans right.fill)⟩

end Scene

namespace View

/-! ## Views in use -/

/-- What happens to a view. -/
inductive Change where
  | scale (scale : Single)
  | focus (focus : NodePath)

/-- Let a change happen. -/
def change (view : View) : Change → Except Crash View
  | .scale scale => view.setScale scale
  | .focus focus => view.setFocus focus

/-- The view of a tree after some changes. -/
def afterChanges (root : SourceTree) (rules : RuleNames) (scale : Single) (changes : List Change) :
    Except Crash View := do
  let view ← ofTree root rules scale
  changes.foldlM change view

/-- The layout of a view is the one that belongs to its focus and scale. -/
def IsCurrent (view : View) : Prop :=
  layoutFor view.root view.rules view.focus view.scale = .ok view.layout

theorem Shows.isCurrent {view : View} {session : Session} (shows : view.Shows session) : view.IsCurrent := by
  rw [IsCurrent, shows.root, shows.rules, shows.focus, shows.scale]
  exact shows.fresh

theorem isCurrent_relayout {view next : View} (laid : view.relayout = .ok next) : next.IsCurrent := by
  obtain ⟨layout, made, same⟩ := bind_eq_ok_iff.mp laid
  cases same
  exact made

theorem IsCurrent.change {view next : View} (current : view.IsCurrent) {change : Change}
    (changed : view.change change = .ok next) : next.IsCurrent := by
  cases change with
  | scale scale =>
    rw [View.change, setScale] at changed
    split_ifs at changed
    · cases changed
      exact current
    · exact isCurrent_relayout changed
  | focus focus =>
    rw [View.change, setFocus] at changed
    split_ifs at changed
    · cases changed
      exact current
    · exact isCurrent_relayout changed

/-- A view stays current through all changes. -/
theorem isCurrent_afterChanges {root : SourceTree} {rules : RuleNames} {scale : Single}
    {changes : List Change} {view : View} (made : afterChanges root rules scale changes = .ok view) :
    view.IsCurrent := by
  obtain ⟨first, built, changed⟩ := bind_eq_ok_iff.mp made
  have current : first.IsCurrent := by
    obtain ⟨layout, laid, same⟩ := bind_eq_ok_iff.mp built
    cases same
    exact laid
  clear made built
  induction changes generalizing first with
  | nil =>
    cases changed
    exact current
  | cons change rest ih =>
    obtain ⟨next, here, later⟩ := bind_eq_ok_iff.mp changed
    exact ih next later (current.change here)

section Current

variable {view : View} (current : view.IsCurrent)
include current

/-- A focus that leads nowhere shows nothing. -/
theorem IsCurrent.nodes_of_missing (missing : view.root.resolve? view.focus = none) :
    view.layout.nodes = [] := by
  simp only [IsCurrent, layoutFor, Layout.ofTree, missing] at current
  rw [← Except.ok.inj current]
  rfl

/-- The labels of a view are texts shown for nodes, with nothing left to spell out. -/
theorem IsCurrent.spelled : ∀ node ∈ view.layout.nodes, ∀ c ∈ node.text.toList,
    Spelling.isForbidden c = false := by
  intro node member c written
  cases reached : view.root.resolve? view.focus with
  | none =>
    rw [current.nodes_of_missing reached] at member
    cases member
  | some top =>
    have labels := Layout.labels_ofTree reached current
    have among : (node.text, node.flagged) ∈
        top.preorder.map fun node => (view.rules.textFor node.label, node.flagged) := by
      rw [← labels]
      exact List.mem_map_of_mem member
    obtain ⟨source, _, same⟩ := List.mem_map.mp among
    rw [← (Prod.mk.inj same).1] at written
    exact RuleNames.isForbidden_of_mem_textFor written

/-- A view draws an edge to every node but the first. -/
theorem IsCurrent.length_edges : view.layout.edges.length = view.layout.nodes.length - 1 := by
  cases reached : view.root.resolve? view.focus with
  | none =>
    rw [Layout.edges, current.nodes_of_missing reached]
    rfl
  | some top =>
    rw [← (Layout.forall₂_edges reached current).length_eq, List.length_tail]

end Current

theorem toList_scene (view : View) :
    view.scene.toList = view.sceneLines.flatMap fun line => line.toList ++ ['\n'] := by
  have joined (lines : List String) (text : String) :
      (lines.foldl (fun text line => text ++ line ++ "\n") text).toList =
        text.toList ++ lines.flatMap fun line => line.toList ++ ['\n'] := by
    induction lines generalizing text with
    | nil => simp
    | cons line rest ih => simp [ih]
  rw [scene, joined, String.toList_empty, List.nil_append]

/-- The labels and marks of what a view shows. -/
def labels (view : View) : List (String × Bool) :=
  view.layout.nodes.map fun node => (node.text, node.flagged)

section Current

variable {view : View} (current : view.IsCurrent)
include current

theorem IsCurrent.unbroken : ∀ node ∈ view.layout.nodes, '\n' ∉ node.text.toList := by
  intro node member broken
  exact absurd (current.spelled node member _ broken) (by decide)

theorem IsCurrent.length_lines : (linesOf view.scene).length =
    if view.layout.nodes.length = 0 then 3 else 3 * view.layout.nodes.length + 2 := by
  have lines := congrArg List.length (Scene.lines_eq view.scale view.size view.layout)
  have names := congrArg List.length
    (@Scene.names_sheet view.scale view.size view.layout current.length_edges)
  rw [List.length_map, List.length_map] at lines
  rw [List.length_map, Scene.length_names] at names
  rw [Scene.linesOf_lines current.unbroken view.toList_scene, lines, names]

theorem IsCurrent.elements : ∃ elements, Scene.read? view.scene = some elements ∧
    elements.map (fun line => line.map Segment.name) = Scene.names view.layout.nodes.length ∧
    List.Forall₂ Scene.Labels view.layout.nodes (Scene.texts elements) := by
  refine ⟨_, Scene.read?_lines current.unbroken view.toList_scene, ?_, ?_⟩
  · rw [List.map_map]
    exact Scene.names_sheet current.length_edges
  · rw [Scene.texts_sheet, List.forall₂_map_right_iff, List.forall₂_same]
    exact fun node member => Scene.labels_text view.layout.fontSize (current.spelled node member)

end Current

/-- Nodes that are shown by the same texts have the same labels and marks. -/
theorem labels_eq_of_texts {first second : List (Placed Single)} {texts : List Segment}
    (left : List.Forall₂ Scene.Labels first texts) (right : List.Forall₂ Scene.Labels second texts) :
    first.map (fun node => (node.text, node.flagged)) = second.map fun node => (node.text, node.flagged) := by
  induction left generalizing second with
  | nil =>
    cases right
    rfl
  | cons shows _ ih =>
    cases right with
    | cons alsoShows rest => rw [List.map_cons, List.map_cons, shows.unique alsoShows, ih rest]

/-- Views with the same scene show the same. -/
theorem IsCurrent.labels_eq {first second : View} (current : first.IsCurrent) (alsoCurrent : second.IsCurrent)
    (same : first.scene = second.scene) : first.labels = second.labels := by
  obtain ⟨elements, read, _, texts⟩ := current.elements
  obtain ⟨otherElements, otherRead, _, otherTexts⟩ := alsoCurrent.elements
  rw [same, otherRead] at read
  cases read
  exact labels_eq_of_texts texts otherTexts

/-- The scene of a view tells what the view shows. -/
structure Told (view : View) : Prop where
  /-- A drawing of nothing has three lines, a drawing of nodes three for each of them and two more. -/
  lines : (linesOf view.scene).length =
    if view.layout.nodes.length = 0 then 3 else 3 * view.layout.nodes.length + 2
  /-- The elements on the lines are the canvas, the background, the edges, a box and a text for every
  node, and the end of the canvas; the texts show the labels and marks of the nodes in order. -/
  elements : ∃ elements, Scene.read? view.scene = some elements ∧
    elements.map (fun line => line.map Segment.name) = Scene.names view.layout.nodes.length ∧
    List.Forall₂ Scene.Labels view.layout.nodes (Scene.texts elements)
  /-- Views with the same scene show the same. -/
  determined : ∀ root rules scale changes other, afterChanges root rules scale changes = .ok other →
    other.scene = view.scene → other.labels = view.labels

/-- The scene of every view, whatever its labels contain, is read back as what the view shows. -/
theorem scene_told {root : SourceTree} {rules : RuleNames} {scale : Single} {changes : List Change}
    {view : View} (made : afterChanges root rules scale changes = .ok view) : view.Told := by
  have current := isCurrent_afterChanges made
  obtain ⟨elements, read, names, texts⟩ := current.elements
  refine ⟨?_, ⟨elements, read, names, texts⟩, ?_⟩
  · exact current.length_lines
  · exact fun _ _ _ _ other otherMade same => (isCurrent_afterChanges otherMade).labels_eq current same

/-- A view of a tree that does not crash takes every change. -/
theorem exists_change {root : SourceTree} (sound : root.Sound) {view : View} (same : view.root = root)
    (change : Change) : ∃ next, view.change change = .ok next ∧ next.root = root := by
  subst same
  have laid (focus : NodePath) (scale : Single) : ∃ next : View,
      relayout { view with focus, scale } = .ok next ∧ next.root = view.root := by
    obtain ⟨layout, made⟩ := exists_layoutFor sound view.rules focus scale
    exact ⟨_, relayout_eq made, rfl⟩
  cases change with
  | scale scale =>
    rw [View.change, setScale]
    split_ifs
    · exact ⟨view, rfl, rfl⟩
    · exact laid view.focus scale
  | focus focus =>
    rw [View.change, setFocus]
    split_ifs
    · exact ⟨view, rfl, rfl⟩
    · exact laid focus view.scale

/-- A view of a tree that does not crash goes through all changes. -/
theorem exists_afterChanges {root : SourceTree} (sound : root.Sound) (rules : RuleNames) (scale : Single)
    (changes : List Change) : ∃ view, afterChanges root rules scale changes = .ok view := by
  obtain ⟨layout, laid⟩ := exists_layoutFor sound rules [] scale
  have built : ofTree root rules scale = .ok ⟨root, rules, [], scale, layout⟩ := by
    rw [ofTree, laid]
    rfl
  have goesOn (view : View) (same : view.root = root) : ∃ next, changes.foldlM change view = .ok next := by
    induction changes generalizing view with
    | nil => exact ⟨view, rfl⟩
    | cons first rest ih =>
      obtain ⟨next, changed, kept⟩ := exists_change sound same first
      obtain ⟨last, later⟩ := ih next kept
      exact ⟨last, by rw [List.foldlM_cons, changed]; exact later⟩
  obtain ⟨view, made⟩ := goesOn ⟨root, rules, [], scale, layout⟩ rfl
  exact ⟨view, by rw [afterChanges, built]; exact made⟩

/-- A node whose label has a line break and markup of its own. -/
def intruder : SourceTree := .node (.text "a</text>\n<b>&lt;") true none []

theorem scene_told_intruder : ∃ view,
    afterChanges intruder .empty .nan [.focus [7], .focus [], .scale (.zero true)] = .ok view ∧
      view.Told := by
  obtain ⟨outline, built⟩ : ∃ outline, Outline.ofTree intruder = .ok outline := ⟨_, rfl⟩
  obtain ⟨view, made⟩ := exists_afterChanges (Outline.sound_of_build built) .empty .nan
    [.focus [7], .focus [], .scale (.zero true)]
  exact ⟨view, made, scene_told made⟩

end View

end TreeInspector
