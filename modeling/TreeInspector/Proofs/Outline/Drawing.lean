import Mathlib.Data.List.Forall2
import TreeInspector.Outline.Text
import TreeInspector.Proofs.Outline.Nodes
import TreeInspector.Proofs.Text.Spelling
import TreeInspector.Proofs.View.Markup

/-! # Reading a drawn outline

A drawn outline has one line per node, in pre-order: one group of three characters for every level above
the node, then its marked label. A label may look like a drawing itself. But only the last group of a line
is a branch, so the first branch ends the drawing and everything behind it is the label; and no label has
a line break. So a reader finds the level and the label of every line, and a node stands below the last
node before it of a smaller level. It gives back the labelled tree, so outlines that look the same have
the same tree.
-/

namespace TreeInspector

/-- A labelled tree. -/
inductive Sketch where
  | node (label : String) (children : List Sketch)

namespace Outline

mutual

/-- The displayed nodes in pre-order, each with its level. -/
def leveled (level : Nat) : Outline → List (Nat × Outline)
  | .node source errorBelow children =>
    (level, .node source errorBelow children) :: leveledAll (level + 1) children

/-- The displayed nodes of a list of outlines, each with its level. -/
def leveledAll (level : Nat) : List Outline → List (Nat × Outline)
  | [] => []
  | first :: rest => leveled level first ++ leveledAll level rest

end

mutual

/-- The marked labels of the displayed nodes. -/
def sketch (session : Session) : Outline → Sketch
  | .node source errorBelow children =>
    .node ((Outline.node source errorBelow children).markedText session) (sketchAll session children)

/-- The marked labels of a list of outlines. -/
def sketchAll (session : Session) : List Outline → List Sketch
  | [] => []
  | first :: rest => sketch session first :: sketchAll session rest

end

theorem leveled_eq (level : Nat) (outline : Outline) :
    leveled level outline = (level, outline) :: leveledAll (level + 1) outline.children := by
  cases outline
  rw [leveled, children_node]

theorem leveledAll_eq (level : Nat) (outlines : List Outline) :
    leveledAll level outlines = outlines.flatMap (leveled level) := by
  induction outlines with
  | nil => rfl
  | cons first rest ih => rw [leveledAll, ih, List.flatMap_cons]

theorem sketchAll_eq (session : Session) (outlines : List Outline) :
    sketchAll session outlines = outlines.map (sketch session) := by
  induction outlines with
  | nil => rfl
  | cons first rest ih => rw [sketchAll, ih, List.map_cons]

/-- In the outline of a tree, the level of a node is the depth of its path. -/
theorem leveled_of_build {path : NodePath} {tree : SourceTree} {outline : Outline}
    (built : build path tree = .ok outline) :
    leveled path.depth outline = outline.preorder.map fun shown => (shown.source.depth, shown) := by
  induction tree using SourceTree.childInduction generalizing path outline with
  | step tree ih =>
    have below (child : Outline) (member : child ∈ outline.children) : leveled (path.depth + 1) child =
        child.preorder.map fun shown => (shown.source.depth, shown) := by
      obtain ⟨index, source, found, childBuilt⟩ := (mem_children_iff built child).mp member
      rw [← NodePath.depth_child path index]
      exact ih index source found childBuilt
    rw [leveled_eq, preorder_eq, leveledAll_eq, List.map_cons, List.map_flatMap, source_of_build built,
      List.flatMap_congr below]

/-! ## Lines -/

theorem join_concat (groups : List String) (last : String) :
    String.join (groups ++ [last]) = String.join groups ++ last := by
  rw [String.join_append, String.join_cons, String.join_nil, String.append_empty]

/-- The groups below the ancestors of a node; true stands for the last child. -/
def indent (above : List Bool) : String := String.join (above.map trunk)

theorem indent_concat (above : List Bool) (last : Bool) :
    indent (above ++ [last]) = indent above ++ trunk last := by
  rw [indent, List.map_append, List.map_singleton, join_concat, ← indent]

/-- A line draws a node at a level: trunks, the branch to the node and its marked label. -/
def Draws (session : Session) (line : String) (entry : Nat × Outline) : Prop :=
  ∃ above last, entry.1 = List.length above + 1 ∧
    line = indent above ++ branch last ++ entry.2.markedText session

mutual

/-- Every line below a node draws one node below it. -/
theorem drawn_linesBelow (session : Session) (above : List Bool) : (outline : Outline) →
    List.Forall₂ (Draws session) (linesBelow session (indent above) outline)
      (leveledAll (above.length + 1) outline.children)
  | .node _ _ children => drawn_linesOfAll session above children

/-- Every line of a list of outlines draws one of their nodes. -/
theorem drawn_linesOfAll (session : Session) (above : List Bool) : (outlines : List Outline) →
    List.Forall₂ (Draws session) (linesOfAll session (indent above) outlines)
      (leveledAll (above.length + 1) outlines)
  | [] => .nil
  | first :: rest => by
    -- Below the first outline the drawing is one trunk wider, and its nodes are one level deeper.
    have below := drawn_linesBelow session (above ++ [rest.isEmpty]) first
    have later := drawn_linesOfAll session above rest
    rw [indent_concat, List.length_append, List.length_singleton] at below
    rw [linesOfAll, leveledAll, leveled_eq, List.cons_append]
    exact .cons ⟨above, _, rfl, rfl⟩ (List.rel_append below later)

end

theorem not_newline_mem_nodeText (session : Session) (path : NodePath) :
    '\n' ∉ (session.nodeText path).toList := by
  rw [Session.nodeText]
  split
  · intro inside
    exact absurd (RuleNames.isForbidden_of_mem_textFor inside) (by decide)
  · decide

theorem not_newline_mem_markedText (session : Session) (outline : Outline) :
    '\n' ∉ (outline.markedText session).toList := by
  rw [markedText, String.toList_append, List.mem_append, not_or]
  refine ⟨?_, not_newline_mem_nodeText session outline.source⟩
  rw [mark]
  split <;> decide

theorem not_newline_mem_of_draws {session : Session} {line : String} {entry : Nat × Outline}
    (draws : Draws session line entry) : '\n' ∉ line.toList := by
  obtain ⟨above, last, _, rfl⟩ := draws
  have trunks (last : Bool) : '\n' ∉ (trunk last).toList := by cases last <;> decide
  have branches : '\n' ∉ (branch last).toList := by cases last <;> decide
  have indented : '\n' ∉ (indent above).toList := by
    rw [indent, String.toList_join, List.flatMap_map]
    intro inside
    obtain ⟨last, _, within⟩ := List.mem_flatMap.mp inside
    exact trunks last within
  simp only [String.toList_append, List.mem_append, not_or]
  exact ⟨⟨indented, branches⟩, not_newline_mem_markedText session entry.2⟩

/-- The lines of a drawn outline. -/
theorem linesOf_text (session : Session) (outline : Outline) :
    linesOf (outline.text session) = outline.markedText session :: outline.linesBelow session "" := by
  apply linesOf_flatMap
  · have unbroken := (drawn_linesBelow session [] outline).imp fun line entry draws =>
      And.intro (not_newline_mem_of_draws draws) draws
    exact List.forall_mem_cons.mpr
      ⟨not_newline_mem_markedText session outline, ((List.forall₂_and_left _ _).mp unbroken).1⟩
  · rw [text, lines, String.toList_join, List.flatMap_map]
    simp only [String.toList_append]
    rfl

end Outline

/-! ## Reading -/

namespace Sketch

open Outline

/-- Read the line of a node below the root: its level and its label. The first branch ends the drawing. -/
def readLine? : List Char → Option (Nat × String)
  | a :: b :: c :: rest =>
    if [a, b, c] = (branch true).toList ∨ [a, b, c] = (branch false).toList then
      some (1, String.ofList rest)
    else if [a, b, c] = (trunk true).toList ∨ [a, b, c] = (trunk false).toList then
      (readLine? rest).map fun (level, label) => (level + 1, label)
    else none
  | _ => none

/-- Put a labelled node in front of the trees behind it: those of larger levels, up to the first other
one, are its children. -/
def attach (entry : Nat × String) (behind : List (Nat × Sketch)) : List (Nat × Sketch) :=
  (entry.1, .node entry.2 ((behind.takeWhile fun later => entry.1 < later.1).map Prod.snd)) ::
    behind.dropWhile fun later => entry.1 < later.1

/-- Read a drawn outline. -/
def read? (text : String) : Option Sketch :=
  match linesOf text with
  | [] => none
  | label :: below => do
    let entries ← below.mapM fun line => readLine? line.toList
    (((0, label) :: entries).foldr attach []).head?.map Prod.snd

theorem readLine?_branch (last : Bool) (label : List Char) :
    readLine? ((branch last).toList ++ label) = some (1, String.ofList label) := by
  cases last <;> rfl

theorem readLine?_trunk (last : Bool) (rest : List Char) :
    readLine? ((trunk last).toList ++ rest) =
      (readLine? rest).map fun (level, label) => (level + 1, label) := by
  cases last <;> rfl

/-- Whatever the label contains, the level and the label of a drawn line are read back. -/
theorem readLine?_of_draws {session : Session} {line : String} {entry : Nat × Outline}
    (draws : Draws session line entry) :
    readLine? line.toList = some (entry.1, entry.2.markedText session) := by
  obtain ⟨above, last, level, rfl⟩ := draws
  rw [level]
  clear level
  induction above with
  | nil =>
    rw [indent, List.map_nil, String.toList_append, String.toList_append, List.append_assoc]
    exact (readLine?_branch last _).trans (by rw [String.ofList_toList]; rfl)
  | cons first rest ih =>
    have split : (indent (first :: rest) ++ branch last ++ entry.2.markedText session).toList =
        (trunk first).toList ++ (indent rest ++ branch last ++ entry.2.markedText session).toList := by
      rw [indent, List.map_cons, String.join_cons, ← indent, ← String.toList_append, String.append_assoc,
        String.append_assoc, String.append_assoc]
    rw [split, readLine?_trunk, ih]
    rfl

/-- Trees one level down become the children, and nothing else does. -/
theorem attach_append (level : Nat) (text : String) (children : List Sketch) {behind : List (Nat × Sketch)}
    (shallow : ∀ entry ∈ behind, entry.1 ≤ level) :
    attach (level, text) (children.map (level + 1, ·) ++ behind) = (level, .node text children) :: behind := by
  have deeper : ∀ entry ∈ children.map (level + 1, ·), decide (level < entry.1) = true := by simp
  have texts : (children.map (level + 1, ·)).map Prod.snd = children := by simp
  have ends : behind.takeWhile (fun later => level < later.1) = [] ∧
      behind.dropWhile (fun later => level < later.1) = behind := by
    cases behind with
    | nil => exact ⟨rfl, rfl⟩
    | cons first rest =>
      have here : ¬level < first.1 := Nat.not_lt.mpr (shallow first (.head _))
      simp [here]
  rw [attach, List.takeWhile_append_of_pos deeper, List.dropWhile_append_of_pos deeper, ends.1, ends.2,
    List.append_nil, texts]

/-- The level of a node and its marked label. -/
def labelled (session : Session) (entry : Nat × Outline) : Nat × String := (entry.1, entry.2.markedText session)

mutual

/-- The nodes of an outline come back as one tree in front of those of no larger level. -/
theorem foldr_leveled (session : Session) (level : Nat) (behind : List (Nat × Sketch))
    (shallow : ∀ entry ∈ behind, entry.1 ≤ level) : (outline : Outline) →
      ((leveled level outline).map (labelled session)).foldr attach behind =
        (level, outline.sketch session) :: behind
  | .node source errorBelow children => by
    have deep : ∀ entry ∈ behind, entry.1 ≤ level + 1 :=
      fun entry member => (shallow entry member).trans (Nat.le_succ level)
    rw [leveled, List.map_cons, List.foldr_cons, foldr_leveledAll session (level + 1) behind deep children]
    exact attach_append level _ _ shallow

/-- The nodes of a list of outlines come back as trees of one level. -/
theorem foldr_leveledAll (session : Session) (level : Nat) (behind : List (Nat × Sketch))
    (shallow : ∀ entry ∈ behind, entry.1 ≤ level) : (outlines : List Outline) →
      ((leveledAll level outlines).map (labelled session)).foldr attach behind =
        (sketchAll session outlines).map (level, ·) ++ behind
  | [] => rfl
  | first :: rest => by
    -- What follows the first outline are its siblings and what follows the list, none of it deeper.
    have later := foldr_leveledAll session level behind shallow rest
    rw [leveledAll, List.map_append, List.foldr_append, later, foldr_leveled session level _ ?_ first]
    · rfl
    · intro entry member
      rcases List.mem_append.mp member with sibling | among
      · obtain ⟨_, _, rfl⟩ := List.mem_map.mp sibling
        exact le_rfl
      · exact shallow entry among

end

theorem mapM_readLine?_of_draws {session : Session} {lines : List String} {entries : List (Nat × Outline)}
    (drawn : List.Forall₂ (Draws session) lines entries) :
    (lines.mapM fun line => readLine? line.toList) = some (entries.map (labelled session)) := by
  induction drawn with
  | nil => rfl
  | cons draws _ ih =>
    rw [List.mapM_cons, readLine?_of_draws draws, ih]
    rfl

/-- A drawn outline is read back as its labelled tree. -/
theorem read?_text (session : Session) (outline : Outline) :
    read? (outline.text session) = some (outline.sketch session) := by
  have below : (outline.linesBelow session "").mapM (fun line => readLine? line.toList) =
      some ((leveledAll 1 outline.children).map (labelled session)) :=
    mapM_readLine?_of_draws (drawn_linesBelow session [] outline)
  have tree := foldr_leveled session 0 [] (List.forall_mem_nil _) outline
  rw [leveled_eq, List.map_cons] at tree
  rw [read?, linesOf_text]
  simp only [below]
  exact congrArg (fun trees => trees.head?.map Prod.snd) tree

end Sketch

namespace Outline

variable {session otherSession : Session}

theorem markedText_of_sketch {outline other : Outline}
    (same : outline.sketch session = other.sketch otherSession) :
    outline.markedText session = other.markedText otherSession := by
  cases outline
  cases other
  exact (Sketch.node.inj same).1

mutual

/-- The drawing below a node follows from the labelled tree. -/
theorem linesBelow_of_sketch (indent : String) : (outline other : Outline) →
    outline.sketch session = other.sketch otherSession →
      linesBelow session indent outline = linesBelow otherSession indent other
  | .node _ _ children, .node _ _ others, same =>
    linesOfAll_of_sketchAll indent children others (Sketch.node.inj same).2

/-- The drawings of lists of outlines follow from the labelled trees. -/
theorem linesOfAll_of_sketchAll (indent : String) : (outlines others : List Outline) →
    sketchAll session outlines = sketchAll otherSession others →
      linesOfAll session indent outlines = linesOfAll otherSession indent others
  | [], [], _ => rfl
  | [], _ :: _, same => nomatch same
  | _ :: _, [], same => nomatch same
  | first :: rest, other :: others, same => by
    obtain ⟨sameFirst, sameRest⟩ := List.cons.inj same
    have ends : rest.isEmpty = others.isEmpty := by
      have empty := congrArg List.isEmpty sameRest
      rwa [sketchAll_eq, sketchAll_eq, List.isEmpty_map, List.isEmpty_map] at empty
    rw [linesOfAll, linesOfAll, markedText_of_sketch sameFirst, ends, linesBelow_of_sketch _ first other sameFirst,
      linesOfAll_of_sketchAll indent rest others sameRest]

end

/-- Two drawn outlines are the same exactly if the labelled trees are. -/
theorem text_eq_iff (outline other : Outline) : outline.text session = other.text otherSession ↔
    outline.sketch session = other.sketch otherSession := by
  constructor
  · intro same
    have read := congrArg Sketch.read? same
    rw [Sketch.read?_text, Sketch.read?_text] at read
    exact Option.some.inj read
  · intro same
    rw [text, text, lines, lines, markedText_of_sketch same, linesBelow_of_sketch "" outline other same]

/-- The line of a node: a group of three characters for every level above it, its mark and its text. -/
def IsLine (session : Session) (line : String) (shown : Outline) : Prop :=
  ∃ groups : List String, groups.length = shown.source.depth ∧ (∀ group ∈ groups, group.length = 3) ∧
    line = String.join groups ++ (if shown.errorBelow then "! " else "") ++ session.nodeText shown.source

theorem isLine_of_draws {line : String} {shown : Outline}
    (draws : Draws session line (shown.source.depth, shown)) : IsLine session line shown := by
  obtain ⟨above, last, level, rfl⟩ := draws
  have trunks (last : Bool) : (trunk last).length = 3 := by cases last <;> rfl
  have branches : (branch last).length = 3 := by cases last <;> rfl
  refine ⟨above.map trunk ++ [branch last], ?_, ?_, ?_⟩
  · rw [List.length_append, List.length_map, List.length_singleton]
    exact level.symm
  · simp only [List.mem_append, List.mem_map, List.mem_singleton]
    rintro group (⟨_, _, rfl⟩ | rfl)
    · exact trunks _
    · exact branches
  · rw [join_concat, ← indent]
    exact (String.append_assoc ..).symm

/-- The lines of the drawn outline of a tree are those of its nodes, in pre-order. -/
theorem lines_of_build {tree : SourceTree} {outline : Outline} (built : ofTree tree = .ok outline)
    (session : Session) :
    List.Forall₂ (IsLine session) (linesOf (outline.text session)) outline.preorder := by
  have levels := leveled_of_build built
  rw [leveled_eq, preorder_eq, List.map_cons] at levels
  have below : leveledAll 1 outline.children = _ := (List.cons.inj levels).2
  have drawn := drawn_linesBelow session [] outline
  rw [List.length_nil, Nat.zero_add, below, List.forall₂_map_right_iff] at drawn
  rw [linesOf_text, preorder_eq]
  refine .cons ⟨[], ?_, List.forall_mem_nil _, ?_⟩ (drawn.imp fun _ _ => isLine_of_draws)
  · rw [source_of_build built]
    rfl
  · rw [String.join_nil, String.empty_append]
    rfl

/-- The drawn outline of a tree is one line per node, in pre-order, and only outlines with the same
labelled tree look the same. -/
theorem text_draws_tree {tree : SourceTree} {outline : Outline} (built : ofTree tree = .ok outline)
    (session : Session) :
    outline.text session = String.join ((linesOf (outline.text session)).map (· ++ "\n")) ∧
    (linesOf (outline.text session)).length = outline.nodeCount ∧
    List.Forall₂ (IsLine session) (linesOf (outline.text session)) outline.preorder ∧
    ∀ other otherSession, outline.text session = text otherSession other ↔
      outline.sketch session = other.sketch otherSession := by
  have drawn := lines_of_build built session
  refine ⟨?_, ?_, drawn, fun other _ => text_eq_iff outline other⟩
  · rw [linesOf_text]
    rfl
  · rw [drawn.length_eq, length_preorder]

/-- Labels that look like drawings, a line break and an empty label. -/
theorem text_draws_tree_disguised :
    let tree : SourceTree := .node (.text "top") false none
      [some (.node (.text "└─ ! a\n│") true none [none, some (.node (.text "") false none [])]),
        some (.node (.text "   ├─ ") false none [])]
    let session : Session := { root := tree, rules := .empty }
    ∃ outline, ofTree tree = .ok outline ∧
      outline.text session = "! top\n├─ ! └─ ! a\\n│\n│  └─ \n└─    ├─ \n" ∧
      (linesOf (outline.text session)).length = 4 ∧
      List.Forall₂ (IsLine session) (linesOf (outline.text session)) outline.preorder := by
  intro tree session
  obtain ⟨outline, built⟩ : ∃ outline, ofTree tree = .ok outline := ⟨_, rfl⟩
  obtain ⟨_, count, drawn, _⟩ := text_draws_tree built session
  cases built
  exact ⟨_, rfl, by decide +kernel, count, drawn⟩

end Outline

end TreeInspector
