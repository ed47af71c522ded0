import TreeInspector.Outline.Basic
import TreeInspector.Session

/-! # The outline as text

One line a node, a node before its children. A line starts with one group of three characters for
every level below the root, which draw the branches; a mark stands before the labels of nodes with an
error at or below them.
-/

namespace TreeInspector

namespace Outline

/-- The mark of a node with an error at or below it. -/
def mark (outline : Outline) : String := if outline.errorBelow then "! " else ""

/-- The label of a node behind its mark. -/
def markedText (session : Session) (outline : Outline) : String :=
  outline.mark ++ session.nodeText outline.source

/-- The branch to a child. -/
def branch (last : Bool) : String := if last then "└─ " else "├─ "

/-- What is drawn below the branch to a child. -/
def trunk (last : Bool) : String := if last then "   " else "│  "

mutual

/-- The lines below a node, behind an indent. -/
def linesBelow (session : Session) (indent : String) : Outline → List String
  | .node _ _ children => linesOfAll session indent children

/-- The lines of the last children of a node, behind an indent. -/
def linesOfAll (session : Session) (indent : String) : List Outline → List String
  | [] => []
  | first :: rest =>
    (indent ++ branch rest.isEmpty ++ first.markedText session) ::
      (linesBelow session (indent ++ trunk rest.isEmpty) first ++ linesOfAll session indent rest)

end

/-- The lines of an outline. -/
def lines (session : Session) (outline : Outline) : List String :=
  outline.markedText session :: outline.linesBelow session ""

/-- The outline as a text of lines. -/
def text (session : Session) (outline : Outline) : String :=
  String.join ((outline.lines session).map (· ++ "\n"))

end Outline

end TreeInspector
