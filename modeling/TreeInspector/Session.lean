import TreeInspector.Number.Decimal
import TreeInspector.Source.Tree

/-! # Inspection sessions

A session is the state of one inspection: the tree with its rule names, the focused path, the view
scale and whether a window shows it. Setters report whether they changed anything; a scale is
compared as a number, so `nan` always counts as a change and the two zeros never do.
-/

namespace TreeInspector

/-- The state of one inspection. -/
structure Session where
  root : SourceTree
  rules : RuleNames
  focused : NodePath := []
  scale : Single := .ofRatio false 3 2
  isOpen : Bool := false

namespace Session

/-- Use another initial scale; one that is not finite and positive is ignored. -/
def withScale (session : Session) (scale : Single) : Session :=
  if scale.isFinite && Single.lt (.zero false) scale then { session with scale } else session

/-- Move the focus and report whether it moved. -/
def setFocused (session : Session) (path : NodePath) : Bool × Session :=
  if session.focused = path then (false, session) else (true, { session with focused := path })

/-- Change the scale and report whether it changed. -/
def setScale (session : Session) (scale : Single) : Bool × Session :=
  if session.scale.equal scale then (false, session) else (true, { session with scale })

/-- The text shown for the node at a path. -/
def nodeText (session : Session) (path : NodePath) : String :=
  match session.root.resolve? path with
  | some node => session.rules.textFor node.label
  | none => "<gone>"

/-- The diagnostic text of a session. -/
def describe (session : Session) : String :=
  "Session \x7b focused: NodePath([" ++ ", ".intercalate (session.focused.map Nat.repr) ++
    "]), scale: " ++ session.scale.shortestText ++
    ", open: " ++ (if session.isOpen then "true" else "false") ++ ", .. \x7d"

end Session

end TreeInspector
