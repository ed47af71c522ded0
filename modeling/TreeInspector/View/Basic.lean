import TreeInspector.Layout.Basic
import TreeInspector.Session

/-! # The rendered view

A view keeps the layout of the focused subtree at its scale. Changing the focus or the scale lays
the tree out again; setting what is already set does not.
-/

namespace TreeInspector

/-- A bitmap size in pixels. -/
structure PixelSize where
  width : Nat
  height : Nat
deriving DecidableEq

/-- Why a view cannot be painted. -/
inductive RenderError where
  | emptySurface (size : PixelSize)
  | surfaceSize (expected actual : PixelSize)
  | scene (message : String)
deriving DecidableEq

/-- A size in words. -/
def PixelSize.text (size : PixelSize) : String :=
  Nat.repr size.width ++ "x" ++ Nat.repr size.height

/-- The message for a view that cannot be painted. -/
def RenderError.message : RenderError → String
  | .emptySurface size => "view has an empty pixel area (" ++ size.text ++ ")"
  | .surfaceSize expected actual =>
    "surface is " ++ actual.text ++ ", view needs " ++ expected.text
  | .scene message => "could not build scene: " ++ message

/-- A tree shown at a focus and a scale, with the layout of what is shown. -/
structure View where
  root : SourceTree
  rules : RuleNames
  focus : NodePath
  scale : Single
  layout : Layout Single

namespace View

/-- The layout that belongs to a focus and a scale. -/
def layoutFor (root : SourceTree) (rules : RuleNames) (focus : NodePath) (scale : Single) :
    Except Crash (Layout Single) :=
  Layout.ofTree root focus rules estimate (.scaled scale)

/-- A view of a whole tree. -/
def ofTree (root : SourceTree) (rules : RuleNames) (scale : Single) : Except Crash View := do
  let layout ← layoutFor root rules [] scale
  return { root, rules, focus := [], scale, layout }

/-- Lay the shown subtree out again. -/
def relayout (view : View) : Except Crash View := do
  let layout ← layoutFor view.root view.rules view.focus view.scale
  return { view with layout }

/-- Show at another scale. -/
def setScale (view : View) (scale : Single) : Except Crash View :=
  if view.scale.equal scale then .ok view else relayout { view with scale }

/-- Show another subtree. -/
def setFocus (view : View) (focus : NodePath) : Except Crash View :=
  if view.focus = focus then .ok view else relayout { view with focus }

/-- The view of a session's focus at its scale. -/
def ofSession (session : Session) : Except Crash View := do
  let whole ← ofTree session.root session.rules session.scale
  whole.setFocus session.focused

/-- Whole pixels that cover an extent, none for a negative one. -/
def pixels (extent : Single) : Nat :=
  ((extent.ceil.max (.zero false)).truncateBetween 0 4294967295).toNat

/-- The size of the bitmap that holds the drawing. -/
def size (view : View) : PixelSize := ⟨pixels view.layout.size.x, pixels view.layout.size.y⟩

end View

end TreeInspector
