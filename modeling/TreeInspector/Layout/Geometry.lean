import TreeInspector.Number.Scalar

/-! # Points and boxes -/

namespace TreeInspector

open Scalar

variable {α : Type} [Scalar α]

/-- A point of the drawing, x to the right and y down. -/
structure Point (α : Type) where
  x : α
  y : α
deriving DecidableEq

/-- An upright box between its upper left and lower right corners, both included. -/
structure Box (α : Type) where
  min : Point α
  max : Point α
deriving DecidableEq

namespace Box

/-- The middle of the box. -/
def center (box : Box α) : Point α :=
  ⟨(box.min.x + box.max.x) * tenths 5, (box.min.y + box.max.y) * tenths 5⟩

/-- The extent from left to right. -/
def width (box : Box α) : α := box.max.x - box.min.x

/-- The extent from top to bottom. -/
def height (box : Box α) : α := box.max.y - box.min.y

/-- Whether a point lies in the box or on its border. -/
def contains (box : Box α) (point : Point α) : Bool :=
  atMost box.min.x point.x && atMost point.x box.max.x &&
    atMost box.min.y point.y && atMost point.y box.max.y

end Box

end TreeInspector
