import TreeInspector.Number.Single

/-! # The arithmetic of the geometry

Placing boxes needs sums, differences, products, a larger-of and a few constants. The operations
are a class, so that the same definitions run in single precision and can be read over any other
numbers, exact ones included.
-/

namespace TreeInspector

/-- Numbers that boxes can be placed with. -/
class Scalar (α : Type) extends Add α, Sub α, Mul α where
  /-- The larger of two numbers. -/
  larger : α → α → α
  /-- Whether the first number is at most the second. -/
  atMost : α → α → Bool
  /-- A natural number. -/
  ofNat : Nat → α
  /-- A number of tenths. -/
  tenths : Nat → α
  /-- The sum of no numbers. -/
  emptySum : α

namespace Scalar

/-- The sum from the left, starting from the empty sum. -/
def sum {α : Type} [Scalar α] (numbers : List α) : α := numbers.foldl (· + ·) emptySum

end Scalar

/-- Single precision: constants are rounded once and the empty sum is the negative zero. -/
instance : Scalar Single where
  larger := Single.max
  atMost := Single.le
  ofNat := Single.ofNat
  tenths n := Single.ofRatio false n 10
  emptySum := Single.zero true

end TreeInspector
