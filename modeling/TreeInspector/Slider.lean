import TreeInspector.Number.Scalar

/-! # The scale slider

A slider value `v` between -999 and 1000 stands for the scale `v / 1000 + 1`, computed in single
precision. The way back drops the digits after the point.
-/

namespace TreeInspector

namespace Slider

/-- The least slider value. -/
def least : Int := -999

/-- The greatest slider value. -/
def greatest : Int := 1000

/-- The nearest value in the slider's range. -/
def clamp (value : Int) : Int := max least (min greatest value)

/-- The scale of a slider value. -/
def toScale (value : Int) : Single :=
  Single.ofInt (clamp value) / Single.ofNat 1000 + Single.ofNat 1

/-- The slider value of a scale. -/
def ofScale (scale : Single) : Int :=
  clamp (((scale - Single.ofNat 1) * Single.ofNat 1000).truncateBetween (-2147483648) 2147483647)

theorem clamp_bounds (value : Int) : least ≤ clamp value ∧ clamp value ≤ greatest := by
  simp only [clamp, least, greatest]
  omega

@[simp] theorem clamp_clamp (value : Int) : clamp (clamp value) = clamp value := by
  simp only [clamp, least, greatest]
  omega

end Slider

end TreeInspector
