/-! # Rounding quotients to the nearest whole number

Every inexact step of the geometry, of the decimal texts and of the number reader is one rounded
quotient of natural numbers. Ties go to the even neighbour.
-/

namespace TreeInspector

/-- The whole number nearest to `num / den`; a tie goes to the even neighbour. -/
def roundQuotient (num den : Nat) : Nat :=
  let whole := num / den
  let rest := 2 * (num % den)
  if rest < den then whole
  else if den < rest then whole + 1
  else whole + whole % 2

/-- Keep the `width` leading binary digits of `n`, rounding the rest to the nearest, ties to even. -/
def roundToWidth (width n : Nat) : Nat :=
  let excess := n.log2 + 1 - width
  roundQuotient n (Nat.pow 2 excess) * Nat.pow 2 excess

/-- A rounded quotient is within half a unit of the exact one. -/
theorem roundQuotient_near (num den : Nat) (positive : 0 < den) :
    2 * num ≤ 2 * den * roundQuotient num den + den ∧
      2 * den * roundQuotient num den ≤ 2 * num + den := by
  have split := Nat.div_add_mod num den
  have small := Nat.mod_lt num positive
  have scaled : 2 * den * (num / den) = 2 * (den * (num / den)) := Nat.mul_assoc ..
  unfold roundQuotient
  dsimp only
  split
  · omega
  · have up : 2 * den * (num / den + 1) = 2 * (den * (num / den)) + 2 * den := by
      rw [Nat.mul_add, scaled, Nat.mul_one]
    split
    · omega
    · rcases Nat.mod_two_eq_zero_or_one (num / den) with even | odd
      · rw [even, Nat.add_zero]; omega
      · rw [odd]; omega

/-- A whole quotient is not changed by rounding. -/
theorem roundQuotient_mul (whole den : Nat) (positive : 0 < den) :
    roundQuotient (whole * den) den = whole := by
  simp [roundQuotient, Nat.mul_div_cancel _ positive, positive]

end TreeInspector
