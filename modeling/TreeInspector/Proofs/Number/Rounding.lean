import Mathlib.Tactic.Ring
import TreeInspector.Slider

/-! # Rounding to single precision

Rounding `num / den` grains keeps 24 leading binary digits of the quotient, so the result counts
units of `2 ^ shift` grains, where `shift` is what the quotient has beyond 24 digits. Everything
here is read off this one description. Whole numbers below `2 ^ 24` are exact, a number that is
well below one stays below one, and only an exact zero rounds to zero. Together they say that no
position of the slider stands for the scale zero.
-/

namespace TreeInspector

theorem le_roundQuotient {whole num den : Nat} (positive : 0 < den) (least : whole * den ≤ num) :
    whole ≤ roundQuotient num den := by
  have floor : whole ≤ num / den := (Nat.le_div_iff_mul_le positive).mpr least
  unfold roundQuotient
  dsimp only
  split
  · exact floor
  · split <;> omega

theorem roundQuotient_le {whole num den : Nat} (most : num < whole * den) :
    roundQuotient num den ≤ whole := by
  have positive : 0 < den := by
    rcases Nat.eq_zero_or_pos den with rfl | positive
    · simp at most
    · exact positive
  have floor : num / den < whole := (Nat.div_lt_iff_lt_mul positive).mpr most
  unfold roundQuotient
  dsimp only
  split
  · omega
  · split <;> omega

namespace Single

/-- The binary digits of a quotient beyond the 24 that are kept. -/
def excess (num den : Nat) : Nat := (num / den).log2 - 23

theorem grainsPerOne_eq : grainsPerOne = 2 ^ 149 := rfl

theorem magnitude_eq (exponent : Fin 255) (fraction : Fin 8388608) :
    magnitude exponent fraction = significand exponent fraction * 2 ^ unitLog exponent := rfl

theorem roundedFields_eq (num den : Nat) : roundedFields num den =
    excess num den * 8388608 + roundQuotient num (den * 2 ^ excess num den) := rfl

theorem excess_le {num den digits : Nat} (bounded : num / den < 2 ^ (digits + 24)) :
    excess num den ≤ digits := by
  by_cases zero : num / den = 0
  · rw [excess, zero, Nat.log2_zero]
    omega
  · have := (Nat.log2_lt zero).mpr bounded
    rw [excess]
    omega

/-- The kept digits are a significand, or all digits of a small quotient. -/
private theorem kept_bounds (num : Nat) {den : Nat} (positive : 0 < den) :
    (excess num den = 0 ∨ 8388608 ≤ roundQuotient num (den * 2 ^ excess num den)) ∧
      roundQuotient num (den * 2 ^ excess num den) ≤ 16777216 := by
  set shift := excess num den with shiftEq
  have power : 0 < den * 2 ^ shift := Nat.mul_pos positive (Nat.two_pow_pos shift)
  have upper : num / den < 2 ^ (shift + 24) := by
    apply Nat.lt_log2_self.trans_le
    apply Nat.pow_le_pow_right (by decide)
    rw [shiftEq, excess]
    omega
  refine ⟨?_, ?_⟩
  · by_cases small : (num / den).log2 ≤ 23
    · exact .inl (by rw [shiftEq, excess]; omega)
    · have nonzero : num / den ≠ 0 := by
        intro none
        rw [none, Nat.log2_zero] at small
        omega
      have lower : 2 ^ (shift + 23) ≤ num / den := by
        rw [show shift + 23 = (num / den).log2 by rw [shiftEq, excess]; omega]
        exact Nat.log2_self_le nonzero
      refine .inr (le_roundQuotient power ?_)
      have scaled := (Nat.le_div_iff_mul_le positive).mp lower
      calc 8388608 * (den * 2 ^ shift) = 2 ^ (shift + 23) * den := by rw [Nat.pow_add]; ring
        _ ≤ num := scaled
  · apply roundQuotient_le
    have scaled := (Nat.div_lt_iff_lt_mul positive).mp upper
    calc num < 2 ^ (shift + 24) * den := scaled
      _ = 16777216 * (den * 2 ^ shift) := by rw [Nat.pow_add]; ring

/-- Fields that keep 24 digits above an excess stand for that many units of the excess. -/
private theorem magnitude_fields {shift kept : Nat} (significant : shift = 0 ∨ 8388608 ≤ kept)
    (most : kept ≤ 16777216) (exponent : Fin 255) (fraction : Fin 8388608)
    (high : exponent.val = (shift * 8388608 + kept) / 8388608)
    (low : fraction.val = (shift * 8388608 + kept) % 8388608) :
    magnitude exponent fraction = kept * 2 ^ shift := by
  rw [Nat.mul_add_mod_self_right] at low
  rw [Nat.mul_comm shift, Nat.mul_add_div (by decide)] at high
  rw [magnitude_eq]
  unfold significand unitLog
  -- The carry of a significand that was rounded up to the next power of two goes to the exponent.
  rcases Nat.lt_or_ge kept 8388608 with tiny | large
  · have none : shift = 0 := by omega
    have digits : fraction.val = kept := by omega
    rw [if_pos (by omega), digits, high, none]
    simp [Nat.div_eq_of_lt tiny]
  · rw [if_neg (by omega)]
    rcases Nat.lt_or_ge kept 16777216 with plain | carry
    · have digits : 8388608 + fraction.val = kept := by omega
      have unit : exponent.val - 1 = shift := by omega
      rw [digits, unit]
    · have digits : fraction.val = 0 := by omega
      have unit : exponent.val - 1 = shift + 1 := by omega
      have full : kept = 16777216 := by omega
      rw [digits, unit, full, Nat.pow_succ]
      ring

/-- A quotient of at most 276 binary digits rounds to a finite number, which counts units of the
excess. -/
theorem ofGrains_eq_finite (negative : Bool) {num den : Nat} (positive : 0 < den)
    (bounded : excess num den ≤ 252) : ∃ exponent fraction,
      ofGrains negative num den = .finite negative exponent fraction ∧
        magnitude exponent fraction =
          roundQuotient num (den * 2 ^ excess num den) * 2 ^ excess num den := by
  obtain ⟨significant, most⟩ := kept_bounds num positive
  have small : roundedFields num den < 255 * 8388608 := by
    rw [roundedFields_eq]
    omega
  unfold ofGrains ofFields
  rw [dif_pos small]
  exact ⟨_, _, rfl, magnitude_fields significant most _ _ rfl rfl⟩

/-- A positive whole number of grains does not round to zero. -/
theorem isZero_ofGrains (negative : Bool) {grains : Nat} (positive : 0 < grains) :
    (ofGrains negative grains 1).isZero = false := by
  have fields : 0 < roundedFields grains 1 := by
    obtain ⟨significant, _⟩ := kept_bounds grains Nat.one_pos
    rw [roundedFields_eq]
    rcases significant with none | large
    · have least : 1 ≤ roundQuotient grains (1 * 2 ^ 0) := le_roundQuotient (by decide) (by omega)
      rw [none]
      omega
    · omega
  unfold ofGrains ofFields
  split
  · simp only [isZero, Bool.and_eq_false_iff, beq_eq_false_iff_ne]
    omega
  · rfl

/-- A sum that is not zero does not round to zero. -/
theorem isZero_add {a b : Bool} {ea eb : Fin 255} {fa fb : Fin 8388608}
    (nonzero : signed a (magnitude ea fa) + signed b (magnitude eb fb) ≠ 0) :
    (finite a ea fa + finite b eb fb : Single).isZero = false := by
  change (add (finite a ea fa) (finite b eb fb)).isZero = false
  simp only [add, if_neg nonzero]
  exact isZero_ofGrains _ (Int.natAbs_pos.mpr nonzero)

private theorem log2_mul_two_pow {n : Nat} (nonzero : n ≠ 0) (zeros : Nat) :
    (n * 2 ^ zeros).log2 = n.log2 + zeros := by
  induction zeros with
  | zero => rw [Nat.pow_zero, Nat.mul_one, Nat.add_zero]
  | succ zeros ih =>
    have shifted : n * 2 ^ zeros ≠ 0 := Nat.mul_ne_zero nonzero (Nat.two_pow_pos zeros).ne'
    rw [Nat.pow_succ, ← Nat.mul_assoc, Nat.mul_comm _ 2, Nat.log2_two_mul shifted, ih, Nat.add_assoc]

/-- Whole numbers of at most 24 digits are exact. -/
theorem magnitude_ofNat (negative : Bool) {n : Nat} (bounded : n < 16777216) : ∃ exponent fraction,
    ofRatio negative n 1 = .finite negative exponent fraction ∧
      magnitude exponent fraction = n * grainsPerOne := by
  have limit : n * grainsPerOne / 1 < 2 ^ (149 + 24) := by
    rw [Nat.div_one, grainsPerOne_eq]
    omega
  obtain ⟨exponent, fraction, same, grains⟩ :=
    ofGrains_eq_finite negative Nat.one_pos ((excess_le limit).trans (by decide))
  refine ⟨exponent, fraction, same, ?_⟩
  rw [grains]
  rcases Nat.eq_zero_or_pos n with rfl | positive
  · simp [roundQuotient]
  · have digits : (n * grainsPerOne).log2 = n.log2 + 149 := log2_mul_two_pow (by omega) 149
    have few : n.log2 ≤ 23 := by
      have := (Nat.log2_lt (by omega)).mpr (show n < 2 ^ 24 from bounded)
      omega
    have shift : excess (n * grainsPerOne) 1 = n.log2 + 126 := by
      rw [excess, Nat.div_one, digits]
      omega
    -- All digits beyond the excess are zeros of the factor `2 ^ 149`.
    have whole : n * grainsPerOne = n * 2 ^ (23 - n.log2) * (1 * 2 ^ (n.log2 + 126)) := by
      rw [grainsPerOne_eq, Nat.one_mul, Nat.mul_assoc, ← Nat.pow_add]
      congr 2
      omega
    rw [shift, whole, roundQuotient_mul _ _ (Nat.mul_pos Nat.one_pos (Nat.two_pow_pos _)), Nat.one_mul]

/-- What is at most 999 thousandths of one stays below one. -/
theorem magnitude_lt_one (negative : Bool) {num den : Nat} (positive : 0 < den)
    (below : 1000 * num ≤ 999 * (grainsPerOne * den)) : ∃ exponent fraction,
    ofGrains negative num den = .finite negative exponent fraction ∧
      magnitude exponent fraction < grainsPerOne := by
  have shift : excess num den ≤ 125 := by
    apply excess_le
    rw [Nat.div_lt_iff_lt_mul positive]
    rw [grainsPerOne_eq] at below
    omega
  obtain ⟨exponent, fraction, same, grains⟩ := ofGrains_eq_finite negative positive (shift.trans (by decide))
  refine ⟨exponent, fraction, same, ?_⟩
  -- Half a unit is at most `2 ^ 124` grains, far less than the thousandth that is missing to one.
  have near := (roundQuotient_near num _ (Nat.mul_pos positive (Nat.two_pow_pos (excess num den)))).2
  have unit : den * 2 ^ excess num den ≤ den * 2 ^ 125 :=
    Nat.mul_le_mul_left den (Nat.pow_le_pow_right (by decide) shift)
  rw [grains]
  by_contra large
  have scaled : grainsPerOne * den ≤ den * 2 ^ excess num den * roundQuotient num (den * 2 ^ excess num den) := by
    calc grainsPerOne * den
        ≤ roundQuotient num (den * 2 ^ excess num den) * 2 ^ excess num den * den :=
          Nat.mul_le_mul_right den (Nat.le_of_not_lt large)
      _ = _ := by ring
  have product : 2 * (den * 2 ^ excess num den) * roundQuotient num (den * 2 ^ excess num den) =
      2 * (den * 2 ^ excess num den * roundQuotient num (den * 2 ^ excess num den)) := Nat.mul_assoc ..
  rw [grainsPerOne_eq] at below scaled
  omega

end Single

namespace Slider

/-- A position divided by a thousand, in grains: the division rounds once. -/
private theorem ofInt_div_thousand {position : Int} (bounded : position.natAbs < 16777216) :
    Single.ofInt position / Single.ofNat 1000 =
      Single.ofGrains (position < 0) (position.natAbs * Single.grainsPerOne * Single.grainsPerOne)
        (1000 * Single.grainsPerOne) := by
  obtain ⟨ep, fp, exact, grains⟩ := Single.magnitude_ofNat (position < 0) bounded
  obtain ⟨et, ft, thousand, grainsThousand⟩ := Single.magnitude_ofNat false (show 1000 < 16777216 by decide)
  have nonzero : 1000 * Single.grainsPerOne ≠ 0 := by decide
  rw [Single.ofInt, Single.ofNat, exact, thousand]
  change Single.div _ _ = _
  simp only [Single.div, grains, grainsThousand, if_neg nonzero, Bool.bne_false]

/-- No position of the slider stands for the scale zero. -/
theorem isZero_toScale (value : Int) : (toScale value).isZero = false := by
  obtain ⟨low, high⟩ := clamp_bounds value
  unfold toScale
  generalize clamp value = position at low high
  unfold least at low
  unfold greatest at high
  obtain ⟨eo, fo, one, grainsOne⟩ := Single.magnitude_ofNat false (show 1 < 16777216 by decide)
  have positive : 0 < 1000 * Single.grainsPerOne := by decide
  rw [ofInt_div_thousand (by omega), Single.ofNat, one]
  by_cases negative : position < 0
  · have below : 1000 * (position.natAbs * Single.grainsPerOne * Single.grainsPerOne) ≤
        999 * (Single.grainsPerOne * (1000 * Single.grainsPerOne)) := by
      rw [Single.grainsPerOne_eq]
      omega
    obtain ⟨exponent, fraction, same, less⟩ := Single.magnitude_lt_one (position < 0) positive below
    rw [same]
    apply Single.isZero_add
    simp only [Single.signed, negative, decide_true, grainsOne]
    simp only [if_true, Bool.false_eq_true, if_false]
    omega
  · have bounded : position.natAbs * Single.grainsPerOne * Single.grainsPerOne /
        (1000 * Single.grainsPerOne) < 2 ^ (149 + 24) := by
      rw [Nat.div_lt_iff_lt_mul positive]
      rw [Single.grainsPerOne_eq]
      omega
    obtain ⟨exponent, fraction, same, _⟩ := Single.ofGrains_eq_finite (position < 0) positive
      ((Single.excess_le bounded).trans (by decide))
    rw [same]
    apply Single.isZero_add
    simp only [Single.signed, negative, decide_false, grainsOne, Single.grainsPerOne_eq]
    simp only [Bool.false_eq_true, if_false]
    omega

end Slider

end TreeInspector
