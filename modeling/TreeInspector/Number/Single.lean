import TreeInspector.Number.Rounding

/-! # Single-precision numbers

All geometry is computed in the 32-bit binary floating-point format. A number is either not a
number, a signed infinity, or a sign with the exponent and fraction fields of the format, so two
numbers are equal exactly when they are the same number including the sign of a zero; there is one
`nan`. Each operation is computed exactly on whole multiples of the smallest positive number
(a *grain*, `2^-149`) and rounded once, ties to even.
-/

namespace TreeInspector

/-- A number of the 32-bit binary floating-point format. -/
inductive Single where
  | nan
  | infinite (negative : Bool)
  | finite (negative : Bool) (exponent : Fin 255) (fraction : Fin 8388608)
deriving DecidableEq

namespace Single

/-- The number of grains in one. -/
def grainsPerOne : Nat := Nat.pow 2 149

/-- The significand of a finite number, with the implicit leading bit of a normal number. -/
def significand (exponent : Fin 255) (fraction : Fin 8388608) : Nat :=
  if exponent.val = 0 then fraction.val else 8388608 + fraction.val

/-- The binary logarithm, in grains, of the unit in which a finite number counts its significand. -/
def unitLog (exponent : Fin 255) : Nat := exponent.val - 1

/-- The magnitude of a finite number as a whole number of grains. -/
def magnitude (exponent : Fin 255) (fraction : Fin 8388608) : Nat :=
  significand exponent fraction * Nat.pow 2 (unitLog exponent)

/-- A magnitude with a sign. -/
def signed (negative : Bool) (grains : Nat) : Int :=
  if negative then -(grains : Int) else grains

/-- The field value of the number nearest to `num / den` grains: the exponent field above the
23 fraction bits. A carry out of the significand moves into the exponent by itself. -/
def roundedFields (num den : Nat) : Nat :=
  let shift := (num / den).log2 - 23
  shift * 8388608 + roundQuotient num (den * Nat.pow 2 shift)

/-- The number with the given sign and fields; fields past the largest finite number are infinity. -/
def ofFields (negative : Bool) (fields : Nat) : Single :=
  if small : fields < 255 * 8388608 then
    .finite negative ⟨fields / 8388608, Nat.div_lt_of_lt_mul (by omega)⟩
      ⟨fields % 8388608, Nat.mod_lt _ (by decide)⟩
  else .infinite negative

/-- The number nearest to `num / den` grains with the given sign. -/
def ofGrains (negative : Bool) (num den : Nat) : Single :=
  ofFields negative (roundedFields num den)

/-- The number nearest to the fraction `num / den`. -/
def ofRatio (negative : Bool) (num den : Nat) : Single :=
  ofGrains negative (num * grainsPerOne) den

/-- The number nearest to a natural number. -/
def ofNat (n : Nat) : Single := ofRatio false n 1

/-- The number nearest to an integer. -/
def ofInt (i : Int) : Single := ofRatio (i < 0) i.natAbs 1

/-- The zero with the given sign. -/
def zero (negative : Bool) : Single := .finite negative 0 0

/-- Whether the number is not a number. -/
def isNaN : Single → Bool
  | .nan => true
  | _ => false

/-- Whether the number is finite. -/
def isFinite : Single → Bool
  | .finite .. => true
  | _ => false

/-- Whether the number is a zero of either sign. -/
def isZero : Single → Bool
  | .finite _ exponent fraction => exponent.val == 0 && fraction.val == 0
  | _ => false

/-- The same magnitude with the opposite sign. -/
def neg : Single → Single
  | .nan => .nan
  | .infinite negative => .infinite (!negative)
  | .finite negative exponent fraction => .finite (!negative) exponent fraction

/-- The rounded sum. An exact sum of zero is negative only if both summands are. -/
def add : Single → Single → Single
  | .nan, _ | _, .nan => .nan
  | .infinite a, .infinite b => if a = b then .infinite a else .nan
  | .infinite a, .finite .. => .infinite a
  | .finite .., .infinite b => .infinite b
  | .finite a ea fa, .finite b eb fb =>
    let sum := signed a (magnitude ea fa) + signed b (magnitude eb fb)
    if sum = 0 then zero (a && b) else ofGrains (sum < 0) sum.natAbs 1

/-- The rounded difference. -/
def sub (a b : Single) : Single := add a (neg b)

/-- The rounded product. -/
def mul : Single → Single → Single
  | .nan, _ | _, .nan => .nan
  | .infinite a, .infinite b => .infinite (a != b)
  | .infinite a, .finite b eb fb => if magnitude eb fb = 0 then .nan else .infinite (a != b)
  | .finite a ea fa, .infinite b => if magnitude ea fa = 0 then .nan else .infinite (a != b)
  | .finite a ea fa, .finite b eb fb =>
    ofGrains (a != b) (magnitude ea fa * magnitude eb fb) grainsPerOne

/-- The rounded quotient. -/
def div : Single → Single → Single
  | .nan, _ | _, .nan => .nan
  | .infinite _, .infinite _ => .nan
  | .infinite a, .finite b .. => .infinite (a != b)
  | .finite a .., .infinite b => zero (a != b)
  | .finite a ea fa, .finite b eb fb =>
    if magnitude eb fb = 0 then
      if magnitude ea fa = 0 then .nan else .infinite (a != b)
    else ofGrains (a != b) (magnitude ea fa * grainsPerOne) (magnitude eb fb)

instance : Add Single := ⟨add⟩
instance : Sub Single := ⟨sub⟩
instance : Mul Single := ⟨mul⟩
instance : Div Single := ⟨div⟩
instance : Neg Single := ⟨neg⟩

/-- Whether `a ≤ b` as numbers: the two zeros are equal and `nan` compares with nothing. -/
def le : Single → Single → Bool
  | .nan, _ | _, .nan => false
  | .infinite a, .infinite b => a || !b
  | .infinite a, .finite .. => a
  | .finite .., .infinite b => !b
  | .finite a ea fa, .finite b eb fb =>
    signed a (magnitude ea fa) ≤ signed b (magnitude eb fb)

/-- Whether `a < b` as numbers. -/
def lt (a b : Single) : Bool := le a b && !le b a

/-- Equality as numbers: the two zeros are equal and `nan` differs from itself. -/
def equal (a b : Single) : Bool :=
  !a.isNaN && !b.isNaN && (a == b || a.isZero && b.isZero)

/-- The larger of two numbers; `nan` gives way to the other one and equal numbers to the first. -/
def max (a b : Single) : Single :=
  if a.isNaN then b else if lt a b then b else a

/-- The least whole number that is not below the given one. -/
def ceil : Single → Single
  | .nan => .nan
  | .infinite negative => .infinite negative
  | .finite negative exponent fraction =>
    let grains := magnitude exponent fraction
    let whole := if negative then grains / grainsPerOne
      else (grains + grainsPerOne - 1) / grainsPerOne
    ofRatio negative whole 1

/-- The whole part toward zero, kept between `low` and `high`; `nan` counts as zero. -/
def truncateBetween (low high : Int) : Single → Int
  | .nan => Max.max low (Min.min high 0)
  | .infinite negative => if negative then low else high
  | .finite negative exponent fraction =>
    Max.max low (Min.min high (signed negative (magnitude exponent fraction / grainsPerOne)))

/-- The 32 bits of the number in the interchange format. -/
def toBits : Single → Nat
  | .nan => 0x7fc00000
  | .infinite negative => negative.toNat * 2147483648 + 255 * 8388608
  | .finite negative exponent fraction =>
    negative.toNat * 2147483648 + exponent.val * 8388608 + fraction.val

/-- The number with the given 32 bits of the interchange format. -/
def ofBits (bits : Nat) : Single :=
  let negative := bits / 2147483648 % 2 == 1
  let fields := bits % 2147483648
  if fields ≤ 255 * 8388608 then ofFields negative fields else .nan

theorem equal_self_iff (a : Single) : equal a a = true ↔ a ≠ .nan := by
  cases a <;> simp [equal, isNaN]

/-- Numbers that are equal and not zero are the same number. -/
theorem eq_of_equal {a b : Single} (same : equal a b = true) (nonzero : b.isZero = false) : a = b := by
  simp only [equal, nonzero, Bool.and_false, Bool.or_false, Bool.and_eq_true, beq_iff_eq] at same
  exact same.2

theorem neg_neg (a : Single) : neg (neg a) = a := by
  cases a <;> simp [neg]

end Single

end TreeInspector
