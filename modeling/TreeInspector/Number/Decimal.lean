import TreeInspector.Number.Digits
import TreeInspector.Number.Single

/-! # Decimal texts of single-precision numbers

Two texts are written: a fixed number of places after the point, rounded from the exact value, and
the fewest digits that still name the number. One text is read: a decimal literal with an optional
sign, fraction and exponent, or the name of an infinity or of `nan`, rounded once.
-/

namespace TreeInspector

namespace Single

/-- The sign in front of a negative number, zeros and infinities included. -/
def signText (negative : Bool) : String := if negative then "-" else ""

/-- The text `whole.fraction` of `scaled / 10 ^ places`. -/
def pointText (places scaled : Nat) : String :=
  let fraction := Nat.toDigits 10 (scaled % Nat.pow 10 places)
  Nat.repr (scaled / Nat.pow 10 places) ++ "." ++
    String.ofList (List.replicate (places - fraction.length) '0' ++ fraction)

/-- The exact value rounded to `places` digits after the point, ties to even. -/
def fixedText (places : Nat) : Single → String
  | .nan => "NaN"
  | .infinite negative => signText negative ++ "inf"
  | .finite negative exponent fraction =>
    signText negative ++
      pointText places (roundQuotient (magnitude exponent fraction * Nat.pow 10 places) grainsPerOne)

/-- A positive decimal `digits * 10 ^ power`. -/
structure Scientific where
  digits : Nat
  power : Int

namespace Scientific

/-- `num / den` scaled by `10 ^ power`, as a new numerator and denominator. -/
def scale (num den : Nat) (power : Int) : Nat × Nat :=
  if 0 ≤ power then (num * Nat.pow 10 power.toNat, den) else (num, den * Nat.pow 10 power.natAbs)

/-- Drop trailing zeros, at most `fuel` of them. -/
def trim : Nat → Scientific → Scientific
  | 0, decimal => decimal
  | fuel + 1, decimal =>
    if decimal.digits % 10 = 0 then trim fuel ⟨decimal.digits / 10, decimal.power + 1⟩ else decimal

end Scientific

/-- The numbers that round to a positive finite number, in quarters of a grain. The ends belong to
it exactly if the significand is even. -/
structure RoundingInterval where
  low : Nat
  value : Nat
  high : Nat
  closed : Bool

namespace RoundingInterval

/-- The interval around the finite number with the given fields. -/
def around (exponent : Fin 255) (fraction : Fin 8388608) : RoundingInterval :=
  let unit := Nat.pow 2 (unitLog exponent)
  let value := 4 * magnitude exponent fraction
  { low := value - (if fraction.val = 0 ∧ 1 < exponent.val then unit else 2 * unit)
    value
    high := value + 2 * unit
    closed := significand exponent fraction % 2 == 0 }

/-- Whether the decimal lies in the interval. -/
def contains (interval : RoundingInterval) (decimal : Scientific) : Bool :=
  let (num, den) := Scientific.scale (decimal.digits * 4 * grainsPerOne) 1 decimal.power
  if interval.closed then interval.low * den ≤ num && num ≤ interval.high * den
  else interval.low * den < num && num < interval.high * den

/-- The decimal in the interval among the two neighbours of the value on the grid of `10 ^ power`,
the nearer one if both are and the upper one if they are equally near. -/
def candidate? (interval : RoundingInterval) (power : Int) : Option Scientific :=
  let (num, den) := Scientific.scale interval.value (4 * grainsPerOne) (-power)
  let below : Scientific := ⟨num / den, power⟩
  let above : Scientific := ⟨num / den + 1, power⟩
  match interval.contains below, interval.contains above with
  | true, true => if 2 * (num % den) < den then some below else some above
  | true, false => some below
  | false, true => some above
  | false, false => none

/-- The power of ten just above the value. -/
def decimalPoint (interval : RoundingInterval) : Int :=
  let above (step : Nat) : Bool :=
    let (num, den) := Scientific.scale (4 * grainsPerOne) 1 ((step : Int) - 45)
    interval.value * den < num
  ((List.range 85).find? above).getD 85 - 45

/-- The decimal with the fewest digits in the interval. Nine digits always suffice. -/
def shortest (interval : RoundingInterval) : Scientific :=
  let point := interval.decimalPoint
  let found := (List.range 9).findSome? fun (digits : Nat) => interval.candidate? (point - digits - 1)
  (found.getD ⟨0, 0⟩).trim 10

end RoundingInterval

/-- A decimal in positional form between `0.0001` and `10^16`, otherwise with an exponent. -/
def Scientific.text (decimal : Scientific) : String :=
  let digits := Nat.toDigits 10 decimal.digits
  let point := digits.length + decimal.power
  let zeros (count : Int) := List.replicate count.toNat '0'
  if point < -3 ∨ 16 < point then
    let tail := digits.drop 1
    String.ofList (digits.take 1 ++ (if tail.isEmpty then [] else '.' :: tail)) ++ "e" ++
      (if point - 1 < 0 then "-" else "") ++ Nat.repr (point - 1).natAbs
  else if point ≤ 0 then String.ofList ('0' :: '.' :: zeros (-point) ++ digits)
  else if digits.length ≤ point then String.ofList (digits ++ zeros decimal.power ++ ['.', '0'])
  else String.ofList (digits.take point.toNat ++ '.' :: digits.drop point.toNat)

/-- The fewest digits that name the number, always with a point or an exponent. -/
def shortestText : Single → String
  | .nan => "NaN"
  | .infinite negative => signText negative ++ "inf"
  | .finite negative exponent fraction =>
    signText negative ++
      if magnitude exponent fraction = 0 then "0.0"
      else (RoundingInterval.around exponent fraction).shortest.text

/-- The number nearest to `digits * 10 ^ power`. Magnitudes far outside the format are decided
without computing the power. -/
def ofScientific (negative : Bool) (digits : List Char) (power : Int) : Single :=
  let kept := digits.dropWhile (· == '0')
  let point := kept.length + power
  if kept.isEmpty ∨ point < -50 then zero negative
  else if 50 < point then .infinite negative
  else
    let (num, den) := Scientific.scale (digitsValue kept) 1 power
    ofRatio negative num den

/-- Split a leading sign off. -/
def splitSign : List Char → Bool × List Char
  | '-' :: rest => (true, rest)
  | '+' :: rest => (false, rest)
  | text => (false, text)

/-- The value of the digits of an exponent. Once it is past two bytes, further digits do not count. -/
def exponentValue (digits : List Char) : Nat :=
  digits.foldl (fun value digit => if value < 65536 then value * 10 + digitValue digit else value) 0

/-- The exponent part of a literal: nothing, or a mark, an optional sign and at least one digit. -/
def readExponent? : List Char → Option Int
  | [] => some 0
  | mark :: rest =>
    let (negative, digits) := splitSign rest
    if (mark == 'e' || mark == 'E') && !digits.isEmpty && digits.all Char.isDigit then
      some (signed negative (exponentValue digits))
    else none

/-- Read an unsigned decimal literal with a digit before or after the point. -/
def readMagnitude? (negative : Bool) (text : List Char) : Option Single :=
  let whole := text.takeWhile Char.isDigit
  let (fraction, tail) := match text.dropWhile Char.isDigit with
    | '.' :: rest => (rest.takeWhile Char.isDigit, rest.dropWhile Char.isDigit)
    | rest => ([], rest)
  if whole.isEmpty && fraction.isEmpty then none
  else (readExponent? tail).map fun exponent =>
    ofScientific negative (whole ++ fraction) (exponent - fraction.length)

/-- Read a number: a signed literal, `inf`, `infinity` or `nan` in any case. -/
def read? (text : String) : Option Single :=
  let (negative, rest) := splitSign text.toList
  let name := String.ofList (rest.map Char.toLower)
  if name = "inf" ∨ name = "infinity" then some (.infinite negative)
  else if name = "nan" then some .nan
  else readMagnitude? negative rest

end Single

end TreeInspector
