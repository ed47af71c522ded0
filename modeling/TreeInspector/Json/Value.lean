import TreeInspector.Number.Digits
import TreeInspector.Number.Rounding

/-! # Values of the interchange format

An object is the list of its members as written, so repeated names are kept. A number is kept as
its literal: whether it is an unsigned 64-bit integer depends on how it is written, not only on its
value. A literal whose value exceeds the range of double precision is not accepted.
-/

namespace TreeInspector.Json

/-- The exponent of a number literal. -/
structure Exponent where
  capital : Bool
  sign : Option Bool
  digits : List Char
deriving DecidableEq

/-- A number literal: its sign, digits before the point, digits after it and exponent. -/
structure Literal where
  negative : Bool
  whole : List Char
  fraction : Option (List Char)
  exponent : Option Exponent
deriving DecidableEq

namespace Literal

/-- The largest integer kept exactly. -/
def maxWord : Nat := UInt64.size - 1

/-- The largest decimal exponent that is read. -/
def maxExponent : Nat := 2147483647

/-- The literal of a natural number. -/
def ofNat (n : Nat) : Literal := ⟨false, Nat.toDigits 10 n, none, none⟩

/-- The value of a literal that is written as an unsigned integer and fits a 64-bit word. -/
def word? (literal : Literal) : Option UInt64 :=
  if literal.negative || literal.fraction.isSome || literal.exponent.isSome then none
  else if small : digitsValue literal.whole < UInt64.size then
    some (UInt64.ofNatLT (digitsValue literal.whole) small)
  else none

/-- The leading digits that fit a 64-bit word, and the power of ten they stand at. -/
def significand (literal : Literal) : Nat × Int :=
  let (whole, dropped) := takeDigits maxWord 0 literal.whole
  match literal.fraction with
  | none => (whole, dropped.length)
  | some fraction =>
    let (value, ignored) := takeDigits maxWord whole fraction
    (value, (dropped.length : Int) - ((fraction.length : Int) - ignored.length))

/-- Whether `significand * 10 ^ power`, both factors and then the product rounded to double
precision, is past the largest finite number. -/
def overflows (significand : Nat) (power : Int) : Bool :=
  significand != 0 && 0 ≤ power &&
    (308 < power ||
      Nat.pow 2 1024 - Nat.pow 2 970 ≤
        roundToWidth 53 significand * roundToWidth 53 (Nat.pow 10 power.toNat))

/-- For a literal out of range, the exponent digits left unread when that was found out. -/
def excess? (literal : Literal) : Option (List Char) :=
  let (significand, power) := literal.significand
  match literal.exponent with
  | none => if overflows significand power then some [] else none
  | some exponent =>
    let shrinks := exponent.sign == some true
    match takeDigits maxExponent 0 exponent.digits with
    | (_, _ :: unread) => if significand != 0 && !shrinks then some unread else none
    | (value, []) =>
      let total := if shrinks then power - value else power + value
      if overflows significand total then some [] else none

end Literal

/-- A value of the interchange format. -/
inductive Value where
  | null
  | bool (value : Bool)
  | number (literal : Literal)
  | text (text : String)
  | array (items : List Value)
  | object (members : List (String × Value))

end TreeInspector.Json
