/-! # Decimal digits

The value of a run of decimal digits, and the longest part of a run whose value fits a limit.
-/

namespace TreeInspector

/-- The value of one decimal digit. -/
def digitValue (digit : Char) : Nat := digit.toNat - '0'.toNat

/-- The value of a run of decimal digits. -/
def digitsValue (digits : List Char) : Nat :=
  digits.foldl (fun value digit => value * 10 + digitValue digit) 0

/-- Append digits to a value as long as it stays within the limit, and give back those left over. -/
def takeDigits (limit : Nat) : Nat → List Char → Nat × List Char
  | value, [] => (value, [])
  | value, digit :: rest =>
    let next := value * 10 + digitValue digit
    if next ≤ limit then takeDigits limit next rest else (value, digit :: rest)

end TreeInspector
