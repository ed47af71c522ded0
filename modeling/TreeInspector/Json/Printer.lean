import TreeInspector.Json.Value

/-! # Writing values

The written form has no blanks. In a text only quotes, backslashes and control characters below the
space are escaped.
-/

namespace TreeInspector.Json

namespace Printer

/-- One of the two low hexadecimal digits of a control character. -/
def hexDigit (n : Nat) : Char := Nat.digitChar (n % 16)

/-- The written form of one character of a text. -/
def character (c : Char) : List Char :=
  if c = '"' then ['\\', '"']
  else if c = '\\' then ['\\', '\\']
  else if c = '\x08' then ['\\', 'b']
  else if c = '\x0c' then ['\\', 'f']
  else if c = '\n' then ['\\', 'n']
  else if c = '\r' then ['\\', 'r']
  else if c = '\t' then ['\\', 't']
  else if c.toNat < 0x20 then ['\\', 'u', '0', '0', hexDigit (c.toNat / 16), hexDigit c.toNat]
  else [c]

/-- The written form of a text, in front of what follows. -/
def quoted (text : String) (after : List Char) : List Char :=
  '"' :: text.toList.flatMap character ++ '"' :: after

/-- The written form of an exponent. -/
def exponent (exponent : Exponent) : List Char :=
  (if exponent.capital then 'E' else 'e') ::
    ((match exponent.sign with
      | none => []
      | some negative => [if negative then '-' else '+']) ++ exponent.digits)

/-- The written form of a number literal. -/
def literal (literal : Literal) : List Char :=
  (if literal.negative then ['-'] else []) ++ literal.whole ++
    (match literal.fraction with
      | none => []
      | some digits => '.' :: digits) ++
    (match literal.exponent with
      | none => []
      | some found => exponent found)

mutual

/-- The written form of a value, in front of what follows. -/
def value : Value → List Char → List Char
  | .null, after => 'n' :: 'u' :: 'l' :: 'l' :: after
  | .bool true, after => 't' :: 'r' :: 'u' :: 'e' :: after
  | .bool false, after => 'f' :: 'a' :: 'l' :: 's' :: 'e' :: after
  | .number number, after => literal number ++ after
  | .text text, after => quoted text after
  | .array [], after => '[' :: ']' :: after
  | .array (first :: rest), after => '[' :: value first (elements rest after)
  | .object [], after => '\x7b' :: '\x7d' :: after
  | .object ((name, first) :: rest), after =>
    '\x7b' :: quoted name (':' :: value first (members rest after))

/-- The further elements of a list and its end. -/
def elements : List Value → List Char → List Char
  | [], after => ']' :: after
  | first :: rest, after => ',' :: value first (elements rest after)

/-- The further members of an object and its end. -/
def members : List (String × Value) → List Char → List Char
  | [], after => '\x7d' :: after
  | (name, first) :: rest, after => ',' :: quoted name (':' :: value first (members rest after))

end

end Printer

/-- The written form of a value. -/
def Value.print (value : Value) : String := String.ofList (Printer.value value [])

end TreeInspector.Json
