import TreeInspector.Json.Fault
import TreeInspector.Json.Value

/-! # Reading values

A reader takes the text at the start of a construct and gives back what it read with the text after
it. Blanks are skipped in front of a value and around the marks of lists and objects, never inside
a literal. Nesting is bounded by a fuel of one more than the length of the text, which every level
and every element consumes slower than the text; what is left of it also bounds the characters of a
text.
-/

namespace TreeInspector.Json

namespace Reader

/-- A fault at the text, with `ahead` of its bytes looked at. -/
def fail {α : Type} (cause : Cause) (rest : List Char) (ahead : Nat) : Except Fault α :=
  .error ⟨cause, rest, ahead⟩

/-- The blanks of the format. -/
def isSpace (c : Char) : Bool := c == ' ' || c == '\n' || c == '\t' || c == '\r'

/-- Skip blanks. -/
def skipSpace (text : List Char) : List Char := text.dropWhile isSpace

/-- Read the given characters. -/
def keyword : List Char → List Char → Except Fault (List Char)
  | [], text => .ok text
  | _ :: _, [] => fail .endInValue [] 0
  | expected :: others, c :: rest =>
    if c = expected then keyword others rest else fail .expectedKeyword (c :: rest) 1

/-- The value of a hexadecimal digit of either case. -/
def hexDigit? (c : Char) : Option Nat :=
  if c.isDigit then some (c.toNat - '0'.toNat)
  else if 'a' ≤ c ∧ c ≤ 'f' then some (c.toNat - 'a'.toNat + 10)
  else if 'A' ≤ c ∧ c ≤ 'F' then some (c.toNat - 'A'.toNat + 10)
  else none

/-- Read four hexadecimal digits; four bytes are looked at even if they are no digits. -/
def hexWord (text : List Char) : Except Fault (Nat × List Char) :=
  if (text.take 4).foldl (fun bytes char => bytes + char.utf8Size) 0 < 4 then fail .endInText [] 0
  else match text with
    | a :: b :: c :: d :: rest =>
      match hexDigit? a, hexDigit? b, hexDigit? c, hexDigit? d with
      | some a, some b, some c, some d => .ok (((a * 16 + b) * 16 + c) * 16 + d, rest)
      | _, _, _, _ => fail .invalidEscape text 4
    | _ => fail .invalidEscape text 4

/-- Read one expected character between the halves of a surrogate pair. -/
def pairMark (expected : Char) : List Char → Except Fault (List Char)
  | [] => fail .endInText [] 0
  | c :: rest => if c = expected then .ok rest else fail .unfinishedSurrogate (c :: rest) 1

/-- Read the rest of a hexadecimal escape: one word, or two that form a surrogate pair. -/
def hexEscape (text : List Char) : Except Fault (Char × List Char) := do
  let (first, rest) ← hexWord text
  if 0xdc00 ≤ first ∧ first ≤ 0xdfff then fail .loneSurrogate rest 0
  else if first < 0xd800 ∨ 0xdbff < first then return (Char.ofNat first, rest)
  else
    let rest ← pairMark '\\' rest
    let rest ← pairMark 'u' rest
    let (second, rest) ← hexWord rest
    if second < 0xdc00 ∨ 0xdfff < second then fail .loneSurrogate rest 0
    else return (Char.ofNat (0x10000 + (first - 0xd800) * 0x400 + (second - 0xdc00)), rest)

/-- The character that a one-letter escape stands for. -/
def shortEscape? : Char → Option Char
  | '"' => some '"'
  | '\\' => some '\\'
  | '/' => some '/'
  | 'b' => some '\x08'
  | 'f' => some '\x0c'
  | 'n' => some '\n'
  | 'r' => some '\r'
  | 't' => some '\t'
  | _ => none

/-- Read an escape after its backslash. -/
def escape : List Char → Except Fault (Char × List Char)
  | [] => fail .endInText [] 0
  | c :: rest =>
    if c = 'u' then hexEscape rest
    else match shortEscape? c with
      | some meant => .ok (meant, rest)
      | none => fail .invalidEscape (c :: rest) 1

/-- Read the characters of a text up to its closing quote, at most `fuel` of them. -/
def characters : Nat → List Char → Except Fault (List Char × List Char)
  | 0, text => fail .endInText text 0
  | _ + 1, [] => fail .endInText [] 0
  | fuel + 1, c :: rest =>
    if c = '"' then .ok ([], rest)
    else if c = '\\' then do
      let (first, rest) ← escape rest
      let (others, rest) ← characters fuel rest
      return (first :: others, rest)
    else if c.toNat < 0x20 then fail .controlCharacter (c :: rest) 1
    else do
      let (others, rest) ← characters fuel rest
      return (c :: others, rest)

/-- Read a text after its opening quote, at most `fuel` characters. -/
def quoted (fuel : Nat) (text : List Char) : Except Fault (String × List Char) := do
  let (content, rest) ← characters fuel text
  return (String.ofList content, rest)

/-- Read the digits of an exponent after its mark. -/
def exponent (capital : Bool) (text : List Char) : Except Fault (Exponent × List Char) :=
  let (sign, digits) := match text with
    | '+' :: rest => (some false, rest)
    | '-' :: rest => (some true, rest)
    | rest => (none, rest)
  match digits with
  | [] => fail .endInValue [] 0
  | c :: rest =>
    if c.isDigit then
      .ok (⟨capital, sign, (c :: rest).takeWhile Char.isDigit⟩, (c :: rest).dropWhile Char.isDigit)
    else fail .invalidNumber (c :: rest) 1

/-- Read an exponent if there is one. -/
def optionalExponent : List Char → Except Fault (Option Exponent × List Char)
  | 'e' :: rest => (exponent false rest).map fun (found, rest) => (some found, rest)
  | 'E' :: rest => (exponent true rest).map fun (found, rest) => (some found, rest)
  | text => .ok (none, text)

/-- Read the digits after a point if there is one. -/
def optionalFraction : List Char → Except Fault (Option (List Char) × List Char)
  | '.' :: rest =>
    let digits := rest.takeWhile Char.isDigit
    if digits.isEmpty then
      fail (if rest.isEmpty then .endInValue else .invalidNumber) rest 1
    else .ok (some digits, rest.dropWhile Char.isDigit)
  | text => .ok (none, text)

/-- Read the digits before the point; a leading zero stands alone. -/
def wholeDigits : List Char → Except Fault (List Char × List Char)
  | [] => fail .endInValue [] 0
  | c :: rest =>
    if c = '0' then
      if (rest.takeWhile Char.isDigit).isEmpty then .ok (['0'], rest) else fail .invalidNumber rest 1
    else if c.isDigit then
      .ok ((c :: rest).takeWhile Char.isDigit, (c :: rest).dropWhile Char.isDigit)
    else fail .invalidNumber (c :: rest) 1

/-- Read a number after its sign. -/
def number (negative : Bool) (text : List Char) : Except Fault (Literal × List Char) := do
  let (whole, rest) ← wholeDigits text
  let (fraction, rest) ← optionalFraction rest
  let (exponent, rest) ← optionalExponent rest
  let literal : Literal := ⟨negative, whole, fraction, exponent⟩
  match literal.excess? with
  | some unread => fail .numberOutOfRange (unread ++ rest) 0
  | none => return (literal, rest)

/-- Read the name of a member and the colon after it, from the place of its opening quote. -/
def memberName (fuel : Nat) : List Char → Except Fault (String × List Char)
  | '"' :: rest => do
    let (name, rest) ← quoted fuel rest
    match skipSpace rest with
    | ':' :: rest => return (name, rest)
    | [] => fail .endInObject [] 1
    | rest => fail .expectedColon rest 1
  | rest => fail .keyNotText rest 1

mutual

/-- Read a value. -/
def value : Nat → List Char → Except Fault (Value × List Char)
  | 0, text => fail .expectedValue text 0
  | fuel + 1, text =>
    match skipSpace text with
    | [] => fail .endInValue [] 1
    | c :: rest =>
      if c = 'n' then (keyword ['u', 'l', 'l'] rest).map fun rest => (.null, rest)
      else if c = 't' then (keyword ['r', 'u', 'e'] rest).map fun rest => (.bool true, rest)
      else if c = 'f' then (keyword ['a', 'l', 's', 'e'] rest).map fun rest => (.bool false, rest)
      else if c = '-' then (number true rest).map fun (literal, rest) => (.number literal, rest)
      else if c.isDigit then
        (number false (c :: rest)).map fun (literal, rest) => (.number literal, rest)
      else if c = '"' then (quoted fuel rest).map fun (text, rest) => (.text text, rest)
      else if c = '[' then
        match skipSpace rest with
        | [] => fail .endInList [] 1
        | ']' :: rest => .ok (.array [], rest)
        | rest => do
          let (first, rest) ← value fuel rest
          let (others, rest) ← elements fuel rest
          return (.array (first :: others), rest)
      else if c = '\x7b' then
        match skipSpace rest with
        | [] => fail .endInObject [] 1
        | '\x7d' :: rest => .ok (.object [], rest)
        | rest => do
          let (name, rest) ← memberName fuel rest
          let (first, rest) ← value fuel rest
          let (others, rest) ← members fuel rest
          return (.object ((name, first) :: others), rest)
      else fail .expectedValue (c :: rest) 1

/-- Read the further elements of a list, each after a comma, and its end. -/
def elements : Nat → List Char → Except Fault (List Value × List Char)
  | 0, text => fail .expectedListEnd text 0
  | fuel + 1, text =>
    match skipSpace text with
    | [] => fail .endInList [] 1
    | ']' :: rest => .ok ([], rest)
    | ',' :: rest =>
      match skipSpace rest with
      | [] => fail .endInValue [] 1
      | ']' :: rest => fail .trailingComma (']' :: rest) 1
      | rest => do
        let (first, rest) ← value fuel rest
        let (others, rest) ← elements fuel rest
        return (first :: others, rest)
    | rest => fail .expectedListEnd rest 1

/-- Read the further members of an object, each after a comma, and its end. -/
def members : Nat → List Char → Except Fault (List (String × Value) × List Char)
  | 0, text => fail .expectedObjectEnd text 0
  | fuel + 1, text =>
    match skipSpace text with
    | [] => fail .endInObject [] 1
    | '\x7d' :: rest => .ok ([], rest)
    | ',' :: rest =>
      match skipSpace rest with
      | [] => fail .endInValue [] 1
      | '\x7d' :: rest => fail .trailingComma ('\x7d' :: rest) 1
      | rest => do
        let (name, rest) ← memberName fuel rest
        let (first, rest) ← value fuel rest
        let (others, rest) ← members fuel rest
        return ((name, first) :: others, rest)
    | rest => fail .expectedObjectEnd rest 1

end

end Reader

/-- Read one value at the start of a text. -/
def readValue (text : List Char) : Except Fault (Value × List Char) := Reader.value (text.length + 1) text

/-- Nothing but blanks may follow. -/
def expectEnd (text : List Char) : Except Fault Unit :=
  match Reader.skipSpace text with
  | [] => .ok ()
  | rest => Reader.fail .trailingCharacters rest 1

end TreeInspector.Json
