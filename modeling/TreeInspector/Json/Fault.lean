/-! # Faults in a text

A fault names its cause and where the reader stood: the text not yet read, and how many bytes of it
had been looked at. The position shown is derived from that and the whole text: lines count from
one, columns count bytes since the last line feed.
-/

namespace TreeInspector.Json

/-- Why a text is not a value of the format. -/
inductive Cause where
  | endInList
  | endInObject
  | endInText
  | endInValue
  | expectedColon
  | expectedListEnd
  | expectedObjectEnd
  | expectedKeyword
  | expectedValue
  | invalidEscape
  | invalidNumber
  | numberOutOfRange
  | controlCharacter
  | keyNotText
  | loneSurrogate
  | trailingComma
  | trailingCharacters
  | unfinishedSurrogate
deriving DecidableEq

namespace Cause

/-- Whether the text ended too early. -/
def isEnd : Cause → Bool
  | endInList | endInObject | endInText | endInValue => true
  | _ => false

/-- The wording of a cause. -/
def text : Cause → String
  | endInList => "EOF while parsing a list"
  | endInObject => "EOF while parsing an object"
  | endInText => "EOF while parsing a string"
  | endInValue => "EOF while parsing a value"
  | expectedColon => "expected `:`"
  | expectedListEnd => "expected `,` or `]`"
  | expectedObjectEnd => "expected `,` or `\x7d`"
  | expectedKeyword => "expected ident"
  | expectedValue => "expected value"
  | invalidEscape => "invalid escape"
  | invalidNumber => "invalid number"
  | numberOutOfRange => "number out of range"
  | controlCharacter => "control character (\\u0000-\\u001F) found while parsing a string"
  | keyNotText => "key must be a string"
  | loneSurrogate => "lone leading surrogate in hex escape"
  | trailingComma => "trailing comma"
  | trailingCharacters => "trailing characters"
  | unfinishedSurrogate => "unexpected end of hex escape"

end Cause

/-- A cause, the text not yet read, and the number of its bytes that had been looked at. -/
structure Fault where
  cause : Cause
  rest : List Char
  ahead : Nat
deriving DecidableEq

/-- A line and a byte column. -/
structure Position where
  line : Nat
  column : Nat
deriving DecidableEq

namespace Position

/-- The position after one more character. -/
def advance (position : Position) (c : Char) : Position :=
  if c = '\n' then ⟨position.line + 1, 0⟩ else ⟨position.line, position.column + c.utf8Size⟩

/-- The position after at most `bytes` more bytes of a text. -/
def advanceBytes : Nat → List Char → Position → Position
  | 0, _, position | _, [], position => position
  | bytes + 1, c :: rest, position =>
    if c.utf8Size ≤ bytes + 1 then advanceBytes (bytes + 1 - c.utf8Size) rest (position.advance c)
    else ⟨position.line, position.column + (bytes + 1)⟩
termination_by _ text => text.length

/-- Where a fault lies in the whole text. -/
def ofFault (text : List Char) (fault : Fault) : Position :=
  let start := (text.take (text.length - fault.rest.length)).foldl advance ⟨1, 0⟩
  advanceBytes fault.ahead fault.rest start

end Position

/-- The message for a fault in a text. -/
def Fault.message (text : List Char) (fault : Fault) : String :=
  let position := Position.ofFault text fault
  fault.cause.text ++ " at line " ++ Nat.repr position.line ++ " column " ++ Nat.repr position.column

end TreeInspector.Json
