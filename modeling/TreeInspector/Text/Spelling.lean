/-! # Single-line spelling of labels

A label is shown on one line and carried inside markup text, so control characters and the two
noncharacters that markup cannot carry are spelled out. The spelling acts on each character by
itself, and what it writes is never spelled out again.
-/

namespace TreeInspector

namespace Spelling

/-- The control characters of the first two blocks. -/
def isControl (c : Char) : Bool := c.toNat < 0x20 || (0x7f ≤ c.toNat && c.toNat ≤ 0x9f)

/-- The characters that a label may not contain as they are. -/
def isForbidden (c : Char) : Bool := isControl c || c.toNat == 0xfffe || c.toNat == 0xffff

/-- The text that stands for one character of a label. -/
def ofChar (c : Char) : List Char :=
  if c = '\n' then ['\\', 'n']
  else if c = '\r' then ['\\', 'r']
  else if c = '\t' then ['\\', 't']
  else if isForbidden c then ['\\', 'u', '\x7b'] ++ Nat.toDigits 16 c.toNat ++ ['\x7d']
  else [c]

/-- The single-line spelling of a text. -/
def spell (text : String) : String := String.ofList (text.toList.flatMap ofChar)

end Spelling

end TreeInspector
