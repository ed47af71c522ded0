import TreeInspector.Text.Pieces

/-! # Blank characters, trimming and lines

Names and typed paths are trimmed of the characters with the white-space property; a text of names
has one name a line, blank lines left out.
-/

namespace TreeInspector

namespace Blank

/-- The characters with the white-space property. -/
def isBlank (c : Char) : Bool :=
  let n := c.toNat
  (0x09 ≤ n && n ≤ 0x0d) || n == 0x20 || n == 0x85 || n == 0xa0 || n == 0x1680 ||
    (0x2000 ≤ n && n ≤ 0x200a) || n == 0x2028 || n == 0x2029 || n == 0x202f || n == 0x205f ||
    n == 0x3000

/-- Drop the blank characters at both ends. -/
def trim (text : List Char) : List Char :=
  ((text.dropWhile isBlank).reverse.dropWhile isBlank).reverse

/-- A line without the carriage return that may stand in front of its line feed. -/
def withoutReturn (line : List Char) : List Char :=
  if line.getLast? = some '\r' then line.dropLast else line

/-- The lines of a text, ended by a line feed or by a carriage return and a line feed. What stands behind
the last line feed is a line as it is, unless it is empty. -/
def lines (text : List Char) : List (List Char) :=
  let parts := pieces '\n' text
  parts.dropLast.map withoutReturn ++ [parts.getLastD []].filter (!·.isEmpty)

/-- The lines that are not blank, trimmed, in order. -/
def entries (lines : List (List Char)) : List (List Char) :=
  (lines.map trim).filter (!·.isEmpty)

/-- The names on the lines of a text. -/
def names (text : List Char) : List (List Char) := entries (lines text)

end Blank

end TreeInspector
