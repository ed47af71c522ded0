import TreeInspector.Json.Printer

/-! # The grammar of the interchange format

Which texts write a value, said without any reader. Blanks may stand around a value and around the
marks of arrays and objects. A character of a text may be written as it is, by a one-letter escape or
by hexadecimal words; a number is written by its literal, so only numbers have a single written form.
-/

namespace TreeInspector.Json

/-- A run of blanks, maybe empty. -/
def Blanks (text : List Char) : Prop := ∀ c ∈ text, c ∈ [' ', '\t', '\n', '\r']

theorem blanks_nil : Blanks [] := List.forall_mem_nil _

theorem Blanks.append {first second : List Char} (before : Blanks first) (after : Blanks second) :
    Blanks (first ++ second) := by
  intro c member
  exact (List.mem_append.mp member).elim (before c) (after c)

/-- A hexadecimal digit of either case with its value. -/
def HexDigit (value : Nat) (c : Char) : Prop :=
  value < 16 ∧ (c = value.digitChar ∨ c = value.digitChar.toUpper)

/-- Four hexadecimal digits with their value. -/
inductive HexWord : Nat → List Char → Prop where
  | digits {a b c d : Nat} {first second third fourth : Char} (ha : HexDigit a first)
      (hb : HexDigit b second) (hc : HexDigit c third) (hd : HexDigit d fourth) :
      HexWord (((a * 16 + b) * 16 + c) * 16 + d) [first, second, third, fourth]

theorem HexWord.lt {value : Nat} {word : List Char} (written : HexWord value word) : value < 65536 := by
  obtain ⟨⟨_, _⟩, ⟨_, _⟩, ⟨_, _⟩, ⟨_, _⟩⟩ := written
  omega

/-- The letters of the one-letter escapes and the characters they stand for. -/
def shortEscapes : List (Char × Char) :=
  [('"', '"'), ('\\', '\\'), ('/', '/'), ('b', '\x08'), ('f', '\x0c'), ('n', '\n'), ('r', '\r'), ('t', '\t')]

/-- What may follow a backslash to stand for a character. -/
inductive EscapeWritten : Char → List Char → Prop where
  | short {letter c : Char} (known : (letter, c) ∈ shortEscapes) : EscapeWritten c [letter]
  | word {c : Char} {digits : List Char} (word : HexWord c.toNat digits) : EscapeWritten c ('u' :: digits)
  | pair {c : Char} {high low : List Char} (large : 0x10000 ≤ c.toNat)
      (first : HexWord (0xd800 + (c.toNat - 0x10000) / 0x400) high)
      (second : HexWord (0xdc00 + (c.toNat - 0x10000) % 0x400) low) :
      EscapeWritten c ('u' :: (high ++ '\\' :: 'u' :: low))

/-- The ways to write a character inside a text. -/
inductive CharacterWritten : Char → List Char → Prop where
  | plain {c : Char} (unquoted : c ≠ '"') (unescaped : c ≠ '\\') (visible : 0x20 ≤ c.toNat) :
      CharacterWritten c [c]
  | escaped {c : Char} {escape : List Char} (written : EscapeWritten c escape) :
      CharacterWritten c ('\\' :: escape)

/-- The ways to write characters one after the other. -/
inductive CharactersWritten : List Char → List Char → Prop where
  | nil : CharactersWritten [] []
  | cons {c : Char} {content first others : List Char} (head : CharacterWritten c first)
      (tail : CharactersWritten content others) : CharactersWritten (c :: content) (first ++ others)

/-- The ways to write a text in quotes. -/
def TextWritten (text : String) (written : List Char) : Prop :=
  ∃ content, CharactersWritten text.toList content ∧ written = '"' :: (content ++ ['"'])

/-- At least one decimal digit and nothing else. -/
def Digits (text : List Char) : Prop := text ≠ [] ∧ ∀ c ∈ text, c.isDigit = true

/-- A literal that may be written: a leading zero stands alone, no part is empty, and the value is in
the range of numbers. -/
structure Literal.Valid (literal : Literal) : Prop where
  whole : Digits literal.whole
  leading : literal.whole.head? = some '0' → literal.whole = ['0']
  fraction : ∀ digits ∈ literal.fraction, Digits digits
  exponent : ∀ exponent ∈ literal.exponent, Digits exponent.digits
  inRange : literal.excess? = none

mutual

/-- The ways to write a value, without blanks around it. -/
inductive Written : Value → List Char → Prop where
  | null : Written .null ['n', 'u', 'l', 'l']
  | yes : Written (.bool true) ['t', 'r', 'u', 'e']
  | no : Written (.bool false) ['f', 'a', 'l', 's', 'e']
  | number {literal : Literal} (valid : literal.Valid) :
      Written (.number literal) (Printer.literal literal)
  | text {text : String} {written : List Char} (quoted : TextWritten text written) :
      Written (.text text) written
  | emptyArray {gap : List Char} (blanks : Blanks gap) : Written (.array []) ('[' :: (gap ++ [']']))
  | array {item : Value} {items : List Value} {before first after others : List Char}
      (leading : Blanks before) (head : Written item first) (trailing : Blanks after)
      (tail : ElementsWritten items others) :
      Written (.array (item :: items)) ('[' :: (before ++ (first ++ (after ++ others))))
  | emptyObject {gap : List Char} (blanks : Blanks gap) :
      Written (.object []) ('\x7b' :: (gap ++ ['\x7d']))
  | object {name : String} {item : Value} {items : List (String × Value)}
      {before first after others : List Char} (leading : Blanks before)
      (head : MemberWritten name item first) (trailing : Blanks after)
      (tail : MembersWritten items others) :
      Written (.object ((name, item) :: items)) ('\x7b' :: (before ++ (first ++ (after ++ others))))

/-- The ways to write the further elements of an array and its end. -/
inductive ElementsWritten : List Value → List Char → Prop where
  | close : ElementsWritten [] [']']
  | more {item : Value} {items : List Value} {before first after others : List Char}
      (leading : Blanks before) (head : Written item first) (trailing : Blanks after)
      (tail : ElementsWritten items others) :
      ElementsWritten (item :: items) (',' :: (before ++ (first ++ (after ++ others))))

/-- The ways to write a member: its name, a colon and its value. -/
inductive MemberWritten : String → Value → List Char → Prop where
  | named {name : String} {item : Value} {label before after written : List Char}
      (quoted : TextWritten name label) (leading : Blanks before) (trailing : Blanks after)
      (value : Written item written) :
      MemberWritten name item (label ++ (before ++ ':' :: (after ++ written)))

/-- The ways to write the further members of an object and its end. -/
inductive MembersWritten : List (String × Value) → List Char → Prop where
  | close : MembersWritten [] ['\x7d']
  | more {name : String} {item : Value} {items : List (String × Value)}
      {before first after others : List Char} (leading : Blanks before)
      (head : MemberWritten name item first) (trailing : Blanks after)
      (tail : MembersWritten items others) :
      MembersWritten ((name, item) :: items) (',' :: (before ++ (first ++ (after ++ others))))

end

/-- The texts of a value: the value as written, with blanks around it. -/
def IsText (value : Value) (text : List Char) : Prop :=
  ∃ before written after, Blanks before ∧ Written value written ∧ Blanks after ∧
    text = before ++ (written ++ after)

end TreeInspector.Json
