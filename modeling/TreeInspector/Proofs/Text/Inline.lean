import Mathlib.Data.List.Basic
import TreeInspector.Proofs.Text.Spelling
import TreeInspector.Text.Pieces

/-! # Inline texts

An inline text stands on one line and can be carried by XML: no control character is in it, and all its
characters are those that an XML document may contain. The two conditions overlap, but neither implies the
other: XML carries tabs, line breaks and the control characters from delete on, and it refuses the two
noncharacters. Spelling makes every text inline and leaves a text alone exactly if it has nothing that
must be spelled out. It acts on each character by itself, so it respects joined texts.
-/

namespace TreeInspector

/-- The characters of XML 1.0: the tab, the two line breaks, and all from the blank on but surrogates and
the two noncharacters at the end of the first plane. -/
def isXmlCharacter (c : Char) : Bool :=
  let n := c.toNat
  n == 0x9 || n == 0xa || n == 0xd || (0x20 ≤ n && n ≤ 0xd7ff) || (0xe000 ≤ n && n ≤ 0xfffd) ||
    (0x10000 ≤ n && n ≤ 0x10ffff)

/-- The control characters that end a line. -/
def lineBreaks : List Char := ['\n', '\x0b', '\x0c', '\r', '\u0085']

/-- A text on one line that XML can carry. -/
structure IsInline (text : String) : Prop where
  carried : ∀ c ∈ text.toList, isXmlCharacter c = true
  printable : ∀ c ∈ text.toList, Spelling.isControl c = false
  oneLine : ∀ c ∈ lineBreaks, pieces c text.toList = [text.toList]

namespace Spelling

theorem isForbidden_iff (c : Char) :
    isForbidden c = true ↔ isControl c = true ∨ c.toNat = 0xfffe ∨ c.toNat = 0xffff := by
  simp only [isForbidden, Bool.or_eq_true, beq_iff_eq, or_assoc]

theorem isForbidden_eq_false_iff (c : Char) :
    isForbidden c = false ↔ isControl c = false ∧ c.toNat ≠ 0xfffe ∧ c.toNat ≠ 0xffff := by
  rw [← Bool.not_eq_true, isForbidden_iff, not_or, not_or, Bool.not_eq_true]

/-- Whatever need not be spelled out can be carried by XML: surrogates are no characters at all. -/
theorem isXmlCharacter_of_not_isForbidden {c : Char} (allowed : isForbidden c = false) :
    isXmlCharacter c = true := by
  obtain ⟨visible, notFirst, notLast⟩ := (isForbidden_eq_false_iff c).mp allowed
  have valid : c.toNat < 0xd800 ∨ 0xdfff < c.toNat ∧ c.toNat < 0x110000 := c.valid
  simp only [isControl, Bool.or_eq_false_iff, decide_eq_false_iff_not] at visible
  simp only [isXmlCharacter, Bool.or_eq_true, Bool.and_eq_true, decide_eq_true_eq, beq_iff_eq]
  omega

/-- A text without anything to spell out is inline. -/
theorem isInline_of_not_isForbidden {text : String}
    (allowed : ∀ c ∈ text.toList, isForbidden c = false) : IsInline text where
  carried c member := isXmlCharacter_of_not_isForbidden (allowed c member)
  printable c member := ((isForbidden_eq_false_iff c).mp (allowed c member)).1
  oneLine c ends := by
    apply pieces_of_not_mem
    intro member
    have forbidden : lineBreaks.all isForbidden = true := by decide
    exact Bool.false_ne_true ((allowed c member).symm.trans (List.all_eq_true.mp forbidden c ends))

/-- A character that need not be spelled out stands for itself. -/
theorem ofChar_of_not_isForbidden {c : Char} (allowed : isForbidden c = false) : ofChar c = [c] := by
  have notBreak : c ≠ '\n' ∧ c ≠ '\r' ∧ c ≠ '\t' := by
    refine ⟨?_, ?_, ?_⟩ <;> rintro rfl <;> exact absurd allowed (by decide)
  obtain ⟨notNewline, notReturn, notTab⟩ := notBreak
  simp [ofChar, notNewline, notReturn, notTab, allowed]

theorem spell_append (first second : String) : spell (first ++ second) = spell first ++ spell second := by
  simp [spell]

/-- Exactly the texts without anything to spell out are spelled as they are. -/
theorem spell_eq_self_iff (text : String) :
    spell text = text ↔ ∀ c ∈ text.toList, isForbidden c = false := by
  constructor
  · intro same c member
    rw [← same] at member
    exact isForbidden_of_mem_spell member
  · intro allowed
    have alone : text.toList.flatMap ofChar = text.toList.flatMap fun c => [c] :=
      List.flatMap_congr fun c member => ofChar_of_not_isForbidden (allowed c member)
    rw [spell, alone, List.flatMap_singleton', String.ofList_toList]

theorem backslash_mem_ofChar {c : Char} (forbidden : isForbidden c = true) : '\\' ∈ ofChar c := by
  unfold ofChar
  split_ifs
  all_goals simp

/-- In a spelling without a backslash nothing is spelled out. -/
theorem spell_of_backslash_not_mem {text : String} (plain : '\\' ∉ (spell text).toList) : spell text = text := by
  rw [spell_eq_self_iff]
  intro c member
  rw [← Bool.not_eq_true]
  intro forbidden
  refine plain ?_
  rw [spell, String.toList_ofList]
  exact List.mem_flatMap.mpr ⟨c, member, backslash_mem_ofChar forbidden⟩

/-- Only a number in decimal is spelled like it. -/
theorem spell_eq_repr_iff (text : String) (n : Nat) : spell text = Nat.repr n ↔ text = Nat.repr n := by
  constructor
  · intro spelled
    have plain : '\\' ∉ (spell text).toList := by
      rw [spelled]
      intro member
      obtain ⟨digit, bound, same⟩ := exists_digit_of_mem_repr member
      have different : ∀ digit < 10, '\\' ≠ Nat.digitChar digit := by decide
      exact different digit bound same
    rw [← spelled, spell_of_backslash_not_mem plain]
  · rintro rfl
    rw [spell_eq_self_iff]
    exact fun c member => isForbidden_of_mem_repr member

/-- What spelling does to a text, and to it with another one behind. -/
structure Lawful (text other : String) : Prop where
  inline : IsInline (spell text)
  append : spell (text ++ other) = spell text ++ spell other
  again : spell (spell text) = spell text
  fixed : spell text = text ↔
    ∀ c ∈ text.toList, isControl c = false ∧ c.toNat ≠ 0xfffe ∧ c.toNat ≠ 0xffff

end Spelling

/-- Spelling makes texts inline without changing more than it must, so every text shown for a label is
inline and spelled as it is. -/
theorem spell_lawful (text other : String) (rules : RuleNames) (label : NodeLabel) :
    Spelling.Lawful text other ∧ IsInline (rules.textFor label) ∧
      Spelling.spell (rules.textFor label) = rules.textFor label := by
  have spelled (c : Char) (member : c ∈ (Spelling.spell text).toList) : Spelling.isForbidden c = false :=
    Spelling.isForbidden_of_mem_spell member
  have shown (c : Char) (member : c ∈ (rules.textFor label).toList) : Spelling.isForbidden c = false :=
    RuleNames.isForbidden_of_mem_textFor member
  refine ⟨⟨?_, ?_, ?_, ?_⟩, ?_, ?_⟩
  · exact Spelling.isInline_of_not_isForbidden spelled
  · exact Spelling.spell_append text other
  · exact (Spelling.spell_eq_self_iff _).mpr spelled
  · simp only [Spelling.spell_eq_self_iff, Spelling.isForbidden_eq_false_iff]
  · exact Spelling.isInline_of_not_isForbidden shown
  · exact (Spelling.spell_eq_self_iff _).mpr shown

/-- Of two texts with one spelling, at most one is inline. -/
example : Spelling.spell "a\nb" = "a\\nb" ∧ Spelling.spell "a\\nb" = "a\\nb" := by
  decide

end TreeInspector
