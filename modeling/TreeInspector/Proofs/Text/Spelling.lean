import Mathlib.Tactic.Common
import TreeInspector.Label

/-! # Spelled texts

Whatever a label contains, its spelling has no character that would have to be spelled out: no control
character, so no line break, and neither of the two noncharacters. This holds of every text that is
shown for a node.
-/

namespace TreeInspector

/-- The digits of a number are the characters of numbers below the base. -/
theorem exists_digit_of_mem_toDigits {base n : Nat} (valid : 1 < base) {c : Char}
    (member : c ∈ Nat.toDigits base n) : ∃ digit < base, c = Nat.digitChar digit := by
  induction n using Nat.strongRecOn with
  | ind n ih =>
    by_cases small : n < base
    · rw [Nat.toDigits_of_lt_base small, List.mem_singleton] at member
      exact ⟨n, small, member⟩
    · have large : base ≤ n := Nat.le_of_not_lt small
      rw [Nat.toDigits_of_base_le valid large, List.mem_append, List.mem_singleton] at member
      rcases member with higher | last
      · exact ih (n / base) (Nat.div_lt_self (Nat.lt_of_lt_of_le (Nat.lt_trans Nat.zero_lt_one valid) large) valid)
          higher
      · exact ⟨n % base, Nat.mod_lt n (Nat.lt_trans Nat.zero_lt_one valid), last⟩

namespace Spelling

theorem isForbidden_digitChar {digit : Nat} (bound : digit < 16) :
    isForbidden (Nat.digitChar digit) = false := by
  revert digit
  decide

theorem exists_digit_of_mem_repr {n : Nat} {c : Char} (member : c ∈ (Nat.repr n).toList) :
    ∃ digit < 10, c = Nat.digitChar digit := by
  rw [Nat.toList_repr] at member
  exact exists_digit_of_mem_toDigits (by decide) member

/-- Nothing is spelled out in a number. -/
theorem isForbidden_of_mem_repr {n : Nat} {c : Char} (member : c ∈ (Nat.repr n).toList) :
    isForbidden c = false := by
  obtain ⟨digit, bound, rfl⟩ := exists_digit_of_mem_repr member
  exact isForbidden_digitChar (Nat.lt_trans bound (by decide))

/-- What stands for a character is never spelled out again. -/
theorem isForbidden_of_mem_ofChar {c d : Char} (member : d ∈ ofChar c) : isForbidden d = false := by
  unfold ofChar at member
  split_ifs at member with newline carriage tab forbidden
  all_goals simp only [List.mem_append, List.mem_cons, List.not_mem_nil, or_false] at member
  · rcases member with rfl | rfl <;> decide
  · rcases member with rfl | rfl <;> decide
  · rcases member with rfl | rfl <;> decide
  · rcases member with ((rfl | rfl | rfl) | digit) | rfl
    · decide
    · decide
    · decide
    · obtain ⟨value, bound, rfl⟩ := exists_digit_of_mem_toDigits (by decide) digit
      exact isForbidden_digitChar bound
    · decide
  · rw [member]
    exact Bool.eq_false_iff.mpr forbidden

theorem isForbidden_of_mem_spell {text : String} {c : Char} (member : c ∈ (spell text).toList) :
    isForbidden c = false := by
  rw [spell, String.toList_ofList] at member
  obtain ⟨source, _, spelled⟩ := List.mem_flatMap.mp member
  exact isForbidden_of_mem_ofChar spelled

end Spelling

/-- No text shown for a node has a character that must be spelled out. -/
theorem RuleNames.isForbidden_of_mem_textFor {rules : RuleNames} {label : NodeLabel} {c : Char}
    (member : c ∈ (rules.textFor label).toList) : Spelling.isForbidden c = false := by
  cases label with
  | text text => exact Spelling.isForbidden_of_mem_spell member
  | rule index =>
    rw [textFor] at member
    cases found : rules.get? index.toNat with
    | some name =>
      rw [found] at member
      exact Spelling.isForbidden_of_mem_spell member
    | none =>
      rw [found, Option.map_none, Option.getD_none] at member
      exact Spelling.isForbidden_of_mem_repr member

end TreeInspector
