import TreeInspector.Proofs.Json.Reading

/-! # Printed values

What is printed for a value is one of its texts, whatever characters its texts and names have, as long
as its literals may be written. The literals of whole numbers that fit a word may.
-/

namespace TreeInspector

/-! ## Whole numbers -/

theorem le_foldl_digits (value : Nat) (digits : List Char) :
    value ≤ digits.foldl (fun value digit => value * 10 + digitValue digit) value := by
  induction digits generalizing value with
  | nil => exact Nat.le_refl value
  | cons digit digits ih =>
    have := ih (value * 10 + digitValue digit)
    rw [List.foldl_cons]
    omega

/-- A run of digits within the limit is taken whole. -/
theorem takeDigits_eq {limit value : Nat} {digits : List Char}
    (fits : digits.foldl (fun value digit => value * 10 + digitValue digit) value ≤ limit) :
    takeDigits limit value digits =
      (digits.foldl (fun value digit => value * 10 + digitValue digit) value, []) := by
  induction digits generalizing value with
  | nil => rfl
  | cons digit digits ih =>
    rw [List.foldl_cons] at fits
    rw [takeDigits, if_pos ((le_foldl_digits _ digits).trans fits), ih fits, List.foldl_cons]

theorem roundToWidth_le {width n : Nat} (wide : 0 < width) (nonzero : n ≠ 0) :
    roundToWidth width n ≤ 2 * n := by
  have shift : 2 ^ (n.log2 + 1 - width) ≤ n := calc
    2 ^ (n.log2 + 1 - width) ≤ 2 ^ n.log2 := Nat.pow_le_pow_right (by decide) (by omega)
    _ ≤ n := Nat.log2_self_le nonzero
  have near := (roundQuotient_near n (2 ^ (n.log2 + 1 - width)) (Nat.two_pow_pos _)).2
  have rounded : roundToWidth width n =
      2 ^ (n.log2 + 1 - width) * roundQuotient n (2 ^ (n.log2 + 1 - width)) := Nat.mul_comm ..
  rw [Nat.mul_assoc] at near
  omega

namespace Json

namespace Literal

theorem digitsValue_toDigits (n : Nat) : digitsValue (Nat.toDigits 10 n) = n := by
  have value := @Nat.ofDigitChars_ten_toDigits n
  rw [Nat.ofDigitChars_eq_foldl] at value
  simpa only [digitsValue, digitValue, Nat.mul_comm 10] using value

theorem head?_toDigits {n : Nat} (nonzero : n ≠ 0) : (Nat.toDigits 10 n).head? ≠ some '0' := by
  induction n using Nat.strongRecOn with
  | ind n ih =>
    by_cases small : n < 10
    · rw [Nat.toDigits_of_lt_base small]
      interval_cases n <;> simp_all
    · rw [Nat.toDigits_of_base_le (by decide) (Nat.le_of_not_lt small),
        List.head?_append, Option.or_of_isSome (List.isSome_head?.mpr Nat.toDigits_ne_nil)]
      exact ih (n / 10) (by omega) (by omega)

/-- No word is past the largest finite number. -/
theorem overflows_zero {n : Nat} (small : n < UInt64.size) : overflows n 0 = false := by
  by_cases nonzero : n = 0
  · subst nonzero
    rfl
  · have least : roundToWidth 53 (Nat.pow 10 0) = 1 := by decide
    have inRange : roundToWidth 53 n * 1 < Nat.pow 2 1024 - Nat.pow 2 970 := calc
      roundToWidth 53 n * 1 ≤ 2 * n := by
        rw [Nat.mul_one]
        exact roundToWidth_le (by decide) nonzero
      _ ≤ 2 * UInt64.size := Nat.mul_le_mul_left 2 (Nat.le_of_lt small)
      _ < Nat.pow 2 1024 - Nat.pow 2 970 := by decide +kernel
    have tiny : ¬308 < (0 : Int) := by decide
    simp only [overflows, Int.toNat_zero, least, decide_eq_false (Nat.not_le.mpr inRange),
      decide_eq_false tiny, Bool.or_false, Bool.and_false]

theorem valid_ofNat {n : Nat} (small : n < UInt64.size) : (ofNat n).Valid where
  whole := ⟨Nat.toDigits_ne_nil, fun _ member => Nat.isDigit_of_mem_toDigits (by decide) (by decide) member⟩
  leading := by
    intro zero
    by_cases nonzero : n = 0
    · subst nonzero
      rfl
    · exact absurd zero (head?_toDigits nonzero)
  fraction := by simp [ofNat]
  exponent := by simp [ofNat]
  inRange := by
    have value : (Nat.toDigits 10 n).foldl (fun value digit => value * 10 + digitValue digit) 0 = n :=
      digitsValue_toDigits n
    have taken : takeDigits maxWord 0 (Nat.toDigits 10 n) = (n, []) := by
      rw [takeDigits_eq, value]
      rw [value, maxWord]
      omega
    have finite := overflows_zero small
    simp [excess?, significand, ofNat, taken, finite]

theorem word?_ofNat (word : UInt64) : (ofNat word.toNat).word? = some word := by
  have value := digitsValue_toDigits word.toNat
  have small : word.toNat < UInt64.size := word.toNat_lt_size
  simp [word?, ofNat, value, small]

end Literal

/-! ## Values -/

mutual

/-- Every literal in a value may be written. -/
def Value.Valid : Value → Prop
  | .number literal => literal.Valid
  | .array items => ElementsValid items
  | .object members => MembersValid members
  | .null | .bool _ | .text _ => True

/-- Every literal in the elements of an array may be written. -/
def ElementsValid : List Value → Prop
  | [] => True
  | first :: rest => first.Valid ∧ ElementsValid rest

/-- Every literal in the members of an object may be written. -/
def MembersValid : List (String × Value) → Prop
  | [] => True
  | (_, first) :: rest => first.Valid ∧ MembersValid rest

end

namespace Printer

theorem written_character (c : Char) : CharacterWritten c (character c) := by
  unfold character
  split_ifs with quote backslash backspace feed line carriage tab control
  · exact .escaped (.short (by rw [quote]; decide))
  · exact .escaped (.short (by rw [backslash]; decide))
  · exact .escaped (.short (by rw [backspace]; decide))
  · exact .escaped (.short (by rw [feed]; decide))
  · exact .escaped (.short (by rw [line]; decide))
  · exact .escaped (.short (by rw [carriage]; decide))
  · exact .escaped (.short (by rw [tab]; decide))
  · -- a control character is its low eight bits
    have high : HexDigit (c.toNat / 16) (hexDigit (c.toNat / 16)) :=
      ⟨by omega, .inl (by rw [hexDigit, Nat.mod_eq_of_lt (by omega)])⟩
    have low : HexDigit (c.toNat % 16) (hexDigit c.toNat) := ⟨by omega, .inl rfl⟩
    have zero : HexDigit 0 '0' := ⟨by decide, .inl rfl⟩
    have word := HexWord.digits zero zero high low
    rw [show ((0 * 16 + 0) * 16 + c.toNat / 16) * 16 + c.toNat % 16 = c.toNat by omega] at word
    exact .escaped (.word word)
  · exact .plain quote backslash (Nat.le_of_not_lt control)

theorem written_flatMap (content : List Char) : CharactersWritten content (content.flatMap character) := by
  induction content with
  | nil => exact .nil
  | cons c content ih => exact .cons (written_character c) ih

theorem written_quoted (text : String) :
    ∃ written, TextWritten text written ∧ ∀ after, quoted text after = written ++ after := by
  refine ⟨_, ⟨_, written_flatMap text.toList, rfl⟩, ?_⟩
  intro after
  simp [quoted]

mutual

theorem written_value : (item : Value) → item.Valid →
    ∃ written, Written item written ∧ ∀ after, value item after = written ++ after
  | .null, _ => ⟨_, .null, fun _ => rfl⟩
  | .bool true, _ => ⟨_, .yes, fun _ => rfl⟩
  | .bool false, _ => ⟨_, .no, fun _ => rfl⟩
  | .number _, valid => ⟨_, .number valid, fun _ => rfl⟩
  | .text text, _ => by
    obtain ⟨written, isText, same⟩ := written_quoted text
    exact ⟨written, .text isText, same⟩
  | .array [], _ => ⟨_, .emptyArray blanks_nil, fun _ => rfl⟩
  | .array (first :: rest), ⟨validFirst, validRest⟩ => by
    obtain ⟨head, isHead, sameHead⟩ := written_value first validFirst
    obtain ⟨tail, isTail, sameTail⟩ := written_elements rest validRest
    refine ⟨_, .array blanks_nil isHead blanks_nil isTail, ?_⟩
    intro after
    simp [value, sameHead, sameTail]
  | .object [], _ => ⟨_, .emptyObject blanks_nil, fun _ => rfl⟩
  | .object ((name, first) :: rest), ⟨validFirst, validRest⟩ => by
    obtain ⟨label, isLabel, sameLabel⟩ := written_quoted name
    obtain ⟨head, isHead, sameHead⟩ := written_value first validFirst
    obtain ⟨tail, isTail, sameTail⟩ := written_members rest validRest
    refine ⟨_, .object blanks_nil (.named isLabel blanks_nil blanks_nil isHead) blanks_nil isTail, ?_⟩
    intro after
    simp [value, sameLabel, sameHead, sameTail]

theorem written_elements : (items : List Value) → ElementsValid items →
    ∃ written, ElementsWritten items written ∧ ∀ after, elements items after = written ++ after
  | [], _ => ⟨_, .close, fun _ => rfl⟩
  | first :: rest, ⟨validFirst, validRest⟩ => by
    obtain ⟨head, isHead, sameHead⟩ := written_value first validFirst
    obtain ⟨tail, isTail, sameTail⟩ := written_elements rest validRest
    refine ⟨_, .more blanks_nil isHead blanks_nil isTail, ?_⟩
    intro after
    simp [elements, sameHead, sameTail]

theorem written_members : (items : List (String × Value)) → MembersValid items →
    ∃ written, MembersWritten items written ∧ ∀ after, members items after = written ++ after
  | [], _ => ⟨_, .close, fun _ => rfl⟩
  | (name, first) :: rest, ⟨validFirst, validRest⟩ => by
    obtain ⟨label, isLabel, sameLabel⟩ := written_quoted name
    obtain ⟨head, isHead, sameHead⟩ := written_value first validFirst
    obtain ⟨tail, isTail, sameTail⟩ := written_members rest validRest
    refine ⟨_, .more blanks_nil (.named isLabel blanks_nil blanks_nil isHead) blanks_nil isTail, ?_⟩
    intro after
    simp [members, sameLabel, sameHead, sameTail]

end

end Printer

/-- What is printed for a value is a text of it. -/
theorem isText_print {value : Value} (valid : value.Valid) : IsText value value.print.toList := by
  obtain ⟨written, isWritten, same⟩ := Printer.written_value value valid
  refine ⟨[], written, [], blanks_nil, isWritten, blanks_nil, ?_⟩
  rw [Value.print, String.toList_ofList, same, List.nil_append]

end Json

end TreeInspector
