import Mathlib.Data.List.TakeWhile
import Mathlib.Tactic.IntervalCases
import TreeInspector.Json.Reader
import TreeInspector.Proofs.Json.Grammar
import TreeInspector.Proofs.Results

/-! # Reading blanks, texts and numbers

What the readers of the smallest constructs accept, against the grammar: each gives back the rest of
the text behind exactly what the grammar allows. A number alone does not show its end, so it is read
back only in front of something that cannot continue it.
-/

namespace TreeInspector.Json.Reader

@[simp] theorem fail_eq_ok_iff {α : Type} (cause : Cause) (rest : List Char) (ahead : Nat) (result : α) :
    (fail cause rest ahead : Except Fault α) = .ok result ↔ False := by
  simp [fail]

/-! ## Blanks -/

theorem isSpace_iff (c : Char) : isSpace c = true ↔ c ∈ [' ', '\t', '\n', '\r'] := by
  simp only [isSpace, Bool.or_eq_true, beq_iff_eq, List.mem_cons, List.not_mem_nil, or_false]
  tauto

theorem exists_skipSpace (text : List Char) : ∃ gap, Blanks gap ∧ text = gap ++ skipSpace text := by
  refine ⟨text.takeWhile isSpace, ?_, List.takeWhile_append_dropWhile.symm⟩
  intro c member
  exact (isSpace_iff c).mp (List.mem_takeWhile_imp member)

theorem skipSpace_append {gap : List Char} (blanks : Blanks gap) (text : List Char) :
    skipSpace (gap ++ text) = skipSpace text :=
  List.dropWhile_append_of_pos fun c member => (isSpace_iff c).mpr (blanks c member)

theorem skipSpace_cons {c : Char} (visible : isSpace c = false) (rest : List Char) :
    skipSpace (c :: rest) = c :: rest :=
  List.dropWhile_cons_of_neg (by simp [visible])

/-- Blanks alone are skipped to the end. -/
theorem skipSpace_eq_nil_iff (text : List Char) : skipSpace text = [] ↔ Blanks text := by
  rw [skipSpace, List.dropWhile_eq_nil_iff]
  exact forall₂_congr fun c _ => isSpace_iff c

/-! ## Keywords and texts -/

theorem keyword_eq_ok_iff (expected text rest : List Char) :
    keyword expected text = .ok rest ↔ text = expected ++ rest := by
  induction expected generalizing text with
  | nil => simp [keyword]
  | cons first others ih =>
    cases text with
    | nil => simp [keyword]
    | cons c text =>
      by_cases same : c = first
      · simp [keyword, same, ih]
      · simp [keyword, same]

/-- A keyword stands for its value. -/
theorem eq_of_keyword {expected text rest : List Char} {meant item : Value}
    (read : ((keyword expected text).map fun rest => (meant, rest)) = .ok (item, rest)) :
    item = meant ∧ text = expected ++ rest := by
  obtain ⟨behind, readRest, same⟩ := map_eq_ok_iff.mp read
  cases same
  exact ⟨rfl, (keyword_eq_ok_iff expected text rest).mp readRest⟩

theorem hexDigit?_eq_some_iff (c : Char) (value : Nat) : hexDigit? c = some value ↔ HexDigit value c := by
  constructor
  · intro found
    have ascii : c.toNat < 128 := by
      by_contra large
      have digit : ¬c.isDigit = true := by
        rw [Char.isDigit_iff_toNat]
        exact fun bounds => large (Nat.lt_of_le_of_lt bounds.2 (by decide))
      have lower : ¬('a' ≤ c ∧ c ≤ 'f') := fun bounds => large (Nat.lt_of_le_of_lt bounds.2 (by decide))
      have upper : ¬('A' ≤ c ∧ c ≤ 'F') := fun bounds => large (Nat.lt_of_le_of_lt bounds.2 (by decide))
      rw [hexDigit?, if_neg digit, if_neg lower, if_neg upper] at found
      cases found
    have checked : ∀ n, n < 128 → ∀ value ∈ hexDigit? (Char.ofNat n), HexDigit value (Char.ofNat n) := by
      unfold HexDigit
      decide
    rw [← Char.ofNat_toNat c] at found ⊢
    exact checked c.toNat ascii value found
  · rintro ⟨small, rfl | rfl⟩
    · interval_cases value <;> rfl
    · interval_cases value <;> rfl

theorem hexWord_eq_ok_iff (text : List Char) (value : Nat) (rest : List Char) :
    hexWord text = .ok (value, rest) ↔ ∃ word, HexWord value word ∧ text = word ++ rest := by
  constructor
  · intro read
    unfold hexWord at read
    split at read
    · simp at read
    · split at read
      · next first second third fourth others =>
        split at read
        · next a b c d isA isB isC isD =>
          cases read
          simp only [hexDigit?_eq_some_iff] at isA isB isC isD
          exact ⟨_, .digits isA isB isC isD, rfl⟩
        · simp at read
      · simp at read
  · rintro ⟨_, ⟨isA, isB, isC, isD⟩, rfl⟩
    rw [← hexDigit?_eq_some_iff] at isA isB isC isD
    rename_i first second third fourth
    have long : ¬(([first, second, third, fourth] ++ rest).take 4).foldl
        (fun bytes char => bytes + char.utf8Size) 0 < 4 := by
      have := first.utf8Size_pos
      have := second.utf8Size_pos
      have := third.utf8Size_pos
      have := fourth.utf8Size_pos
      simp only [List.cons_append, List.nil_append, List.take_succ_cons, List.take_zero, List.foldl_cons,
        List.foldl_nil]
      omega
    unfold hexWord
    rw [if_neg long]
    simp only [List.cons_append, List.nil_append, isA, isB, isC, isD]

theorem pairMark_eq_ok_iff (expected : Char) (text rest : List Char) :
    pairMark expected text = .ok rest ↔ text = expected :: rest := by
  cases text with
  | nil => simp [pairMark]
  | cons c text =>
    by_cases same : c = expected
    · simp [pairMark, same]
    · simp [pairMark, same]

private theorem toNat_ofNat {n : Nat} (valid : n < 0xd800 ∨ 0xdfff < n ∧ n < 0x110000) :
    (Char.ofNat n).toNat = n := by
  have isValid : n.isValidChar := valid
  rw [Char.ofNat, dif_pos isValid]
  rfl

private theorem valid_toNat (c : Char) : c.toNat < 0xd800 ∨ 0xdfff < c.toNat ∧ c.toNat < 0x110000 := c.valid

/-- A hexadecimal escape is one word, or two that are the halves of a large character. -/
theorem hexEscape_eq_ok_iff (text : List Char) (c : Char) (rest : List Char) :
    hexEscape text = .ok (c, rest) ↔
      ∃ escape, EscapeWritten c ('u' :: escape) ∧ text = escape ++ rest := by
  constructor
  · intro read
    rw [hexEscape, bind_eq_ok_iff] at read
    obtain ⟨⟨first, middle⟩, readFirst, read⟩ := read
    obtain ⟨high, isHigh, rfl⟩ := (hexWord_eq_ok_iff ..).mp readFirst
    have bound := isHigh.lt
    dsimp only at read
    split_ifs at read with low single
    · simp at read
    · cases read
      have same : (Char.ofNat first).toNat = first := toNat_ofNat (by omega)
      exact ⟨high, .word (by rwa [same]), rfl⟩
    · simp only [bind_eq_ok_iff, pairMark_eq_ok_iff] at read
      obtain ⟨_, rfl, _, rfl, ⟨second, final⟩, readSecond, read⟩ := read
      obtain ⟨low, isLow, rfl⟩ := (hexWord_eq_ok_iff ..).mp readSecond
      dsimp only at read
      split_ifs at read with stray
      · simp at read
      · simp only [pure, Except.pure, Except.ok.injEq, Prod.mk.injEq] at read
        obtain ⟨rfl, rfl⟩ := read
        have same : (Char.ofNat (0x10000 + (first - 0xd800) * 0x400 + (second - 0xdc00))).toNat =
            0x10000 + (first - 0xd800) * 0x400 + (second - 0xdc00) := toNat_ofNat (by omega)
        refine ⟨high ++ '\\' :: 'u' :: low, .pair ?_ ?_ ?_, by simp⟩
        · omega
        · rw [same]
          convert isHigh using 1
          omega
        · rw [same]
          convert isLow using 1
          omega
  · rintro ⟨escape, written, rfl⟩
    have valid := valid_toNat c
    cases written with
    | short known => simp [shortEscapes] at known
    | word word =>
      have bound := word.lt
      have readFirst := (hexWord_eq_ok_iff (escape ++ rest) _ rest).mpr ⟨_, word, rfl⟩
      refine bind_eq_ok_iff.mpr ⟨_, readFirst, ?_⟩
      dsimp only
      rw [if_neg (by omega), if_pos (by omega), Char.ofNat_toNat]
      rfl
    | pair large first second =>
      rename_i high low
      have readFirst := (hexWord_eq_ok_iff (high ++ '\\' :: 'u' :: (low ++ rest)) _ _).mpr ⟨_, first, rfl⟩
      have readSecond := (hexWord_eq_ok_iff (low ++ rest) _ _).mpr ⟨_, second, rfl⟩
      have same : 0x10000 + (0xd800 + (c.toNat - 0x10000) / 0x400 - 0xd800) * 0x400 +
          (0xdc00 + (c.toNat - 0x10000) % 0x400 - 0xdc00) = c.toNat := by omega
      rw [List.append_assoc, List.cons_append, List.cons_append, hexEscape]
      refine bind_eq_ok_iff.mpr ⟨_, readFirst, ?_⟩
      dsimp only
      rw [if_neg (by omega), if_neg (by omega)]
      simp only [bind_eq_ok_iff, pairMark_eq_ok_iff]
      refine ⟨_, rfl, _, rfl, _, readSecond, ?_⟩
      dsimp only
      rw [if_neg (by omega), same, Char.ofNat_toNat]
      rfl

theorem shortEscape?_eq_some_iff (letter c : Char) :
    shortEscape? letter = some c ↔ (letter, c) ∈ shortEscapes := by
  constructor
  · intro found
    unfold shortEscape? at found
    split at found <;> simp_all [shortEscapes, eq_comm]
  · intro known
    simp only [shortEscapes, List.mem_cons, Prod.mk.injEq, List.not_mem_nil, or_false] at known
    rcases known with ⟨rfl, rfl⟩ | ⟨rfl, rfl⟩ | ⟨rfl, rfl⟩ | ⟨rfl, rfl⟩ | ⟨rfl, rfl⟩ | ⟨rfl, rfl⟩ |
      ⟨rfl, rfl⟩ | ⟨rfl, rfl⟩ <;> rfl

theorem escape_eq_ok_iff (text : List Char) (c : Char) (rest : List Char) :
    escape text = .ok (c, rest) ↔ ∃ written, EscapeWritten c written ∧ text = written ++ rest := by
  constructor
  · intro read
    cases text with
    | nil => simp [escape] at read
    | cons letter text =>
      rw [escape] at read
      split_ifs at read with hex
      · obtain ⟨written, isWritten, rfl⟩ := (hexEscape_eq_ok_iff ..).mp read
        exact ⟨_, isWritten, by rw [hex, List.cons_append]⟩
      · split at read
        · next meant found =>
          cases read
          exact ⟨_, .short ((shortEscape?_eq_some_iff ..).mp found), rfl⟩
        · simp at read
  · rintro ⟨written, isWritten, rfl⟩
    cases isWritten with
    | short known =>
      rename_i letter
      have plain : letter ≠ 'u' := by
        rintro rfl
        simp [shortEscapes] at known
      rw [← shortEscape?_eq_some_iff] at known
      simp [escape, plain, known]
    | word word =>
      exact (hexEscape_eq_ok_iff ..).mpr ⟨_, .word word, rfl⟩
    | pair large first second =>
      exact (hexEscape_eq_ok_iff ..).mpr ⟨_, .pair large first second, rfl⟩

theorem written_of_characters {fuel : Nat} {text content rest : List Char}
    (read : characters fuel text = .ok (content, rest)) :
    ∃ written, CharactersWritten content written ∧ text = written ++ '"' :: rest := by
  induction fuel generalizing text content with
  | zero => simp [characters] at read
  | succ fuel ih =>
    cases text with
    | nil => simp [characters] at read
    | cons c text =>
      rw [characters] at read
      split_ifs at read with quote backslash control
      · cases read
        exact ⟨[], .nil, by rw [quote, List.nil_append]⟩
      · simp only [bind_eq_ok_iff] at read
        obtain ⟨⟨first, middle⟩, escaped, ⟨others, final⟩, readOthers, same⟩ := read
        obtain ⟨escape, isEscape, rfl⟩ := (escape_eq_ok_iff ..).mp escaped
        cases same
        obtain ⟨written, isWritten, rfl⟩ := ih readOthers
        exact ⟨_, .cons (.escaped isEscape) isWritten, by simp [backslash]⟩
      · simp at read
      · simp only [bind_eq_ok_iff] at read
        obtain ⟨⟨others, final⟩, readOthers, same⟩ := read
        cases same
        obtain ⟨written, isWritten, rfl⟩ := ih readOthers
        exact ⟨_, .cons (.plain quote backslash (Nat.le_of_not_lt control)) isWritten, rfl⟩

theorem characters_of_written {content written : List Char} (isWritten : CharactersWritten content written)
    {fuel : Nat} {rest : List Char} (enough : (written ++ '"' :: rest).length ≤ fuel) :
    characters fuel (written ++ '"' :: rest) = .ok (content, rest) := by
  induction isWritten generalizing fuel with
  | nil =>
    cases fuel with
    | zero => simp at enough
    | succ fuel => simp [characters]
  | cons head tail ih =>
    cases fuel with
    | zero => simp at enough
    | succ fuel =>
      cases head with
      | plain unquoted unescaped visible =>
        have readOthers := ih (Nat.le_of_succ_le_succ enough)
        rw [List.cons_append, List.nil_append, List.cons_append, characters, if_neg unquoted,
          if_neg unescaped, if_neg (Nat.not_lt.mpr visible)]
        exact bind_eq_ok_iff.mpr ⟨_, readOthers, rfl⟩
      | escaped written =>
        rename_i others escape
        have escaped := (escape_eq_ok_iff (escape ++ (others ++ '"' :: rest)) _ _).mpr ⟨_, written, rfl⟩
        have left : (others ++ '"' :: rest).length ≤ fuel := by
          simp only [List.cons_append, List.append_assoc, List.length_cons, List.length_append] at enough ⊢
          omega
        have readOthers := ih left
        rw [List.cons_append, List.cons_append, List.append_assoc, characters, if_neg (by decide),
          if_pos rfl]
        exact bind_eq_ok_iff.mpr ⟨_, escaped, bind_eq_ok_iff.mpr ⟨_, readOthers, rfl⟩⟩

theorem written_of_quoted {fuel : Nat} {text : List Char} {content : String} {rest : List Char}
    (read : quoted fuel text = .ok (content, rest)) :
    ∃ written, TextWritten content written ∧ '"' :: text = written ++ rest := by
  rw [quoted, bind_eq_ok_iff] at read
  obtain ⟨⟨chars, final⟩, readChars, same⟩ := read
  cases same
  obtain ⟨written, isWritten, rfl⟩ := written_of_characters readChars
  refine ⟨_, ⟨written, ?_, rfl⟩, by simp⟩
  rwa [String.toList_ofList]

theorem quoted_of_written {content : String} {written : List Char}
    (isWritten : TextWritten content written) :
    ∃ inner, written = '"' :: inner ∧ ∀ (fuel : Nat) (rest : List Char),
      (inner ++ rest).length ≤ fuel → quoted fuel (inner ++ rest) = .ok (content, rest) := by
  obtain ⟨inner, isWritten, rfl⟩ := isWritten
  refine ⟨_, rfl, ?_⟩
  intro fuel rest enough
  rw [List.append_assoc, List.singleton_append] at enough ⊢
  refine bind_eq_ok_iff.mpr ⟨_, characters_of_written isWritten enough, ?_⟩
  dsimp only
  rw [String.ofList_toList]
  rfl

/-! ## Numbers -/

/-- Nothing of a class follows. -/
def Ends (isMore : Char → Bool) (rest : List Char) : Prop := ∀ c ∈ rest.head?, isMore c = false

/-- The characters that can continue a number. -/
def continuesNumber (c : Char) : Bool := c.isDigit || c == '.' || c == 'e' || c == 'E'

theorem Ends.isDigit {rest : List Char} (ends : Ends continuesNumber rest) : Ends Char.isDigit rest := by
  intro c here
  have stop := ends c here
  simp only [continuesNumber, Bool.or_eq_false_iff] at stop
  exact stop.1.1.1

section Runs

variable {isMore : Char → Bool} {run rest : List Char} (uniform : ∀ c ∈ run, isMore c = true)
  (ends : Ends isMore rest)
include uniform ends

theorem takeWhile_append : (run ++ rest).takeWhile isMore = run := by
  rw [List.takeWhile_append_of_pos uniform]
  cases rest with
  | nil => simp
  | cons c rest =>
    have stop : ¬isMore c = true := by simp [ends c rfl]
    rw [List.takeWhile_cons_of_neg stop, List.append_nil]

theorem dropWhile_append : (run ++ rest).dropWhile isMore = rest := by
  rw [List.dropWhile_append_of_pos uniform]
  cases rest with
  | nil => rfl
  | cons c rest =>
    have stop : ¬isMore c = true := by simp [ends c rfl]
    exact List.dropWhile_cons_of_neg stop

end Runs

/-- The leading digits of a text that starts with a digit. -/
theorem digits_takeWhile {c : Char} (digit : c.isDigit = true) (rest : List Char) :
    Digits ((c :: rest).takeWhile Char.isDigit) := by
  constructor
  · rw [List.takeWhile_cons_of_pos digit]
    exact List.cons_ne_nil _ _
  · intro other member
    exact List.mem_takeWhile_imp member

theorem written_of_wholeDigits {text whole rest : List Char} (read : wholeDigits text = .ok (whole, rest)) :
    Digits whole ∧ (whole.head? = some '0' → whole = ['0']) ∧ text = whole ++ rest := by
  cases text with
  | nil => simp [wholeDigits] at read
  | cons c text =>
    rw [wholeDigits] at read
    split_ifs at read with zero alone digit
    · cases read
      subst zero
      exact ⟨⟨List.cons_ne_nil _ _, by simp⟩, fun _ => rfl, rfl⟩
    · simp at read
    · cases read
      refine ⟨digits_takeWhile digit text, ?_, List.takeWhile_append_dropWhile.symm⟩
      rw [List.takeWhile_cons_of_pos digit]
      intro leading
      exact absurd (Option.some.inj leading) zero
    · simp at read

theorem wholeDigits_of_written {whole rest : List Char} (digits : Digits whole)
    (leading : whole.head? = some '0' → whole = ['0']) (ends : Ends Char.isDigit rest) :
    wholeDigits (whole ++ rest) = .ok (whole, rest) := by
  have read := takeWhile_append digits.2 ends
  have left := dropWhile_append digits.2 ends
  cases whole with
  | nil => exact absurd rfl digits.1
  | cons c others =>
    by_cases zero : c = '0'
    · subst zero
      cases leading rfl
      have alone : rest.takeWhile Char.isDigit = [] := takeWhile_append (List.forall_mem_nil _) ends
      rw [List.singleton_append, wholeDigits, if_pos rfl, alone]
      rfl
    · have digit := digits.2 c (.head _)
      rw [List.cons_append] at read left ⊢
      rw [wholeDigits, if_neg zero, if_pos digit, read, left]

/-- The written form of the digits after the point. -/
def fractionText : Option (List Char) → List Char
  | none => []
  | some digits => '.' :: digits

/-- The written form of the exponent. -/
def exponentText : Option Exponent → List Char
  | none => []
  | some exponent => Printer.exponent exponent

theorem literal_eq (literal : Literal) : Printer.literal literal =
    (if literal.negative then ['-'] else []) ++
      (literal.whole ++ (fractionText literal.fraction ++ exponentText literal.exponent)) := by
  obtain ⟨negative, whole, fraction, exponent⟩ := literal
  cases fraction <;> cases exponent <;> simp [Printer.literal, fractionText, exponentText]

theorem written_of_optionalFraction {text rest : List Char} {fraction : Option (List Char)}
    (read : optionalFraction text = .ok (fraction, rest)) :
    (∀ digits ∈ fraction, Digits digits) ∧ text = fractionText fraction ++ rest := by
  unfold optionalFraction at read
  split at read
  · next text =>
    dsimp only at read
    split at read
    · simp at read
    · next absent =>
      cases read
      refine ⟨?_, ?_⟩
      · rintro digits ⟨⟩
        exact ⟨by simpa using absent, fun c member => List.mem_takeWhile_imp member⟩
      · rw [fractionText, List.cons_append, List.takeWhile_append_dropWhile]
  · cases read
    exact ⟨by simp, rfl⟩

theorem optionalFraction_of_written {fraction : Option (List Char)} {rest : List Char}
    (digits : ∀ digits ∈ fraction, Digits digits) (ends : Ends Char.isDigit rest)
    (noPoint : rest.head? ≠ some '.') :
    optionalFraction (fractionText fraction ++ rest) = .ok (fraction, rest) := by
  cases fraction with
  | none =>
    rw [fractionText, List.nil_append]
    unfold optionalFraction
    split
    · next text => exact absurd rfl noPoint
    · rfl
  | some found =>
    have digits := digits found rfl
    have present : ¬found.isEmpty = true := by simpa using digits.1
    simp only [fractionText, List.cons_append, optionalFraction, takeWhile_append digits.2 ends,
      dropWhile_append digits.2 ends, if_neg present]

/-- The written form of the sign of an exponent. -/
def signText : Option Bool → List Char
  | none => []
  | some negative => [if negative then '-' else '+']

theorem exponentText_some (exponent : Exponent) : exponentText (some exponent) =
    (if exponent.capital then 'E' else 'e') :: (signText exponent.sign ++ exponent.digits) := by
  obtain ⟨capital, sign, digits⟩ := exponent
  cases sign <;> rfl

theorem written_of_exponent {capital : Bool} {text rest : List Char} {found : Exponent}
    (read : exponent capital text = .ok (found, rest)) :
    found.capital = capital ∧ Digits found.digits ∧
      text = signText found.sign ++ (found.digits ++ rest) := by
  unfold exponent at read
  split at read
  rename_i sign unsigned split
  have signed : text = signText sign ++ unsigned := by
    split at split
    all_goals
      cases split
      rfl
  cases unsigned with
  | nil => simp at read
  | cons c unsigned =>
    dsimp only at read
    split_ifs at read with digit
    · cases read
      rw [List.takeWhile_append_dropWhile]
      exact ⟨rfl, digits_takeWhile digit unsigned, signed⟩
    · simp at read

theorem exponent_of_written {found : Exponent} {rest : List Char} (digits : Digits found.digits)
    (ends : Ends Char.isDigit rest) :
    exponent found.capital (signText found.sign ++ (found.digits ++ rest)) = .ok (found, rest) := by
  obtain ⟨capital, sign, run⟩ := found
  have read := takeWhile_append digits.2 ends
  have left := dropWhile_append digits.2 ends
  cases run with
  | nil => exact absurd rfl digits.1
  | cons c others =>
    have digit := digits.2 c (.head _)
    dsimp only at read left ⊢
    rw [List.cons_append] at read left ⊢
    unfold exponent
    cases sign with
    | none =>
      rw [signText, List.nil_append]
      split
      rename_i sign unsigned split
      split at split
      · next same =>
        cases same
        simp at digit
      · next same =>
        cases same
        simp at digit
      · cases split
        simp only [if_pos digit, read, left]
    | some negative => cases negative <;> simp [signText, digit, read, left]

theorem written_of_optionalExponent {text rest : List Char} {found : Option Exponent}
    (read : optionalExponent text = .ok (found, rest)) :
    (∀ exponent ∈ found, Digits exponent.digits) ∧ text = exponentText found ++ rest := by
  have marked (capital : Bool) (text : List Char)
      (read : ((exponent capital text).map fun pair => (some pair.1, pair.2)) = .ok (found, rest)) :
      (∀ exponent ∈ found, Digits exponent.digits) ∧
        (if capital then 'E' else 'e') :: text = exponentText found ++ rest := by
    obtain ⟨⟨exponent, final⟩, readExponent, same⟩ := map_eq_ok_iff.mp read
    cases same
    obtain ⟨rfl, digits, rfl⟩ := written_of_exponent readExponent
    refine ⟨by rintro _ ⟨⟩; exact digits, ?_⟩
    rw [exponentText_some, List.cons_append, List.append_assoc]
  unfold optionalExponent at read
  split at read
  · exact marked false _ read
  · exact marked true _ read
  · cases read
    exact ⟨by simp, rfl⟩

theorem optionalExponent_of_written {found : Option Exponent} {rest : List Char}
    (digits : ∀ exponent ∈ found, Digits exponent.digits) (ends : Ends continuesNumber rest) :
    optionalExponent (exponentText found ++ rest) = .ok (found, rest) := by
  cases found with
  | none =>
    rw [exponentText, List.nil_append]
    unfold optionalExponent
    split
    · exact absurd (ends 'e' rfl) (by decide)
    · exact absurd (ends 'E' rfl) (by decide)
    · rfl
  | some exponent =>
    have read := exponent_of_written (digits exponent rfl) ends.isDigit
    rw [exponentText_some, List.cons_append, List.append_assoc]
    obtain ⟨capital, sign, run⟩ := exponent
    cases capital
    · exact map_eq_ok_iff.mpr ⟨_, read, rfl⟩
    · exact map_eq_ok_iff.mpr ⟨_, read, rfl⟩

section Number

variable {rest : List Char} (ends : Ends continuesNumber rest)
include ends

/-- An exponent ends a run of digits and has no point. -/
theorem ends_exponentText (found : Option Exponent) :
    Ends Char.isDigit (exponentText found ++ rest) ∧ (exponentText found ++ rest).head? ≠ some '.' := by
  cases found with
  | none =>
    refine ⟨ends.isDigit, ?_⟩
    intro point
    exact absurd (ends '.' point) (by decide)
  | some exponent =>
    rw [exponentText_some]
    cases exponent.capital <;> simp [Ends]

/-- A fraction ends a run of digits. -/
theorem ends_fractionText (fraction : Option (List Char)) (found : Option Exponent) :
    Ends Char.isDigit (fractionText fraction ++ (exponentText found ++ rest)) := by
  cases fraction with
  | none => exact (ends_exponentText ends found).1
  | some digits => simp [Ends, fractionText]

/-- A valid literal is read back in front of anything that cannot continue it. -/
theorem number_of_written {literal : Literal} (valid : literal.Valid) :
    number literal.negative
      (literal.whole ++ (fractionText literal.fraction ++ (exponentText literal.exponent ++ rest))) =
        .ok (literal, rest) := by
  have whole := wholeDigits_of_written valid.whole valid.leading
    (ends_fractionText ends literal.fraction literal.exponent)
  have exponent := optionalExponent_of_written valid.exponent ends
  obtain ⟨stops, noPoint⟩ := ends_exponentText ends literal.exponent
  have fraction := optionalFraction_of_written valid.fraction stops noPoint
  have inRange :
      Literal.excess? ⟨literal.negative, literal.whole, literal.fraction, literal.exponent⟩ = none :=
    valid.inRange
  refine bind_eq_ok_iff.mpr ⟨_, whole, ?_⟩
  refine bind_eq_ok_iff.mpr ⟨_, fraction, ?_⟩
  refine bind_eq_ok_iff.mpr ⟨_, exponent, ?_⟩
  dsimp only
  rw [inRange]
  rfl

end Number

theorem written_of_number {negative : Bool} {text rest : List Char} {literal : Literal}
    (read : number negative text = .ok (literal, rest)) :
    literal.Valid ∧ literal.negative = negative ∧
      text = literal.whole ++ (fractionText literal.fraction ++ (exponentText literal.exponent ++ rest)) := by
  simp only [number, bind_eq_ok_iff] at read
  obtain ⟨⟨whole, text⟩, readWhole, ⟨fraction, text⟩, readFraction, ⟨exponent, text⟩, readExponent,
    read⟩ := read
  obtain ⟨digits, leading, rfl⟩ := written_of_wholeDigits readWhole
  obtain ⟨fractionDigits, rfl⟩ := written_of_optionalFraction readFraction
  obtain ⟨exponentDigits, rfl⟩ := written_of_optionalExponent readExponent
  dsimp only at read
  split at read
  · simp at read
  · next inRange =>
    cases read
    exact ⟨⟨digits, leading, fractionDigits, exponentDigits, inRange⟩, rfl, rfl⟩

end TreeInspector.Json.Reader
