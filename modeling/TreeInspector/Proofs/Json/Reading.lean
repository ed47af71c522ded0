import TreeInspector.Proofs.Json.Scanning

/-! # Reading values

The reader of values follows the grammar in both directions. What it reads is written as the grammar
says, in front of the rest that it gives back; and everything the grammar allows is read back, whatever
follows, as long as a number is not continued. Each level of nesting costs one unit of fuel and at
least one character, so a fuel above the length of the text never runs out.
-/

namespace TreeInspector.Json.Reader

variable {fuel : Nat} {text rest : List Char}

theorem written_of_memberName {name : String} (read : memberName fuel text = .ok (name, rest)) :
    ∃ label before, TextWritten name label ∧ Blanks before ∧ text = label ++ (before ++ ':' :: rest) := by
  unfold memberName at read
  split at read
  · next text =>
    obtain ⟨⟨found, behind⟩, readName, read⟩ := bind_eq_ok_iff.mp read
    obtain ⟨label, isLabel, same⟩ := written_of_quoted readName
    obtain ⟨before, blanks, skipped⟩ := exists_skipSpace behind
    dsimp only at read
    split at read
    · next colon =>
      cases read
      rw [colon] at skipped
      exact ⟨label, before, isLabel, blanks, by rw [same, skipped]⟩
    · simp at read
    · simp at read
  · simp at read

theorem memberName_of_written {name : String} {label before : List Char} (isLabel : TextWritten name label)
    (blanks : Blanks before) (enough : (label ++ (before ++ ':' :: rest)).length ≤ fuel) :
    memberName fuel (label ++ (before ++ ':' :: rest)) = .ok (name, rest) := by
  obtain ⟨inner, rfl, readBack⟩ := quoted_of_written isLabel
  rw [List.cons_append] at enough ⊢
  have readName := readBack fuel (before ++ ':' :: rest) (Nat.le_of_succ_le enough)
  have colon : isSpace ':' = false := by decide
  refine bind_eq_ok_iff.mpr ⟨_, readName, ?_⟩
  simp only [skipSpace_append blanks, skipSpace_cons colon]
  rfl

/-! ## What is read is written -/

/-- Whatever is read with some fuel is written as the grammar says. -/
structure ReadsWritten (fuel : Nat) : Prop where
  value {text : List Char} {item : Value} {rest : List Char} :
    value fuel text = .ok (item, rest) →
      ∃ gap written, Blanks gap ∧ Written item written ∧ text = gap ++ (written ++ rest)
  elements {text : List Char} {items : List Value} {rest : List Char} :
    elements fuel text = .ok (items, rest) →
      ∃ gap written, Blanks gap ∧ ElementsWritten items written ∧ text = gap ++ (written ++ rest)
  members {text : List Char} {items : List (String × Value)} {rest : List Char} :
    members fuel text = .ok (items, rest) →
      ∃ gap written, Blanks gap ∧ MembersWritten items written ∧ text = gap ++ (written ++ rest)

section Sound

variable (sound : ReadsWritten fuel)
include sound

/-- One element and the further ones. -/
theorem ReadsWritten.items {middle : List Char} {item : Value} {items : List Value}
    (readFirst : Reader.value fuel text = .ok (item, middle))
    (readOthers : Reader.elements fuel middle = .ok (items, rest)) :
    ∃ before first after others, Blanks before ∧ Written item first ∧ Blanks after ∧
      ElementsWritten items others ∧ text = before ++ (first ++ (after ++ (others ++ rest))) := by
  obtain ⟨before, first, leading, isFirst, rfl⟩ := sound.value readFirst
  obtain ⟨after, others, trailing, areOthers, rfl⟩ := sound.elements readOthers
  exact ⟨before, first, after, others, leading, isFirst, trailing, areOthers, rfl⟩

/-- One member and the further ones. -/
theorem ReadsWritten.entries {middle behind : List Char} {name : String} {item : Value}
    {items : List (String × Value)} (readName : memberName fuel text = .ok (name, middle))
    (readFirst : Reader.value fuel middle = .ok (item, behind))
    (readOthers : Reader.members fuel behind = .ok (items, rest)) :
    ∃ first after others, MemberWritten name item first ∧ Blanks after ∧ MembersWritten items others ∧
      text = first ++ (after ++ (others ++ rest)) := by
  obtain ⟨label, before, isLabel, leading, rfl⟩ := written_of_memberName readName
  obtain ⟨gap, written, blanks, isWritten, rfl⟩ := sound.value readFirst
  obtain ⟨after, others, trailing, areOthers, rfl⟩ := sound.members readOthers
  exact ⟨_, after, others, .named isLabel leading blanks isWritten, trailing, areOthers, by simp⟩

theorem ReadsWritten.value_succ {item : Value} (read : Reader.value (fuel + 1) text = .ok (item, rest)) :
    ∃ gap written, Blanks gap ∧ Written item written ∧ text = gap ++ (written ++ rest) := by
  obtain ⟨gap, blanks, skipped⟩ := exists_skipSpace text
  suffices ∃ written, Written item written ∧ skipSpace text = written ++ rest by
    obtain ⟨written, isWritten, same⟩ := this
    exact ⟨gap, written, blanks, isWritten, by rw [← same, ← skipped]⟩
  rw [Reader.value] at read
  clear skipped
  cases start : skipSpace text with
  | nil =>
    rw [start] at read
    simp at read
  | cons c behind =>
    rw [start] at read
    dsimp only at read
    clear start
    split_ifs at read with isNull isTrue isFalse isMinus isDigit isQuote isBracket isBrace
    · obtain ⟨rfl, same⟩ := eq_of_keyword read
      exact ⟨_, .null, by rw [isNull, same]; rfl⟩
    · obtain ⟨rfl, same⟩ := eq_of_keyword read
      exact ⟨_, .yes, by rw [isTrue, same]; rfl⟩
    · obtain ⟨rfl, same⟩ := eq_of_keyword read
      exact ⟨_, .no, by rw [isFalse, same]; rfl⟩
    · obtain ⟨⟨literal, behind⟩, readRest, same⟩ := map_eq_ok_iff.mp read
      cases same
      obtain ⟨valid, negative, rfl⟩ := written_of_number readRest
      exact ⟨_, .number valid, by rw [literal_eq, negative, isMinus]; simp⟩
    · obtain ⟨⟨literal, behind⟩, readRest, same⟩ := map_eq_ok_iff.mp read
      cases same
      obtain ⟨valid, negative, same⟩ := written_of_number readRest
      exact ⟨_, .number valid, by rw [same, literal_eq, negative]; simp⟩
    · obtain ⟨⟨content, behind⟩, readRest, same⟩ := map_eq_ok_iff.mp read
      cases same
      obtain ⟨written, isWritten, same⟩ := written_of_quoted readRest
      exact ⟨_, .text isWritten, by rw [isQuote, same]⟩
    · subst isBracket
      obtain ⟨before, blanks, skipped⟩ := exists_skipSpace behind
      split at read
      · simp at read
      · next closed =>
        cases read
        rw [closed] at skipped
        exact ⟨_, .emptyArray blanks, by rw [skipped]; simp⟩
      · simp only [bind_eq_ok_iff] at read
        obtain ⟨⟨item, middle⟩, readFirst, ⟨items, final⟩, readOthers, same⟩ := read
        cases same
        obtain ⟨inner, first, after, others, leading, isFirst, trailing, areOthers, same⟩ :=
          sound.items readFirst readOthers
        refine ⟨_, .array (blanks.append leading) isFirst trailing areOthers, ?_⟩
        rw [skipped, same]
        simp
    · subst isBrace
      obtain ⟨before, blanks, skipped⟩ := exists_skipSpace behind
      split at read
      · simp at read
      · next closed =>
        cases read
        rw [closed] at skipped
        exact ⟨_, .emptyObject blanks, by rw [skipped]; simp⟩
      · simp only [bind_eq_ok_iff] at read
        obtain ⟨⟨name, middle⟩, readName, ⟨item, behind⟩, readFirst, ⟨items, final⟩, readOthers,
          same⟩ := read
        cases same
        obtain ⟨first, after, others, isFirst, trailing, areOthers, same⟩ :=
          sound.entries readName readFirst readOthers
        refine ⟨_, .object blanks isFirst trailing areOthers, ?_⟩
        rw [skipped, same]
        simp
    · simp at read

theorem ReadsWritten.elements_succ {items : List Value}
    (read : Reader.elements (fuel + 1) text = .ok (items, rest)) :
    ∃ gap written, Blanks gap ∧ ElementsWritten items written ∧ text = gap ++ (written ++ rest) := by
  obtain ⟨gap, blanks, skipped⟩ := exists_skipSpace text
  rw [Reader.elements] at read
  split at read
  · simp at read
  · next closed =>
    cases read
    rw [closed] at skipped
    exact ⟨gap, _, blanks, .close, by rw [skipped]; rfl⟩
  · next behind comma =>
    obtain ⟨before, gapBefore, skippedBefore⟩ := exists_skipSpace behind
    split at read
    · simp at read
    · simp at read
    · simp only [bind_eq_ok_iff] at read
      obtain ⟨⟨item, middle⟩, readFirst, ⟨items, final⟩, readOthers, same⟩ := read
      cases same
      obtain ⟨inner, first, after, others, leading, isFirst, trailing, areOthers, same⟩ :=
        sound.items readFirst readOthers
      refine ⟨gap, _, blanks, .more (gapBefore.append leading) isFirst trailing areOthers, ?_⟩
      rw [skipped, comma, skippedBefore, same]
      simp
  · simp at read

theorem ReadsWritten.members_succ {items : List (String × Value)}
    (read : Reader.members (fuel + 1) text = .ok (items, rest)) :
    ∃ gap written, Blanks gap ∧ MembersWritten items written ∧ text = gap ++ (written ++ rest) := by
  obtain ⟨gap, blanks, skipped⟩ := exists_skipSpace text
  rw [Reader.members] at read
  split at read
  · simp at read
  · next closed =>
    cases read
    rw [closed] at skipped
    exact ⟨gap, _, blanks, .close, by rw [skipped]; rfl⟩
  · next behind comma =>
    obtain ⟨before, leading, skippedBefore⟩ := exists_skipSpace behind
    split at read
    · simp at read
    · simp at read
    · simp only [bind_eq_ok_iff] at read
      obtain ⟨⟨name, middle⟩, readName, ⟨item, behind⟩, readFirst, ⟨items, final⟩, readOthers, same⟩ := read
      cases same
      obtain ⟨first, after, others, isFirst, trailing, areOthers, same⟩ :=
        sound.entries readName readFirst readOthers
      refine ⟨gap, _, blanks, .more leading isFirst trailing areOthers, ?_⟩
      rw [skipped, comma, skippedBefore, same]
      simp
  · simp at read

end Sound

theorem readsWritten (fuel : Nat) : ReadsWritten fuel := by
  induction fuel with
  | zero =>
    constructor
    · intro text item rest read
      simp [value] at read
    · intro text items rest read
      simp [elements] at read
    · intro text items rest read
      simp [members] at read
  | succ fuel ih => exact ⟨ih.value_succ, ih.elements_succ, ih.members_succ⟩

/-! ## What is written is read back -/

/-- The text starts with a mark that is neither a blank nor the end of an array or object. -/
def StartsValue (text : List Char) : Prop :=
  ∃ c others, text = c :: others ∧ isSpace c = false ∧ c ≠ ']' ∧ c ≠ '\x7d'

theorem startsValue_of_digit {c : Char} (digit : c.isDigit = true) (others : List Char) :
    StartsValue (c :: others) := by
  refine ⟨c, others, rfl, ?_, ?_, ?_⟩
  · rw [Bool.eq_false_iff, Ne, isSpace_iff]
    intro space
    simp only [List.mem_cons, List.not_mem_nil, or_false] at space
    rcases space with rfl | rfl | rfl | rfl <;> simp at digit
  · rintro rfl
    simp at digit
  · rintro rfl
    simp at digit

theorem startsValue_of_written {item : Value} {written : List Char} (isWritten : Written item written) :
    StartsValue written := by
  cases isWritten with
  | number valid =>
    rename_i literal
    rw [literal_eq]
    cases literal.negative with
    | true => exact ⟨_, _, rfl, by decide, by decide, by decide⟩
    | false =>
      cases whole : literal.whole with
      | nil => exact absurd whole valid.whole.1
      | cons c others => exact startsValue_of_digit (valid.whole.2 c (by rw [whole]; exact .head _)) _
  | text quoted =>
    obtain ⟨content, _, rfl⟩ := quoted
    exact ⟨_, _, rfl, by decide, by decide, by decide⟩
  | _ => exact ⟨_, _, rfl, by decide, by decide, by decide⟩

theorem startsValue_of_member {name : String} {item : Value} {written : List Char}
    (isWritten : MemberWritten name item written) : StartsValue written := by
  obtain ⟨⟨content, _, rfl⟩, _, _, _⟩ := isWritten
  exact ⟨_, _, rfl, by decide, by decide, by decide⟩

theorem StartsValue.skipSpace {written gap : List Char} (starts : StartsValue written) (blanks : Blanks gap)
    (rest : List Char) : skipSpace (gap ++ (written ++ rest)) = written ++ rest := by
  obtain ⟨c, others, rfl, visible, _, _⟩ := starts
  rw [skipSpace_append blanks, List.cons_append, skipSpace_cons visible]

theorem StartsValue.append {written : List Char} (starts : StartsValue written) (rest : List Char) :
    StartsValue (written ++ rest) := by
  obtain ⟨c, others, rfl, properties⟩ := starts
  exact ⟨c, others ++ rest, rfl, properties⟩

/-- A number needs something behind it that does not continue it. -/
def Apart (item : Value) (rest : List Char) : Prop :=
  ∀ literal, item = .number literal → Ends continuesNumber rest

/-- Blanks do not continue a number. -/
theorem ends_append {gap : List Char} (blanks : Blanks gap) (ends : Ends continuesNumber rest) :
    Ends continuesNumber (gap ++ rest) := by
  cases gap with
  | nil => exact ends
  | cons blank gap =>
    rintro c ⟨⟩
    have isBlank := blanks blank (.head _)
    simp only [List.mem_cons, List.not_mem_nil, or_false] at isBlank
    rcases isBlank with rfl | rfl | rfl | rfl <;> decide

/-- Neither does a comma or the end of an array or object. -/
theorem ends_of_mark {mark : Char} (isMark : mark ∈ [',', ']', '\x7d']) (rest : List Char) :
    Ends continuesNumber (mark :: rest) := by
  rintro c ⟨⟩
  simp only [List.mem_cons, List.not_mem_nil, or_false] at isMark
  rcases isMark with rfl | rfl | rfl <;> decide

theorem ends_of_elements {items : List Value} {others gap : List Char}
    (areOthers : ElementsWritten items others) (blanks : Blanks gap) (rest : List Char) :
    Ends continuesNumber (gap ++ (others ++ rest)) := by
  cases areOthers with
  | close => exact ends_append blanks (ends_of_mark (by decide) _)
  | more => exact ends_append blanks (ends_of_mark (by decide) _)

theorem ends_of_members {items : List (String × Value)} {others gap : List Char}
    (areOthers : MembersWritten items others) (blanks : Blanks gap) (rest : List Char) :
    Ends continuesNumber (gap ++ (others ++ rest)) := by
  cases areOthers with
  | close => exact ends_append blanks (ends_of_mark (by decide) _)
  | more => exact ends_append blanks (ends_of_mark (by decide) _)

/-- A valid literal behind its sign, if it has one. -/
theorem value_of_literal {literal : Literal} (valid : literal.Valid) (ends : Ends continuesNumber rest)
    (blanks : skipSpace text = Printer.literal literal ++ rest) :
    Reader.value (fuel + 1) text = .ok (.number literal, rest) := by
  have read := number_of_written ends valid
  simp only [literal_eq, List.append_assoc] at blanks
  rw [Reader.value, blanks]
  cases negative : literal.negative with
  | true =>
    rw [negative] at read
    exact map_eq_ok_iff.mpr ⟨_, read, rfl⟩
  | false =>
    rw [negative] at read
    cases whole : literal.whole with
    | nil => exact absurd whole valid.whole.1
    | cons c others =>
      have digit : c.isDigit = true := valid.whole.2 c (by rw [whole]; exact .head _)
      have other (mark : Char) (isOther : mark.isDigit = false) : c ≠ mark := by
        rintro rfl
        exact absurd digit (by simp [isOther])
      rw [whole] at read
      rw [if_neg Bool.false_ne_true, List.nil_append, List.cons_append] at *
      dsimp only
      rw [if_neg (other 'n' (by decide)), if_neg (other 't' (by decide)), if_neg (other 'f' (by decide)),
        if_neg (other '-' (by decide)), if_pos digit]
      exact map_eq_ok_iff.mpr ⟨_, read, rfl⟩

section Steps

variable {behind inner middle : List Char} (starts : StartsValue inner)
  (skippedInner : skipSpace behind = inner)
include starts skippedInner

theorem value_array {item : Value} {items : List Value} (skipped : skipSpace text = '[' :: behind)
    (readFirst : Reader.value fuel inner = .ok (item, middle))
    (readOthers : Reader.elements fuel middle = .ok (items, rest)) :
    Reader.value (fuel + 1) text = .ok (.array (item :: items), rest) := by
  obtain ⟨c, others, rfl, _, notBracket, _⟩ := starts
  rw [Reader.value, skipped]
  simp only [skippedInner]
  simp [notBracket, readFirst, readOthers, bind, Except.bind, pure, Except.pure]

theorem value_object {name : String} {item : Value} {items : List (String × Value)} {label : List Char}
    (skipped : skipSpace text = '\x7b' :: behind) (readName : memberName fuel inner = .ok (name, label))
    (readFirst : Reader.value fuel label = .ok (item, middle))
    (readOthers : Reader.members fuel middle = .ok (items, rest)) :
    Reader.value (fuel + 1) text = .ok (.object ((name, item) :: items), rest) := by
  obtain ⟨c, others, rfl, _, _, notBrace⟩ := starts
  rw [Reader.value, skipped]
  simp only [skippedInner]
  simp [notBrace, readName, readFirst, readOthers, bind, Except.bind, pure, Except.pure]

theorem elements_more {item : Value} {items : List Value} (skipped : skipSpace text = ',' :: behind)
    (readFirst : Reader.value fuel inner = .ok (item, middle))
    (readOthers : Reader.elements fuel middle = .ok (items, rest)) :
    Reader.elements (fuel + 1) text = .ok (item :: items, rest) := by
  obtain ⟨c, others, rfl, _, notBracket, _⟩ := starts
  rw [Reader.elements, skipped]
  simp only [skippedInner]
  simp [notBracket, readFirst, readOthers, bind, Except.bind, pure, Except.pure]

theorem members_more {name : String} {item : Value} {items : List (String × Value)} {label : List Char}
    (skipped : skipSpace text = ',' :: behind) (readName : memberName fuel inner = .ok (name, label))
    (readFirst : Reader.value fuel label = .ok (item, middle))
    (readOthers : Reader.members fuel middle = .ok (items, rest)) :
    Reader.members (fuel + 1) text = .ok ((name, item) :: items, rest) := by
  obtain ⟨c, others, rfl, _, _, notBrace⟩ := starts
  rw [Reader.members, skipped]
  simp only [skippedInner]
  simp [notBrace, readName, readFirst, readOthers, bind, Except.bind, pure, Except.pure]

end Steps

/-- Whatever the grammar allows is read back with some fuel, if the text is shorter than the fuel. -/
structure ReadsBack (fuel : Nat) : Prop where
  value {item : Value} {written gap rest : List Char} :
    Written item written → Blanks gap → Apart item rest → (gap ++ (written ++ rest)).length < fuel →
      value fuel (gap ++ (written ++ rest)) = .ok (item, rest)
  elements {items : List Value} {written gap rest : List Char} :
    ElementsWritten items written → Blanks gap → (gap ++ (written ++ rest)).length < fuel →
      elements fuel (gap ++ (written ++ rest)) = .ok (items, rest)
  members {items : List (String × Value)} {written gap rest : List Char} :
    MembersWritten items written → Blanks gap → (gap ++ (written ++ rest)).length < fuel →
      members fuel (gap ++ (written ++ rest)) = .ok (items, rest)

section Complete

variable (complete : ReadsBack fuel)
include complete

/-- One element and the further ones. -/
theorem ReadsBack.items {item : Value} {items : List Value} {first after others : List Char}
    (isFirst : Written item first) (trailing : Blanks after) (areOthers : ElementsWritten items others)
    (rest : List Char) (enough : (first ++ (after ++ (others ++ rest))).length < fuel) :
    Reader.value fuel (first ++ (after ++ (others ++ rest))) = .ok (item, after ++ (others ++ rest)) ∧
      Reader.elements fuel (after ++ (others ++ rest)) = .ok (items, rest) := by
  have apart : Apart item (after ++ (others ++ rest)) := fun _ _ => ends_of_elements areOthers trailing rest
  have fewer : (after ++ (others ++ rest)).length < fuel := by
    rw [List.length_append] at enough
    omega
  exact ⟨complete.value isFirst blanks_nil apart enough, complete.elements areOthers trailing fewer⟩

/-- One member and the further ones. -/
theorem ReadsBack.entries {name : String} {item : Value} {items : List (String × Value)}
    {first after others : List Char} (isFirst : MemberWritten name item first) (trailing : Blanks after)
    (areOthers : MembersWritten items others) (rest : List Char)
    (enough : (first ++ (after ++ (others ++ rest))).length < fuel) :
    ∃ middle, memberName fuel (first ++ (after ++ (others ++ rest))) = .ok (name, middle) ∧
      Reader.value fuel middle = .ok (item, after ++ (others ++ rest)) ∧
      Reader.members fuel (after ++ (others ++ rest)) = .ok (items, rest) := by
  obtain ⟨isLabel, leading, blanks, isWritten⟩ := isFirst
  have apart : Apart item (after ++ (others ++ rest)) := fun _ _ => ends_of_members areOthers trailing rest
  simp only [List.append_assoc, List.cons_append] at enough ⊢
  refine ⟨_, memberName_of_written isLabel leading (Nat.le_of_lt enough), ?_, ?_⟩
  · apply complete.value isWritten blanks apart
    simp only [List.length_append, List.length_cons] at enough ⊢
    omega
  · apply complete.members areOthers trailing
    simp only [List.length_append, List.length_cons] at enough ⊢
    omega

theorem ReadsBack.value_succ {item : Value} {written gap : List Char} (isWritten : Written item written)
    (blanks : Blanks gap) (apart : Apart item rest)
    (enough : (gap ++ (written ++ rest)).length < fuel + 1) :
    Reader.value (fuel + 1) (gap ++ (written ++ rest)) = .ok (item, rest) := by
  have skipped := (startsValue_of_written isWritten).skipSpace blanks rest
  have fewer : (written ++ rest).length < fuel + 1 := by
    rw [List.length_append] at enough
    omega
  clear enough
  cases isWritten with
  | number valid => exact value_of_literal valid (apart _ rfl) skipped
  | null =>
    rw [Reader.value, skipped, List.cons_append]
    exact map_eq_ok_iff.mpr ⟨_, (keyword_eq_ok_iff ['u', 'l', 'l'] _ _).mpr rfl, rfl⟩
  | yes =>
    rw [Reader.value, skipped, List.cons_append]
    exact map_eq_ok_iff.mpr ⟨_, (keyword_eq_ok_iff ['r', 'u', 'e'] _ _).mpr rfl, rfl⟩
  | no =>
    rw [Reader.value, skipped, List.cons_append]
    exact map_eq_ok_iff.mpr ⟨_, (keyword_eq_ok_iff ['a', 'l', 's', 'e'] _ _).mpr rfl, rfl⟩
  | text quoted =>
    obtain ⟨inner, rfl, readBack⟩ := quoted_of_written quoted
    rw [Reader.value, skipped]
    refine map_eq_ok_iff.mpr ⟨_, readBack fuel rest ?_, rfl⟩
    exact Nat.le_of_lt (Nat.lt_of_succ_lt_succ fewer)
  | emptyArray blanks =>
    have closed : isSpace ']' = false := by decide
    rw [Reader.value, skipped, List.cons_append, List.append_assoc, List.singleton_append]
    simp [skipSpace_append blanks, skipSpace_cons closed]
  | emptyObject blanks =>
    have closed : isSpace '\x7d' = false := by decide
    rw [Reader.value, skipped, List.cons_append, List.append_assoc, List.singleton_append]
    simp [skipSpace_append blanks, skipSpace_cons closed]
  | array leading isFirst trailing areOthers =>
    simp only [List.append_assoc, List.cons_append] at skipped fewer ⊢
    rw [List.length_cons, List.length_append] at fewer
    have starts := startsValue_of_written isFirst
    obtain ⟨readFirst, readOthers⟩ := complete.items isFirst trailing areOthers rest (by omega)
    exact value_array (starts.append _) (starts.skipSpace leading _) skipped readFirst readOthers
  | object leading isFirst trailing areOthers =>
    simp only [List.append_assoc, List.cons_append] at skipped fewer ⊢
    rw [List.length_cons, List.length_append] at fewer
    have starts := startsValue_of_member isFirst
    obtain ⟨label, readName, readFirst, readOthers⟩ :=
      complete.entries isFirst trailing areOthers rest (by omega)
    exact value_object (starts.append _) (starts.skipSpace leading _) skipped readName readFirst readOthers

theorem ReadsBack.elements_succ {items : List Value} {written gap : List Char}
    (areWritten : ElementsWritten items written) (blanks : Blanks gap)
    (enough : (gap ++ (written ++ rest)).length < fuel + 1) :
    Reader.elements (fuel + 1) (gap ++ (written ++ rest)) = .ok (items, rest) := by
  cases areWritten with
  | close =>
    have closed : isSpace ']' = false := by decide
    rw [Reader.elements, skipSpace_append blanks, List.singleton_append, skipSpace_cons closed]
    rfl
  | more leading isFirst trailing areOthers =>
    have comma : isSpace ',' = false := by decide
    simp only [List.append_assoc, List.cons_append] at enough ⊢
    rw [List.length_append, List.length_cons, List.length_append] at enough
    have starts := startsValue_of_written isFirst
    obtain ⟨readFirst, readOthers⟩ := complete.items isFirst trailing areOthers rest (by omega)
    refine elements_more (starts.append _) (starts.skipSpace leading _) ?_ readFirst readOthers
    rw [skipSpace_append blanks, skipSpace_cons comma]

theorem ReadsBack.members_succ {items : List (String × Value)} {written gap : List Char}
    (areWritten : MembersWritten items written) (blanks : Blanks gap)
    (enough : (gap ++ (written ++ rest)).length < fuel + 1) :
    Reader.members (fuel + 1) (gap ++ (written ++ rest)) = .ok (items, rest) := by
  cases areWritten with
  | close =>
    have closed : isSpace '\x7d' = false := by decide
    rw [Reader.members, skipSpace_append blanks, List.singleton_append, skipSpace_cons closed]
    rfl
  | more leading isFirst trailing areOthers =>
    have comma : isSpace ',' = false := by decide
    simp only [List.append_assoc, List.cons_append] at enough ⊢
    rw [List.length_append, List.length_cons, List.length_append] at enough
    have starts := startsValue_of_member isFirst
    obtain ⟨label, readName, readFirst, readOthers⟩ :=
      complete.entries isFirst trailing areOthers rest (by omega)
    refine members_more (starts.append _) (starts.skipSpace leading _) ?_ readName readFirst readOthers
    rw [skipSpace_append blanks, skipSpace_cons comma]

end Complete

theorem readsBack (fuel : Nat) : ReadsBack fuel := by
  induction fuel with
  | zero =>
    constructor
    · intro item written gap rest _ _ _ enough
      exact absurd enough (Nat.not_lt_zero _)
    · intro items written gap rest _ _ enough
      exact absurd enough (Nat.not_lt_zero _)
    · intro items written gap rest _ _ enough
      exact absurd enough (Nat.not_lt_zero _)
  | succ fuel ih => exact ⟨ih.value_succ, ih.elements_succ, ih.members_succ⟩

end Reader

theorem expectEnd_eq_ok_iff (text : List Char) : expectEnd text = .ok () ↔ Blanks text := by
  rw [← Reader.skipSpace_eq_nil_iff, expectEnd]
  split
  · next empty => simp [empty]
  · next more => simpa using more

/-- The reader finds in every text of a value that value, with nothing but blanks behind it. -/
theorem readValue_of_isText {value : Value} {text : List Char} (isText : IsText value text) :
    ∃ rest, readValue text = .ok (value, rest) ∧ Blanks rest := by
  obtain ⟨before, written, after, leading, isWritten, trailing, rfl⟩ := isText
  have apart : Reader.Apart value after := by
    intro _ _
    rw [← List.append_nil after]
    exact Reader.ends_append trailing (by simp [Reader.Ends])
  exact ⟨after, (Reader.readsBack _).value isWritten leading apart (Nat.lt_succ_self _), trailing⟩

/-- A text in which the reader finds a value and then nothing but blanks is a text of that value. -/
theorem isText_of_readValue {value : Value} {text rest : List Char}
    (read : readValue text = .ok (value, rest)) (trailing : Blanks rest) : IsText value text := by
  obtain ⟨before, written, leading, isWritten, same⟩ := (Reader.readsWritten _).value read
  exact ⟨before, written, rest, leading, isWritten, trailing, same⟩

end TreeInspector.Json
