/-! # Pieces of a text

A separator divides a text into pieces. There is always one more piece than there are separators,
so a text without any is its own only piece.
-/

namespace TreeInspector

/-- The pieces of a text between the occurrences of a separator. -/
def pieces (separator : Char) : List Char → List (List Char)
  | [] => [[]]
  | c :: rest =>
    if c = separator then [] :: pieces separator rest
    else match pieces separator rest with
      | [] => [[c]]
      | first :: others => (c :: first) :: others

/-- A text has at least one piece. -/
theorem pieces_ne_nil (separator : Char) (text : List Char) : pieces separator text ≠ [] := by
  cases text with
  | nil => simp [pieces]
  | cons c rest =>
    rw [pieces]
    split
    · simp
    · split <;> simp

/-- A text has a last piece. -/
theorem exists_last_piece (separator : Char) (text : List Char) :
    ∃ before last, pieces separator text = before ++ [last] :=
  ⟨_, _, (List.dropLast_concat_getLast (pieces_ne_nil separator text)).symm⟩

/-- The separator is in no piece. -/
theorem not_mem_of_mem_pieces {separator : Char} {text piece : List Char}
    (member : piece ∈ pieces separator text) : separator ∉ piece := by
  induction text generalizing piece with
  | nil =>
    rw [List.mem_singleton.mp member]
    exact List.not_mem_nil
  | cons c rest ih =>
    by_cases same : c = separator
    · rw [pieces, if_pos same] at member
      rcases List.mem_cons.mp member with rfl | later
      · exact List.not_mem_nil
      · exact ih later
    · obtain ⟨first, others, divided⟩ := List.exists_cons_of_ne_nil (pieces_ne_nil separator rest)
      rw [divided] at ih
      rw [pieces, if_neg same, divided] at member
      rcases List.mem_cons.mp member with rfl | later
      · rw [List.mem_cons, not_or]
        exact ⟨Ne.symm same, ih List.mem_cons_self⟩
      · exact ih (List.mem_cons_of_mem _ later)

/-- A text without the separator is its own only piece. -/
theorem pieces_of_not_mem {separator : Char} {text : List Char} (absent : separator ∉ text) :
    pieces separator text = [text] := by
  induction text with
  | nil => rfl
  | cons c rest ih =>
    rw [List.mem_cons, not_or] at absent
    rw [pieces, if_neg (Ne.symm absent.1), ih absent.2]

/-- A separator between two texts keeps their pieces apart. -/
theorem pieces_append (separator : Char) (first second : List Char) :
    pieces separator (first ++ separator :: second) =
      pieces separator first ++ pieces separator second := by
  induction first with
  | nil => simp [pieces]
  | cons c rest ih =>
    by_cases same : c = separator
    · simp [pieces, same, ih]
    · obtain ⟨head, tail, known⟩ := List.exists_cons_of_ne_nil (pieces_ne_nil separator rest)
      simp [pieces, same, ih, known]

/-- What stands in front of the first separator is the first piece. -/
theorem pieces_append_of_not_mem {separator : Char} {first : List Char} (absent : separator ∉ first)
    (second : List Char) : pieces separator (first ++ separator :: second) = first :: pieces separator second := by
  rw [pieces_append, pieces_of_not_mem absent, List.singleton_append]

/-- Without a separator between them, the last piece of a text and the first piece of the next one grow
together. -/
theorem pieces_glue {separator : Char} {first second : List Char} {before after : List (List Char)}
    {last next : List Char} (begins : pieces separator first = before ++ [last])
    (goesOn : pieces separator second = next :: after) :
    pieces separator (first ++ second) = before ++ (last ++ next) :: after := by
  induction first generalizing before last with
  | nil =>
    cases before with
    | nil =>
      cases begins
      exact goesOn
    | cons head tail => simp [pieces] at begins
  | cons c rest ih =>
    by_cases same : c = separator
    · rw [pieces, if_pos same] at begins
      cases before with
      | nil => simp [pieces_ne_nil] at begins
      | cons head tail =>
        obtain ⟨rfl, later⟩ := List.cons.inj begins
        rw [List.cons_append, pieces, if_pos same, ih later]
        rfl
    · obtain ⟨head, tail, known⟩ := List.exists_cons_of_ne_nil (pieces_ne_nil separator rest)
      rw [pieces, if_neg same, known] at begins
      rw [List.cons_append, pieces, if_neg same]
      cases before with
      | nil =>
        cases begins
        rw [@ih [] head known]
        rfl
      | cons front between =>
        obtain ⟨rfl, later⟩ := List.cons.inj begins
        rw [@ih (head :: between) last (by rw [known, later]; rfl)]
        rfl

end TreeInspector
