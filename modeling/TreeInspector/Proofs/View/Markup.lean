import Mathlib.Data.List.Basic
import Mathlib.Tactic.Common
import TreeInspector.Text.Pieces

/-! # Reading markup

A markup text is a sequence of tags, each with the characters behind it up to the next tag. Reading
splits at every `<` and `>`, whatever the text means, so a label that brought one of its own would be
seen as a tag. Reading refuses a text that does not start with a tag or has a `>` too many, and gives
back what was written as long as neither tags nor the characters between them contain a `<` or a `>`.
-/

namespace TreeInspector

/-- Texts with a separator in front of each are the pieces behind an empty one. -/
theorem pieces_flatMap_cons {separator : Char} {texts : List (List Char)}
    (absent : ∀ text ∈ texts, separator ∉ text) :
    pieces separator (texts.flatMap (separator :: ·)) = [] :: texts := by
  induction texts with
  | nil => rfl
  | cons text rest ih =>
    obtain ⟨here, later⟩ := List.forall_mem_cons.mp absent
    have behind := ih later
    rw [List.flatMap_cons, List.cons_append, pieces, if_pos rfl]
    congr 1
    cases rest with
    | nil => rw [List.flatMap_nil, List.append_nil, pieces_of_not_mem here]
    | cons next rest =>
      rw [List.flatMap_cons, List.cons_append, pieces, if_pos rfl] at behind
      rw [List.flatMap_cons, List.cons_append, pieces_append_of_not_mem here]
      exact congrArg (text :: ·) (List.cons_inj_right _ |>.mp behind)

/-- Texts with a separator behind each are the pieces in front of an empty one. -/
theorem pieces_flatMap_concat {separator : Char} {texts : List (List Char)}
    (absent : ∀ text ∈ texts, separator ∉ text) :
    pieces separator (texts.flatMap (· ++ [separator])) = texts ++ [[]] := by
  induction texts with
  | nil => rfl
  | cons text rest ih =>
    obtain ⟨here, later⟩ := List.forall_mem_cons.mp absent
    rw [List.flatMap_cons, List.append_assoc, List.singleton_append, pieces_append_of_not_mem here, ih later]
    rfl

/-- The lines of a text, each ended by a line break. -/
def linesOf (text : String) : List String :=
  ((pieces '\n' text.toList).dropLast).map String.ofList

/-- A text of lines is divided into these lines. -/
theorem linesOf_flatMap {lines : List String} (unbroken : ∀ line ∈ lines, '\n' ∉ line.toList)
    {text : String} (written : text.toList = lines.flatMap fun line => line.toList ++ ['\n']) :
    linesOf text = lines := by
  have texts : text.toList = (lines.map String.toList).flatMap (· ++ ['\n']) := by
    rw [written, List.flatMap_map]
  have absent : ∀ line ∈ lines.map String.toList, '\n' ∉ line := by
    simpa only [List.forall_mem_map] using unbroken
  rw [linesOf, texts, pieces_flatMap_concat absent, List.dropLast_concat, List.map_map]
  exact (List.map_congr_left fun line _ => String.ofList_toList).trans (List.map_id _)

namespace Markup

/-! ## Tags -/

/-- A tag, with the characters behind it up to the next one. -/
structure Segment where
  tag : List Char
  behind : List Char
deriving DecidableEq

namespace Segment

/-- The written form of a segment. -/
def write (segment : Segment) : List Char := '<' :: (segment.tag ++ '>' :: segment.behind)

/-- Read a segment behind its `<`; a second `>` is refused. -/
def read? (text : List Char) : Option Segment :=
  match pieces '>' text with
  | [tag, behind] => some ⟨tag, behind⟩
  | _ => none

/-- The name of a tag is what stands before the first space. -/
def name (segment : Segment) : String := String.ofList (segment.tag.takeWhile (· != ' '))

/-- Neither the tag nor what stands behind it contains a `<` or a `>`. -/
structure Clean (segment : Segment) : Prop where
  tag : ∀ c ∈ segment.tag, c ≠ '<' ∧ c ≠ '>'
  behind : ∀ c ∈ segment.behind, c ≠ '<' ∧ c ≠ '>'

theorem read?_eq {segment : Segment} (clean : segment.Clean) :
    read? (segment.tag ++ '>' :: segment.behind) = some segment := by
  have tag : '>' ∉ segment.tag := fun member => (clean.tag _ member).2 rfl
  have behind : '>' ∉ segment.behind := fun member => (clean.behind _ member).2 rfl
  rw [read?, pieces_append_of_not_mem tag, pieces_of_not_mem behind]

end Segment

/-- Read a markup text, which starts with a tag. -/
def read? (text : List Char) : Option (List Segment) :=
  match pieces '<' text with
  | [] :: segments => segments.mapM Segment.read?
  | _ => none

/-- Clean segments are read back as they were written. -/
theorem read?_write {segments : List Segment} (clean : ∀ segment ∈ segments, segment.Clean) :
    read? (segments.flatMap Segment.write) = some segments := by
  have texts : segments.flatMap Segment.write =
      (segments.map fun segment => segment.tag ++ '>' :: segment.behind).flatMap ('<' :: ·) := by
    rw [List.flatMap_map]
    rfl
  have absent : ∀ text ∈ segments.map (fun segment => segment.tag ++ '>' :: segment.behind),
      '<' ∉ text := by
    simp only [List.forall_mem_map, List.mem_append, List.mem_cons, not_or]
    intro segment member
    exact ⟨fun inside => ((clean segment member).tag _ inside).1 rfl, by decide,
      fun inside => ((clean segment member).behind _ inside).1 rfl⟩
  rw [read?, texts, pieces_flatMap_cons absent]
  clear texts absent
  induction segments with
  | nil => rfl
  | cons segment rest ih =>
    obtain ⟨here, later⟩ := List.forall_mem_cons.mp clean
    have behind := ih later
    dsimp only at behind ⊢
    rw [List.map_cons, List.mapM_cons, Segment.read?_eq here, behind]
    rfl

/-! ## Attributes -/

/-- Quotes divide the attributes of a tag: what stands before a value, then the value. -/
def pairUp : List (List Char) → List (String × String)
  | before :: value :: rest =>
    (String.ofList (before.drop 1).dropLast, String.ofList value) :: pairUp rest
  | _ => []

/-- The attributes of a tag with their values. -/
def Segment.fields (segment : Segment) : List (String × String) :=
  pairUp (pieces '"' (segment.tag.dropWhile (· != ' ')))

/-- The written form of an attribute. -/
def writeField (field : String × String) : List Char :=
  ' ' :: (field.1.toList ++ '=' :: '"' :: (field.2.toList ++ ['"']))

/-- Attributes without quotes are read back, whatever stands behind the last one. -/
theorem pairUp_pieces {fields : List (String × String)}
    (unquoted : ∀ field ∈ fields, '"' ∉ field.1.toList ∧ '"' ∉ field.2.toList)
    {rest : List Char} (quiet : '"' ∉ rest) :
    pairUp (pieces '"' (fields.flatMap writeField ++ rest)) = fields := by
  induction fields with
  | nil =>
    rw [List.flatMap_nil, List.nil_append, pieces_of_not_mem quiet]
    rfl
  | cons field fields ih =>
    obtain ⟨⟨name, value⟩, later⟩ := List.forall_mem_cons.mp unquoted
    have before : '"' ∉ ' ' :: (field.1.toList ++ ['=']) := by
      simp only [List.mem_cons, List.mem_append, List.not_mem_nil, or_false, not_or]
      exact ⟨by decide, name, by decide⟩
    have split : (field :: fields).flatMap writeField ++ rest =
        (' ' :: (field.1.toList ++ ['='])) ++ '"' ::
          (field.2.toList ++ '"' :: (fields.flatMap writeField ++ rest)) := by
      simp [writeField]
    rw [split, pieces_append_of_not_mem before, pieces_append_of_not_mem value, pairUp, ih later, List.drop_one,
      List.tail_cons, List.dropLast_concat, String.ofList_toList, String.ofList_toList]

/-! ## Entities -/

/-- Undo the three entities that stand for markup characters. -/
def decode : List Char → List Char
  | [] => []
  | '&' :: 'a' :: 'm' :: 'p' :: ';' :: rest => '&' :: decode rest
  | '&' :: 'l' :: 't' :: ';' :: rest => '<' :: decode rest
  | '&' :: 'g' :: 't' :: ';' :: rest => '>' :: decode rest
  | c :: rest => c :: decode rest

theorem decode_cons {c : Char} (plain : c ≠ '&') (rest : List Char) :
    decode (c :: rest) = c :: decode rest := by
  rw [decode.eq_def]
  split <;> simp_all

end Markup

end TreeInspector
