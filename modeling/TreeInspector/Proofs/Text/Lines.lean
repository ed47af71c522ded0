import Mathlib.Data.List.DropRight
import TreeInspector.Proofs.Text.Inline

/-! # Names on lines

A text of names has one name a line. How a line ends, what blanks stand around a name and which blank
lines stand between the names does not matter (`entries_of_respaced`), so the names may be taken from the
pieces between the line feeds (`names_eq`). Every name is trimmed, not empty and on one line, and these are
the only conditions: the lists of such names are the lists that come back from their lines.
-/

namespace TreeInspector

namespace Blank

/-! ## Trimming -/

/-- Blank characters only, maybe none. -/
def IsGap (text : List Char) : Prop := ∀ c ∈ text, isBlank c = true

instance (text : List Char) : Decidable (IsGap text) :=
  decidable_of_iff (text.all isBlank = true) List.all_eq_true

/-- A text without a blank character at either end. -/
structure IsTrimmed (text : List Char) : Prop where
  ahead : ∀ c ∈ text.head?, isBlank c = false
  behind : ∀ c ∈ text.getLast?, isBlank c = false

instance (text : List Char) : Decidable (IsTrimmed text) :=
  decidable_of_iff (text.head?.any isBlank = false ∧ text.getLast?.any isBlank = false) <| by
    rw [Option.any_eq_false, Option.any_eq_false]
    exact ⟨fun ends => ⟨ends.1, ends.2⟩, fun trimmed => ⟨trimmed.ahead, trimmed.behind⟩⟩

/-- A text is trimmed to nothing exactly if it is blank. -/
theorem trim_eq_nil_iff (text : List Char) : trim text = [] ↔ ∀ c ∈ text, isBlank c = true := by
  rw [trim, List.reverse_eq_nil_iff, List.dropWhile_eq_nil_iff]
  simp only [List.mem_reverse]
  refine ⟨fun blank => ?_, fun blank c member => blank c ((List.dropWhile_suffix _).subset member)⟩
  rw [← List.dropWhile_eq_nil_iff]
  by_contra rest
  have front := List.head_dropWhile_not isBlank rest
  rw [blank _ (List.head_mem rest)] at front
  cases front

theorem trim_gap_append {gap : List Char} (blank : IsGap gap) (text : List Char) :
    trim (gap ++ text) = trim text := by
  rw [trim, List.dropWhile_append_of_pos blank, ← trim]

theorem trim_append_gap {gap : List Char} (blank : IsGap gap) (text : List Char) :
    trim (text ++ gap) = trim text := by
  have backwards : ∀ c ∈ gap.reverse, isBlank c = true := fun c member => blank c (List.mem_reverse.mp member)
  rw [trim, trim, List.dropWhile_append]
  split
  · next nothing => rw [List.isEmpty_iff.mp nothing, List.dropWhile_eq_nil_iff.mpr blank]
  · rw [List.reverse_append, List.dropWhile_append_of_pos backwards]

/-- The blanks at the end go after those at the start. -/
theorem trim_eq (text : List Char) : trim text = (text.dropWhile isBlank).rdropWhile isBlank := rfl

/-- What is left of a text starts where the blanks in front of it end. -/
theorem trim_prefix_dropWhile (text : List Char) : trim text <+: text.dropWhile isBlank := by
  rw [trim_eq]
  exact List.rdropWhile_prefix isBlank _

theorem mem_of_mem_trim {text : List Char} {c : Char} (member : c ∈ trim text) : c ∈ text :=
  (List.dropWhile_suffix isBlank).subset ((trim_prefix_dropWhile text).subset member)

theorem isTrimmed_trim (text : List Char) : IsTrimmed (trim text) where
  ahead c first := by
    obtain ⟨behind, whole⟩ := trim_prefix_dropWhile text
    have front := List.head?_dropWhile_not isBlank text
    rw [← whole, List.head?_append, Option.mem_def.mp first] at front
    exact front
  behind c last := by
    rw [trim_eq] at last
    obtain ⟨nonempty, rfl⟩ := List.mem_getLast?_eq_getLast last
    exact Bool.eq_false_iff.mpr (List.rdropWhile_last_not isBlank _ nonempty)

theorem trim_of_isTrimmed {text : List Char} (trimmed : IsTrimmed text) : trim text = text := by
  have front : text.dropWhile isBlank = text := by
    cases text with
    | nil => rfl
    | cons c rest => rw [List.dropWhile_cons, trimmed.ahead c rfl, if_neg Bool.false_ne_true]
  have back : text.rdropWhile isBlank = text := by
    refine List.rdropWhile_eq_self_iff.mpr fun nonempty => ?_
    rw [trimmed.behind _ (List.getLast?_eq_some_getLast nonempty)]
    exact Bool.false_ne_true
  rw [trim_eq, front, back]

/-! ## Lines -/

theorem isGap_nil : IsGap [] := by decide

theorem isGap_return : IsGap ['\r'] := by decide

theorem trim_withoutReturn (line : List Char) : trim (withoutReturn line) = trim line := by
  rw [withoutReturn]
  split
  · next ends =>
    obtain ⟨before, rfl⟩ := List.getLast?_eq_some_iff.mp ends
    rw [List.dropLast_concat, trim_append_gap isGap_return]
  · rfl

theorem entries_append (lines others : List (List Char)) :
    entries (lines ++ others) = entries lines ++ entries others := by
  rw [entries, List.map_append, List.filter_append, ← entries, ← entries]

theorem entries_cons (line : List Char) (lines : List (List Char)) :
    entries (line :: lines) = entries [line] ++ entries lines :=
  entries_append [line] lines

theorem entries_gap {gap : List Char} (blank : IsGap gap) : entries [gap] = [] := by
  rw [entries, List.map_singleton, (trim_eq_nil_iff gap).mpr blank]
  rfl

/-- The names are those of the pieces between the line feeds: the rest of a line's ending is blank, and so is
the piece that is no line. -/
theorem names_eq (text : List Char) : names text = entries (pieces '\n' text) := by
  obtain ⟨before, last, divided⟩ := exists_last_piece '\n' text
  have ended : entries (before.map withoutReturn) = entries before := by
    have trimmed : (before.map withoutReturn).map trim = before.map trim := by
      rw [List.map_map]
      exact List.map_congr_left fun line _ => trim_withoutReturn line
    rw [entries, trimmed, ← entries]
  have rest : entries ([last].filter (!·.isEmpty)) = entries [last] := by
    cases last with
    | nil => rfl
    | cons c rest => rfl
  simp only [names, lines, divided, List.dropLast_concat, List.getLastD_concat]
  rw [entries_append, entries_append, ended, rest]

/-- Lines are no pieces: a carriage return in front of a line feed belongs to the end of a line, and behind the
last line feed there may be no line. -/
example : lines ['a', '\r', '\n', 'b', '\r', 'c', '\n'] = [['a'], ['b', '\r', 'c']] ∧
    pieces '\n' ['a', '\r', '\n', 'b', '\r', 'c', '\n'] = [['a', '\r'], ['b', '\r', 'c'], []] := by
  decide

/-! ## Spacing -/

/-- Lines spaced anew: any line may get blanks in front of it and behind it, and blank lines may be added
anywhere. -/
inductive Respaced : List (List Char) → List (List Char) → Prop where
  | done : Respaced [] []
  | added {gap : List Char} {lines others : List (List Char)} (blank : IsGap gap)
      (rest : Respaced lines others) : Respaced lines (gap :: others)
  | kept {before line after : List Char} {lines others : List (List Char)} (ahead : IsGap before)
      (behind : IsGap after) (rest : Respaced lines others) :
      Respaced (line :: lines) ((before ++ line ++ after) :: others)

/-- Spacing has no influence on the names. -/
theorem entries_of_respaced {lines others : List (List Char)} (respaced : Respaced lines others) :
    entries others = entries lines := by
  induction respaced with
  | done => rfl
  | added blank _ ih => rw [entries_cons, entries_gap blank, ih, List.nil_append]
  | @kept before line after _ _ ahead behind _ ih =>
    have same : entries [before ++ line ++ after] = entries [line] := by
      rw [entries, List.map_singleton, trim_append_gap behind, trim_gap_append ahead, ← List.map_singleton,
        ← entries]
    rw [entries_cons, same, ih, ← entries_cons]

/-- A text with a carriage return in front of every line feed. -/
def withReturns (text : List Char) : List Char :=
  text.flatMap fun c => if c = '\n' then ['\r', '\n'] else [c]

/-- Carriage returns in front of line feeds are blanks behind the lines. -/
theorem respaced_withReturns (text : List Char) :
    Respaced (pieces '\n' text) (pieces '\n' (withReturns text)) := by
  -- What is known of the first line so far is the same in both texts.
  suffices grown : ∀ first, '\n' ∉ first →
      Respaced (pieces '\n' (first ++ text)) (pieces '\n' (first ++ withReturns text)) from
    grown [] List.not_mem_nil
  induction text with
  | nil =>
    intro first absent
    rw [withReturns, List.flatMap_nil, List.append_nil, pieces_of_not_mem absent]
    simpa only [List.nil_append, List.append_nil] using Respaced.kept isGap_nil isGap_nil .done
  | cons c rest ih =>
    intro first absent
    rw [withReturns, List.flatMap_cons, ← withReturns]
    by_cases ends : c = '\n'
    · subst ends
      have returned : '\n' ∉ first ++ ['\r'] := by simp [absent]
      have below := ih [] List.not_mem_nil
      have ended : first ++ (['\r', '\n'] ++ withReturns rest) = (first ++ ['\r']) ++ '\n' :: withReturns rest := by
        simp
      rw [if_pos rfl, ended, pieces_append_of_not_mem absent, pieces_append_of_not_mem returned]
      exact .kept isGap_nil isGap_return below
    · have longer : '\n' ∉ first ++ [c] := by simp [absent, Ne.symm ends]
      have below := ih (first ++ [c]) longer
      rw [if_neg ends]
      rwa [List.append_assoc, List.append_assoc, List.singleton_append] at below

end Blank

namespace RuleNames

open Blank (Respaced withReturns)

/-! ## Rule names -/

/-- What a line can name: a text that is not empty, trimmed, and without a line feed. -/
structure IsName (name : String) : Prop where
  nonempty : name ≠ ""
  trimmed : Blank.IsTrimmed name.toList
  oneLine : '\n' ∉ name.toList

instance (name : String) : Decidable (IsName name) :=
  decidable_of_iff (name ≠ "" ∧ Blank.IsTrimmed name.toList ∧ '\n' ∉ name.toList)
    ⟨fun fits => ⟨fits.1, fits.2.1, fits.2.2⟩, fun valid => ⟨valid.nonempty, valid.trimmed, valid.oneLine⟩⟩

theorem names_ofLines (text : String) :
    (ofLines text).names = (Blank.entries (pieces '\n' text.toList)).map String.ofList := by
  rw [ofLines, Blank.names_eq]

/-- The names of a text stand in front of the names of the text below it. -/
theorem names_ofLines_append (text below : String) :
    (ofLines (text ++ "\n" ++ below)).names = (ofLines text).names ++ (ofLines below).names := by
  have divided : (text ++ "\n" ++ below).toList = text.toList ++ '\n' :: below.toList := by simp
  rw [names_ofLines, divided, pieces_append, Blank.entries_append, List.map_append, ← names_ofLines,
    ← names_ofLines]

theorem ofLines_of_respaced {text other : String}
    (respaced : Respaced (pieces '\n' text.toList) (pieces '\n' other.toList)) :
    ofLines other = ofLines text := by
  rw [ofLines, ofLines, Blank.names_eq, Blank.names_eq, Blank.entries_of_respaced respaced]

theorem isName_of_mem_ofLines {text name : String} (member : name ∈ (ofLines text).names) : IsName name := by
  rw [names_ofLines] at member
  obtain ⟨entry, among, rfl⟩ := List.mem_map.mp member
  obtain ⟨line, kept⟩ := List.mem_filter.mp among
  obtain ⟨piece, divided, rfl⟩ := List.mem_map.mp line
  refine ⟨?_, ?_, ?_⟩
  · rintro empty
    rw [String.ofList_eq_empty_iff.mp empty] at kept
    cases kept
  · rw [String.toList_ofList]
    exact Blank.isTrimmed_trim piece
  · rw [String.toList_ofList]
    exact fun inside => not_mem_of_mem_pieces divided (Blank.mem_of_mem_trim inside)

/-- A name on a line of its own is read as it is. -/
theorem names_ofLines_of_isName {name : String} (valid : IsName name) : (ofLines name).names = [name] := by
  have filled : name.toList ≠ [] := fun empty => valid.nonempty (String.toList_eq_nil_iff.mp empty)
  have kept : Blank.entries [name.toList] = [name.toList] := by
    rw [Blank.entries, List.map_singleton, Blank.trim_of_isTrimmed valid.trimmed]
    simp [filled]
  rw [names_ofLines, pieces_of_not_mem valid.oneLine, kept, List.map_singleton, String.ofList_toList]

/-- Names come back from their lines. -/
theorem names_ofLines_intercalate {names : List String} (valid : ∀ name ∈ names, IsName name) :
    (ofLines ("\n".intercalate names)).names = names := by
  induction names with
  | nil => rfl
  | cons name rest ih =>
    obtain ⟨first, later⟩ := List.forall_mem_cons.mp valid
    cases rest with
    | nil => rw [String.intercalate_singleton, names_ofLines_of_isName first]
    | cons next rest =>
      rw [String.intercalate_cons_cons, names_ofLines_append, names_ofLines_of_isName first, ih later,
        List.singleton_append]

theorem textFor_of_lt {rules : RuleNames} {index : UInt64} (within : index.toNat < rules.names.length) :
    rules.textFor (.rule index) = Spelling.spell rules.names[index.toNat] := by
  rw [textFor, get?, List.getElem?_eq_getElem within, Option.map_some, Option.getD_some]

theorem textFor_of_le {rules : RuleNames} {index : UInt64} (beyond : rules.names.length ≤ index.toNat) :
    rules.textFor (.rule index) = Nat.repr index.toNat := by
  rw [textFor, get?, List.getElem?_eq_none beyond, Option.map_none, Option.getD_none]

/-- What reading the names of a text respects, in it and in a text below it. -/
structure ReadsLines (text below : String) : Prop where
  append : (ofLines (text ++ "\n" ++ below)).names = (ofLines text).names ++ (ofLines below).names
  returns : ofLines (String.ofList (withReturns text.toList)) = ofLines text
  respaced : ∀ other : String, Respaced (pieces '\n' text.toList) (pieces '\n' other.toList) →
    ofLines other = ofLines text
  valid : ∀ name ∈ (ofLines text).names, IsName name

/-- Rules named by a list: the names are found at their places, and decimal numbers are shown from the end of
the list on, and elsewhere only for a name that is the same number. -/
structure Restores (rules : RuleNames) (names : List String) : Prop where
  read : rules.names = names
  found : ∀ index : Nat, rules.get? index = names[index]?
  named : ∀ (index : UInt64) (within : index.toNat < names.length),
    rules.textFor (.rule index) = Spelling.spell names[index.toNat]
  decimal : ∀ index : UInt64, rules.textFor (.rule index) = Nat.repr index.toNat ↔
    names.length ≤ index.toNat ∨ names[index.toNat]? = some (Nat.repr index.toNat)

theorem restores_of_names {rules : RuleNames} {names : List String} (same : rules.names = names) :
    Restores rules names := by
  subst same
  refine ⟨rfl, fun index => rfl, fun index within => textFor_of_lt within, fun index => ?_⟩
  rcases Nat.lt_or_ge index.toNat rules.names.length with within | beyond
  · rw [textFor_of_lt within, Spelling.spell_eq_repr_iff, List.getElem?_eq_getElem within, Option.some_inj,
      or_iff_right (Nat.not_le_of_lt within)]
  · exact ⟨fun _ => .inl beyond, fun _ => textFor_of_le beyond⟩

/-- Reading names keeps the order of the lines and sees nothing of their spacing and their endings, and the
lists that come back from their lines are the lists of texts that lines can name. -/
theorem ofLines_reads_lines (text below : String) (names : List String) :
    ReadsLines text below ∧
      (Restores (ofLines ("\n".intercalate names)) names ↔ ∀ name ∈ names, IsName name) := by
  refine ⟨⟨?_, ?_, ?_, ?_⟩, ?_, ?_⟩
  · exact names_ofLines_append text below
  · apply ofLines_of_respaced
    rw [String.toList_ofList]
    exact Blank.respaced_withReturns text.toList
  · intro other respaced
    exact ofLines_of_respaced respaced
  · intro name member
    exact isName_of_mem_ofLines member
  · intro restored name member
    rw [← restored.read] at member
    exact isName_of_mem_ofLines member
  · intro valid
    exact restores_of_names (names_ofLines_intercalate valid)

/-- Names on lines that are ended, indented and spaced in different ways. -/
theorem ofLines_reads_lines_untidy :
    Respaced (pieces '\n' "prog\nstat\nexpr".toList) (pieces '\n' "prog\r\n\n  stat  \r\n\texpr\n".toList) ∧
      ofLines "prog\r\n\n  stat  \r\n\texpr\n" = ofLines "prog\nstat\nexpr" ∧
      (∀ name ∈ ["prog", "stat", "expr"], IsName name) ∧
      (ofLines "prog\r\n\n  stat  \r\n\texpr\n").names = ["prog", "stat", "expr"] := by
  have respaced : Respaced [['p', 'r', 'o', 'g'], ['s', 't', 'a', 't'], ['e', 'x', 'p', 'r']]
      [['p', 'r', 'o', 'g', '\r'], [], [' ', ' ', 's', 't', 'a', 't', ' ', ' ', '\r'],
        ['\t', 'e', 'x', 'p', 'r'], []] :=
    @Respaced.kept [] ['p', 'r', 'o', 'g'] ['\r'] _ _ (by decide) (by decide) <| .added (by decide) <|
      @Respaced.kept [' ', ' '] ['s', 't', 'a', 't'] [' ', ' ', '\r'] _ _ (by decide) (by decide) <|
        @Respaced.kept ['\t'] ['e', 'x', 'p', 'r'] [] _ _ (by decide) (by decide) <| .added (by decide) .done
  have valid : ∀ name ∈ ["prog", "stat", "expr"], IsName name := by decide
  have laws := ofLines_reads_lines "prog\nstat\nexpr" "" ["prog", "stat", "expr"]
  have same := laws.1.respaced "prog\r\n\n  stat  \r\n\texpr\n" respaced
  refine ⟨respaced, same, valid, ?_⟩
  rw [same]
  exact (laws.2.mpr valid).read

end RuleNames

end TreeInspector
