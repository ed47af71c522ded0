import TreeInspector.Proofs.Document.Presentation
import TreeInspector.Proofs.Json.Printing

/-! # Reading documents

Reading a text depends only on the value it is a text of. What is printed for a document, or for a bare
tree, is a text of the value that stands for it, and that value is taken back as the same document: the
members of a tree's object never make it a document by themselves.
-/

namespace TreeInspector.Document

open Json (Value Literal IsText)

/-! ## Texts and values -/

/-- What a value is taken as. -/
def outcome (value : Value) : Except ReadError Document :=
  match interpret? value with
  | none => .error .mismatch
  | some document => .ok document

theorem outcome_eq_ok_iff (value : Value) (document : Document) :
    outcome value = .ok document ↔ interpret? value = some document := by
  unfold outcome
  split
  · next absent => simp [absent]
  · next found => simp [found]

/-- Reading any text of a value gives what the value is taken as. -/
theorem readChars_of_isText {value : Value} {text : List Char} (isText : IsText value text) :
    readChars text = outcome value := by
  obtain ⟨rest, read, blanks⟩ := Json.readValue_of_isText isText
  have ended := (Json.expectEnd_eq_ok_iff rest).mpr blanks
  rw [readChars, read, outcome]
  dsimp only [Except.mapError, bind, Except.bind]
  cases interpret? value with
  | none => rfl
  | some document => simp [ended, pure, Except.pure]

/-- A value in front that is taken as a document leaves only what follows it to be checked. -/
theorem readChars_of_readValue {text rest : List Char} {value : Value} {document : Document}
    (found : Json.readValue text = .ok (value, rest)) (taken : interpret? value = some document) :
    readChars text = (Json.expectEnd rest).mapError .malformed >>= fun _ => .ok document := by
  rw [readChars, found]
  dsimp only [Except.mapError, bind, Except.bind]
  rw [taken]
  rfl

/-- A text is read exactly if it starts with a value that is taken as the document, and only blanks
follow. -/
theorem readChars_eq_ok_iff (text : List Char) (document : Document) : readChars text = .ok document ↔
    ∃ value rest, Json.readValue text = .ok (value, rest) ∧ interpret? value = some document ∧
      Json.Blanks rest := by
  constructor
  · intro read
    cases found : Json.readValue text with
    | error fault =>
      rw [readChars, found] at read
      cases read
    | ok pair =>
      obtain ⟨value, rest⟩ := pair
      cases taken : interpret? value with
      | none =>
        rw [readChars, found] at read
        simp only [Except.mapError, bind, Except.bind, taken] at read
        cases read
      | some other =>
        rw [readChars_of_readValue found taken] at read
        cases ended : Json.expectEnd rest with
        | error fault =>
          rw [ended] at read
          cases read
        | ok =>
          rw [ended] at read
          cases read
          exact ⟨value, rest, rfl, taken, (Json.expectEnd_eq_ok_iff rest).mp ended⟩
  · rintro ⟨value, rest, found, taken, blanks⟩
    rw [readChars_of_readValue found taken, (Json.expectEnd_eq_ok_iff rest).mpr blanks]
    rfl

/-- Only texts of values are read. -/
theorem isText_of_readChars {text : List Char} {document : Document}
    (read : readChars text = .ok document) : ∃ value, IsText value text := by
  obtain ⟨value, rest, found, _, blanks⟩ := (readChars_eq_ok_iff text document).mp read
  exact ⟨value, Json.isText_of_readValue found blanks⟩

/-! ## Printed documents -/

mutual

theorem valid_treeValue : (tree : ParseTree) → (treeValue tree).Valid
  | .rule index exception children => by
    have word := Literal.valid_ofNat index.toNat_lt_size
    cases exception <;> simp [treeValue, Value.Valid, Json.MembersValid, word, valid_treeValues children]
  | .token _ => by simp [treeValue, Value.Valid, Json.MembersValid]
  | .error _ => by simp [treeValue, Value.Valid, Json.MembersValid]

theorem valid_treeValues : (trees : List ParseTree) → Json.ElementsValid (treeValues trees)
  | [] => trivial
  | first :: rest => ⟨valid_treeValue first, valid_treeValues rest⟩

end

mutual

/-- The object of a tree is taken as that tree. -/
theorem tree?_treeValue : (tree : ParseTree) → tree? (treeValue tree) = some tree
  | .rule index exception children => by
    cases exception <;>
      simp [treeValue, tree?, memberFields, treeOfMembers?, once?, atMostOnce?, named, kind?, word?,
        exception?, children?, treeList?, Literal.word?_ofNat, trees?_treeValues children]
  | .token _ => by simp [treeValue, tree?, memberFields, treeOfMembers?, once?, named, kind?, text?]
  | .error _ => by simp [treeValue, tree?, memberFields, treeOfMembers?, once?, named, kind?, text?]

theorem trees?_treeValues : (trees : List ParseTree) → trees? (treeValues trees) = some trees
  | [] => rfl
  | first :: rest => by simp [treeValues, trees?, tree?_treeValue first, trees?_treeValues rest]

end

/-- The object of a tree has no root, so it is not taken as a document. -/
theorem ofValue?_treeValue (tree : ParseTree) : ofValue? (treeValue tree) = none := by
  cases tree with
  | rule index exception children =>
    cases exception <;> simp [treeValue, ofValue?, once?, atMostOnce?, named]
  | token text => simp [treeValue, ofValue?, once?, atMostOnce?, named]
  | error text => simp [treeValue, ofValue?, once?, atMostOnce?, named]

theorem valid_texts (names : List String) : Json.ElementsValid (names.map .text) := by
  induction names with
  | nil => trivial
  | cons name names ih => exact ⟨trivial, ih⟩

theorem valid_toValue (document : Document) : document.toValue.Valid :=
  ⟨valid_texts document.rules.names, valid_treeValue document.root, trivial⟩

theorem ofValue?_toValue (document : Document) : ofValue? document.toValue = some document := by
  have areRules := (rules?_eq_some_iff _ document.rules).mpr .texts
  simp [toValue, ofValue?, once?, atMostOnce?, named, areRules, tree?_treeValue]

/-- Printing and reading gives a document back, and a bare tree with no rule names. -/
theorem read_print (document : Document) (tree : ParseTree) :
    read document.print = .ok document ∧ read tree.print = .ok ⟨.empty, tree⟩ := by
  constructor
  · have isText := Json.isText_print (valid_toValue document)
    rw [read, print, readChars_of_isText isText, outcome_eq_ok_iff, interpret?, ofValue?_toValue,
      Option.some_or]
  · have isText := Json.isText_print (valid_treeValue tree)
    rw [read, ParseTree.print, readChars_of_isText isText, outcome_eq_ok_iff, interpret?,
      ofValue?_treeValue, tree?_treeValue]
    rfl

end TreeInspector.Document
