import Mathlib.Data.List.Forall2
import TreeInspector.Proofs.Document.Reading

/-! # Reading exactly what is presented

A text is read as the document that its value stands for, however the value is written. Values that
differ only by the order of members and by members of unknown names, at any depth, are taken alike: no
reader of a value sees the difference, so a text of one is read as a text of the other.
-/

namespace TreeInspector.Document

open Json (Value Literal IsText)

/-- The names that mean something at some place. -/
def knownNames : List String := ["kind", "rule", "exception", "children", "text", "root", "rule_names"]

/-- Values that differ by the order of members and by members of unknown names, at any depth. -/
inductive Rearranged : Value → Value → Prop where
  | refl (value : Value) : Rearranged value value
  | symm {first second : Value} (step : Rearranged first second) : Rearranged second first
  | trans {first second third : Value} (step : Rearranged first second) (next : Rearranged second third) :
      Rearranged first third
  | permute {members others : List (String × Value)} (same : members.Perm others) :
      Rearranged (.object members) (.object others)
  | add {members : List (String × Value)} {name : String} (item : Value) (unknown : name ∉ knownNames) :
      Rearranged (.object members) (.object ((name, item) :: members))
  | member {before after : List (String × Value)} {name : String} {item other : Value}
      (inner : Rearranged item other) :
      Rearranged (.object (before ++ (name, item) :: after)) (.object (before ++ (name, other) :: after))
  | element {before after : List Value} {item other : Value} (inner : Rearranged item other) :
      Rearranged (.array (before ++ item :: after)) (.array (before ++ other :: after))

/-- Values that no reader tells apart. -/
structure Alike (first second : Value) : Prop where
  kind : kind? first = kind? second
  word : word? first = word? second
  text : text? first = text? second
  exception : exception? (some first) = exception? (some second)
  trees : treeList? first = treeList? second
  rules : rules? first = rules? second
  tree : tree? first = tree? second
  document : ofValue? first = ofValue? second

theorem Alike.refl (value : Value) : Alike value value := ⟨rfl, rfl, rfl, rfl, rfl, rfl, rfl, rfl⟩

theorem Alike.symm {first second : Value} (alike : Alike first second) : Alike second first :=
  ⟨alike.kind.symm, alike.word.symm, alike.text.symm, alike.exception.symm, alike.trees.symm,
    alike.rules.symm, alike.tree.symm, alike.document.symm⟩

theorem Alike.trans {first second third : Value} (alike : Alike first second) (next : Alike second third) :
    Alike first third :=
  ⟨alike.kind.trans next.kind, alike.word.trans next.word, alike.text.trans next.text,
    alike.exception.trans next.exception, alike.trees.trans next.trees, alike.rules.trans next.rules,
    alike.tree.trans next.tree, alike.document.trans next.document⟩

/-! ## Members -/

/-- Members whose known names select values that no reader tells apart. -/
def AlikeMembers (members others : List (String × Value)) : Prop :=
  ∀ name ∈ knownNames,
    Option.Rel (Option.Rel Alike) (atMostOnce? name members) (atMostOnce? name others)

theorem once?_bind {α β : Type} (name : String) (members : List (String × α)) (read : α → Option β) :
    (once? name members).bind read = (atMostOnce? name members).bind (·.bind read) := by
  rw [once?, atMostOnce?]
  rcases named name members with _ | ⟨first, _ | ⟨second, others⟩⟩ <;> rfl

/-- Members that are selected in the same way. -/
theorem alikeMembers_of_eq {members others : List (String × Value)}
    (same : ∀ name ∈ knownNames, atMostOnce? name members = atMostOnce? name others) :
    AlikeMembers members others := by
  intro name known
  rw [same name known]
  rcases atMostOnce? name others with _ | _ | value
  · exact .none
  · exact .some .none
  · exact .some (.some (.refl value))

theorem alikeMembers_permute {members others : List (String × Value)} (same : members.Perm others) :
    AlikeMembers members others := by
  apply alikeMembers_of_eq
  intro name _
  have permuted : (named name members).Perm (named name others) := (same.filter _).map _
  rw [atMostOnce?, atMostOnce?]
  rcases selected : named name members with _ | ⟨first, _ | ⟨second, rest⟩⟩
  · rw [selected] at permuted
    rw [List.nil_perm.mp permuted]
  · rw [selected] at permuted
    rw [List.singleton_perm.mp permuted]
  · have long := permuted.length_eq
    rw [selected, List.length_cons, List.length_cons] at long
    rcases selectedOther : named name others with _ | ⟨other, _ | ⟨another, others⟩⟩
    · simp [selectedOther] at long
    · simp [selectedOther] at long
    · rfl

theorem alikeMembers_add {name : String} (unknown : name ∉ knownNames) (item : Value)
    (members : List (String × Value)) : AlikeMembers members ((name, item) :: members) := by
  apply alikeMembers_of_eq
  intro wanted known
  have different : name ≠ wanted := by
    rintro rfl
    exact unknown known
  rw [atMostOnce?, atMostOnce?, named_cons, if_neg different]

theorem alikeMembers_member {item other : Value} (alike : Alike item other) (name : String)
    (before after : List (String × Value)) :
    AlikeMembers (before ++ (name, item) :: after) (before ++ (name, other) :: after) := by
  intro wanted _
  rw [atMostOnce?, atMostOnce?, named_append, named_append, named_cons, named_cons]
  split_ifs with same
  · rcases named wanted before with _ | ⟨first, _ | ⟨second, others⟩⟩
    · rcases named wanted after with _ | ⟨third, others⟩
      · exact .some (.some alike)
      · exact .none
    · exact .none
    · exact .none
  · rcases named wanted before ++ named wanted after with _ | ⟨first, _ | ⟨second, others⟩⟩
    · exact .some .none
    · exact .some (.some (.refl first))
    · exact .none

section Selected

variable {members others : List (String × Value)} (alike : AlikeMembers members others) {name : String}
  (known : name ∈ knownNames) {α : Type}
include alike known

theorem AlikeMembers.atMostOnce {read : Option Value → Option α}
    (blind : ∀ {first second : Value}, Alike first second → read (some first) = read (some second)) :
    (atMostOnce? name members).bind read = (atMostOnce? name others).bind read := by
  have selected := alike name known
  generalize atMostOnce? name members = first, atMostOnce? name others = second at selected ⊢
  cases selected with
  | none => rfl
  | some selected =>
    cases selected with
    | none => rfl
    | some values => exact blind values

theorem AlikeMembers.once {read : Value → Option α}
    (blind : ∀ {first second : Value}, Alike first second → read first = read second) :
    (once? name members).bind read = (once? name others).bind read := by
  rw [once?_bind, once?_bind]
  exact alike.atMostOnce known blind

end Selected

/-- Objects with such members are not told apart. -/
theorem Alike.object {members others : List (String × Value)} (alike : AlikeMembers members others) :
    Alike (.object members) (.object others) where
  kind := rfl
  word := rfl
  text := rfl
  exception := rfl
  trees := rfl
  rules := rfl
  tree := by
    rw [tree?_object, tree?_object, alike.once (by decide) Alike.kind, alike.once (by decide) Alike.word,
      alike.once (by decide) Alike.text, alike.atMostOnce (by decide) Alike.exception,
      alike.atMostOnce (by decide) Alike.trees]
  document := by
    rw [ofValue?_object, ofValue?_object, alike.atMostOnce (by decide) Alike.rules,
      alike.once (by decide) Alike.tree]

/-! ## Elements -/

theorem alike_replace {item other : Value} (alike : Alike item other) (before after : List Value) :
    List.Forall₂ Alike (before ++ item :: after) (before ++ other :: after) := by
  induction before with
  | nil => exact .cons alike (List.forall₂_same.mpr fun value _ => .refl value)
  | cons first before ih => exact .cons (.refl first) ih

theorem treeOfFields?_alike {fields others : List Value} (alike : List.Forall₂ Alike fields others)
    (kind : Kind) : treeOfFields? kind fields = treeOfFields? kind others := by
  rcases alike with _ | ⟨first, _ | ⟨second, _ | ⟨third, _ | ⟨fourth, rest⟩⟩⟩⟩
  · rfl
  · cases kind <;> simp only [treeOfFields?, first.word, first.text]
  · cases kind <;> simp [treeOfFields?, trailing?, first.word, second.exception]
  · cases kind <;> simp [treeOfFields?, trailing?, first.word, second.exception, childrenOf?, third.trees]
  · cases kind <;> rfl

/-- Arrays of values that are not told apart are not told apart. -/
theorem Alike.array {items others : List Value} (alike : List.Forall₂ Alike items others) :
    Alike (.array items) (.array others) where
  kind := rfl
  word := rfl
  text := rfl
  exception := rfl
  trees := by
    rw [treeList?, treeList?]
    induction alike with
    | nil => rfl
    | cons first _ ih => rw [trees?, trees?, first.tree, ih]
  rules := by
    have texts : items.mapM text? = others.mapM text? := by
      induction alike with
      | nil => rfl
      | cons first _ ih => rw [List.mapM_cons, List.mapM_cons, first.text, ih]
    rw [rules?, rules?, texts]
  tree := by
    cases alike with
    | nil => rfl
    | cons kind fields =>
      have same := funext (treeOfFields?_alike fields)
      rw [tree?_array, tree?_array, kind.kind, same]
  document := by
    rcases alike with _ | ⟨first, _ | ⟨second, _ | ⟨third, rest⟩⟩⟩
    · rfl
    · rfl
    · rw [ofValue?, ofValue?, first.rules, second.tree]
    · rfl

theorem alike_of_rearranged {first second : Value} (rearranged : Rearranged first second) :
    Alike first second := by
  induction rearranged with
  | refl value => exact .refl value
  | symm _ ih => exact ih.symm
  | trans _ _ ih ih' => exact ih.trans ih'
  | permute same => exact .object (alikeMembers_permute same)
  | add item unknown => exact .object (alikeMembers_add unknown item _)
  | member _ ih => exact .object (alikeMembers_member ih _ _ _)
  | element _ ih => exact .array (alike_replace ih _ _)

/-- Every text that is read at all is a text of a value. A text of a value is read exactly as the
document that the value stands for, and as any text of the value rearranged. -/
theorem read_presented (text : String) :
    (∀ document, read text = .ok document → ∃ value, IsText value text.toList) ∧
      ∀ value, IsText value text.toList →
        (∀ document, read text = .ok document ↔ Presented value document) ∧
          ∀ other otherText, Rearranged value other → IsText other otherText.toList →
            read otherText = read text := by
  refine ⟨fun document read => isText_of_readChars read, ?_⟩
  intro value isText
  have read := readChars_of_isText isText
  refine ⟨?_, ?_⟩
  · intro document
    rw [Document.read, read, outcome_eq_ok_iff, interpret?_eq_some_iff]
  · intro other otherText rearranged isOther
    have alike := alike_of_rearranged rearranged
    rw [Document.read, Document.read, readChars_of_isText isOther, read, outcome, outcome, interpret?,
      interpret?, alike.document, alike.tree]

/-- A token by the position of its kind, with its members in another order and a remark among them. -/
theorem read_presented_remarked :
    let plain : Value := .object [("kind", .number (.ofNat 1)), ("text", .text "x")]
    let remarked : Value := .object [("text", .text "x"), ("remark", .null), ("kind", .number (.ofNat 1))]
    read plain.print = .ok ⟨.empty, .token "x"⟩ ∧ read remarked.print = read plain.print := by
  intro plain remarked
  have valid : (Literal.ofNat 1).Valid := Literal.valid_ofNat (by decide)
  have isPlain : IsText plain plain.print.toList := Json.isText_print ⟨valid, trivial, trivial⟩
  have isRemarked : IsText remarked remarked.print.toList :=
    Json.isText_print ⟨trivial, trivial, valid, trivial⟩
  have rearranged : Rearranged plain remarked :=
    .trans (@Rearranged.add _ "remark" .null (by decide)) (.permute (@List.perm_append_comm _ [_, _] [_]))
  obtain ⟨reads, rereads⟩ := (read_presented plain.print).2 plain isPlain
  exact ⟨(reads _).mpr ((interpret?_eq_some_iff _ _).mp rfl), rereads _ _ rearranged isRemarked⟩

end TreeInspector.Document
