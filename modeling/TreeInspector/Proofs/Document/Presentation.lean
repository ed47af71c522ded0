import Mathlib.Tactic.Common
import TreeInspector.Document.Basic

/-! # What a value presents

The format of documents, said without any reader. A node is an object with its kind and the fields of
that kind, or an array of them in order; a document is an object with a root and maybe rule names, or
the array of both. Known names must not be repeated; which other members stand around them does not
matter. The readers of values find exactly what is presented.
-/

namespace TreeInspector

open Json (Value Literal)

/-- A value has a property if arrays and objects have it whose parts all have it. -/
theorem Json.Value.induction {property : Value → Prop} (null : property .null)
    (bool : ∀ value, property (.bool value)) (number : ∀ literal, property (.number literal))
    (text : ∀ text, property (.text text))
    (array : ∀ items, (∀ item ∈ items, property item) → property (.array items))
    (object : ∀ members, (∀ member ∈ members, property member.2) → property (.object members))
    (value : Value) : property value :=
  @Value.rec property (fun items => ∀ item ∈ items, property item)
    (fun members => ∀ member ∈ members, property member.2) (fun member => property member.2)
    null bool number text array object (List.forall_mem_nil _)
    (fun _ _ first rest => List.forall_mem_cons.mpr ⟨first, rest⟩) (List.forall_mem_nil _)
    (fun _ _ first rest => List.forall_mem_cons.mpr ⟨first, rest⟩) (fun _ _ item => item) value

namespace Document

/-! ## Members -/

section Members

variable {α β : Type} {name : String} {members : List (String × α)}

/-- No member has this name. -/
def Absent (name : String) (members : List (String × α)) : Prop := ∀ member ∈ members, member.1 ≠ name

/-- Exactly one member has this name, and this is its value. -/
def Sole (name : String) (value : α) (members : List (String × α)) : Prop :=
  ∃ before after, members = before ++ (name, value) :: after ∧ Absent name before ∧ Absent name after

/-- No member has this name, or exactly one with this value. -/
def Optional (name : String) : Option α → List (String × α) → Prop
  | none, members => Absent name members
  | some value, members => Sole name value members

theorem named_append (first second : List (String × α)) :
    named name (first ++ second) = named name first ++ named name second := by
  simp [named]

theorem named_cons (member : String × α) (members : List (String × α)) :
    named name (member :: members) =
      if member.1 = name then member.2 :: named name members else named name members := by
  by_cases same : member.1 = name <;> simp [named, same]

theorem named_eq_nil_iff : named name members = [] ↔ Absent name members := by
  simp [named, Absent]

theorem named_eq_singleton_iff {value : α} : named name members = [value] ↔ Sole name value members := by
  constructor
  · intro only
    induction members with
    | nil => cases only
    | cons member members ih =>
      rw [named_cons] at only
      split_ifs at only with same
      · obtain ⟨rfl, empty⟩ := List.cons_eq_cons.mp only
        exact ⟨[], members, by rw [← same]; rfl, List.forall_mem_nil _, named_eq_nil_iff.mp empty⟩
      · obtain ⟨before, after, rfl, absentBefore, absentAfter⟩ := ih only
        exact ⟨member :: before, after, rfl, List.forall_mem_cons.mpr ⟨same, absentBefore⟩, absentAfter⟩
  · rintro ⟨before, after, rfl, absentBefore, absentAfter⟩
    rw [named_append, named_cons, if_pos rfl, named_eq_nil_iff.mpr absentBefore,
      named_eq_nil_iff.mpr absentAfter, List.nil_append]

theorem once?_eq_some_iff {value : α} : once? name members = some value ↔ Sole name value members := by
  rw [← named_eq_singleton_iff, once?]
  split
  · next only => simp [only]
  · next several =>
    constructor
    · simp
    · intro only
      exact absurd only (several value)

theorem atMostOnce?_eq_some_iff {found : Option α} :
    atMostOnce? name members = some found ↔ Optional name found members := by
  cases found with
  | none =>
    rw [Optional, ← named_eq_nil_iff, atMostOnce?]
    split <;> simp_all
  | some value =>
    rw [Optional, ← named_eq_singleton_iff, atMostOnce?]
    split <;> simp_all

theorem named_map (view : α → β) :
    named name (members.map fun member => (member.1, view member.2)) = (named name members).map view := by
  induction members with
  | nil => rfl
  | cons member members ih =>
    rw [List.map_cons, named_cons, named_cons, ih]
    split_ifs <;> rfl

theorem once?_map (view : α → β) :
    once? name (members.map fun member => (member.1, view member.2)) = (once? name members).map view := by
  rw [once?, once?, named_map]
  rcases named name members with _ | ⟨first, _ | ⟨second, others⟩⟩ <;> rfl

theorem atMostOnce?_map (view : α → β) :
    atMostOnce? name (members.map fun member => (member.1, view member.2)) =
      (atMostOnce? name members).map (·.map view) := by
  rw [atMostOnce?, atMostOnce?, named_map]
  rcases named name members with _ | ⟨first, _ | ⟨second, others⟩⟩ <;> rfl

end Members

/-! ## The format -/

/-- A literal of digits only, with its value. -/
structure Unsigned (literal : Literal) (value : Nat) : Prop where
  positive : literal.negative = false
  whole : literal.fraction = none
  plain : literal.exponent = none
  digits : digitsValue literal.whole = value

/-- The ways to present a kind: by its name or by its position. -/
inductive PresentsKind : Value → Kind → Prop where
  | ruleName : PresentsKind (.text "rule") .rule
  | tokenName : PresentsKind (.text "token") .token
  | errorName : PresentsKind (.text "error") .error
  | ruleIndex {literal : Literal} (index : Unsigned literal 0) : PresentsKind (.number literal) .rule
  | tokenIndex {literal : Literal} (index : Unsigned literal 1) : PresentsKind (.number literal) .token
  | errorIndex {literal : Literal} (index : Unsigned literal 2) : PresentsKind (.number literal) .error

/-- An unsigned integer of 64 bits is presented by a literal of digits only. -/
inductive PresentsWord : Value → UInt64 → Prop where
  | digits {literal : Literal} {word : UInt64} (value : Unsigned literal word.toNat) :
      PresentsWord (.number literal) word

/-- An exception may be left out, null or a text. -/
inductive PresentsException : Option Value → Option String → Prop where
  | absent : PresentsException none none
  | null : PresentsException (some .null) none
  | text {text : String} : PresentsException (some (.text text)) (some text)

/-- The last two fields of a rule in an array: the children, or both fields, may be left out. -/
inductive TrailingFields : Option Value → Option Value → List Value → Prop where
  | neither : TrailingFields none none []
  | exception {exception : Value} : TrailingFields (some exception) none [exception]
  | both {exception children : Value} :
      TrailingFields (some exception) (some children) [exception, children]

mutual

/-- The nodes that values present. -/
inductive PresentsNode : Value → ParseTree → Prop where
  | ruleObject {members : List (String × Value)} {kind index : Value} {exception children : Option Value}
      {word : UInt64} {message : Option String} {trees : List ParseTree}
      (hasKind : Sole "kind" kind members) (isRule : PresentsKind kind .rule)
      (hasIndex : Sole "rule" index members) (isWord : PresentsWord index word)
      (hasException : Optional "exception" exception members)
      (isException : PresentsException exception message)
      (hasChildren : Optional "children" children members) (areNodes : PresentsChildren children trees) :
      PresentsNode (.object members) (.rule word message trees)
  | tokenObject {members : List (String × Value)} {kind : Value} {text : String}
      (hasKind : Sole "kind" kind members) (isToken : PresentsKind kind .token)
      (hasText : Sole "text" (.text text) members) : PresentsNode (.object members) (.token text)
  | errorObject {members : List (String × Value)} {kind : Value} {text : String}
      (hasKind : Sole "kind" kind members) (isError : PresentsKind kind .error)
      (hasText : Sole "text" (.text text) members) : PresentsNode (.object members) (.error text)
  | ruleArray {kind index : Value} {fields : List Value} {exception children : Option Value} {word : UInt64}
      {message : Option String} {trees : List ParseTree} (isRule : PresentsKind kind .rule)
      (isWord : PresentsWord index word) (areFields : TrailingFields exception children fields)
      (isException : PresentsException exception message) (areNodes : PresentsChildren children trees) :
      PresentsNode (.array (kind :: index :: fields)) (.rule word message trees)
  | tokenArray {kind : Value} {text : String} (isToken : PresentsKind kind .token) :
      PresentsNode (.array [kind, .text text]) (.token text)
  | errorArray {kind : Value} {text : String} (isError : PresentsKind kind .error) :
      PresentsNode (.array [kind, .text text]) (.error text)

/-- The children of a rule may be left out. -/
inductive PresentsChildren : Option Value → List ParseTree → Prop where
  | absent : PresentsChildren none []
  | array {items : List Value} {trees : List ParseTree} (areNodes : PresentsNodes items trees) :
      PresentsChildren (some (.array items)) trees

/-- Values that present nodes, one by one. -/
inductive PresentsNodes : List Value → List ParseTree → Prop where
  | nil : PresentsNodes [] []
  | cons {item : Value} {items : List Value} {tree : ParseTree} {trees : List ParseTree}
      (head : PresentsNode item tree) (tail : PresentsNodes items trees) :
      PresentsNodes (item :: items) (tree :: trees)

end

/-- Rule names are presented by the array of their texts, or left out in an object. -/
inductive PresentsRules : Option Value → RuleNames → Prop where
  | absent : PresentsRules none .empty
  | texts {names : List String} : PresentsRules (some (.array (names.map .text))) ⟨names⟩

/-- The documents that values present. -/
inductive PresentsDocument : Value → Document → Prop where
  | object {members : List (String × Value)} {names : Option Value} {root : Value} {rules : RuleNames}
      {tree : ParseTree} (hasRules : Optional "rule_names" names members)
      (areRules : PresentsRules names rules) (hasRoot : Sole "root" root members) (isNode : PresentsNode root tree) :
      PresentsDocument (.object members) ⟨rules, tree⟩
  | array {names root : Value} {rules : RuleNames} {tree : ParseTree}
      (areRules : PresentsRules (some names) rules) (isNode : PresentsNode root tree) : PresentsDocument (.array [names, root]) ⟨rules, tree⟩

/-- A value stands for the document it presents. If it presents none, it stands for the bare node it
presents, without rule names. -/
def Presented (value : Value) (document : Document) : Prop :=
  PresentsDocument value document ∨
    (¬∃ other, PresentsDocument value other) ∧ PresentsNode value document.root ∧ document.rules = .empty

/-! ## The readers of single values -/

theorem literal_word?_eq_some_iff (literal : Literal) (word : UInt64) :
    literal.word? = some word ↔ Unsigned literal word.toNat := by
  have small : word.toNat < UInt64.size := word.toNat_lt_size
  obtain ⟨negative, whole, fraction, exponent⟩ := literal
  constructor
  · intro read
    simp only [Literal.word?, Bool.or_eq_true] at read
    split_ifs at read with unfit fits
    cases read
    cases negative <;> cases fraction <;> cases exponent <;> simp at unfit
    exact ⟨rfl, rfl, rfl, by simp⟩
  · rintro ⟨⟨⟩, ⟨⟩, ⟨⟩, digits⟩
    simp [Literal.word?, digits, small]

theorem kind?_eq_some_iff (value : Value) (kind : Kind) :
    kind? value = some kind ↔ PresentsKind value kind := by
  constructor
  · intro read
    unfold kind? at read
    split at read
    · split_ifs at read with rule token error
      · cases read
        exact rule ▸ .ruleName
      · cases read
        exact token ▸ .tokenName
      · cases read
        exact error ▸ .errorName
    · split at read
      · next index =>
        cases read
        exact .ruleIndex ((literal_word?_eq_some_iff _ _).mp index)
      · next index =>
        cases read
        exact .tokenIndex ((literal_word?_eq_some_iff _ _).mp index)
      · next index =>
        cases read
        exact .errorIndex ((literal_word?_eq_some_iff _ _).mp index)
      · cases read
    · cases read
  · intro presented
    cases presented with
    | ruleName => rfl
    | tokenName => rfl
    | errorName => rfl
    | ruleIndex index => simp [kind?, (literal_word?_eq_some_iff _ 0).mpr index]
    | tokenIndex index => simp [kind?, (literal_word?_eq_some_iff _ 1).mpr index]
    | errorIndex index => simp [kind?, (literal_word?_eq_some_iff _ 2).mpr index]

theorem word?_eq_some_iff (value : Value) (word : UInt64) :
    word? value = some word ↔ PresentsWord value word := by
  constructor
  · intro read
    cases value with
    | number literal => exact .digits ((literal_word?_eq_some_iff literal word).mp read)
    | _ => cases read
  · rintro ⟨digits⟩
    exact (literal_word?_eq_some_iff _ word).mpr digits

theorem text?_eq_some_iff (value : Value) (text : String) :
    text? value = some text ↔ value = .text text := by
  cases value <;> simp [text?]

theorem exception?_eq_some_iff (found : Option Value) (message : Option String) :
    exception? found = some message ↔ PresentsException found message := by
  constructor
  · intro read
    unfold exception? at read
    split at read
    · cases read
      exact .absent
    · cases read
      exact .null
    · cases read
      exact .text
    · cases read
  · intro presented
    cases presented <;> rfl

theorem rules?_eq_some_iff (value : Value) (rules : RuleNames) :
    rules? value = some rules ↔ PresentsRules (some value) rules := by
  have texts (items : List Value) (names : List String) :
      items.mapM text? = some names ↔ items = names.map .text := by
    induction items generalizing names with
    | nil => simp [eq_comm]
    | cons item items ih =>
      cases names with
      | nil => simp [Option.bind_eq_some_iff]
      | cons name names => simp [Option.bind_eq_some_iff, text?_eq_some_iff, ih]
  constructor
  · intro read
    cases value with
    | array items =>
      obtain ⟨names, areNames, rfl⟩ := Option.map_eq_some_iff.mp read
      rw [(texts items names).mp areNames]
      exact .texts
    | _ => cases read
  · rintro ⟨⟩
    rw [rules?, (texts _ _).mpr rfl, Option.map_some]

/-! ## The readers of nodes and documents -/

/-- A value read once for every use it may have. -/
def fieldOf (value : Value) : Field := ⟨value, treeList? value⟩

theorem memberFields_eq (members : List (String × Value)) :
    memberFields members = members.map fun member => (member.1, fieldOf member.2) := by
  induction members with
  | nil => rfl
  | cons member members ih => rw [memberFields, ih, List.map_cons, fieldOf]

theorem elementFields_eq (items : List Value) : elementFields items = items.map fieldOf := by
  induction items with
  | nil => rfl
  | cons item items ih => rw [elementFields, ih, List.map_cons, fieldOf]

/-- The children that a member or element presents. -/
def childrenOf? : Option Value → Option (List ParseTree)
  | none => some []
  | some value => treeList? value

theorem children?_map (found : Option Value) : children? (found.map fieldOf) = childrenOf? found := by
  cases found <;> rfl

theorem map_value_fieldOf (found : Option Value) : (found.map fieldOf).map Field.value = found := by
  cases found <;> rfl

/-- A tree from the members of an object, by their values. -/
theorem tree?_object (members : List (String × Value)) : tree? (.object members) = (do
    match ← (once? "kind" members).bind kind? with
    | .rule =>
      let index ← (once? "rule" members).bind word?
      let exception ← (atMostOnce? "exception" members).bind exception?
      let children ← (atMostOnce? "children" members).bind childrenOf?
      return .rule index exception children
    | .token => return .token (← (once? "text" members).bind text?)
    | .error => return .error (← (once? "text" members).bind text?)) := by
  rw [tree?, treeOfMembers?, memberFields_eq]
  simp only [once?_map, atMostOnce?_map, Option.bind_eq_bind, Option.bind_map, Option.bind_assoc,
    Function.comp_def, children?_map, map_value_fieldOf]
  rfl

/-- The last two fields of a rule in an array. -/
def trailing? : List Value → Option (Option Value × Option Value)
  | [] => some (none, none)
  | [exception] => some (some exception, none)
  | [exception, children] => some (some exception, some children)
  | _ => none

/-- A tree of a kind from its fields in order, by their values. -/
def treeOfFields? : Kind → List Value → Option ParseTree
  | .rule, index :: fields => do
    let (exception, children) ← trailing? fields
    return .rule (← word? index) (← exception? exception) (← childrenOf? children)
  | .token, [text] => return .token (← text? text)
  | .error, [text] => return .error (← text? text)
  | _, _ => none

theorem tree?_array (kind : Value) (fields : List Value) :
    tree? (.array (kind :: fields)) = (kind? kind).bind (treeOfFields? · fields) := by
  rw [tree?, elementFields_eq, List.map_cons, treeOfElements?]
  dsimp only [fieldOf]
  cases kind? kind with
  | none => rfl
  | some found =>
    cases found with
    | rule => rcases fields with _ | ⟨index, _ | ⟨exception, _ | ⟨children, _ | ⟨extra, fields⟩⟩⟩⟩ <;> rfl
    | token => rcases fields with _ | ⟨text, _ | ⟨extra, fields⟩⟩ <;> rfl
    | error => rcases fields with _ | ⟨text, _ | ⟨extra, fields⟩⟩ <;> rfl

theorem trailing?_eq_some_iff (fields : List Value) (exception children : Option Value) :
    trailing? fields = some (exception, children) ↔ TrailingFields exception children fields := by
  constructor
  · intro read
    unfold trailing? at read
    split at read
    · cases read
      exact .neither
    · cases read
      exact .exception
    · cases read
      exact .both
    · cases read
  · intro presented
    cases presented <;> rfl

/-- What is found in a value is what it presents. -/
structure FindsPresented (value : Value) : Prop where
  node (tree : ParseTree) : tree? value = some tree ↔ PresentsNode value tree
  children (trees : List ParseTree) : treeList? value = some trees ↔ PresentsChildren (some value) trees

theorem childrenOf?_eq_some_iff {found : Option Value} (finds : ∀ value ∈ found, FindsPresented value)
    (trees : List ParseTree) : childrenOf? found = some trees ↔ PresentsChildren found trees := by
  cases found with
  | none =>
    constructor
    · rintro ⟨⟩
      exact .absent
    · rintro ⟨⟩
      rfl
  | some value => exact (finds value rfl).children trees

theorem trees?_eq_some_iff {items : List Value} (finds : ∀ item ∈ items, FindsPresented item)
    (trees : List ParseTree) : trees? items = some trees ↔ PresentsNodes items trees := by
  induction items generalizing trees with
  | nil =>
    constructor
    · rintro ⟨⟩
      exact .nil
    · rintro ⟨⟩
      rfl
  | cons item items ih =>
    obtain ⟨first, rest⟩ := List.forall_mem_cons.mp finds
    constructor
    · intro read
      simp only [trees?, Option.bind_eq_bind, Option.bind_eq_some_iff] at read
      obtain ⟨tree, isTree, others, areOthers, ⟨⟩⟩ := read
      exact .cons ((first.node tree).mp isTree) ((ih rest others).mp areOthers)
    · intro presented
      cases presented with
      | cons head tail => simp [trees?, (first.node _).mpr head, (ih rest _).mpr tail]

theorem FindsPresented.object {members : List (String × Value)}
    (finds : ∀ member ∈ members, FindsPresented member.2) (tree : ParseTree) :
    tree? (.object members) = some tree ↔ PresentsNode (.object members) tree := by
  have found {children : Option Value} (has : Optional "children" children members) :
      ∀ value ∈ children, FindsPresented value := by
    rintro value ⟨⟩
    obtain ⟨before, after, rfl, _⟩ := has
    exact finds ("children", value) (by simp)
  rw [tree?_object]
  simp only [Option.bind_eq_bind, Option.bind_eq_some_iff, once?_eq_some_iff, kind?_eq_some_iff]
  constructor
  · rintro ⟨found, ⟨kind, hasKind, isKind⟩, read⟩
    cases found with
    | rule =>
      simp only [Option.bind_eq_some_iff, once?_eq_some_iff, atMostOnce?_eq_some_iff, word?_eq_some_iff,
        exception?_eq_some_iff] at read
      obtain ⟨word, ⟨index, hasIndex, isWord⟩, message, ⟨exception, hasException, isException⟩, trees,
        ⟨children, hasChildren, areTrees⟩, ⟨⟩⟩ := read
      exact .ruleObject hasKind isKind hasIndex isWord hasException isException hasChildren
        ((childrenOf?_eq_some_iff (found hasChildren) _).mp areTrees)
    | token =>
      simp only [Option.bind_eq_some_iff, once?_eq_some_iff, text?_eq_some_iff] at read
      obtain ⟨text, ⟨_, hasText, rfl⟩, ⟨⟩⟩ := read
      exact .tokenObject hasKind isKind hasText
    | error =>
      simp only [Option.bind_eq_some_iff, once?_eq_some_iff, text?_eq_some_iff] at read
      obtain ⟨text, ⟨_, hasText, rfl⟩, ⟨⟩⟩ := read
      exact .errorObject hasKind isKind hasText
  · intro presented
    cases presented with
    | ruleObject hasKind isKind hasIndex isWord hasException isException hasChildren areNodes =>
      refine ⟨_, ⟨_, hasKind, isKind⟩, ?_⟩
      simp [once?_eq_some_iff.mpr hasIndex, atMostOnce?_eq_some_iff.mpr hasException,
        atMostOnce?_eq_some_iff.mpr hasChildren, (word?_eq_some_iff _ _).mpr isWord,
        (exception?_eq_some_iff _ _).mpr isException,
        (childrenOf?_eq_some_iff (found hasChildren) _).mpr areNodes]
    | tokenObject hasKind isKind hasText =>
      refine ⟨_, ⟨_, hasKind, isKind⟩, ?_⟩
      simp [once?_eq_some_iff.mpr hasText, text?]
    | errorObject hasKind isKind hasText =>
      refine ⟨_, ⟨_, hasKind, isKind⟩, ?_⟩
      simp [once?_eq_some_iff.mpr hasText, text?]

theorem TrailingFields.mem {exception children : Option Value} {fields : List Value}
    (areFields : TrailingFields exception children fields) : ∀ value ∈ children, value ∈ fields := by
  rintro value ⟨⟩
  cases areFields
  simp

theorem FindsPresented.array {items : List Value} (finds : ∀ item ∈ items, FindsPresented item)
    (tree : ParseTree) : tree? (.array items) = some tree ↔ PresentsNode (.array items) tree := by
  have found {kind index : Value} {fields : List Value} {exception children : Option Value}
      (same : items = kind :: index :: fields) (areFields : TrailingFields exception children fields) :
      ∀ value ∈ children, FindsPresented value := by
    intro value isChildren
    exact finds value (by simp [same, areFields.mem value isChildren])
  constructor
  · intro read
    cases items with
    | nil => cases read
    | cons kind fields =>
      rw [tree?_array, Option.bind_eq_some_iff] at read
      obtain ⟨kind, isKind, read⟩ := read
      rw [kind?_eq_some_iff] at isKind
      unfold treeOfFields? at read
      split at read
      · simp only [Option.bind_eq_bind, Option.bind_eq_some_iff, Prod.exists, trailing?_eq_some_iff,
          word?_eq_some_iff, exception?_eq_some_iff] at read
        obtain ⟨exception, children, areFields, word, isWord, message, isException, trees, areTrees,
          ⟨⟩⟩ := read
        exact .ruleArray isKind isWord areFields isException
          ((childrenOf?_eq_some_iff (found rfl areFields) _).mp areTrees)
      · simp only [Option.bind_eq_bind, Option.bind_eq_some_iff, text?_eq_some_iff] at read
        obtain ⟨text, rfl, ⟨⟩⟩ := read
        exact .tokenArray isKind
      · simp only [Option.bind_eq_bind, Option.bind_eq_some_iff, text?_eq_some_iff] at read
        obtain ⟨text, rfl, ⟨⟩⟩ := read
        exact .errorArray isKind
      · cases read
  · intro presented
    cases presented with
    | ruleArray isKind isWord areFields isException areNodes =>
      simp [tree?_array, treeOfFields?, (kind?_eq_some_iff _ _).mpr isKind,
        (trailing?_eq_some_iff _ _ _).mpr areFields, (word?_eq_some_iff _ _).mpr isWord,
        (exception?_eq_some_iff _ _).mpr isException,
        (childrenOf?_eq_some_iff (found rfl areFields) _).mpr areNodes]
    | tokenArray isKind => simp [tree?_array, treeOfFields?, (kind?_eq_some_iff _ _).mpr isKind, text?]
    | errorArray isKind => simp [tree?_array, treeOfFields?, (kind?_eq_some_iff _ _).mpr isKind, text?]

theorem findsPresented (value : Value) : FindsPresented value := by
  induction value using Value.induction with
  | array items finds =>
    refine ⟨FindsPresented.array finds, ?_⟩
    intro trees
    rw [treeList?, trees?_eq_some_iff finds]
    constructor
    · exact .array
    · rintro ⟨⟩
      assumption
  | object members finds => exact ⟨FindsPresented.object finds, fun trees => ⟨nofun, nofun⟩⟩
  | _ => exact ⟨fun tree => ⟨nofun, nofun⟩, fun trees => ⟨nofun, nofun⟩⟩

/-- The rule names that a member presents, if there is one. -/
def rulesOf? : Option Value → Option RuleNames
  | none => some .empty
  | some value => rules? value

theorem rulesOf?_eq_some_iff (found : Option Value) (rules : RuleNames) :
    rulesOf? found = some rules ↔ PresentsRules found rules := by
  cases found with
  | none =>
    constructor
    · rintro ⟨⟩
      exact .absent
    · rintro ⟨⟩
      rfl
  | some value => exact rules?_eq_some_iff value rules

theorem ofValue?_object (members : List (String × Value)) : ofValue? (.object members) = (do
    let rules ← (atMostOnce? "rule_names" members).bind rulesOf?
    let root ← (once? "root" members).bind tree?
    return ⟨rules, root⟩) := by
  rw [ofValue?]
  simp only [Option.bind_eq_bind, Option.bind_assoc]
  rcases atMostOnce? "rule_names" members with _ | _ | value <;> rfl

theorem ofValue?_eq_some_iff (value : Value) (document : Document) :
    ofValue? value = some document ↔ PresentsDocument value document := by
  constructor
  · intro read
    cases value with
    | object members =>
      simp only [ofValue?_object, Option.bind_eq_bind, Option.bind_eq_some_iff, atMostOnce?_eq_some_iff,
        once?_eq_some_iff, rulesOf?_eq_some_iff, (findsPresented _).node] at read
      obtain ⟨rules, ⟨names, hasRules, areRules⟩, tree, ⟨root, hasRoot, isNode⟩, ⟨⟩⟩ := read
      exact .object hasRules areRules hasRoot isNode
    | array items =>
      rcases items with _ | ⟨names, _ | ⟨root, _ | ⟨extra, others⟩⟩⟩
      · cases read
      · cases read
      · simp only [ofValue?, Option.bind_eq_bind, Option.bind_eq_some_iff, rules?_eq_some_iff,
          (findsPresented _).node] at read
        obtain ⟨rules, areRules, tree, isNode, ⟨⟩⟩ := read
        exact .array areRules isNode
      · cases read
    | _ => cases read
  · intro presented
    cases presented with
    | object hasRules areRules hasRoot isNode =>
      simp [ofValue?_object, atMostOnce?_eq_some_iff.mpr hasRules, (rulesOf?_eq_some_iff _ _).mpr areRules,
        once?_eq_some_iff.mpr hasRoot, ((findsPresented _).node _).mpr isNode]
    | array areRules isNode =>
      simp [ofValue?, (rules?_eq_some_iff _ _).mpr areRules, ((findsPresented _).node _).mpr isNode]

/-- What a value is taken as is what it stands for. -/
theorem interpret?_eq_some_iff (value : Value) (document : Document) :
    interpret? value = some document ↔ Presented value document := by
  rw [interpret?, Presented, ← ofValue?_eq_some_iff]
  simp only [← ofValue?_eq_some_iff, ← (findsPresented _).node]
  cases ofValue? value with
  | some other => simp
  | none =>
    rw [Option.none_or, Option.map_eq_some_iff]
    constructor
    · rintro ⟨root, isNode, rfl⟩
      exact .inr ⟨by simp, isNode, rfl⟩
    · rintro (presented | ⟨_, isNode, unnamed⟩)
      · cases presented
      · exact ⟨document.root, isNode, by rw [← unnamed]⟩

end Document

end TreeInspector
