import TreeInspector.Document.ParseTree
import TreeInspector.Json.Printer
import TreeInspector.Json.Reader

/-! # Documents

A document is a parse tree with the rule names needed to label it. A value presents a document, or
a bare tree without names; both may be written as objects or as arrays of their fields in order. An
object must not repeat a name that is known at its place; other names are ignored. The whole text
is read as a value first, then the value is taken as a document or else as a bare tree, and only
then is anything after the value refused.
-/

namespace TreeInspector

/-- A parse tree with its rule names. -/
structure Document where
  rules : RuleNames
  root : ParseTree
deriving DecidableEq

namespace Document

open Json (Value)

/-- A member read once for every use it may have: as it is, and as a list of trees. -/
structure Field where
  value : Value
  trees : Option (List ParseTree)

/-- The values of the members with a name. -/
def named {α : Type} (name : String) (members : List (String × α)) : List α :=
  (members.filter (·.1 == name)).map (·.2)

/-- The value of a member that must be present exactly once. -/
def once? {α : Type} (name : String) (members : List (String × α)) : Option α :=
  match named name members with
  | [found] => some found
  | _ => none

/-- The value of a member that may be present once; `none` if it is repeated. -/
def atMostOnce? {α : Type} (name : String) (members : List (String × α)) : Option (Option α) :=
  match named name members with
  | [] => some none
  | [found] => some (some found)
  | _ => none

/-- The kinds of node. -/
inductive Kind where
  | rule
  | token
  | error

/-- A kind by its name or its position. -/
def kind? : Value → Option Kind
  | .text name =>
    if name = "rule" then some .rule
    else if name = "token" then some .token
    else if name = "error" then some .error
    else none
  | .number literal =>
    match literal.word? with
    | some 0 => some .rule
    | some 1 => some .token
    | some 2 => some .error
    | _ => none
  | _ => none

/-- A text. -/
def text? : Value → Option String
  | .text text => some text
  | _ => none

/-- An unsigned 64-bit integer. -/
def word? : Value → Option UInt64
  | .number literal => literal.word?
  | _ => none

/-- The message of an exception: absent, null or a text. -/
def exception? : Option Value → Option (Option String)
  | none | some .null => some none
  | some (.text text) => some (some text)
  | _ => none

/-- The children of a rule: absent or a list of trees. -/
def children? : Option Field → Option (List ParseTree)
  | none => some []
  | some field => field.trees

/-- A tree from the members of an object. -/
def treeOfMembers? (members : List (String × Field)) : Option ParseTree := do
  match ← kind? (← once? "kind" members).value with
  | .rule =>
    let index ← word? (← once? "rule" members).value
    let exception ← exception? ((← atMostOnce? "exception" members).map Field.value)
    let children ← children? (← atMostOnce? "children" members)
    return .rule index exception children
  | .token => return .token (← text? (← once? "text" members).value)
  | .error => return .error (← text? (← once? "text" members).value)

/-- A tree from the elements of an array: the kind, then its fields in order. -/
def treeOfElements? : List Field → Option ParseTree
  | [] => none
  | kind :: fields => do
    match ← kind? kind.value, fields with
    | .rule, index :: fields =>
      let (exception, children) ← match fields with
        | [] => some (none, none)
        | [exception] => some (some exception.value, none)
        | [exception, children] => some (some exception.value, some children)
        | _ => none
      return .rule (← word? index.value) (← exception? exception) (← children? children)
    | .token, [text] => return .token (← text? text.value)
    | .error, [text] => return .error (← text? text.value)
    | _, _ => none

mutual

/-- The tree that a value presents. -/
def tree? : Value → Option ParseTree
  | .object members => treeOfMembers? (memberFields members)
  | .array items => treeOfElements? (elementFields items)
  | .null | .bool _ | .number _ | .text _ => none

/-- The list of trees that a value presents. -/
def treeList? : Value → Option (List ParseTree)
  | .array items => trees? items
  | .null | .bool _ | .number _ | .text _ | .object _ => none

/-- The trees that all values of a list present. -/
def trees? : List Value → Option (List ParseTree)
  | [] => some []
  | first :: rest => do return (← tree? first) :: (← trees? rest)

/-- The members of an object with their readings. -/
def memberFields : List (String × Value) → List (String × Field)
  | [] => []
  | (name, value) :: rest => (name, ⟨value, treeList? value⟩) :: memberFields rest

/-- The elements of an array with their readings. -/
def elementFields : List Value → List Field
  | [] => []
  | value :: rest => ⟨value, treeList? value⟩ :: elementFields rest

end

/-- The rule names that a value presents. -/
def rules? : Value → Option RuleNames
  | .array items => (items.mapM text?).map RuleNames.mk
  | _ => none

/-- The document that a value presents. -/
def ofValue? : Value → Option Document
  | .object members => do
    let rules ← match ← atMostOnce? "rule_names" members with
      | none => some RuleNames.empty
      | some value => rules? value
    let root ← tree? (← once? "root" members)
    return ⟨rules, root⟩
  | .array [rules, root] => do return ⟨← rules? rules, ← tree? root⟩
  | _ => none

/-- The document of a value: as a document first, else as a bare tree without names. -/
def interpret? (value : Value) : Option Document :=
  (ofValue? value).or ((tree? value).map fun root => ⟨.empty, root⟩)

/-- Why a text is no document. -/
inductive ReadError where
  | malformed (fault : Json.Fault)
  | mismatch

/-- The message for a text that is no document. -/
def ReadError.message (text : String) : ReadError → String
  | .malformed fault => fault.message text.toList
  | .mismatch => "data did not match any variant of untagged enum Input"

/-- Read a document from the characters of a text. -/
def readChars (text : List Char) : Except ReadError Document := do
  let (value, rest) ← (Json.readValue text).mapError .malformed
  match interpret? value with
  | none => throw .mismatch
  | some document => do
    (Json.expectEnd rest).mapError .malformed
    return document

/-- Read a document from a text. -/
def read (text : String) : Except ReadError Document := readChars text.toList

mutual

/-- The object that a tree is written as. -/
def treeValue : ParseTree → Value
  | .rule index exception children =>
    .object ([("kind", .text "rule"), ("rule", .number (.ofNat index.toNat))] ++
      (match exception with
        | none => []
        | some text => [("exception", .text text)]) ++
      [("children", .array (treeValues children))])
  | .token text => .object [("kind", .text "token"), ("text", .text text)]
  | .error text => .object [("kind", .text "error"), ("text", .text text)]

/-- The objects that trees are written as. -/
def treeValues : List ParseTree → List Value
  | [] => []
  | first :: rest => treeValue first :: treeValues rest

end

/-- The object that a document is written as. -/
def toValue (document : Document) : Value :=
  .object [("rule_names", .array (document.rules.names.map .text)), ("root", treeValue document.root)]

/-- The written form of a document. -/
def print (document : Document) : String := document.toValue.print

end Document

/-- The written form of a tree by itself. -/
def ParseTree.print (tree : ParseTree) : String := (Document.treeValue tree).print

end TreeInspector
