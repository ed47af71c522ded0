import TreeInspector.Source.Tree

/-! # Parse trees

The tree a parser dumps: rules with the message of an error they recovered from, matched tokens and
error tokens. As a source tree it has no holes and never crashes.
-/

namespace TreeInspector

/-- A parser's tree. -/
inductive ParseTree where
  | rule (index : UInt64) (exception : Option String) (children : List ParseTree)
  | token (text : String)
  | error (text : String)
deriving Inhabited

namespace ParseTree

/-- The children of a node; tokens have none. -/
def children : ParseTree → List ParseTree
  | .rule _ _ children => children
  | .token _ | .error _ => []

/-- Whether the node is an error token or a rule that recovered from an error. -/
def flagged : ParseTree → Bool
  | .rule _ exception _ => exception.isSome
  | .token _ => false
  | .error _ => true

/-- What the node wants to be called. -/
def label : ParseTree → NodeLabel
  | .rule index .. => .rule index
  | .token text | .error text => .text text

mutual

/-- The tree as the inspector sees it. -/
def toSource : ParseTree → SourceTree
  | .rule index exception children =>
    .node (.rule index) exception.isSome none (toSources children)
  | .token text => .node (.text text) false none []
  | .error text => .node (.text text) true none []

/-- The slots of the children. -/
def toSources : List ParseTree → List (Option SourceTree)
  | [] => []
  | first :: rest => some (toSource first) :: toSources rest

end

mutual

/-- Two trees with the same nodes. -/
def same : ParseTree → ParseTree → Bool
  | .rule index exception children, .rule index' exception' children' =>
    index == index' && exception == exception' && sameAll children children'
  | .token text, .token text' => text == text'
  | .error text, .error text' => text == text'
  | _, _ => false

/-- Two lists of trees that are the same one by one. -/
def sameAll : List ParseTree → List ParseTree → Bool
  | [], [] => true
  | first :: rest, first' :: rest' => same first first' && sameAll rest rest'
  | _, _ => false

end

mutual

/-- Trees are the same exactly when they are equal. -/
theorem same_iff : (a b : ParseTree) → a.same b = true ↔ a = b
  | .rule index exception children, .rule index' exception' children' => by
    simp [same, sameAll_iff children children', and_assoc]
  | .token _, .token _ => by simp [same]
  | .error _, .error _ => by simp [same]
  | .rule .., .token _ => by simp [same]
  | .rule .., .error _ => by simp [same]
  | .token _, .rule .. => by simp [same]
  | .token _, .error _ => by simp [same]
  | .error _, .rule .. => by simp [same]
  | .error _, .token _ => by simp [same]

theorem sameAll_iff : (as bs : List ParseTree) → sameAll as bs = true ↔ as = bs
  | [], [] => by simp [sameAll]
  | [], _ :: _ => by simp [sameAll]
  | _ :: _, [] => by simp [sameAll]
  | a :: as, b :: bs => by simp [sameAll, same_iff a b, sameAll_iff as bs]

end

instance : DecidableEq ParseTree := fun a b => decidable_of_iff _ (same_iff a b)

end ParseTree

end TreeInspector
