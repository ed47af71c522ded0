import TreeInspector.Label
import TreeInspector.NodePath

/-! # Source trees

The inspected tree belongs to someone else: it may count children that it cannot hand out (holes),
and counting the children of a node may crash. Everything shown about a tree is derived from the
operations here, and every computation that counts children reports the first crash it meets.
-/

namespace TreeInspector

/-- The abnormal end of foreign code, with its message if it left one. -/
inductive Crash where
  | message (text : String)
  | silent
deriving DecidableEq

/-- The text reported for a crash. -/
def Crash.text : Crash → String
  | .message text => text
  | .silent => "panic with non-string payload"

/-- A tree as its owner presents it: a label, an own error mark, possibly a crash on counting its
children, and the slots of the children, some of them holes. -/
inductive SourceTree where
  | node (label : NodeLabel) (flagged : Bool) (crash : Option Crash)
      (slots : List (Option SourceTree))

namespace SourceTree

/-- A lone node without a text stands in where no tree is given. -/
instance : Inhabited SourceTree := ⟨.node (.text "") false none []⟩

/-- What the node wants to be called. -/
def label : SourceTree → NodeLabel
  | .node label .. => label

/-- Whether the node itself is marked as an error. -/
def flagged : SourceTree → Bool
  | .node _ flagged .. => flagged

/-- The crash that counting the node's children ends in, if any. -/
def crash : SourceTree → Option Crash
  | .node _ _ crash _ => crash

/-- The slots of the node's children, holes included. -/
def slots : SourceTree → List (Option SourceTree)
  | .node _ _ _ slots => slots

/-- The number of children, holes included. -/
def childCount (tree : SourceTree) : Except Crash Nat :=
  match tree.crash with
  | some crash => .error crash
  | none => .ok tree.slots.length

/-- The child at an index, unless it is a hole or past the last one. -/
def childAt? (tree : SourceTree) (index : Nat) : Option SourceTree := tree.slots[index]?.join

/-- The node at the end of a path, if every step leads to a child. -/
def resolve? : SourceTree → NodePath → Option SourceTree
  | tree, [] => some tree
  | tree, index :: rest => (tree.childAt? index).bind fun child => resolve? child rest

@[simp] theorem resolve?_nil (tree : SourceTree) : tree.resolve? [] = some tree := rfl

@[simp] theorem resolve?_cons (tree : SourceTree) (index : Nat) (rest : NodePath) :
    tree.resolve? (index :: rest) = (tree.childAt? index).bind fun child => child.resolve? rest := rfl

/-- Resolving a joined path resolves its parts one after the other. -/
theorem resolve?_append (tree : SourceTree) (first second : NodePath) :
    tree.resolve? (first ++ second) = (tree.resolve? first).bind fun node => node.resolve? second := by
  induction first generalizing tree with
  | nil => rfl
  | cons index rest ih => simp [ih, Option.bind_assoc]

end SourceTree

end TreeInspector
