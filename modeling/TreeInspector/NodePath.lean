/-! # Paths to nodes

A node is addressed by the child indices from the root down to it. Paths are ordered
lexicographically, so an ancestor comes before its descendants and siblings follow their indices.
-/

namespace TreeInspector

/-- Child indices from the root down to a node; the empty path is the root. -/
abbrev NodePath := List Nat

namespace NodePath

/-- The path of a child of the addressed node. -/
def child (path : NodePath) (index : Nat) : NodePath := path ++ [index]

/-- The number of steps below the root. -/
def depth (path : NodePath) : Nat := path.length

/-- Whether the path addresses the root. -/
def isRoot (path : NodePath) : Bool := path.isEmpty

/-- Whether the first path addresses the node of the second one or one of its ancestors. -/
def leadsTo : NodePath → NodePath → Bool
  | [], _ => true
  | _ :: _, [] => false
  | a :: as, b :: bs => a == b && leadsTo as bs

/-- The lexicographic order of paths. -/
def order : NodePath → NodePath → Ordering
  | [], [] => .eq
  | [], _ :: _ => .lt
  | _ :: _, [] => .gt
  | a :: as, b :: bs => (compare a b).then (order as bs)

/-- The written form: `/` for the root, otherwise a slash before every index. -/
def text : NodePath → String
  | [] => "/"
  | index :: rest => (index :: rest).foldl (fun text i => text ++ "/" ++ Nat.repr i) ""

@[simp] theorem depth_child (path : NodePath) (index : Nat) : (path.child index).depth = path.depth + 1 := by
  simp [depth, child]

theorem leadsTo_iff (a b : NodePath) : a.leadsTo b = true ↔ ∃ rest, b = a ++ rest := by
  induction a generalizing b with
  | nil => simp [leadsTo]
  | cons x xs ih =>
    cases b with
    | nil => simp [leadsTo]
    | cons y ys =>
      simp only [leadsTo, Bool.and_eq_true, beq_iff_eq, ih, List.cons_append, List.cons.injEq]
      constructor
      · rintro ⟨rfl, rest, rfl⟩; exact ⟨rest, rfl, rfl⟩
      · rintro ⟨rest, rfl, rfl⟩; exact ⟨rfl, rest, rfl⟩

end NodePath

end TreeInspector
