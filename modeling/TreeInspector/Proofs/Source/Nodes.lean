import Mathlib.Data.Finset.Card
import Mathlib.Data.Finset.Range
import Mathlib.Data.List.Pairwise
import TreeInspector.Source.Tree

/-! # The reachable nodes of a source tree

The nodes of a tree are the ends of the paths that resolve. A property holds *everywhere* when it
holds of all of them; two such properties matter to everything built from a tree. A *sound* tree
crashes nowhere. A *compact* tree has no hole in front of a present child, so that the position of a
child among the present ones is its index. Holes behind the last child do no harm.

`present` lists the children of a node that are there, with their indices. Whatever is computed
child by child over the slots is one pass over this list.
-/

namespace TreeInspector

namespace NodePath

theorem child_append (path : NodePath) (index : Nat) (rest : NodePath) :
    path.child index ++ rest = path ++ index :: rest := by
  rw [child, List.append_assoc, List.singleton_append]

theorem order_self (path : NodePath) : path.order path = .eq := by
  induction path with
  | nil => rfl
  | cons index rest ih => simp [order, ih]

/-- A common first part does not take part in the comparison. -/
theorem order_append (path first second : NodePath) :
    (path ++ first).order (path ++ second) = first.order second := by
  induction path with
  | nil => rfl
  | cons index rest ih => simp [order, ih]

theorem order_append_cons (path : NodePath) (index : Nat) (rest : NodePath) :
    path.order (path ++ index :: rest) = .lt := by
  simpa only [List.append_nil, order] using order_append path [] (index :: rest)

theorem order_cons_of_lt {index other : Nat} (less : index < other) (first second : NodePath) :
    order (index :: first) (other :: second) = .lt := by
  simp only [order, Nat.compare_eq_lt.mpr less, Ordering.then]

theorem nodup_of_ordered {paths : List NodePath}
    (ordered : paths.Pairwise fun first second => first.order second = .lt) : paths.Nodup := by
  refine ordered.imp ?_
  rintro first _ less rfl
  rw [order_self] at less
  contradiction

end NodePath

namespace SourceTree

/-- The children that are there among the slots from an index on, each with its index. -/
def presentFrom (index : Nat) : List (Option SourceTree) → List (Nat × SourceTree)
  | [] => []
  | none :: rest => presentFrom (index + 1) rest
  | some child :: rest => (index, child) :: presentFrom (index + 1) rest

/-- The children that are there, each with its index. -/
def present (tree : SourceTree) : List (Nat × SourceTree) := presentFrom 0 tree.slots

theorem mem_presentFrom (start : Nat) (slots : List (Option SourceTree)) (index : Nat)
    (child : SourceTree) : (index, child) ∈ presentFrom start slots ↔
      start ≤ index ∧ slots[index - start]? = some (some child) := by
  induction slots generalizing start with
  | nil => simp [presentFrom]
  | cons slot rest ih =>
    -- The slot itself stands at `start`; every later index belongs to the rest.
    rcases Nat.lt_trichotomy start index with after | same | before
    · have next : index - start = index - (start + 1) + 1 := by omega
      have distinct : index ≠ start := by omega
      have bounds : start + 1 ≤ index ↔ start ≤ index := by omega
      cases slot <;> simp [presentFrom, ih, next, distinct, bounds]
    · subst same
      have past : ¬start + 1 ≤ start := by omega
      cases slot <;> simp [presentFrom, ih, past, eq_comm]
    · have past : ¬start + 1 ≤ index := by omega
      have distinct : index ≠ start := by omega
      cases slot <;> simp [presentFrom, ih, past, distinct, Nat.not_le.mpr before]

theorem childAt?_eq_some_iff (tree : SourceTree) (index : Nat) (child : SourceTree) :
    tree.childAt? index = some child ↔ tree.slots[index]? = some (some child) := by
  simp only [childAt?, Option.join_eq_some_iff]

/-- The list of present children says the same as looking children up by index. -/
theorem mem_present (tree : SourceTree) (index : Nat) (child : SourceTree) :
    (index, child) ∈ tree.present ↔ tree.childAt? index = some child := by
  rw [present, mem_presentFrom, childAt?_eq_some_iff]
  simp

theorem presentFrom_increasing (start : Nat) (slots : List (Option SourceTree)) :
    (presentFrom start slots).Pairwise fun first second => first.1 < second.1 := by
  induction slots generalizing start with
  | nil => exact .nil
  | cons slot rest ih =>
    cases slot with
    | none => exact ih (start + 1)
    | some child =>
      refine List.pairwise_cons.mpr ⟨?_, ih (start + 1)⟩
      rintro ⟨index, other⟩ member
      have bound := ((mem_presentFrom (start + 1) rest index other).mp member).1
      change start < index
      omega

theorem present_increasing (tree : SourceTree) :
    tree.present.Pairwise fun first second => first.1 < second.1 :=
  presentFrom_increasing 0 tree.slots

theorem sizeOf_childAt? {tree : SourceTree} {index : Nat} {child : SourceTree}
    (found : tree.childAt? index = some child) : sizeOf child < sizeOf tree := by
  obtain ⟨label, flagged, crash, slots⟩ := tree
  have member := List.mem_of_getElem? ((childAt?_eq_some_iff _ _ _).mp found)
  have slot := List.sizeOf_lt_of_mem member
  simp only [SourceTree.slots, Option.some.sizeOf_spec, node.sizeOf_spec] at slot ⊢
  omega

/-- Induction over the children that are there. -/
theorem childInduction {motive : SourceTree → Prop}
    (step : ∀ tree, (∀ index child, tree.childAt? index = some child → motive child) → motive tree)
    (tree : SourceTree) : motive tree :=
  step tree fun _ child _ => childInduction step child
termination_by sizeOf tree
decreasing_by exact sizeOf_childAt? ‹_›

/-- What fails only by a crash of the node itself or by failing on a child fails by the crash of some node. -/
theorem exists_crash_of_fails {ι : Type} (fails : ι → SourceTree → Prop) {crash : Crash}
    (visited : ∀ place tree, fails place tree → tree.crash = some crash ∨
      ∃ index child below, tree.childAt? index = some child ∧ fails below child)
    (place : ι) {tree : SourceTree} (failed : fails place tree) :
    ∃ path node, tree.resolve? path = some node ∧ node.crash = some crash := by
  induction tree using childInduction generalizing place with
  | step tree ih =>
    rcases visited place tree failed with crashes | ⟨index, child, below, found, failedBelow⟩
    · exact ⟨[], tree, rfl, crashes⟩
    · obtain ⟨rest, node, reached, crashes⟩ := ih index child found below failedBelow
      exact ⟨index :: rest, node, by rw [resolve?_cons, found]; exact reached, crashes⟩

/-- Beyond a node, the tree resolves what the node resolves. -/
theorem resolve?_below {tree node : SourceTree} {path : NodePath}
    (found : tree.resolve? path = some node) (rest : NodePath) :
    tree.resolve? (path ++ rest) = node.resolve? rest := by
  rw [resolve?_append, found]
  rfl

/-- The paths that pass through a node go on below it. -/
theorem leadsTo_and_resolve?_iff {tree node : SourceTree} {path : NodePath}
    (found : tree.resolve? path = some node) (target : NodePath) (other : SourceTree) :
    path.leadsTo target = true ∧ tree.resolve? target = some other ↔
      ∃ rest, target = path ++ rest ∧ node.resolve? rest = some other := by
  rw [NodePath.leadsTo_iff]
  constructor
  · rintro ⟨⟨rest, rfl⟩, reached⟩
    exact ⟨rest, rfl, (resolve?_below found rest).symm.trans reached⟩
  · rintro ⟨rest, rfl, reached⟩
    exact ⟨⟨rest, rfl⟩, (resolve?_below found rest).trans reached⟩

mutual

/-- The nodes of a tree, a node before its children and children in order. -/
def preorder : SourceTree → List SourceTree
  | .node label flagged crash slots => .node label flagged crash slots :: preorderSlots slots

/-- The nodes of the children present in the slots. -/
def preorderSlots : List (Option SourceTree) → List SourceTree
  | [] => []
  | none :: rest => preorderSlots rest
  | some child :: rest => preorder child ++ preorderSlots rest

end

theorem preorderSlots_eq (start : Nat) (slots : List (Option SourceTree)) :
    preorderSlots slots = (presentFrom start slots).flatMap fun entry => entry.2.preorder := by
  induction slots generalizing start with
  | nil => rfl
  | cons slot rest ih =>
    cases slot with
    | none => rw [preorderSlots, presentFrom, ih (start + 1)]
    | some child => rw [preorderSlots, presentFrom, List.flatMap_cons, ih (start + 1)]

theorem preorder_eq (tree : SourceTree) :
    tree.preorder = tree :: tree.present.flatMap fun entry => entry.2.preorder := by
  obtain ⟨label, flagged, crash, slots⟩ := tree
  rw [preorder, preorderSlots_eq 0]
  rfl

/-- The nodes of a tree are the ends of the paths that resolve. -/
theorem mem_preorder_iff (tree node : SourceTree) :
    node ∈ tree.preorder ↔ ∃ path, tree.resolve? path = some node := by
  induction tree using childInduction with
  | step tree ih =>
    rw [preorder_eq, List.mem_cons, List.mem_flatMap]
    constructor
    · rintro (rfl | ⟨⟨index, child⟩, entry, inside⟩)
      · exact ⟨[], rfl⟩
      · have found := (mem_present tree index child).mp entry
        obtain ⟨rest, reached⟩ := (ih index child found).mp inside
        exact ⟨index :: rest, by rw [resolve?_cons, found]; exact reached⟩
    · rintro ⟨path, reached⟩
      cases path with
      | nil =>
        cases reached
        exact .inl rfl
      | cons index rest =>
        obtain ⟨child, found, reached⟩ := Option.bind_eq_some_iff.mp reached
        exact .inr ⟨(index, child), (mem_present tree index child).mpr found,
          (ih index child found).mpr ⟨rest, reached⟩⟩

/-- A property of all nodes that can be reached, the root included. -/
def Everywhere (property : SourceTree → Prop) (tree : SourceTree) : Prop :=
  ∀ path node, tree.resolve? path = some node → property node

section Everywhere

variable {property : SourceTree → Prop} {tree : SourceTree}

theorem Everywhere.here (everywhere : Everywhere property tree) : property tree :=
  everywhere [] tree rfl

/-- What holds everywhere holds everywhere below each node. -/
theorem Everywhere.below (everywhere : Everywhere property tree) {path : NodePath} {node : SourceTree}
    (found : tree.resolve? path = some node) : Everywhere property node := by
  intro rest target reached
  apply everywhere (path ++ rest)
  rw [resolve?_below found, reached]

theorem Everywhere.child (everywhere : Everywhere property tree) {index : Nat} {child : SourceTree}
    (found : tree.childAt? index = some child) : Everywhere property child := by
  have reached : tree.resolve? [index] = some child := by
    rw [resolve?_cons, found]
    rfl
  exact everywhere.below reached

theorem everywhere_iff : Everywhere property tree ↔
    property tree ∧ ∀ index child, tree.childAt? index = some child → Everywhere property child := by
  refine ⟨fun everywhere => ⟨everywhere.here, fun _ _ => everywhere.child⟩, ?_⟩
  rintro ⟨here, children⟩ path node found
  cases path with
  | nil =>
    cases found
    exact here
  | cons index rest =>
    obtain ⟨child, present, below⟩ := Option.bind_eq_some_iff.mp found
    exact children index child present rest node below

end Everywhere

/-- Counting children crashes nowhere in the tree. -/
def Sound : SourceTree → Prop := Everywhere fun node => node.crash = none

/-- Every child that is there, but the first, comes right after one that is there too. -/
def Gapless (tree : SourceTree) : Prop :=
  ∀ index, (tree.childAt? (index + 1)).isSome → (tree.childAt? index).isSome

/-- Behind a hole in front there is nothing. -/
private theorem join_eq_none {rest : List (Option SourceTree)}
    (gapless : ∀ index, ((none :: rest)[index + 1]?.join).isSome = true →
      ((none :: rest)[index]?.join).isSome = true)
    (index : Nat) : (none :: rest)[index]?.join = none := by
  induction index with
  | zero => rfl
  | succ index ih =>
    have empty := mt (gapless index)
    rw [ih] at empty
    simpa using empty

private theorem getElem?_presentFrom (start : Nat) (slots : List (Option SourceTree))
    (gapless : ∀ index, (slots[index + 1]?.join).isSome = true → (slots[index]?.join).isSome = true)
    (position : Nat) :
    (presentFrom start slots)[position]? = slots[position]?.join.map fun child => (start + position, child) := by
  induction slots generalizing start position with
  | nil => rfl
  | cons slot rest ih =>
    cases slot with
    | none =>
      have empty : presentFrom start (none :: rest) = [] := by
        apply List.eq_nil_iff_forall_not_mem.mpr
        rintro ⟨index, child⟩ member
        have found := ((mem_presentFrom _ _ _ _).mp member).2
        have nothing := join_eq_none gapless (index - start)
        rw [found] at nothing
        contradiction
      rw [empty, join_eq_none gapless]
      rfl
    | some child =>
      cases position with
      | zero => rfl
      | succ position =>
        have next := ih (start + 1) (fun index => gapless (index + 1)) position
        rw [presentFrom, List.getElem?_cons_succ, List.getElem?_cons_succ, next,
          show start + 1 + position = start + (position + 1) by omega]

/-- Without a gap, the position of a child among the present ones is its index. -/
theorem Gapless.getElem?_present {tree : SourceTree} (gapless : tree.Gapless) (position : Nat) :
    tree.present[position]? = (tree.childAt? position).map fun child => (position, child) := by
  rw [present, getElem?_presentFrom 0 tree.slots gapless, Nat.zero_add]
  rfl

/-- Where no index exceeds the number of present children, there is no gap. -/
theorem gapless_of_bounded {tree : SourceTree}
    (bounded : ∀ index, (tree.childAt? index).isSome = true → index < tree.present.length) :
    tree.Gapless := by
  have member (index : Nat) : index ∈ tree.present.map Prod.fst ↔ (tree.childAt? index).isSome = true := by
    simp only [List.mem_map, Prod.exists, mem_present, Option.isSome_iff_exists]
    constructor
    · rintro ⟨_, child, found, rfl⟩
      exact ⟨child, found⟩
    · rintro ⟨child, found⟩
      exact ⟨index, child, found, rfl⟩
  have distinct : (tree.present.map Prod.fst).Nodup :=
    List.pairwise_map.mpr ((present_increasing tree).imp fun less => Nat.ne_of_lt less)
  have inside : (tree.present.map Prod.fst).toFinset ⊆ Finset.range tree.present.length := by
    intro index among
    rw [List.mem_toFinset, member] at among
    exact Finset.mem_range.mpr (bounded index among)
  -- As many indices as numbers below the bound: none of them is left out.
  have full := Finset.eq_of_subset_of_card_le inside (by
    rw [List.toFinset_card_of_nodup distinct, Finset.card_range, List.length_map])
  intro index next
  rw [← member, ← List.mem_toFinset, full, Finset.mem_range]
  have := bounded (index + 1) next
  omega

/-- No node of the tree has a hole in front of a child. -/
def Compact : SourceTree → Prop := Everywhere Gapless

/-- A tree that is not compact: a hole stands in front of its only leaf. -/
def gapped : SourceTree := .node (.text "top") false none [none, some (.node (.text "leaf") true none [])]

/-- A compact tree: holes stand behind all children only. -/
def trailing : SourceTree :=
  .node (.text "top") false none
    [some (.node (.text "left") false none [some (.node (.text "leaf") true none []), none]),
      some (.node (.text "right") false none []), none]

end SourceTree

end TreeInspector
