import TreeInspector.Proofs.Window.History
import TreeInspector.Window.Registry

/-! # The crash that opening a window ends in

The outline of a window is built first, and building it counts the children of every node before it
goes on to them. So it meets all the nodes that can be reached, in pre-order, and ends at the first one
that crashes. What is made afterwards counts no children that were not counted before: a window cannot
be opened exactly if there is such a node, and its crash is the one reported.
-/

namespace TreeInspector

namespace SourceTree

/-- The crash of the first node that crashes, in pre-order. -/
def firstCrash? (tree : SourceTree) : Option Crash := tree.preorder.findSome? crash

private theorem findSome?_flatMap {α β γ : Type} (choose : β → Option γ) (expand : α → List β)
    (items : List α) : (items.flatMap expand).findSome? choose =
      items.findSome? fun item => (expand item).findSome? choose := by
  induction items with
  | nil => rfl
  | cons item rest ih =>
    rw [List.flatMap_cons, List.findSome?_append, List.findSome?_cons, ih]
    cases (expand item).findSome? choose <;> rfl

/-- A node crashes before its children do, and these do in their order. -/
theorem firstCrash?_eq (tree : SourceTree) : tree.firstCrash? =
    tree.crash.or (tree.present.findSome? fun entry => entry.2.firstCrash?) := by
  rw [firstCrash?, preorder_eq, List.findSome?_cons, findSome?_flatMap]
  cases tree.crash <;> rfl

/-- What the first crash is, in words of the nodes. -/
theorem firstCrash?_eq_some_iff {tree : SourceTree} {crash : Crash} :
    tree.firstCrash? = some crash ↔ ∃ before node after, tree.preorder = before ++ node :: after ∧
      node.crash = some crash ∧ ∀ earlier ∈ before, earlier.crash = none :=
  List.findSome?_eq_some_iff

/-- Some crash is the first exactly if some node that can be reached crashes. -/
theorem exists_firstCrash?_iff {tree : SourceTree} : (∃ crash, tree.firstCrash? = some crash) ↔
    ∃ path node, tree.resolve? path = some node ∧ node.crash ≠ none := by
  rw [← Option.ne_none_iff_exists', ne_eq, firstCrash?, List.findSome?_eq_none_iff]
  simp only [not_forall, mem_preorder_iff]
  constructor
  · rintro ⟨node, ⟨path, reached⟩, crashes⟩
    exact ⟨path, node, reached, crashes⟩
  · rintro ⟨path, node, reached, crashes⟩
    exact ⟨node, ⟨path, reached⟩, crashes⟩

end SourceTree

open SourceTree

/-- An outline cannot be built exactly if some node crashes, and the first crash is the one reported. -/
theorem Outline.build_eq_error_iff (path : NodePath) (tree : SourceTree) (crash : Crash) :
    build path tree = .error crash ↔ tree.firstCrash? = some crash := by
  induction tree using childInduction generalizing path crash with
  | step tree ih =>
    have children : (tree.present.mapM fun entry => build (path.child entry.1) entry.2) = .error crash ↔
        (tree.present.findSome? fun entry => entry.2.firstCrash?) = some crash :=
      Crash.mapM_eq_error_iff
        (fun entry member => ih entry.1 entry.2 ((mem_present tree entry.1 entry.2).mp member) _) crash
    rw [firstCrash?_eq]
    obtain ⟨label, flagged, here, slots⟩ := tree
    cases here with
    | some here =>
      simp only [build, SourceTree.crash, Except.error.injEq, Option.some_or, Option.some.injEq]
    | none =>
      rw [SourceTree.crash, Option.none_or, ← children, build, bind_eq_error_iff, buildSlots_eq]
      refine or_iff_left ?_
      rintro ⟨_, _, impossible⟩
      cases impossible

namespace Window

/-- A window cannot be built exactly if some node of its tree crashes, wherever its focus is. -/
theorem construct_eq_error_iff (id : WindowId) (session : Session) (crash : Crash) :
    construct id session = .error crash ↔ session.root.firstCrash? = some crash := by
  rw [← Outline.build_eq_error_iff [], construct, bind_eq_error_iff]
  refine or_iff_left ?_
  -- With an outline, no node crashes, and nothing else can go wrong.
  rintro ⟨outline, outlined, failed⟩
  obtain ⟨window, built⟩ := exists_construct id session (Outline.sound_of_build outlined)
  rw [construct, outlined] at built
  cases failed.symm.trans built

end Window

namespace Registry

variable {registry : Registry} {session : Session}

/-- Opening a window fails exactly if building it does, and then uses up its number only. -/
theorem openWindow_eq_error_iff (crash : Crash) :
    (registry.openWindow session).1 = .error crash ↔ session.root.firstCrash? = some crash := by
  rw [← Window.construct_eq_error_iff (registry.attempts + 1)]
  cases built : Window.construct (registry.attempts + 1) session with
  | error other => simp only [openWindow, built, Except.error.injEq]
  | ok window => simp only [openWindow, built, reduceCtorEq]

theorem registry_of_crash {crash : Crash} (crashed : (registry.openWindow session).1 = .error crash) :
    (registry.openWindow session).2 = { registry with attempts := registry.attempts + 1 } := by
  rw [openWindow_eq_error_iff, ← Window.construct_eq_error_iff (registry.attempts + 1)] at crashed
  simp only [openWindow, crashed]

theorem exists_opened {id : WindowId} (opened : (registry.openWindow session).1 = .ok id) :
    ∃ window, Window.construct id session = .ok window ∧
      (registry.openWindow session).2.windows = registry.windows ++ [window] := by
  cases built : Window.construct (registry.attempts + 1) session with
  | error crash =>
    simp only [openWindow, built, reduceCtorEq] at opened
  | ok window =>
    simp only [openWindow, built, Except.ok.injEq] at opened ⊢
    exact ⟨window, opened ▸ built, rfl⟩

end Registry

end TreeInspector
