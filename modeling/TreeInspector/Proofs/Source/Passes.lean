import Mathlib.Data.List.Forall2
import Mathlib.Data.List.Pairwise
import TreeInspector.Proofs.Results
import TreeInspector.Source.Tree

/-! # Passes that may crash

A pass visits the entries of a list one after the other and ends at the first crash. If it comes to
an end without one, it has one result per entry, and everything about the results is known from
their entries.
-/

namespace TreeInspector

namespace Crash

variable {α β : Type} {visit : α → Except Crash β} {entries : List α} {results : List β}

/-- A pass over a list succeeds when it succeeds on every entry, with one result per entry. -/
theorem mapM_eq_ok_iff :
    entries.mapM visit = .ok results ↔
      List.Forall₂ (fun entry result => visit entry = .ok result) entries results := by
  induction entries generalizing results with
  | nil =>
    rw [List.mapM_nil, List.forall₂_nil_left_iff]
    exact ⟨fun same => (Except.ok.inj same).symm, fun same => congrArg Except.ok same.symm⟩
  | cons entry rest ih =>
    simp only [List.mapM_cons, bind_eq_ok_iff, ih, List.forall₂_cons_left_iff]
    constructor
    · rintro ⟨first, visited, others, passed, same⟩
      cases same
      exact ⟨first, others, visited, passed, rfl⟩
    · rintro ⟨first, others, visited, passed, rfl⟩
      exact ⟨first, visited, others, passed, rfl⟩

/-- The result at a position is that of the entry at the position. -/
theorem getElem?_mapM_iff (passed : entries.mapM visit = .ok results) (position : Nat) (result : β) :
    results[position]? = some result ↔
      ∃ entry, entries[position]? = some entry ∧ visit entry = .ok result := by
  have related := mapM_eq_ok_iff.mp passed
  clear passed
  induction related generalizing position with
  | nil => simp
  | cons visited _ ih =>
    cases position with
    | zero => simp [visited]
    | succ position => simpa only [List.getElem?_cons_succ] using ih position

theorem length_mapM (passed : entries.mapM visit = .ok results) : results.length = entries.length :=
  (mapM_eq_ok_iff.mp passed).length_eq.symm

theorem mem_mapM_iff (passed : entries.mapM visit = .ok results) (result : β) :
    result ∈ results ↔ ∃ entry ∈ entries, visit entry = .ok result := by
  simp only [List.mem_iff_getElem?, getElem?_mapM_iff passed]
  constructor
  · rintro ⟨position, entry, found, visited⟩
    exact ⟨entry, ⟨position, found⟩, visited⟩
  · rintro ⟨entry, ⟨position, found⟩, visited⟩
    exact ⟨position, entry, found, visited⟩

theorem exists_result_of_mem (passed : entries.mapM visit = .ok results) {entry : α} (member : entry ∈ entries) :
    ∃ result, visit entry = .ok result := by
  obtain ⟨position, found⟩ := List.mem_iff_getElem?.mp member
  have bound : position < results.length := by
    rw [length_mapM passed]
    exact (List.getElem?_eq_some_iff.mp found).1
  obtain ⟨other, same, visited⟩ :=
    (getElem?_mapM_iff passed position _).mp (List.getElem?_eq_getElem bound)
  cases found.symm.trans same
  exact ⟨_, visited⟩

/-- A pass keeps the order of its entries. -/
theorem pairwise_mapM {before : α → α → Prop} (passed : entries.mapM visit = .ok results)
    (ordered : entries.Pairwise before) :
    results.Pairwise fun first second => ∃ entry other,
      visit entry = .ok first ∧ visit other = .ok second ∧ before entry other := by
  have related := mapM_eq_ok_iff.mp passed
  clear passed
  induction related with
  | nil => exact .nil
  | @cons entry result entries results visited related ih =>
    obtain ⟨least, ordered⟩ := List.pairwise_cons.mp ordered
    refine List.pairwise_cons.mpr ⟨?_, ih ordered⟩
    intro second member
    obtain ⟨other, among, otherVisited⟩ := (mem_mapM_iff (mapM_eq_ok_iff.mpr related) second).mp member
    exact ⟨entry, other, visited, otherVisited, least other among⟩

/-- A pass that crashes crashes on one of its entries. -/
theorem exists_of_mapM_eq_error {crash : Crash}
    (crashed : entries.mapM visit = .error crash) : ∃ entry ∈ entries, visit entry = .error crash := by
  induction entries with
  | nil => cases crashed
  | cons entry rest ih =>
    rw [List.mapM_cons] at crashed
    rcases bind_eq_error_iff.mp crashed with here | ⟨first, _, later⟩
    · exact ⟨entry, List.mem_cons_self .., here⟩
    · rcases bind_eq_error_iff.mp later with there | ⟨others, _, impossible⟩
      · obtain ⟨other, member, found⟩ := ih there
        exact ⟨other, List.mem_cons_of_mem _ member, found⟩
      · cases impossible

/-- A pass crashes as the first of its entries that does, given how every entry crashes. -/
theorem mapM_eq_error_iff {crash? : α → Option Crash}
    (crashes : ∀ entry ∈ entries, ∀ crash, visit entry = .error crash ↔ crash? entry = some crash)
    (crash : Crash) : entries.mapM visit = .error crash ↔ entries.findSome? crash? = some crash := by
  induction entries with
  | nil => exact ⟨nofun, nofun⟩
  | cons entry rest ih =>
    obtain ⟨here, later⟩ := List.forall_mem_cons.mp crashes
    rw [List.mapM_cons, bind_eq_error_iff, List.findSome?_cons]
    cases visited : visit entry with
    | error other =>
      simp only [(here other).mp visited, Except.error.injEq, reduceCtorEq, false_and, exists_false, or_false,
        Option.some.injEq]
    | ok result =>
      have passes : crash? entry = none := by
        rw [Option.eq_none_iff_forall_ne_some]
        intro other found
        rw [(here other).mpr found] at visited
        cases visited
      -- What is left of the pass behind the first entry fails only where the rest of it does.
      simp only [passes, reduceCtorEq, false_or, Except.ok.injEq, exists_eq_left', bind_eq_error_iff,
        ih later, and_false, exists_false, or_false, pure, Except.pure]

theorem exists_mapM (visited : ∀ entry ∈ entries, ∃ result, visit entry = .ok result) :
    ∃ results, entries.mapM visit = .ok results := by
  cases passed : entries.mapM visit with
  | ok results => exact ⟨results, rfl⟩
  | error crash =>
    obtain ⟨entry, member, crashed⟩ := exists_of_mapM_eq_error passed
    obtain ⟨result, found⟩ := visited entry member
    rw [found] at crashed
    contradiction

/-- A selection that crashes nowhere is the plain selection. -/
theorem filterMapM_eq_ok {choose : α → Option β} {look : α → Except Crash (Option β)}
    (looked : ∀ entry ∈ entries, look entry = .ok (choose entry)) :
    entries.filterMapM look = .ok (entries.filterMap choose) := by
  induction entries with
  | nil => rfl
  | cons entry rest ih =>
    obtain ⟨here, later⟩ := List.forall_mem_cons.mp looked
    rw [List.filterMapM_cons, here, List.filterMap_cons, ih later]
    cases choose entry <;> rfl

end Crash

end TreeInspector
