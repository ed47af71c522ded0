import Mathlib.Data.List.Basic
import Mathlib.Data.List.Nodup
import TreeInspector.Window.Registry

/-! # Opening, closing and replacing windows

What the operations of a registry do to its windows and to the phases of its handles, as long as no
two windows share a number. Closing removes exactly the windows with the given numbers, although
each is looked up again by its number, and the recorded phases go along: a handle is shown while a
window with its number is open and closed otherwise.
-/

namespace TreeInspector

namespace Registry

variable {registry : Registry}

theorem isOpen_iff (registry : Registry) (id : WindowId) :
    registry.isOpen id = true ↔ id ∈ registry.windows.map Window.id := by
  simp only [isOpen, List.any_eq_true, beq_iff_eq, List.mem_map]

/-- The phases of the handles given out are recorded, each by whether its window is open. -/
def Records (registry : Registry) (handles : List WindowId) : Prop :=
  registry.phases = handles.map fun id => (id, if registry.isOpen id = true then .shown else .closed)

/-- The phase of a handle tells whether its window is open. -/
theorem Records.phase_eq {handles : List WindowId} (records : registry.Records handles) {id : WindowId}
    (given : id ∈ handles) : registry.phase id = if registry.isOpen id = true then .shown else .closed := by
  rw [phase, records, List.lookup_graph _ given]
  rfl

private theorem eraseP_eq_filter {windows : List Window} (distinct : (windows.map Window.id).Nodup)
    (id : WindowId) : (windows.eraseP fun window => window.id == id) =
      windows.filter fun window => window.id ≠ id := by
  induction windows with
  | nil => rfl
  | cons first rest ih =>
    obtain ⟨absent, distinct⟩ := List.nodup_cons.mp distinct
    by_cases same : first.id = id
    · have others : ∀ window ∈ rest, window.id ≠ id := by
        intro window member again
        exact absent (same ▸ again ▸ List.mem_map_of_mem member)
      rw [List.eraseP_cons_of_pos (by simp [same]), List.filter_cons_of_neg (by simp [same]),
        List.filter_eq_self.mpr (by simpa using others)]
    · rw [List.eraseP_cons_of_neg (by simp [same]), List.filter_cons_of_pos (by simp [same]), ih distinct]

section Close

variable (distinct : (registry.windows.map Window.id).Nodup)
include distinct

/-- Closing removes the windows with the number. -/
theorem windows_close (id : WindowId) :
    (registry.close id).2.windows = registry.windows.filter fun window => window.id ≠ id := by
  by_cases shown : registry.isOpen id = true
  · rw [close, if_pos shown]
    exact eraseP_eq_filter distinct id
  · rw [close, if_neg shown, Eq.comm, List.filter_eq_self]
    intro window member
    rw [isOpen_iff] at shown
    apply decide_eq_true
    rintro rfl
    exact shown (List.mem_map_of_mem member)

theorem isOpen_close (id other : WindowId) :
    (registry.close id).2.isOpen other = true ↔ other ≠ id ∧ registry.isOpen other = true := by
  simp only [isOpen_iff, windows_close distinct, List.mem_map, List.mem_filter, decide_eq_true_eq]
  constructor
  · rintro ⟨window, ⟨member, different⟩, rfl⟩
    exact ⟨different, window, member, rfl⟩
  · rintro ⟨different, window, member, rfl⟩
    exact ⟨window, ⟨member, different⟩, rfl⟩

theorem nodup_close (id : WindowId) : ((registry.close id).2.windows.map Window.id).Nodup := by
  rw [windows_close distinct]
  exact distinct.sublist (List.filter_sublist.map _)

/-- Closing keeps the record of the phases. -/
theorem Records.close {handles : List WindowId} (records : registry.Records handles) (id : WindowId) :
    (registry.close id).2.Records handles := by
  by_cases shown : registry.isOpen id = true
  · have phases : (registry.close id).2.phases = setPhase registry.phases id .closed := by
      rw [Registry.close, if_pos shown]
    rw [Records, phases, records, setPhase, List.map_map]
    apply List.map_congr_left
    intro other _
    by_cases same : other = id
    · simp [same, isOpen_close distinct]
    · simp [same, isOpen_close distinct]
  · rwa [Registry.close, if_neg shown]

/-- Closing several numbers one after the other removes the windows with these numbers. -/
theorem windows_closeEach (ids : List WindowId) :
    (registry.closeEach ids).windows = registry.windows.filter fun window => window.id ∉ ids := by
  induction ids generalizing registry with
  | nil => simp [closeEach]
  | cons id ids ih =>
    have next : registry.closeEach (id :: ids) = (registry.close id).2.closeEach ids := rfl
    rw [next, ih (nodup_close distinct id), windows_close distinct, List.filter_filter]
    apply List.filter_congr
    intro window _
    simp [Bool.and_comm]

theorem Records.closeEach {handles : List WindowId} (records : registry.Records handles)
    (ids : List WindowId) : (registry.closeEach ids).Records handles := by
  induction ids generalizing registry with
  | nil => exact records
  | cons id ids ih => exact ih (nodup_close distinct id) (records.close distinct id)

end Close

theorem attempts_close (registry : Registry) (id : WindowId) :
    (registry.close id).2.attempts = registry.attempts := by
  rw [close]
  split <;> rfl

theorem attempts_closeEach (registry : Registry) (ids : List WindowId) :
    (registry.closeEach ids).attempts = registry.attempts := by
  induction ids generalizing registry with
  | nil => rfl
  | cons id ids ih => exact (ih _).trans (attempts_close registry id)

/-- Replacing a window keeps the numbers and their order. -/
theorem ids_put (window : Window) (registry : Registry) :
    (registry.put window).windows.map Window.id = registry.windows.map Window.id := by
  rw [put, List.map_map]
  apply List.map_congr_left
  intro other _
  by_cases same : other.id = window.id
  · simp [same]
  · simp [same]

/-- A window that is looked up has the number it is looked up by. -/
theorem get?_eq_some {id : WindowId} {window : Window} (found : registry.get? id = some window) :
    window ∈ registry.windows ∧ window.id = id :=
  ⟨List.mem_of_find?_eq_some found, by simpa using List.find?_some found⟩

theorem get?_eq_none_iff {id : WindowId} : registry.get? id = none ↔ ¬registry.isOpen id = true := by
  simp only [get?, List.find?_eq_none, isOpen, List.any_eq_true, not_exists, not_and]

/-- Replacing a window leaves the windows with other numbers alone. -/
theorem filter_put (other : WindowId → Bool) {window : Window} (apart : other window.id = false)
    (registry : Registry) : ((registry.put window).windows.filter fun shown => other shown.id) =
      registry.windows.filter fun shown => other shown.id := by
  rw [put, List.filter_map]
  have kept : ∀ shown ∈ registry.windows.filter (fun shown => other shown.id),
      (if shown.id = window.id then window else shown) = shown := by
    intro shown member
    apply if_neg
    intro same
    rw [List.mem_filter, same, apart] at member
    exact Bool.false_ne_true member.2
  have spared : registry.windows.filter
      ((fun shown => other shown.id) ∘ fun shown => if shown.id = window.id then window else shown) =
        registry.windows.filter fun shown => other shown.id := by
    apply List.filter_congr
    intro shown _
    rw [Function.comp_apply]
    split
    · next same => rw [same]
    · rfl
  rw [spared]
  exact (List.map_congr_left kept).trans (List.map_id _)

end Registry

end TreeInspector
