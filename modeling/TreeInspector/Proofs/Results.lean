import Mathlib.Tactic.Common

/-! # Results of steps that may fail

A step after another has a result exactly when the first has one and the second has one for it, and it
fails exactly when one of the two does. This holds whatever the failures are: crashes of a tree, faults
in a text or refusals of a disk. A lookup in a table may fail as well; it does not notice entries of
other keys.
-/

namespace TreeInspector

variable {ε α β : Type}

theorem bind_eq_ok_iff {first : Except ε α} {next : α → Except ε β} {result : β} :
    (first >>= next) = .ok result ↔ ∃ value, first = .ok value ∧ next value = .ok result := by
  cases first with
  | error failure => simp [bind, Except.bind]
  | ok value => simp [bind, Except.bind]

theorem bind_eq_error_iff {first : Except ε α} {next : α → Except ε β} {failure : ε} :
    (first >>= next) = .error failure ↔
      first = .error failure ∨ ∃ value, first = .ok value ∧ next value = .error failure := by
  cases first with
  | error other => simp [bind, Except.bind]
  | ok value => simp [bind, Except.bind]

theorem map_eq_ok_iff {first : Except ε α} {next : α → β} {result : β} :
    first.map next = .ok result ↔ ∃ value, first = .ok value ∧ next value = result := by
  cases first with
  | error failure => simp [Except.map]
  | ok value => simp [Except.map]

theorem mapError_eq_ok_iff {δ : Type} {first : Except ε α} {change : ε → δ} {result : α} :
    first.mapError change = .ok result ↔ first = .ok result := by
  cases first with
  | error failure => simp [Except.mapError]
  | ok value => simp [Except.mapError]

theorem toOption_eq_some_iff {first : Except ε α} {value : α} :
    first.toOption = some value ↔ first = .ok value := by
  cases first with
  | error failure => simp [Except.toOption]
  | ok other => simp [Except.toOption]

/-- Taking entries out of a table does not matter to the keys that are kept. -/
theorem lookup_filter {κ : Type} [BEq κ] [LawfulBEq κ] (entries : List (κ × α)) (kept : κ → Bool) {key : κ}
    (keeps : kept key = true) : (entries.filter fun entry => kept entry.1).lookup key = entries.lookup key := by
  induction entries with
  | nil => rfl
  | cons entry rest ih =>
    obtain ⟨other, value⟩ := entry
    rw [List.filter_cons]
    split_ifs with here
    · rw [List.lookup_cons, List.lookup_cons, ih]
    · have elsewhere : (key == other) = false := by
        rw [beq_eq_false_iff_ne]
        rintro rfl
        exact here keeps
      rw [ih, List.lookup_cons, elsewhere]

end TreeInspector
