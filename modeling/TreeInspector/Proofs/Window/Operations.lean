import TreeInspector.Proofs.Window.History
import TreeInspector.Window.Registry

/-! # Operations on a registry

What a list of operations says about one window, without running any of them: the session it was to
be opened for, the events that happened to it since, and whether something closed it. Numbers are
given to all attempts to open a window, so they count the attempts that crashed as well.
-/

namespace TreeInspector

namespace Registry

/-- What can happen to a registry. -/
inductive Operation where
  | openWindow (session : Session)
  | close (id : WindowId)
  | closeDismissed
  | closeAll
  | handle (id : WindowId) (event : Window.Event)

namespace Operation

/-- The session that a window is to be opened for. -/
def session? : Operation → Option Session
  | .openWindow session => some session
  | _ => none

/-- The event that happens to the window with a number. -/
def event? (id : WindowId) : Operation → Option Window.Event
  | .handle target event => if target = id then some event else none
  | _ => none

/-- Whether the window with a number is closed, given whether its ok button was pressed. -/
def closes (id : WindowId) (pressed : Bool) : Operation → Bool
  | .close target => target == id
  | .closeDismissed => pressed
  | .closeAll => true
  | _ => false

/-- Whether the operation is about the window with a number, given also the attempts made so far. -/
def concerns (attempts : Nat) (id : WindowId) (pressed : Bool) : Operation → Bool
  | .openWindow _ => id == attempts + 1
  | .handle target _ => target == id
  | operation => operation.closes id pressed

end Operation

/-- The number of attempts to open a window. -/
def attemptsIn (operations : List Operation) : Nat := (operations.filterMap Operation.session?).length

/-- The sessions of all attempts to open a window, with the numbers given to them. -/
def numbered (operations : List Operation) : List (Session × WindowId) :=
  (operations.filterMap Operation.session?).zipIdx 1

/-- The operations behind the attempt that was given a number. -/
def since : WindowId → List Operation → List Operation
  | 0, operations => operations
  | _ + 1, [] => []
  | id + 1, operation :: rest => if operation.session?.isSome then since id rest else since (id + 1) rest

/-- The events that happened to a window since it was opened. -/
def eventsOf (id : WindowId) (operations : List Operation) : List Window.Event :=
  (since id operations).filterMap (Operation.event? id)

/-- Whether the ok button of a window was pressed since it was opened. -/
def dismissed (operations : List Operation) (id : WindowId) : Bool :=
  (eventsOf id operations).any Window.Event.dismisses

/-- Some operation closed the window since it was opened. -/
def Removed (operations : List Operation) (id : WindowId) : Prop :=
  ∃ before operation after, since id operations = before ++ operation :: after ∧
    operation.closes id ((before.filterMap (Operation.event? id)).any Window.Event.dismisses) = true

section Operations

variable {operations : List Operation} {id : WindowId}

theorem since_append (known : id ≤ attemptsIn operations) (more : List Operation) :
    since id (operations ++ more) = since id operations ++ more := by
  induction operations generalizing id with
  | nil =>
    obtain rfl := Nat.le_zero.mp known
    rw [since, since]
  | cons operation rest ih =>
    cases id with
    | zero => rw [since, since]
    | succ id =>
      rw [List.cons_append, since, since]
      cases opened : operation.session? with
      | none =>
        have below : id + 1 ≤ attemptsIn rest := by simpa [attemptsIn, opened] using known
        exact ih below
      | some session =>
        have below : id ≤ attemptsIn rest := by simpa [attemptsIn, opened] using known
        exact ih below

/-- Nothing happened yet behind the last attempt. -/
theorem since_open (operations : List Operation) (session : Session) :
    since (attemptsIn operations + 1) (operations ++ [.openWindow session]) = [] := by
  induction operations with
  | nil => rfl
  | cons operation rest ih =>
    rw [List.cons_append, since]
    cases opened : operation.session? with
    | none =>
      have count : attemptsIn (operation :: rest) = attemptsIn rest := by simp [attemptsIn, opened]
      rwa [count]
    | some earlier =>
      have count : attemptsIn (operation :: rest) = attemptsIn rest + 1 := by simp [attemptsIn, opened]
      rwa [count]

theorem eventsOf_concat (known : id ≤ attemptsIn operations) (operation : Operation) :
    eventsOf id (operations ++ [operation]) = eventsOf id operations ++ (operation.event? id).toList := by
  rw [eventsOf, since_append known, List.filterMap_append, eventsOf]
  cases here : operation.event? id <;> simp [here]

theorem removed_concat (known : id ≤ attemptsIn operations) (operation : Operation) :
    Removed (operations ++ [operation]) id ↔
      Removed operations id ∨ operation.closes id (dismissed operations id) = true := by
  rw [Removed, since_append known]
  constructor
  · rintro ⟨before, closing, after, same, closes⟩
    rcases List.eq_nil_or_concat after with rfl | ⟨after, last, rfl⟩
    · obtain ⟨rfl, rfl⟩ := List.append_singleton_inj.mp same
      exact .inr closes
    · rw [List.concat_eq_append, ← List.cons_append, ← List.append_assoc] at same
      obtain ⟨split, rfl⟩ := List.append_singleton_inj.mp same
      exact .inl ⟨before, closing, after, split, closes⟩
  · rintro (⟨before, closing, after, split, closes⟩ | closes)
    · exact ⟨before, closing, after ++ [operation], by rw [split, List.append_assoc, List.cons_append], closes⟩
    · exact ⟨since id operations, operation, [], rfl, closes⟩

theorem not_removed_open (operations : List Operation) (session : Session) :
    ¬Removed (operations ++ [.openWindow session]) (attemptsIn operations + 1) := by
  rintro ⟨before, closing, after, split, _⟩
  rw [since_open] at split
  exact List.append_ne_nil_of_right_ne_nil before (List.cons_ne_nil closing after) split.symm

/-- What was closed stays closed. -/
theorem Removed.append (removed : Removed operations id) (known : id ≤ attemptsIn operations)
    (more : List Operation) : Removed (operations ++ more) id := by
  obtain ⟨before, closing, after, split, closes⟩ := removed
  refine ⟨before, closing, after ++ more, ?_, closes⟩
  rw [since_append known, split, List.append_assoc, List.cons_append]

theorem bounds_of_numbered {session : Session} (member : (session, id) ∈ numbered operations) :
    0 < id ∧ id ≤ attemptsIn operations := by
  obtain ⟨low, high, _⟩ := List.mem_zipIdx member
  exact ⟨low, Nat.le_of_lt_add_one (Nat.add_comm 1 _ ▸ high)⟩

theorem numbered_append (operations more : List Operation) :
    numbered (operations ++ more) =
      numbered operations ++ (more.filterMap Operation.session?).zipIdx (1 + attemptsIn operations) := by
  rw [numbered, List.filterMap_append, List.zipIdx_append]
  rfl

end Operations

/-- The window is what its session and the events since it was opened make of it. -/
def Traced (operations : List Operation) (window : Window) : Prop :=
  ∃ session fresh, (session, window.id) ∈ numbered operations ∧
    Window.construct window.id session = .ok fresh ∧
    fresh.handleAll (eventsOf window.id operations) = .ok window

section Traced

variable {operations : List Operation} {window : Window}

theorem Traced.known (traced : Traced operations window) : window.id ≤ attemptsIn operations := by
  obtain ⟨_, _, member, _⟩ := traced
  exact (bounds_of_numbered member).2

/-- Operations that send no event to a window leave it as it is. -/
theorem Traced.skip (traced : Traced operations window) {operation : Operation}
    (silent : operation.event? window.id = none) : Traced (operations ++ [operation]) window := by
  have known := traced.known
  obtain ⟨session, fresh, member, built, ran⟩ := traced
  refine ⟨session, fresh, ?_, built, ?_⟩
  · rw [numbered_append]
    exact List.mem_append_left _ member
  · rwa [eventsOf_concat known, silent, Option.toList_none, List.append_nil]

theorem Traced.reflects (traced : Traced operations window) : ∃ session displayed,
    window.Reflects session displayed (eventsOf window.id operations) ∧ session.root.Sound := by
  obtain ⟨session, fresh, _, built, ran⟩ := traced
  have sound := Window.sound_of_construct built
  obtain ⟨final, again, _, reflects⟩ :=
    (Window.reflects_construct built).handleAll sound (eventsOf window.id operations)
  obtain rfl : final = window := Except.ok.inj (again.symm.trans ran)
  exact ⟨session, fresh.outline, reflects, sound⟩

/-- An event always happens, and the window is still what its events make of it. -/
theorem Traced.handle (traced : Traced operations window) (event : Window.Event) :
    ∃ next, window.handle event = .ok next ∧ next.id = window.id ∧
      Traced (operations ++ [.handle window.id event]) next := by
  obtain ⟨_, _, reflects, sound⟩ := traced.reflects
  obtain ⟨next, handled, same, _⟩ := reflects.handle sound event
  have known := traced.known
  obtain ⟨session, fresh, member, built, ran⟩ := traced
  refine ⟨next, handled, same, ?_⟩
  rw [Traced, same, eventsOf_concat known, numbered_append]
  refine ⟨session, fresh, List.mem_append_left _ member, built, ?_⟩
  rw [Operation.event?, if_pos rfl, Option.toList_some, Window.handleAll_append, ran]
  exact (bind_pure (m := Except Crash) _).trans handled

theorem traced_construct {session : Session}
    (built : Window.construct (attemptsIn operations + 1) session = .ok window) :
    Traced (operations ++ [.openWindow session]) window := by
  rw [Traced, Window.id_of_construct built, eventsOf, since_open, numbered_append]
  refine ⟨session, window, List.mem_append_right _ ?_, built, rfl⟩
  rw [Nat.add_comm]
  exact List.mem_singleton_self _

/-- A window asks to be closed exactly if its ok button was pressed. -/
theorem Traced.closeRequested_eq (traced : Traced operations window) :
    window.closeRequested = dismissed operations window.id := by
  obtain ⟨_, _, reflects, _⟩ := traced.reflects
  rw [Bool.eq_iff_iff, reflects.closeRequested, dismissed, List.any_eq_true]
  simp only [Window.dismisses_iff, exists_eq_right']

theorem Traced.isOpen (traced : Traced operations window) : window.session.isOpen = true := by
  obtain ⟨_, _, reflects, _⟩ := traced.reflects
  rw [reflects.session]

end Traced

end Registry

end TreeInspector
