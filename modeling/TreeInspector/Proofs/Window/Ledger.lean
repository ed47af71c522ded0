import TreeInspector.Proofs.Window.Operations
import TreeInspector.Proofs.Window.Registry

/-! # Runs of a registry

A ledger keeps, beside the registry, the handles it gave out. Every run of operations leaves it in a
state that the operations alone determine: a handle belongs to each attempt to open a window that did
not crash, its window is open unless a later operation closed it, and an open window is what its own
session and its own events make of it. All guarantees of the registry follow from this account.
-/

namespace TreeInspector

namespace Registry

/-- A registry with the handles that it gave out. -/
structure Ledger where
  registry : Registry
  handles : List WindowId

namespace Ledger

/-- No window was ever opened. -/
def empty : Ledger := ⟨.empty, []⟩

/-- Carry out an operation; the answer to an attempt to open a window is kept as a handle. -/
def perform (ledger : Ledger) : Operation → Except Crash Ledger
  | .openWindow session =>
    let (answer, registry) := ledger.registry.openWindow session
    .ok ⟨registry, ledger.handles ++ answer.toOption.toList⟩
  | .close id => .ok { ledger with registry := (ledger.registry.close id).2 }
  | .closeDismissed => .ok { ledger with registry := ledger.registry.closeDismissed.2 }
  | .closeAll => .ok { ledger with registry := ledger.registry.closeAll }
  | .handle id event => (ledger.registry.handle id event).map fun registry => { ledger with registry }

/-- Carry out operations one after the other. -/
def performAll (ledger : Ledger) (operations : List Operation) : Except Crash Ledger :=
  operations.foldlM perform ledger

/-- The ledger is what the operations of a run make of it. -/
structure Accounts (ledger : Ledger) (operations : List Operation) : Prop where
  attempts : ledger.registry.attempts = attemptsIn operations
  increasing : (ledger.registry.windows.map Window.id).Pairwise (· < ·)
  ordered : ledger.handles.Pairwise (· < ·)
  given : ∀ id, id ∈ ledger.handles ↔ ∃ session window,
    (session, id) ∈ numbered operations ∧ Window.construct id session = .ok window
  opened : ∀ id, ledger.registry.isOpen id = true ↔ id ∈ ledger.handles ∧ ¬Removed operations id
  records : ledger.registry.Records ledger.handles
  traced : ∀ window ∈ ledger.registry.windows, Traced operations window

theorem accounts_empty : empty.Accounts [] where
  attempts := rfl
  increasing := .nil
  ordered := .nil
  given id := by simp [empty, numbered]
  opened id := by simp [empty, Registry.empty, isOpen]
  records := rfl
  traced := by simp [empty, Registry.empty]

/-- The windows that an operation does not concern. -/
def others (operations : List Operation) (operation : Operation) (windows : List Window) : List Window :=
  windows.filter fun window =>
    !operation.concerns (attemptsIn operations) window.id (dismissed operations window.id)

theorem mem_close_iff (windows : List Window) (operations : List Operation) (id : WindowId) :
    ∀ window ∈ windows, window.id ∈ [id] ↔
      (Operation.close id).closes window.id (dismissed operations window.id) = true := by
  intro window _
  rw [List.mem_singleton, Operation.closes, beq_iff_eq, Eq.comm]

theorem mem_closeAll_iff (windows : List Window) (operations : List Operation) :
    ∀ window ∈ windows, window.id ∈ windows.map Window.id ↔
      Operation.closeAll.closes window.id (dismissed operations window.id) = true :=
  fun _ member => iff_of_true (List.mem_map_of_mem member) rfl

section Step

variable {ledger : Ledger} {operations : List Operation} (accounts : ledger.Accounts operations)
include accounts

theorem Accounts.known {id : WindowId} (given : id ∈ ledger.handles) : id ≤ attemptsIn operations := by
  obtain ⟨_, _, member, _⟩ := (accounts.given id).mp given
  exact (bounds_of_numbered member).2

theorem Accounts.distinct : (ledger.registry.windows.map Window.id).Nodup :=
  accounts.increasing.imp Nat.ne_of_lt

/-- An operation that opens no window gives out no handle. -/
theorem Accounts.given_concat {operation : Operation} (unopened : operation.session? = none)
    (id : WindowId) : id ∈ ledger.handles ↔ ∃ session window,
      (session, id) ∈ numbered (operations ++ [operation]) ∧ Window.construct id session = .ok window := by
  have same : numbered (operations ++ [operation]) = numbered operations := by
    simp [numbered_append, unopened]
  rw [same, accounts.given]

theorem Accounts.attempts_concat {operation : Operation} (unopened : operation.session? = none) :
    ledger.registry.attempts = attemptsIn (operations ++ [operation]) := by
  rw [accounts.attempts, attemptsIn, attemptsIn]
  simp [unopened]

/-- An operation that closes no window leaves the open windows open. -/
theorem Accounts.opened_concat {operation : Operation}
    (harmless : ∀ id pressed, operation.closes id pressed = false) (id : WindowId) :
    ledger.registry.isOpen id = true ↔
      id ∈ ledger.handles ∧ ¬Removed (operations ++ [operation]) id := by
  rw [accounts.opened]
  refine and_congr_right fun given => ?_
  rw [removed_concat (accounts.known given), harmless, Bool.false_eq_true, or_false]

section Closing

variable {operation : Operation} {ids : List WindowId} (closing : ∀ window ∈ ledger.registry.windows,
  window.id ∈ ids ↔ operation.closes window.id (dismissed operations window.id) = true)
include closing

/-- Closing the numbers of the windows that an operation closes removes just these windows. -/
theorem Accounts.windows_closeEach : (ledger.registry.closeEach ids).windows =
    ledger.registry.windows.filter fun window =>
      !operation.closes window.id (dismissed operations window.id) := by
  rw [Registry.windows_closeEach accounts.distinct]
  apply List.filter_congr
  intro window member
  rw [Bool.eq_iff_iff, decide_eq_true_iff, closing window member, Bool.not_eq_true, Bool.not_eq_true']

theorem Accounts.closeEach (unopened : operation.session? = none)
    (silent : ∀ id, operation.event? id = none) :
    (Ledger.mk (ledger.registry.closeEach ids) ledger.handles).Accounts (operations ++ [operation]) := by
  have windows := accounts.windows_closeEach closing
  constructor
  · exact (attempts_closeEach ..).trans (accounts.attempts_concat unopened)
  · rw [windows]
    exact accounts.increasing.sublist (List.filter_sublist.map _)
  · exact accounts.ordered
  · exact accounts.given_concat unopened
  · intro id
    have shown : (ledger.registry.closeEach ids).isOpen id = true ↔
        ledger.registry.isOpen id = true ∧ ¬operation.closes id (dismissed operations id) = true := by
      simp only [isOpen_iff, windows, List.mem_map, List.mem_filter, Bool.not_eq_true, Bool.not_eq_true']
      constructor
      · rintro ⟨window, ⟨member, spared⟩, rfl⟩
        exact ⟨⟨window, member, rfl⟩, spared⟩
      · rintro ⟨⟨window, member, rfl⟩, spared⟩
        exact ⟨window, ⟨member, spared⟩, rfl⟩
    rw [shown, accounts.opened, and_assoc]
    refine and_congr_right fun given => ?_
    rw [removed_concat (accounts.known given), not_or]
  · exact accounts.records.closeEach accounts.distinct ids
  · intro window member
    rw [windows] at member
    exact (accounts.traced window (List.mem_of_mem_filter member)).skip (silent window.id)

/-- An operation that closes windows concerns just the windows that it closes. -/
theorem Accounts.others_closeEach
    (concerned : ∀ id pressed,
      operation.concerns (attemptsIn operations) id pressed = operation.closes id pressed) :
    others operations operation (ledger.registry.closeEach ids).windows =
      others operations operation ledger.registry.windows := by
  rw [others, others, accounts.windows_closeEach closing, List.filter_filter]
  apply List.filter_congr
  intro window _
  rw [concerned, Bool.and_self]

end Closing

/-- The windows that ask to be closed are those whose ok button was pressed. -/
theorem Accounts.filter_closeRequested : ledger.registry.windows.filter Window.closeRequested =
    ledger.registry.windows.filter fun window => dismissed operations window.id :=
  List.filter_congr fun window member => (accounts.traced window member).closeRequested_eq

theorem Accounts.mem_closeDismissed_iff : ∀ window ∈ ledger.registry.windows,
    window.id ∈ ledger.registry.closeDismissed.1 ↔
      Operation.closeDismissed.closes window.id (dismissed operations window.id) = true := by
  intro window member
  rw [closeDismissed, accounts.filter_closeRequested, List.mem_map, Operation.closes]
  constructor
  · rintro ⟨other, among, same⟩
    rw [← same]
    exact (List.mem_filter.mp among).2
  · intro pressed
    exact ⟨window, List.mem_filter.mpr ⟨member, pressed⟩, rfl⟩

/-- An event for a window that is not open is ignored. -/
theorem Accounts.ignore {id : WindowId} (missing : ¬ledger.registry.isOpen id = true)
    (event : Window.Event) : ledger.Accounts (operations ++ [.handle id event]) := by
  constructor
  · exact accounts.attempts_concat rfl
  · exact accounts.increasing
  · exact accounts.ordered
  · exact accounts.given_concat rfl
  · exact accounts.opened_concat fun _ _ => rfl
  · exact accounts.records
  · intro window member
    apply (accounts.traced window member).skip
    rw [Operation.event?, if_neg]
    rintro rfl
    exact missing ((isOpen_iff ..).mpr (List.mem_map_of_mem member))

/-- An event changes its own window only. -/
theorem Accounts.put {window next : Window} (same : next.id = window.id) {event : Window.Event}
    (traced : Traced (operations ++ [.handle window.id event]) next) :
    (Ledger.mk (ledger.registry.put next) ledger.handles).Accounts
      (operations ++ [.handle window.id event]) := by
  have shown : (ledger.registry.put next).isOpen = ledger.registry.isOpen := by
    funext id
    rw [Bool.eq_iff_iff, isOpen_iff, isOpen_iff, ids_put]
  constructor
  · exact accounts.attempts_concat rfl
  · rw [ids_put]
    exact accounts.increasing
  · exact accounts.ordered
  · exact accounts.given_concat rfl
  · rw [shown]
    exact accounts.opened_concat fun _ _ => rfl
  · rw [Records, shown]
    exact accounts.records
  · intro other among
    obtain ⟨before, memberBefore, rfl⟩ := List.mem_map.mp among
    by_cases replaced : before.id = next.id
    · rwa [if_pos replaced]
    · rw [if_neg replaced]
      apply (accounts.traced before memberBefore).skip
      rw [Operation.event?, if_neg]
      rw [← same]
      exact Ne.symm replaced

theorem Accounts.mem_numbered_open {session other : Session} {id : WindowId} :
    (other, id) ∈ numbered (operations ++ [.openWindow session]) ↔
      (other, id) ∈ numbered operations ∨ other = session ∧ id = ledger.registry.attempts + 1 := by
  rw [numbered_append, List.mem_append, accounts.attempts, Nat.add_comm]
  exact or_congr_right (List.mem_singleton.trans Prod.mk_inj)

theorem Accounts.attempts_open (session : Session) :
    ledger.registry.attempts + 1 = attemptsIn (operations ++ [.openWindow session]) := by
  rw [accounts.attempts, attemptsIn, attemptsIn, List.filterMap_append, List.length_append]
  rfl

/-- A crash uses up a number and nothing else. -/
theorem Accounts.crash {session : Session} {crash : Crash}
    (crashes : Window.construct (ledger.registry.attempts + 1) session = .error crash) :
    (Ledger.mk { ledger.registry with attempts := ledger.registry.attempts + 1 } ledger.handles).Accounts
      (operations ++ [.openWindow session]) := by
  constructor
  · exact accounts.attempts_open session
  · exact accounts.increasing
  · exact accounts.ordered
  · intro id
    rw [accounts.given]
    constructor
    · rintro ⟨other, window, member, built⟩
      exact ⟨other, window, accounts.mem_numbered_open.mpr (.inl member), built⟩
    · rintro ⟨other, window, member, built⟩
      rcases accounts.mem_numbered_open.mp member with member | ⟨rfl, rfl⟩
      · exact ⟨other, window, member, built⟩
      · rw [crashes] at built
        cases built
  · exact accounts.opened_concat fun _ _ => rfl
  · exact accounts.records
  · intro window member
    exact (accounts.traced window member).skip rfl

/-- A new window is the last one and has the next number. -/
theorem Accounts.open {session : Session} {window : Window}
    (built : Window.construct (ledger.registry.attempts + 1) session = .ok window) :
    (Ledger.mk ⟨ledger.registry.windows ++ [window], ledger.registry.attempts + 1,
      ledger.registry.phases ++ [(ledger.registry.attempts + 1, .shown)]⟩
      (ledger.handles ++ [ledger.registry.attempts + 1])).Accounts
        (operations ++ [.openWindow session]) := by
  have number := Window.id_of_construct built
  have harmless : ∀ id pressed, (Operation.openWindow session).closes id pressed = false := fun _ _ => rfl
  -- The new number is past all handles, so no earlier handle can name the new window.
  have bounded : ∀ id ∈ ledger.handles, id < ledger.registry.attempts + 1 := by
    intro id given
    rw [accounts.attempts]
    exact Nat.lt_succ_of_le (accounts.known given)
  have handled : ∀ id, ledger.registry.isOpen id = true → id ∈ ledger.handles :=
    fun id shown => ((accounts.opened id).mp shown).1
  have shown (id : WindowId) :
      (Registry.mk (ledger.registry.windows ++ [window]) (ledger.registry.attempts + 1)
        (ledger.registry.phases ++ [(ledger.registry.attempts + 1, .shown)])).isOpen id = true ↔
      ledger.registry.isOpen id = true ∨ id = ledger.registry.attempts + 1 := by
    rw [isOpen_iff, isOpen_iff, List.map_append, List.mem_append, List.map_singleton, List.mem_singleton, number]
  constructor
  · exact accounts.attempts_open session
  · rw [List.map_append, List.map_singleton, number, List.pairwise_append]
    refine ⟨accounts.increasing, List.pairwise_singleton .., ?_⟩
    intro id member last only
    rw [List.mem_singleton.mp only]
    exact bounded id (handled id ((isOpen_iff ..).mpr member))
  · rw [List.pairwise_append]
    refine ⟨accounts.ordered, List.pairwise_singleton .., ?_⟩
    intro id given last only
    rw [List.mem_singleton.mp only]
    exact bounded id given
  · intro id
    rw [List.mem_append, List.mem_singleton, accounts.given]
    constructor
    · rintro (⟨other, earlier, member, builtEarlier⟩ | rfl)
      · exact ⟨other, earlier, accounts.mem_numbered_open.mpr (.inl member), builtEarlier⟩
      · exact ⟨session, window, accounts.mem_numbered_open.mpr (.inr ⟨rfl, rfl⟩), built⟩
    · rintro ⟨other, earlier, member, builtEarlier⟩
      rcases accounts.mem_numbered_open.mp member with member | ⟨_, last⟩
      · exact .inl ⟨other, earlier, member, builtEarlier⟩
      · exact .inr last
  · intro id
    rw [shown, accounts.opened_concat harmless, List.mem_append, List.mem_singleton]
    constructor
    · rintro (⟨given, kept⟩ | rfl)
      · exact ⟨.inl given, kept⟩
      · rw [accounts.attempts]
        exact ⟨.inr rfl, not_removed_open operations session⟩
    · rintro ⟨given | last, kept⟩
      · exact .inl ⟨given, kept⟩
      · exact .inr last
  · simp only [Records, shown, List.map_append, List.map_singleton, or_true, if_true]
    rw [accounts.records]
    refine congrArg (· ++ _) (List.map_congr_left fun id given => ?_)
    simp only [Nat.ne_of_lt (bounded id given), or_false]
  · intro other among
    rcases List.mem_append.mp among with member | only
    · exact (accounts.traced other member).skip rfl
    · rw [List.mem_singleton.mp only]
      rw [accounts.attempts] at built
      exact traced_construct built

/-- Every operation is carried out, keeps the account and leaves other windows alone. -/
theorem Accounts.step (operation : Operation) : ∃ next, ledger.perform operation = .ok next ∧
    next.Accounts (operations ++ [operation]) ∧
    others operations operation next.registry.windows =
      others operations operation ledger.registry.windows := by
  cases operation with
  | openWindow session =>
    cases result : Window.construct (ledger.registry.attempts + 1) session with
    | error crash =>
      refine ⟨_, ?_, accounts.crash result, rfl⟩
      rw [perform, openWindow, result]
      exact congrArg (fun handles => Except.ok (Ledger.mk _ handles)) (List.append_nil _)
    | ok window =>
      refine ⟨_, ?_, accounts.open result, ?_⟩
      · rw [perform, openWindow, result]
        rfl
      · rw [others, List.filter_append, List.filter_cons_of_neg, List.filter_nil, List.append_nil, others]
        simp [Operation.concerns, Window.id_of_construct result, accounts.attempts]
  | close id =>
    have closing := mem_close_iff ledger.registry.windows operations id
    exact ⟨_, rfl, accounts.closeEach closing rfl fun _ => rfl,
      accounts.others_closeEach closing fun _ _ => rfl⟩
  | closeDismissed =>
    exact ⟨_, rfl, accounts.closeEach accounts.mem_closeDismissed_iff rfl fun _ => rfl,
      accounts.others_closeEach accounts.mem_closeDismissed_iff fun _ _ => rfl⟩
  | closeAll =>
    have closing := mem_closeAll_iff ledger.registry.windows operations
    exact ⟨_, rfl, accounts.closeEach closing rfl fun _ => rfl,
      accounts.others_closeEach closing fun _ _ => rfl⟩
  | handle id event =>
    cases found : ledger.registry.get? id with
    | none =>
      refine ⟨ledger, ?_, accounts.ignore (get?_eq_none_iff.mp found) event, rfl⟩
      rw [perform, Registry.handle, found]
      rfl
    | some window =>
      obtain ⟨member, rfl⟩ := get?_eq_some found
      obtain ⟨next, handled, same, traced⟩ := (accounts.traced window member).handle event
      refine ⟨_, ?_, accounts.put same traced, ?_⟩
      · simp only [perform, Registry.handle, found, handled]
        rfl
      · refine filter_put (fun id => !Operation.concerns (attemptsIn operations) id
          (dismissed operations id) (.handle window.id event)) ?_ ledger.registry
        simp [Operation.concerns, same]

/-- Every run of operations is carried out and accounted for. -/
theorem Accounts.run (more : List Operation) :
    ∃ later, ledger.performAll more = .ok later ∧ later.Accounts (operations ++ more) := by
  induction more generalizing ledger operations with
  | nil => exact ⟨ledger, rfl, by rwa [List.append_nil]⟩
  | cons operation more ih =>
    obtain ⟨next, performed, accounts, _⟩ := accounts.step operation
    obtain ⟨later, ran, accounts⟩ := ih accounts
    refine ⟨later, ?_, ?_⟩
    · rw [performAll, List.foldlM_cons, performed]
      exact ran
    · rwa [List.append_assoc] at accounts

theorem Accounts.phase_eq_shown_iff {id : WindowId} (given : id ∈ ledger.handles) :
    ledger.registry.phase id = .shown ↔ ledger.registry.isOpen id = true := by
  rw [accounts.records.phase_eq given]
  split <;> simp_all

/-- A handle is closed exactly if its window was removed. -/
theorem Accounts.phase_eq_closed_iff {id : WindowId} (given : id ∈ ledger.handles) :
    ledger.registry.phase id = .closed ↔ Removed operations id := by
  have removed : Removed operations id ↔ ¬ledger.registry.isOpen id = true := by
    rw [accounts.opened]
    simp only [given, true_and, not_not]
  rw [accounts.records.phase_eq given, removed]
  split <;> simp_all

theorem Accounts.mem_handles_append {later : Ledger} {more : List Operation}
    (accountsLater : later.Accounts (operations ++ more)) {id : WindowId} (given : id ∈ ledger.handles) :
    id ∈ later.handles := by
  obtain ⟨session, window, member, built⟩ := (accounts.given id).mp given
  refine (accountsLater.given id).mpr ⟨session, window, ?_, built⟩
  rw [numbered_append]
  exact List.mem_append_left _ member

/-- After closing everything, no window is open and every handle is closed. -/
theorem Accounts.closeAll : ledger.registry.closeAll.windows = [] ∧
    ∀ id ∈ ledger.handles, ledger.registry.closeAll.phase id = .closed := by
  have closing := mem_closeAll_iff ledger.registry.windows operations
  have windows : ledger.registry.closeAll.windows = [] := by
    rw [Registry.closeAll, accounts.windows_closeEach closing]
    simp [Operation.closes]
  have records : ledger.registry.closeAll.Records ledger.handles :=
    accounts.records.closeEach accounts.distinct _
  refine ⟨windows, ?_⟩
  intro id given
  rw [records.phase_eq given, if_neg]
  rw [isOpen_iff, windows]
  exact List.not_mem_nil

end Step

/-- What holds after a run of operations, whatever comes next. -/
structure Guarantees (ledger : Ledger) (operations : List Operation) : Prop
    extends ledger.Accounts operations where
  bounded : ∀ window ∈ ledger.registry.windows, window.id ≤ ledger.registry.attempts
  shown : ∀ id ∈ ledger.handles, ledger.registry.phase id = .shown ↔ ledger.registry.isOpen id = true
  closed : ∀ id ∈ ledger.handles, ledger.registry.phase id = .closed ↔ Removed operations id
  sessions : ∀ window ∈ ledger.registry.windows, window.session.isOpen = true
  close : ∀ id, (ledger.registry.close id).1 = ledger.registry.isOpen id ∧
    (ledger.registry.close id).2.windows = ledger.registry.windows.filter fun window => window.id ≠ id
  closeDismissed :
    ledger.registry.closeDismissed.1 =
      (ledger.registry.windows.filter fun window => dismissed operations window.id).map Window.id ∧
    ledger.registry.closeDismissed.2.windows =
      ledger.registry.windows.filter fun window => !dismissed operations window.id
  apart : ∀ operation, ∃ next, ledger.perform operation = .ok next ∧
    others operations operation next.registry.windows =
      others operations operation ledger.registry.windows
  final : ∀ more, ∃ later, ledger.performAll more = .ok later ∧
    ∀ id ∈ ledger.handles, ledger.registry.phase id = .closed → later.registry.phase id = .closed
  dropped : ledger.registry.closeAll.windows = [] ∧
    ∀ id ∈ ledger.handles, ledger.registry.closeAll.phase id = .closed

/-- Every run of operations is carried out and leaves a registry with all its guarantees. -/
theorem performAll_guarantees (operations : List Operation) :
    ∃ ledger, empty.performAll operations = .ok ledger ∧ ledger.Guarantees operations := by
  obtain ⟨ledger, ran, accounts⟩ := accounts_empty.run operations
  rw [List.nil_append] at accounts
  refine ⟨ledger, ran, { accounts with
    bounded := ?_
    shown := fun _ given => accounts.phase_eq_shown_iff given
    closed := fun _ given => accounts.phase_eq_closed_iff given
    sessions := fun window member => (accounts.traced window member).isOpen
    close := ?_
    closeDismissed := ?_
    apart := ?_
    final := ?_
    dropped := accounts.closeAll }⟩
  · intro window member
    rw [accounts.attempts]
    exact (accounts.traced window member).known
  · intro id
    refine ⟨?_, windows_close accounts.distinct id⟩
    rw [Registry.close]
    split <;> simp_all
  · constructor
    · rw [Registry.closeDismissed, accounts.filter_closeRequested]
    · exact accounts.windows_closeEach accounts.mem_closeDismissed_iff
  · intro operation
    obtain ⟨next, performed, _, same⟩ := accounts.step operation
    exact ⟨next, performed, same⟩
  · intro more
    obtain ⟨later, continued, accountsLater⟩ := accounts.run more
    refine ⟨later, continued, ?_⟩
    intro id given closed
    rw [accountsLater.phase_eq_closed_iff (accounts.mem_handles_append accountsLater given)]
    exact ((accounts.phase_eq_closed_iff given).mp closed).append (accounts.known given) more

end Ledger

end Registry

end TreeInspector
