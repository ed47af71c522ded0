import TreeInspector.Proofs.Dispatch.Calls
import TreeInspector.Proofs.Window.Evolution

/-! # What is closed stays closed

Whatever is sent to the owner of the windows acts on them by operations of their registry. So all that
happens between two moments of an exchange is a run of operations: a window that was told to a caller is
known to the registry from then on, and once it was closed it is never open again.
-/

namespace TreeInspector

open Registry (Ledger)

/-- What a message does to the windows is made of operations of their registry. -/
def Message.Lawful : Message Task → Prop
  | .run (.act action) => ∀ registry, Registry.Becomes registry (action registry)
  | _ => True

theorem Errand.lawful_message (errand : Errand) : errand.message.Lawful := by
  cases errand with
  | requestClose id => exact (Registry.Action.close id).byOperations
  | act action => exact action.byOperations
  | _ => trivial

theorem Workspace.becomes_execute {task : Task} (lawful : (Message.run task).Lawful) (workspace : Workspace) :
    workspace.registry.Becomes (workspace.execute task).1.registry := by
  cases task with
  | openWindow call session => exact .openWindow ..
  | act action => exact lawful workspace.registry
  | note text => exact .refl _
  | crash cause => exact .refl _

/-- A window that is closed is closed for good. -/
theorem Registry.Becomes.closed {registry next : Registry} (becomes : registry.Becomes next)
    {handles : List WindowId} {operations : List Operation}
    (accounts : (Ledger.mk registry handles).Accounts operations) {id : WindowId} (given : id ∈ handles)
    (closed : registry.phase id = .closed) : next.phase id = .closed := by
  obtain ⟨later, more, accountsLater, kept⟩ := becomes.accounts accounts
  have removed : Removed operations id := (accounts.phase_eq_closed_iff given).mp closed
  exact (accountsLater.phase_eq_closed_iff (kept given)).mpr (removed.append (accounts.known given) more)

namespace Construction

/-- A construction goes along with an account of the windows, and the number it is answered is a handle. -/
theorem accounts_after (construction : Construction) {handles : List WindowId}
    {operations : List Registry.Operation}
    (accounts : (Ledger.mk construction.before handles).Accounts operations) :
    ∃ later more, (Ledger.mk construction.after later).Accounts more ∧ handles ⊆ later ∧
      ∀ id, construction.answer = .ok id → id ∈ later := by
  obtain ⟨next, performed, accountsNext, _⟩ := accounts.step (.openWindow construction.session)
  have opens : Ledger.perform ⟨construction.before, handles⟩ (.openWindow construction.session) =
      .ok ⟨construction.after,
        handles ++ (construction.before.openWindow construction.session).1.toOption.toList⟩ := rfl
  obtain rfl := Except.ok.inj (performed.symm.trans opens)
  refine ⟨_, _, accountsNext, List.subset_append_left .., fun id answer => ?_⟩
  have opened : (construction.before.openWindow construction.session).1 = .ok id := mapError_eq_ok_iff.mp answer
  rw [opened]
  exact List.mem_append_right _ (List.mem_singleton_self id)

end Construction

namespace Exchange

/-- The owner takes one construction at a time. -/
theorem Serves.unique {exchange : Exchange} {first second : Construction} (serves : exchange.Serves first)
    (servesSecond : exchange.Serves second) : first = second := by
  obtain ⟨call, session, before⟩ := first
  have heads := serves.first.symm.trans servesSecond.first
  have befores := serves.before.symm.trans servesSecond.before
  cases heads
  cases befores
  rfl

/-- All that is queued is lawful. -/
def Lawful (exchange : Exchange) : Prop := ∀ message ∈ exchange.queued, message.Lawful

/-- The windows are accounted for, and every window that a construction was answered is known. -/
def Known (exchange : Exchange) : Prop := ∃ handles operations,
  (Ledger.mk exchange.registry handles).Accounts operations ∧
    ∀ construction ∈ exchange.built, ∀ id, construction.answer = .ok id → id ∈ handles

section Step

variable {exchange : Exchange}

theorem Lawful.enqueue (lawful : exchange.Lawful) {message : Message Task} (isLawful : message.Lawful) :
    (exchange.enqueue message).Lawful := by
  intro other member
  rcases List.mem_append.mp member with before | last
  · exact lawful other before
  · rwa [List.mem_singleton.mp last]

theorem Lawful.step (lawful : exchange.Lawful) (move : Move) : (exchange.step move).Lawful := by
  cases move with
  | call session =>
    dsimp only [Exchange.step, Coordinator.beginOpen]
    split_ifs
    · exact lawful
    · exact lawful
  | check call =>
    dsimp only [Exchange.step]
    split
    · split
      · exact lawful
      · exact lawful
    · exact lawful
  | push call =>
    dsimp only [Exchange.step]
    split
    · next session _ =>
      have isLawful : (Message.run (.openWindow call session)).Lawful := trivial
      split
      · exact lawful.enqueue isLawful
      · exact lawful
    · exact lawful
  | complete call =>
    dsimp only [Exchange.step]
    split
    · exact lawful
    · exact lawful
  | post errand =>
    dsimp only [Exchange.step]
    split
    · exact lawful.enqueue errand.lawful_message
    · exact lawful
  | take =>
    have behind {message : Message Task} {rest : List (Message Task)}
        (first : exchange.queued = message :: rest) : ∀ other ∈ rest, other.Lawful :=
      fun other member => lawful other (first ▸ List.mem_cons_of_mem _ member)
    dsimp only [Exchange.step]
    split
    · exact List.forall_mem_nil _
    · next rest first => exact behind first
    · next task rest first => exact behind first
  | operate action => exact lawful
  | retire => exact lawful
  | disconnect => exact List.forall_mem_nil _

/-- A step of anybody but the owner leaves the windows alone. -/
theorem registry_step {move : Move} (other : move ≠ .take) (still : ∀ action, move ≠ .operate action) :
    (exchange.step move).registry = exchange.registry := by
  cases move with
  | call session =>
    dsimp only [step, Coordinator.beginOpen]
    split_ifs <;> rfl
  | check call =>
    dsimp only [step]
    split
    · split <;> rfl
    · rfl
  | push call =>
    dsimp only [step]
    split
    · split <;> rfl
    · rfl
  | complete call =>
    dsimp only [step]
    split <;> rfl
  | post errand =>
    dsimp only [step]
    split <;> rfl
  | take => exact absurd rfl other
  | operate action => exact absurd rfl (still action)
  | retire => rfl
  | disconnect => exact registry_decideAll ..

/-- What a move does to the windows is made of operations of their registry. -/
theorem Lawful.becomes (lawful : exchange.Lawful) (move : Move) :
    exchange.registry.Becomes (exchange.step move).registry := by
  by_cases taking : move = .take
  · subst taking
    dsimp only [Exchange.step]
    split
    · exact .refl _
    · exact .refl _
    · next task rest first =>
      have isLawful : (Message.run task).Lawful := lawful _ (first ▸ List.mem_cons_self)
      exact Workspace.becomes_execute isLawful exchange.coordinator.workspace
  · by_cases operating : ∃ action, move = .operate action
    · obtain ⟨action, rfl⟩ := operating
      exact action.byOperations exchange.registry
    · rw [registry_step taking fun action same => operating ⟨action, same⟩]
      exact .refl _

theorem Lawful.becomes_run (lawful : exchange.Lawful) (moves : List Move) :
    exchange.registry.Becomes (exchange.run moves).registry := by
  induction moves generalizing exchange with
  | nil => exact .refl _
  | cons move moves ih => exact (lawful.becomes move).trans (ih (lawful.step move))

theorem Known.step (known : exchange.Known) (lawful : exchange.Lawful) (move : Move) :
    (exchange.step move).Known := by
  obtain ⟨handles, operations, accounts, told⟩ := known
  by_cases serving : ∃ construction, move = .take ∧ exchange.Serves construction
  · obtain ⟨construction, rfl, serves⟩ := serving
    rw [serves.before] at accounts
    obtain ⟨later, more, accountsLater, kept, answered⟩ := construction.accounts_after accounts
    rw [← serves.after] at accountsLater
    refine ⟨later, more, accountsLater, fun other member id answer => ?_⟩
    rcases mem_built_step member with old | ⟨_, servesOther⟩
    · exact kept (told other old id answer)
    · obtain rfl := servesOther.unique serves
      exact answered id answer
  · obtain ⟨later, more, accountsLater, kept⟩ := (lawful.becomes move).accounts accounts
    refine ⟨later, operations ++ more, accountsLater, fun construction member id answer => ?_⟩
    rcases mem_built_step member with old | ⟨taking, serves⟩
    · exact kept (told construction old id answer)
    · exact absurd ⟨construction, taking, serves⟩ serving

end Step

/-- Everything in a run is lawful, and every window that was told is known. -/
theorem lawful_run (moves : List Move) : (fresh.run moves).Lawful ∧ (fresh.run moves).Known := by
  induction moves using List.reverseRecOn with
  | nil =>
    refine ⟨List.forall_mem_nil _, [], [], Ledger.accounts_empty, ?_⟩
    exact fun construction member => nomatch member
  | append_singleton moves move ih =>
    rw [run, List.foldl_append]
    exact ⟨ih.1.step move, ih.2.step ih.1 move⟩

/-- A window that a caller was told and that is closed stays closed. -/
theorem Sound.closed_run {exchange : Exchange} (sound : exchange.Sound) (lawful : exchange.Lawful)
    (known : exchange.Known) {call : Nat} {id : WindowId} (told : (call, .ok id) ∈ exchange.completed)
    (closed : exchange.registry.phase id = .closed) (moves : List Move) :
    (exchange.run moves).registry.phase id = .closed := by
  obtain ⟨construction, member, _, answer⟩ := (sound.told_iff told (.ok id) (by simp)).mp rfl
  obtain ⟨handles, operations, accounts, answered⟩ := known
  exact (lawful.becomes_run moves).closed accounts (answered construction member id answer) closed

end Exchange

end TreeInspector
