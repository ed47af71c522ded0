import TreeInspector.Proofs.Screen.Frames
import TreeInspector.Proofs.Window.Ledger

/-! # Registries that go on

What a registry becomes by operations of its own does not depend on the handles that were given out.
So whoever owns a registry may go on from wherever it stands, and the account of it goes along: a
registry that is in order stays in order, and no handle is forgotten.
-/

namespace TreeInspector

namespace Registry

/-- A registry becomes another one by operations. -/
def Becomes (registry next : Registry) : Prop :=
  ∃ operations ledger, Ledger.performAll ⟨registry, []⟩ operations = .ok ledger ∧ ledger.registry = next

namespace Ledger

/-- An operation does the same to a registry whatever the handles are. -/
theorem perform_of_registry {first second : Ledger} (same : first.registry = second.registry)
    {operation : Operation} {next : Ledger} (performed : first.perform operation = .ok next) :
    ∃ other, second.perform operation = .ok other ∧ next.registry = other.registry := by
  obtain ⟨registry, handles⟩ := first
  obtain ⟨_, others⟩ := second
  cases same
  cases operation with
  | handle id event =>
    obtain ⟨changed, handled, rfl⟩ := map_eq_ok_iff.mp performed
    exact ⟨⟨changed, others⟩, map_eq_ok_iff.mpr ⟨changed, handled, rfl⟩, rfl⟩
  | _ =>
    cases performed
    exact ⟨_, rfl, rfl⟩

theorem performAll_of_registry {first last : Ledger} {operations : List Operation}
    (performed : first.performAll operations = .ok last) (second : Ledger)
    (same : first.registry = second.registry) :
    ∃ other, second.performAll operations = .ok other ∧ last.registry = other.registry := by
  induction operations generalizing first second with
  | nil =>
    cases performed
    exact ⟨second, rfl, same⟩
  | cons operation operations ih =>
    obtain ⟨next, here, later⟩ := bind_eq_ok_iff.mp performed
    obtain ⟨other, alsoHere, same⟩ := perform_of_registry same here
    obtain ⟨final, alsoLater, same⟩ := ih later other same
    exact ⟨final, bind_eq_ok_iff.mpr ⟨other, alsoHere, alsoLater⟩, same⟩

end Ledger

namespace Becomes

theorem refl (registry : Registry) : registry.Becomes registry := ⟨[], _, rfl, rfl⟩

theorem trans {first second third : Registry} (earlier : first.Becomes second)
    (later : second.Becomes third) : first.Becomes third := by
  obtain ⟨operations, ledger, performed, rfl⟩ := earlier
  obtain ⟨more, last, continued, rfl⟩ := later
  obtain ⟨other, again, same⟩ := Ledger.performAll_of_registry continued ledger rfl
  refine ⟨operations ++ more, other, ?_, same.symm⟩
  rw [Ledger.performAll, List.foldlM_append]
  exact bind_eq_ok_iff.mpr ⟨ledger, performed, again⟩

theorem of_operation {registry : Registry} (operation : Operation) {next : Ledger}
    (performed : Ledger.perform ⟨registry, []⟩ operation = .ok next) : registry.Becomes next.registry :=
  ⟨[operation], next, bind_eq_ok_iff.mpr ⟨next, performed, rfl⟩, rfl⟩

theorem openWindow (registry : Registry) (session : Session) :
    registry.Becomes (registry.openWindow session).2 :=
  of_operation (.openWindow session) rfl

theorem close (registry : Registry) (id : WindowId) : registry.Becomes (registry.close id).2 :=
  of_operation (.close id) rfl

theorem closeEach (registry : Registry) (ids : List WindowId) : registry.Becomes (registry.closeEach ids) := by
  induction ids generalizing registry with
  | nil => exact .refl registry
  | cons id ids ih => exact (Becomes.close registry id).trans (ih _)

theorem closeDismissed (registry : Registry) : registry.Becomes registry.closeDismissed.2 :=
  of_operation .closeDismissed rfl

theorem closeAll (registry : Registry) : registry.Becomes registry.closeAll :=
  of_operation .closeAll rfl

end Becomes

/-! ## Replacing a window by what happened to it -/

theorem get?_put (registry : Registry) (window : Window) (id : WindowId) :
    (registry.put window).get? id =
      (registry.get? id).map fun other => if other.id = window.id then window else other := by
  rw [get?, put, List.find?_map, get?]
  have looked : ((fun other : Window => other.id == id) ∘
      fun other => if other.id = window.id then window else other) = fun other => other.id == id := by
    funext other
    rw [Function.comp_apply]
    split_ifs with replaced
    · rw [replaced]
    · rfl
  rw [looked]

theorem get?_put_self {registry : Registry} {window other : Window}
    (found : registry.get? window.id = some other) : (registry.put window).get? window.id = some window := by
  rw [get?_put, found, Option.map_some, if_pos (get?_eq_some found).2]

theorem get?_put_of_ne {registry : Registry} {window : Window} {id : WindowId} (differs : id ≠ window.id) :
    (registry.put window).get? id = registry.get? id := by
  rw [get?_put]
  cases found : registry.get? id with
  | none => rfl
  | some other => rw [Option.map_some, (get?_eq_some found).2, if_neg differs]

theorem put_put (registry : Registry) {first second : Window} (same : first.id = second.id) :
    (registry.put first).put second = registry.put second := by
  rw [put, put, put, List.map_map]
  congr 1
  apply List.map_congr_left
  intro other _
  rw [Function.comp_apply, same]
  by_cases replaced : other.id = second.id
  · simp [replaced, same]
  · simp [replaced]

theorem exists_get? {registry : Registry} {id : WindowId} (shown : id ∈ registry.windows.map Window.id) :
    ∃ window, registry.get? id = some window := by
  rw [← isOpen_iff] at shown
  exact Option.ne_none_iff_exists'.mp fun missing => get?_eq_none_iff.mp missing shown

/-- The window that is looked up is the only one with its number. -/
theorem get?_of_mem {registry : Registry} (distinct : (registry.windows.map Window.id).Nodup)
    {window : Window} (member : window ∈ registry.windows) : registry.get? window.id = some window := by
  obtain ⟨found, located⟩ := exists_get? (List.mem_map_of_mem member)
  obtain ⟨among, same⟩ := get?_eq_some located
  rw [located, List.inj_on_of_nodup_map distinct among member same]

theorem windows_closeDismissed {registry : Registry} (distinct : (registry.windows.map Window.id).Nodup) :
    registry.closeDismissed.2.windows = registry.windows.filter fun window => !window.closeRequested := by
  rw [closeDismissed, windows_closeEach distinct]
  apply List.filter_congr
  intro window member
  have pressed : window.id ∈ (registry.windows.filter Window.closeRequested).map Window.id ↔
      window.closeRequested = true := by
    rw [List.mem_map]
    constructor
    · rintro ⟨other, among, same⟩
      obtain ⟨memberOther, requested⟩ := List.mem_filter.mp among
      exact List.inj_on_of_nodup_map distinct memberOther member same ▸ requested
    · exact fun requested => ⟨window, List.mem_filter.mpr ⟨member, requested⟩, rfl⟩
  simp [pressed]

/-- A window that stays is found in what is left as before. -/
theorem get?_of_sublist {first second : Registry} (distinct : (first.windows.map Window.id).Nodup)
    (sublist : second.windows.Sublist first.windows) {id : WindowId}
    (stays : id ∈ second.windows.map Window.id) : second.get? id = first.get? id := by
  obtain ⟨window, member, rfl⟩ := List.mem_map.mp stays
  rw [get?_of_mem (distinct.sublist (sublist.map _)) member, get?_of_mem distinct (sublist.subset member)]

/-- An event that happens to an open window replaces it. -/
theorem Becomes.put_one {registry : Registry} {window next : Window}
    (found : registry.get? window.id = some window) {event : Window.Event}
    (handled : window.handle event = .ok next) : registry.Becomes (registry.put next) := by
  have performed : Ledger.perform ⟨registry, []⟩ (.handle window.id event) = .ok ⟨registry.put next, []⟩ := by
    simp only [Ledger.perform, handle, found, handled]
    rfl
  exact of_operation _ performed

/-- Events that happen to an open window replace it. -/
theorem Becomes.put {registry : Registry} {window next : Window}
    (found : registry.get? window.id = some window) (steady : window.Steady) {event : Window.Event}
    {events : List Window.Event} (ran : window.handleAll (event :: events) = .ok next) :
    registry.Becomes (registry.put next) := by
  induction events generalizing window event registry with
  | nil =>
    obtain ⟨mid, handled, same⟩ := bind_eq_ok_iff.mp ran
    cases same
    exact put_one found handled
  | cons later events ih =>
    obtain ⟨mid, handled, rest⟩ := bind_eq_ok_iff.mp ran
    obtain ⟨_, again, steadyMid, same, _⟩ := steady.handle event
    cases handled.symm.trans again
    have foundMid : registry.get? mid.id = some window := same ▸ found
    obtain ⟨_, ranAgain, _, sameNext, _⟩ := steadyMid.handleAll (later :: events)
    cases ranAgain.symm.trans rest
    rw [← put_put registry sameNext.symm]
    exact (put_one found handled).trans (ih (get?_put_self foundMid) steadyMid rest)

/-! ## Numbers that are given out

No number is given out twice: a window that was not open before has a number that was not given out
before.
-/

/-- Whatever is open then was open before or has a number given out since. -/
def Extends (registry next : Registry) : Prop :=
  registry.attempts ≤ next.attempts ∧ ∀ id ∈ next.windows.map Window.id,
    id ∈ registry.windows.map Window.id ∨ registry.attempts < id

theorem extends_of_sublist {registry next : Registry} (attempts : next.attempts = registry.attempts)
    (sublist : (next.windows.map Window.id).Sublist (registry.windows.map Window.id)) : registry.Extends next :=
  ⟨attempts.ge, fun _ shown => .inl (sublist.subset shown)⟩

theorem Extends.trans {first second third : Registry} (earlier : first.Extends second)
    (later : second.Extends third) : first.Extends third := by
  refine ⟨earlier.1.trans later.1, fun id shown => ?_⟩
  rcases later.2 id shown with before | new
  · exact earlier.2 id before
  · exact .inr (earlier.1.trans_lt new)

theorem extends_close (registry : Registry) (id : WindowId) : registry.Extends (registry.close id).2 := by
  apply extends_of_sublist (attempts_close ..)
  rw [close]
  split_ifs
  · exact List.eraseP_sublist.map _
  · exact .refl _

theorem extends_closeEach (registry : Registry) (ids : List WindowId) :
    registry.Extends (registry.closeEach ids) := by
  induction ids generalizing registry with
  | nil => exact extends_of_sublist rfl (.refl _)
  | cons id ids ih => exact (extends_close registry id).trans (ih _)

theorem extends_openWindow (registry : Registry) (session : Session) :
    registry.Extends (registry.openWindow session).2 := by
  cases built : Window.construct (registry.attempts + 1) session with
  | error crash =>
    simp only [openWindow, built]
    exact ⟨Nat.le_succ _, fun _ shown => .inl shown⟩
  | ok window =>
    simp only [openWindow, built]
    refine ⟨Nat.le_succ _, fun id shown => ?_⟩
    rw [List.map_append, List.mem_append, List.map_singleton, List.mem_singleton,
      Window.id_of_construct built] at shown
    rcases shown with earlier | last
    · exact .inl earlier
    · exact .inr (last ▸ Nat.lt_succ_self _)

theorem Ledger.extends_perform {ledger next : Ledger} {operation : Operation}
    (performed : ledger.perform operation = .ok next) : ledger.registry.Extends next.registry := by
  cases operation with
  | openWindow session =>
    cases performed
    exact extends_openWindow ..
  | close id =>
    cases performed
    exact extends_close ..
  | closeDismissed =>
    cases performed
    exact extends_closeEach ..
  | closeAll =>
    cases performed
    exact extends_closeEach ..
  | handle id event =>
    obtain ⟨changed, handled, rfl⟩ := map_eq_ok_iff.mp performed
    unfold handle at handled
    split at handled
    · cases handled
      exact extends_of_sublist rfl (.refl _)
    · obtain ⟨window, _, rfl⟩ := map_eq_ok_iff.mp handled
      refine extends_of_sublist rfl ?_
      rw [ids_put]

theorem Becomes.extends {registry next : Registry} (becomes : registry.Becomes next) : registry.Extends next := by
  obtain ⟨operations, ledger, performed, rfl⟩ := becomes
  -- The induction is over the operations; the handles play no part, so they are left open.
  suffices along : ∀ first : Ledger, first.performAll operations = .ok ledger →
      first.registry.Extends ledger.registry from along _ performed
  clear performed
  induction operations with
  | nil =>
    intro first performed
    cases performed
    exact extends_of_sublist rfl (.refl _)
  | cons operation operations ih =>
    intro first performed
    obtain ⟨mid, here, later⟩ := bind_eq_ok_iff.mp performed
    exact (Ledger.extends_perform here).trans (ih mid later)

/-! ## Windows that were ever opened

A window counts as opened as soon as it could be constructed, whatever becomes of it. Its phase is recorded
from then on and outlives it, so the recorded numbers are those of all windows that were ever opened.
-/

/-- The numbers of all windows that were ever opened, in the order of their opening. -/
def opened (registry : Registry) : List WindowId := registry.phases.map Prod.fst

theorem opened_openWindow (registry : Registry) (session : Session) :
    (registry.openWindow session).2.opened = registry.opened ++ (registry.openWindow session).1.toOption.toList := by
  cases built : Window.construct (registry.attempts + 1) session with
  | error crash => simp [openWindow, built, opened, Except.toOption]
  | ok window => simp [openWindow, built, opened, Except.toOption]

theorem opened_close (registry : Registry) (id : WindowId) : (registry.close id).2.opened = registry.opened := by
  rw [close]
  split_ifs
  · rw [opened, opened, setPhase, List.map_map]
    refine List.map_congr_left fun entry _ => ?_
    by_cases same : entry.1 = id
    · simp [same]
    · simp [same]
  · rfl

theorem opened_closeEach (registry : Registry) (ids : List WindowId) :
    (registry.closeEach ids).opened = registry.opened := by
  induction ids generalizing registry with
  | nil => rfl
  | cons id ids ih => exact (ih _).trans (opened_close registry id)

/-- An operation opens just the windows that it gives handles for. -/
theorem Ledger.opened_perform {ledger next : Ledger} {operation : Operation}
    (performed : ledger.perform operation = .ok next) : ∃ new,
      next.registry.opened = ledger.registry.opened ++ new ∧ next.handles = ledger.handles ++ new := by
  cases operation with
  | openWindow session =>
    cases performed
    exact ⟨_, opened_openWindow .., rfl⟩
  | close id =>
    cases performed
    exact ⟨[], (opened_close ..).trans (List.append_nil _).symm, (List.append_nil _).symm⟩
  | closeDismissed =>
    cases performed
    exact ⟨[], (opened_closeEach ..).trans (List.append_nil _).symm, (List.append_nil _).symm⟩
  | closeAll =>
    cases performed
    exact ⟨[], (opened_closeEach ..).trans (List.append_nil _).symm, (List.append_nil _).symm⟩
  | handle id event =>
    obtain ⟨changed, handled, rfl⟩ := map_eq_ok_iff.mp performed
    refine ⟨[], ?_, (List.append_nil _).symm⟩
    rw [List.append_nil]
    unfold handle at handled
    split at handled
    · cases handled
      rfl
    · obtain ⟨window, _, rfl⟩ := map_eq_ok_iff.mp handled
      rfl

/-- A run of operations opens just the windows that it gives handles for. -/
theorem Ledger.opened_performAll {first last : Ledger} {operations : List Operation}
    (performed : first.performAll operations = .ok last) : ∃ new,
      last.registry.opened = first.registry.opened ++ new ∧ last.handles = first.handles ++ new := by
  induction operations generalizing first with
  | nil =>
    cases performed
    exact ⟨[], (List.append_nil _).symm, (List.append_nil _).symm⟩
  | cons operation operations ih =>
    obtain ⟨mid, here, later⟩ := bind_eq_ok_iff.mp performed
    obtain ⟨now, opens, gives⟩ := opened_perform here
    obtain ⟨more, opensMore, givesMore⟩ := ih later
    exact ⟨now ++ more, by rw [opensMore, opens, List.append_assoc], by rw [givesMore, gives, List.append_assoc]⟩

/-- The operations by which a registry goes on give handles for the windows that are opened meanwhile. -/
theorem Becomes.performed {registry next : Registry} (becomes : registry.Becomes next) : ∃ operations,
    Ledger.performAll ⟨registry, []⟩ operations = .ok ⟨next, next.opened.drop registry.opened.length⟩ ∧
      next.opened = registry.opened ++ next.opened.drop registry.opened.length := by
  obtain ⟨operations, ⟨_, handles⟩, performed, rfl⟩ := becomes
  obtain ⟨new, opens, gives⟩ := Ledger.opened_performAll performed
  dsimp only at opens gives
  rw [List.nil_append] at gives
  rw [opens, List.drop_left, ← gives]
  exact ⟨operations, performed, rfl⟩

/-! ## Accounts that go along -/

/-- A registry that goes on stays in order and forgets no handle. -/
theorem Becomes.accounts {registry next : Registry} (becomes : registry.Becomes next)
    {handles : List WindowId} {operations : List Operation}
    (accounts : (Ledger.mk registry handles).Accounts operations) :
    ∃ later more, (Ledger.mk next later).Accounts (operations ++ more) ∧ handles ⊆ later := by
  obtain ⟨more, ledger, performed, rfl⟩ := becomes
  obtain ⟨other, again, same⟩ := Ledger.performAll_of_registry performed ⟨registry, handles⟩ rfl
  obtain ⟨last, ran, later⟩ := accounts.run more
  cases again.symm.trans ran
  refine ⟨other.handles, more, ?_, fun id given => accounts.mem_handles_append later given⟩
  rw [same]
  exact later

theorem Ledger.Accounts.le_attempts {ledger : Ledger} {operations : List Operation}
    (accounts : ledger.Accounts operations) {id : WindowId} (shown : id ∈ ledger.registry.windows.map Window.id) :
    id ≤ ledger.registry.attempts := by
  rw [accounts.attempts]
  exact accounts.known ((accounts.opened id).mp ((isOpen_iff ..).mpr shown)).1

/-- The windows that were ever opened are those that handles were given out for. -/
theorem Ledger.Accounts.opened_eq {ledger : Ledger} {operations : List Operation}
    (accounts : ledger.Accounts operations) : ledger.registry.opened = ledger.handles := by
  rw [Registry.opened, accounts.records, List.map_map]
  exact List.map_id _

theorem Ledger.Accounts.steady {ledger : Ledger} {operations : List Operation}
    (accounts : ledger.Accounts operations) {window : Window} (member : window ∈ ledger.registry.windows) :
    window.Steady := by
  obtain ⟨opened, displayed, reflects, sound⟩ := (accounts.traced window member).reflects
  exact reflects.steady sound

end Registry

end TreeInspector
