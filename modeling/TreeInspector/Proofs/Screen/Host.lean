import TreeInspector.Proofs.Outline.Rows
import TreeInspector.Proofs.Window.Evolution
import TreeInspector.Screen.Host

/-! # How a host draws its windows

The windows of a host are drawn one after the other, and each of them as if it were alone: its frame
gets its own dialogs and its own input, and touches no other window. Behind the first window the root
viewport may close; in the end the windows leave whose viewports were closed or whose ok buttons were
pressed, and their dialogs go with them. At every point in between it is clear which windows were drawn
and which are gone, and all others are still as they were found (`Attends`).
-/

namespace TreeInspector

open Registry (Ledger)

namespace Host

/-- The numbers of the windows that dialogs are kept for. -/
def keys (host : Host) : List WindowId := host.dialogs.map Prod.fst

/-- A host in working order: its windows are accounted for, and it keeps dialogs at most once for each
number and for no number that is yet to be given out. -/
structure Orderly (host : Host) : Prop where
  accounts : ∃ handles operations, (Ledger.mk host.registry handles).Accounts operations
  distinct : host.keys.Nodup
  known : ∀ id ∈ host.keys, id ≤ host.registry.attempts

section Orderly

variable {host : Host} (orderly : host.Orderly)
include orderly

theorem Orderly.increasing : host.ids.Pairwise (· < ·) := by
  obtain ⟨_, _, accounts⟩ := orderly.accounts
  exact accounts.increasing

theorem Orderly.nodup : host.ids.Nodup := orderly.increasing.imp Nat.ne_of_lt

theorem Orderly.steady {window : Window} (member : window ∈ host.registry.windows) : window.Steady := by
  obtain ⟨_, _, accounts⟩ := orderly.accounts
  exact accounts.steady member

end Orderly

/-! ## Dialogs by window -/

section Dialogs

variable (host : Host) (id : WindowId) (dialogs : Dialogs)

theorem dialogsOf_setDialogs_self : (host.setDialogs id dialogs).dialogsOf id = dialogs := by
  simp [setDialogs, dialogsOf]

theorem dialogsOf_setDialogs_of_ne {other : WindowId} (differs : other ≠ id) :
    (host.setDialogs id dialogs).dialogsOf other = host.dialogsOf other := by
  have elsewhere : (other == id) = false := beq_eq_false_iff_ne.mpr differs
  simp only [setDialogs, dialogsOf, List.lookup_cons, elsewhere]
  rw [lookup_filter host.dialogs (· != id) (bne_iff_ne.mpr differs)]

theorem keys_setDialogs : (host.setDialogs id dialogs).keys = id :: host.keys.filter (· != id) := by
  rw [keys, keys, List.filter_map]
  rfl

theorem mem_keys_setDialogs {other : WindowId} :
    other ∈ (host.setDialogs id dialogs).keys ↔ other = id ∨ other ∈ host.keys := by
  rw [keys_setDialogs, List.mem_cons, List.mem_filter, bne_iff_ne]
  tauto

theorem nodup_keys_setDialogs (distinct : host.keys.Nodup) : (host.setDialogs id dialogs).keys.Nodup := by
  rw [keys_setDialogs, List.nodup_cons]
  exact ⟨by simp, distinct.filter _⟩

/-- A window without kept dialogs has none. -/
theorem dialogsOf_of_notMem {host : Host} {id : WindowId} (missing : id ∉ host.keys) :
    host.dialogsOf id = .none := by
  have absent : host.dialogs.lookup id = none := by
    rw [List.lookup_eq_none_iff]
    intro entry member
    rw [bne_iff_ne]
    rintro rfl
    exact missing (List.mem_map_of_mem member)
  rw [dialogsOf, absent]
  rfl

end Dialogs

section Absorb

variable (host : Host) (drawn : Screen) (viewport : Viewport)

theorem registry_absorb : (host.absorb drawn viewport).registry = host.registry.put drawn.window := rfl

theorem ids_absorb : (host.absorb drawn viewport).ids = host.ids := Registry.ids_put ..

theorem dialogsOf_absorb : (host.absorb drawn viewport).dialogsOf =
    (host.setDialogs drawn.window.id drawn.dialogs).dialogsOf := rfl

theorem keys_absorb : (host.absorb drawn viewport).keys =
    (host.setDialogs drawn.window.id drawn.dialogs).keys := rfl

end Absorb

/-! ## Windows one after the other -/

/-- A frame turns a window with its dialogs into another one, by the window's own input. -/
def Redraws (host : Host) (input : FrameInput) (window : Window) (drawn : Screen) : Prop :=
  ∃ screen : Screen, screen.window = window ∧ screen.dialogs = host.dialogsOf window.id ∧
    screen.frame host.options.revealer input = .ok drawn ∧ Screen.Drawn input screen drawn

/-- What is asked of the root viewport when it is asked to close: it stays if there are other windows. -/
def rootCommands (host : Host) (input : HostInput) : List ViewportCommand :=
  if input.closeRoot && decide (1 < host.ids.length) then [.cancelClose] else []

/-- What is asked of the root viewport once all windows are drawn. -/
def idleCommands (host : Host) : List ViewportCommand :=
  if host.options.exitWhenIdle && host.seenWindow && host.ids.isEmpty then [.close] else []

/-- The node that the user expands or collapses in a window: one of the window's rows with nodes below it.
Nothing but the dialogs reacts while one of them is open. -/
def toggled? (host : Host) (input : HostInput) (id : WindowId) : Option (WindowId × NodePath) := do
  let window ← host.registry.get? id
  let path ← (input.windows id).toggle
  let shown := (window.rows host.expansion).any fun row => row.source == path && !row.isLeaf
  if !(host.dialogsOf id).isModal && shown then some (id, path) else none

theorem id_of_toggled? {host : Host} {input : HostInput} {id : WindowId} {key : WindowId × NodePath}
    (toggled : host.toggled? input id = some key) : key.1 = id := by
  obtain ⟨window, _, toggled⟩ := Option.bind_eq_some_iff.mp toggled
  obtain ⟨path, _, toggled⟩ := Option.bind_eq_some_iff.mp toggled
  dsimp only at toggled
  split_ifs at toggled
  cases toggled
  rfl

/-- Where a host stands that found its windows in some state and has drawn some of them; some are gone. -/
structure Attends (found : Host) (input : HostInput) (done gone : List WindowId) (host : Host) : Prop where
  becomes : found.registry.Becomes host.registry
  options : host.options = found.options
  channel : host.coordinator.channel = found.coordinator.channel
  seen : host.seenWindow = found.seenWindow
  expansion : host.expansion = found.expansion.toggleAll (done.reverse.filterMap (found.toggled? input))
  ids : host.ids = found.ids.filter (· ∉ gone)
  drawn : ∀ window ∈ found.registry.windows, window.id ∈ done → ∃ drawn,
    found.Redraws (input.windows window.id) window drawn ∧ host.dialogsOf window.id = drawn.dialogs ∧
    (window.id ∈ host.ids → host.registry.get? window.id = some drawn.window)
  left : ∀ id ∉ done, host.dialogsOf id = found.dialogsOf id ∧
    (id ∈ host.ids → host.registry.get? id = found.registry.get? id)
  distinct : host.keys.Nodup
  keys : ∀ id, id ∈ host.keys ↔ id ∈ done ∨ id ∈ found.keys

theorem Attends.mem_ids_iff {found host : Host} {input : HostInput} {done gone : List WindowId}
    (attends : Attends found input done gone host) (id : WindowId) :
    id ∈ host.ids ↔ id ∈ found.ids ∧ id ∉ gone := by
  rw [attends.ids, List.mem_filter, decide_eq_true_iff]

section Frames

variable {found : Host} (orderly : found.Orderly) (input : HostInput)
include orderly

theorem Orderly.attends : Attends found input [] [] found where
  becomes := .refl _
  options := rfl
  channel := rfl
  seen := rfl
  expansion := rfl
  ids := by simp
  drawn := by simp
  left := fun _ _ => ⟨rfl, fun _ => rfl⟩
  distinct := orderly.distinct
  keys := by simp

section Step

variable {input} {done gone : List WindowId} {host : Host} (attends : Attends found input done gone host)
include attends

theorem Orderly.nodup_of_attends : (host.registry.windows.map Window.id).Nodup := by
  change host.ids.Nodup
  rw [attends.ids]
  exact orderly.nodup.filter _

/-- What is toggled in a window does not depend on what was toggled in others before. -/
theorem Orderly.toggleAll_toggled {window : Window} (member : window ∈ found.registry.windows)
    (waits : window.id ∉ done) : (if (host.dialogsOf window.id).isModal then host.expansion else
      Screen.clickToggle (window.rows host.expansion) window.id (input.windows window.id).toggle host.expansion) =
        host.expansion.toggleAll (found.toggled? input window.id).toList := by
  have rows : window.rows host.expansion = window.rows found.expansion := by
    rw [Window.rows, Window.rows, attends.expansion]
    congr 1
    funext path
    apply Expansion.isExpanded_toggleAll_of_notMem
    intro among
    obtain ⟨id, isDone, toggled⟩ := List.mem_filterMap.mp among
    obtain rfl : window.id = id := id_of_toggled? toggled
    exact waits (List.mem_reverse.mp isDone)
  rw [rows, toggled?, (attends.left window.id waits).1, Registry.get?_of_mem orderly.nodup member]
  cases (input.windows window.id).toggle with
  | none => exact ite_self _
  | some path =>
    cases (found.dialogsOf window.id).isModal with
    | true => rfl
    | false =>
      simp only [Screen.clickToggle, Option.bind_eq_bind, Option.bind_some, Bool.not_false, Bool.true_and,
        Bool.false_eq_true, if_false]
      split_ifs <;> rfl

/-- The next window is drawn from what was found of it. -/
theorem Orderly.exists_redraw {window : Window} (member : window ∈ found.registry.windows)
    (waits : window.id ∉ done) (present : window.id ∉ gone) (viewport : Viewport) :
    ∃ drawn, host.drawWindow (input.windows window.id) viewport window.id = .ok (host.absorb drawn viewport) ∧
      found.Redraws (input.windows window.id) window drawn ∧ drawn.window.id = window.id ∧
      host.registry.get? window.id = some window ∧ host.registry.Becomes (host.registry.put drawn.window) ∧
      drawn.expansion = host.expansion.toggleAll (found.toggled? input window.id).toList := by
  obtain ⟨ownDialogs, ownWindow⟩ := attends.left window.id waits
  have shown : host.registry.get? window.id = some window := by
    rw [ownWindow ((attends.mem_ids_iff _).mpr ⟨List.mem_map_of_mem member, present⟩)]
    exact Registry.get?_of_mem orderly.nodup member
  have steady := orderly.steady member
  obtain ⟨drawn, ran, did⟩ := @Screen.exists_frame host.options.revealer (input.windows window.id)
    (host.screenIn viewport window) steady
  obtain ⟨event, events, handled⟩ := did.events
  obtain ⟨_, again, _, same, _⟩ := steady.handleAll (event :: events)
  cases handled.symm.trans again
  refine ⟨drawn, ?_, ?_, same, shown, .put shown steady handled, ?_⟩
  · rw [Host.drawWindow, shown]
    exact bind_eq_ok_iff.mpr ⟨drawn, ran, rfl⟩
  · refine ⟨host.screenIn viewport window, rfl, ownDialogs, ?_, did⟩
    rw [← attends.options]
    exact ran
  · rw [Screen.expansion_frame steady ran]
    exact orderly.toggleAll_toggled attends member waits

/-- What was drawn of a window is taken over, and no other window is touched. -/
theorem Orderly.absorb {window : Window} (member : window ∈ found.registry.windows) {drawn : Screen}
    (redraws : found.Redraws (input.windows window.id) window drawn) (same : drawn.window.id = window.id)
    (shown : host.registry.get? window.id = some window)
    (becomes : host.registry.Becomes (host.registry.put drawn.window))
    (expansion : drawn.expansion = host.expansion.toggleAll (found.toggled? input window.id).toList)
    (viewport : Viewport) :
    Attends found input (window.id :: done) gone (host.absorb drawn viewport) := by
  have dialogs := dialogsOf_absorb host drawn viewport
  have keys := keys_absorb host drawn viewport
  have ids := ids_absorb host drawn viewport
  rw [same] at dialogs keys
  constructor
  · exact attends.becomes.trans becomes
  · exact attends.options
  · exact attends.channel
  · exact attends.seen
  · change drawn.expansion = _
    rw [expansion, attends.expansion, ← Expansion.toggleAll_append, List.reverse_cons, List.filterMap_append]
    cases toggled : found.toggled? input window.id <;> simp [toggled]
  · rw [ids, attends.ids]
  · intro other among isDone
    rw [dialogs, ids, registry_absorb]
    by_cases here : other.id = window.id
    · obtain rfl := List.inj_on_of_nodup_map orderly.nodup among member here
      refine ⟨drawn, redraws, dialogsOf_setDialogs_self .., fun _ => ?_⟩
      rw [← same] at shown ⊢
      exact Registry.get?_put_self shown
    · obtain ⟨earlier, redrawn, kept, stays⟩ :=
        attends.drawn other among ((List.mem_cons.mp isDone).resolve_left here)
      refine ⟨earlier, redrawn, ?_, fun remains => ?_⟩
      · rw [dialogsOf_setDialogs_of_ne _ _ _ here, kept]
      · rw [Registry.get?_put_of_ne (same ▸ here), stays remains]
  · intro id notDone
    obtain ⟨elsewhere, waits⟩ := not_or.mp (mt List.mem_cons.mpr notDone)
    obtain ⟨kept, stays⟩ := attends.left id waits
    refine ⟨?_, fun remains => ?_⟩
    · rw [dialogs, dialogsOf_setDialogs_of_ne _ _ _ elsewhere, kept]
    · rw [registry_absorb, Registry.get?_put_of_ne (same ▸ elsewhere), stays (ids ▸ remains)]
  · rw [keys]
    exact nodup_keys_setDialogs _ _ _ attends.distinct
  · intro id
    rw [keys, mem_keys_setDialogs, attends.keys, List.mem_cons, or_assoc]

theorem Orderly.drawWindow {window : Window} (member : window ∈ found.registry.windows)
    (waits : window.id ∉ done) (present : window.id ∉ gone) (viewport : Viewport) :
    ∃ next, host.drawWindow (input.windows window.id) viewport window.id = .ok next ∧
      Attends found input (window.id :: done) gone next := by
  obtain ⟨drawn, ran, redraws, same, shown, becomes, expansion⟩ :=
    orderly.exists_redraw attends member waits present viewport
  exact ⟨_, ran, orderly.absorb attends member redraws same shown becomes expansion viewport⟩

/-- The further windows are drawn in turn. -/
theorem Orderly.drawDetached {ids : List WindowId} (distinct : ids.Nodup)
    (present : ∀ id ∈ ids, id ∈ found.ids ∧ id ∉ done ∧ id ∉ gone) :
    ∃ next, host.drawDetached input ids = .ok next ∧ Attends found input (ids.reverse ++ done) gone next := by
  induction ids generalizing done host with
  | nil => exact ⟨host, rfl, attends⟩
  | cons id ids ih =>
    obtain ⟨fresh, distinctRest⟩ := List.nodup_cons.mp distinct
    obtain ⟨shown, waits, spared⟩ := present id List.mem_cons_self
    obtain ⟨window, member, rfl⟩ := List.mem_map.mp shown
    obtain ⟨next, drawn, attends⟩ := orderly.drawWindow attends member waits spared
      (host.detachedViewport window.id)
    obtain ⟨last, rest, attends⟩ := ih attends distinctRest fun id among => by
      obtain ⟨shown, waits, spared⟩ := present id (List.mem_cons_of_mem _ among)
      refine ⟨shown, fun isDone => ?_, spared⟩
      rcases List.mem_cons.mp isDone with rfl | earlier
      · exact fresh among
      · exact waits earlier
    refine ⟨last, ?_, ?_⟩
    · rw [Host.drawDetached, List.foldlM_cons]
      exact bind_eq_ok_iff.mpr ⟨next, drawn, rest⟩
    · rwa [List.reverse_cons, List.append_assoc]

/-- A window whose viewport is closed leaves at once. -/
theorem Orderly.closeWindow (id : WindowId) :
    Attends found input done (id :: gone) (host.setRegistry (host.registry.close id).2) := by
  have nodup := orderly.nodup_of_attends attends
  have sublist : (host.registry.close id).2.windows.Sublist host.registry.windows := by
    rw [Registry.windows_close nodup]
    exact List.filter_sublist
  have stays {other : WindowId} (remains : other ∈ (host.registry.close id).2.windows.map Window.id) :
      (host.registry.close id).2.get? other = host.registry.get? other ∧ other ∈ host.ids :=
    ⟨Registry.get?_of_sublist nodup sublist remains, (sublist.map _).subset remains⟩
  constructor
  · exact attends.becomes.trans (.close _ id)
  · exact attends.options
  · exact attends.channel
  · exact attends.seen
  · exact attends.expansion
  · change (host.registry.close id).2.windows.map Window.id = _
    rw [Registry.windows_close nodup]
    have before : host.registry.windows.map Window.id = found.ids.filter (· ∉ gone) := attends.ids
    have filtered := congrArg (List.filter (· ≠ id)) before
    rw [List.filter_map, List.filter_filter] at filtered
    refine filtered.trans (List.filter_congr fun other _ => ?_)
    simp
  · intro window member isDone
    obtain ⟨drawn, redrawn, kept, shown⟩ := attends.drawn window member isDone
    exact ⟨drawn, redrawn, kept, fun remains => (stays remains).1.trans (shown (stays remains).2)⟩
  · intro other waits
    obtain ⟨kept, shown⟩ := attends.left other waits
    exact ⟨kept, fun remains => (stays remains).1.trans (shown (stays remains).2)⟩
  · exact attends.distinct
  · exact attends.keys

end Step

/-- The first window is drawn in the root viewport, and leaves if that is asked to close. The viewport is
kept if there are other windows. -/
theorem Orderly.drawRoot : ∃ host, found.drawRoot input = .ok (found.rootCommands input, host) ∧
    Attends found input (found.ids.take 1) (if input.closeRoot then found.ids.take 1 else []) host := by
  have attends := orderly.attends input
  unfold Host.drawRoot
  split
  · next none =>
    refine ⟨found, ?_, ?_⟩
    · simp [rootCommands, none]
    · simpa [none] using attends
  · next id others shown =>
    have first : id ∈ found.ids := shown ▸ List.mem_cons_self
    obtain ⟨window, member, rfl⟩ := List.mem_map.mp first
    obtain ⟨drawn, ran, attends⟩ := orderly.drawWindow attends member (List.not_mem_nil) (List.not_mem_nil) .root
    rw [rootCommands, ran, shown]
    cases input.closeRoot with
    | false => exact ⟨drawn, rfl, attends⟩
    | true =>
      refine ⟨_, ?_, orderly.closeWindow attends window.id⟩
      cases others <;> rfl

end Frames

/-! ## Leaving windows -/

/-- Whether the viewport of a window is closed; the root viewport is the first window's. -/
def closesViewport (host : Host) (input : HostInput) (id : WindowId) : Bool :=
  if host.ids.head? = some id then input.closeRoot else input.closeDetached.contains id

/-- Whether the ok button of a window was pressed, before the frame or in it. The button does not react
while a dialog is open. -/
def dismisses (host : Host) (input : HostInput) (id : WindowId) : Bool :=
  (input.windows id).ok && !(host.dialogsOf id).isModal || (host.registry.get? id).any Window.closeRequested

/-- A host has drawn its windows. -/
structure Draws (found : Host) (input : HostInput) (host : Host) : Prop where
  becomes : found.registry.Becomes host.registry
  options : host.options = found.options
  channel : host.coordinator.channel = found.coordinator.channel
  seen : host.seenWindow = (found.seenWindow || !found.ids.isEmpty)
  /-- The windows leave whose viewports were closed or whose ok buttons were pressed. -/
  ids : host.ids = found.ids.filter fun id => !(found.closesViewport input id || found.dismisses input id)
  /-- Every other window has become what its own frame makes of it. -/
  drawn : ∀ window ∈ found.registry.windows, window.id ∈ host.ids → ∃ drawn,
    found.Redraws (input.windows window.id) window drawn ∧ host.dialogsOf window.id = drawn.dialogs ∧
    host.registry.get? window.id = some drawn.window
  keys : host.keys.Perm host.ids

section Sweep

variable {found : Host} (orderly : found.Orderly) {input : HostInput}
include orderly

/-- Once all windows are drawn, those ask to be closed whose ok buttons were pressed. -/
theorem Orderly.closeRequested_eq {done gone : List WindowId} {host : Host}
    (attends : Attends found input done gone host) (all : found.ids ⊆ done) {window : Window}
    (member : window ∈ host.registry.windows) : window.closeRequested = found.dismisses input window.id := by
  have remains : window.id ∈ host.ids := List.mem_map_of_mem member
  have before := ((attends.mem_ids_iff _).mp remains).1
  obtain ⟨earlier, memberBefore, same⟩ := List.mem_map.mp before
  obtain ⟨drawn, ⟨screen, rfl, ownDialogs, _, did⟩, _, shown⟩ :=
    attends.drawn earlier memberBefore (all (List.mem_map_of_mem memberBefore))
  have located : host.registry.get? window.id = some window :=
    Registry.get?_of_mem (orderly.nodup_of_attends attends) member
  rw [same, located] at shown
  obtain rfl : window = drawn.window := Option.some.inj (shown remains)
  have lookedUp : found.registry.get? screen.window.id = some screen.window :=
    Registry.get?_of_mem orderly.nodup memberBefore
  rw [did.closeRequested, dismisses, ← same, lookedUp, ownDialogs]
  rfl

theorem Orderly.windows_sweep {done gone : List WindowId} {host : Host}
    (attends : Attends found input done gone host) (closed : List WindowId) :
    (host.sweep closed).registry.windows =
      host.registry.windows.filter fun window => !window.closeRequested && decide (window.id ∉ closed) := by
  have nodup := orderly.nodup_of_attends attends
  have left := Registry.windows_closeEach nodup closed
  have distinct : ((host.registry.closeEach closed).windows.map Window.id).Nodup := by
    rw [left]
    exact nodup.sublist (List.filter_sublist.map _)
  change (host.registry.closeEach closed).closeDismissed.2.windows = _
  rw [Registry.windows_closeDismissed distinct, left, List.filter_filter]

/-- In the end the windows are gone whose viewports were closed or whose ok buttons were pressed, and just
the dialogs of the others are kept. -/
theorem Orderly.sweep {done gone : List WindowId} {host : Host} (attends : Attends found input done gone host)
    (all : found.ids ⊆ done) (closed : List WindowId) :
    (host.sweep closed).ids =
      found.ids.filter (fun id => !(decide (id ∈ gone ∨ id ∈ closed) || found.dismisses input id)) ∧
    (host.sweep closed).keys.Perm (host.sweep closed).ids ∧
    ∀ id ∈ (host.sweep closed).ids, id ∈ host.ids ∧ (host.sweep closed).dialogsOf id = host.dialogsOf id ∧
      (host.sweep closed).registry.get? id = host.registry.get? id := by
  have nodup := orderly.nodup_of_attends attends
  have windows := orderly.windows_sweep attends closed
  have sublist : (host.sweep closed).registry.windows.Sublist host.registry.windows :=
    windows ▸ List.filter_sublist
  have keys : (host.sweep closed).keys = host.keys.filter (host.sweep closed).registry.isOpen := by
    rw [Host.keys, Host.keys, List.filter_map]
    rfl
  refine ⟨?_, ?_, ?_⟩
  · have requested : host.registry.windows.filter
          (fun window => !window.closeRequested && decide (window.id ∉ closed)) =
        host.registry.windows.filter
          ((fun id => !found.dismisses input id && decide (id ∉ closed)) ∘ Window.id) := by
      apply List.filter_congr
      intro window member
      rw [orderly.closeRequested_eq attends all member, Function.comp_apply]
    rw [Host.ids, windows, requested, ← List.filter_map]
    change List.filter _ host.ids = _
    rw [attends.ids, List.filter_filter]
    apply List.filter_congr
    intro id _
    by_cases isGone : id ∈ gone
    · simp [isGone]
    · by_cases isClosed : id ∈ closed
      · simp [isClosed]
      · simp [isGone, isClosed]
  · have distinct : (host.sweep closed).ids.Nodup := nodup.sublist (sublist.map _)
    rw [keys, List.perm_ext_iff_of_nodup (attends.distinct.filter _) distinct]
    intro id
    rw [List.mem_filter, Registry.isOpen_iff]
    refine and_iff_right_of_imp fun remains => (attends.keys id).mpr (.inl (all ?_))
    exact ((attends.mem_ids_iff id).mp ((sublist.map _).subset remains)).1
  · intro id remains
    have isOpen : (host.sweep closed).registry.isOpen id = true := (Registry.isOpen_iff ..).mpr remains
    refine ⟨(sublist.map _).subset remains, ?_, Registry.get?_of_sublist nodup sublist remains⟩
    exact congrArg (·.getD Dialogs.none) (lookup_filter host.dialogs _ isOpen)

/-- The windows whose viewports are closed: the first if it is the root viewport, else those named. -/
theorem Orderly.closesViewport_eq {id : WindowId} (shown : id ∈ found.ids) : found.closesViewport input id =
    decide (id ∈ (if input.closeRoot then found.ids.take 1 else []) ∨
      id ∈ (found.ids.drop 1).filter input.closeDetached.contains) := by
  have nodup := orderly.nodup
  rw [closesViewport]
  cases ids : found.ids with
  | nil =>
    rw [ids] at shown
    cases shown
  | cons root others =>
    rw [ids] at shown nodup
    obtain ⟨apart, _⟩ := List.nodup_cons.mp nodup
    by_cases first : root = id
    · subst first
      cases input.closeRoot <;> simp [apart]
    · have among : id ∈ others := (List.mem_cons.mp shown).resolve_left (Ne.symm first)
      have other : id ≠ root := Ne.symm first
      cases input.closeRoot <;> simp [first, among, other]

/-- A host in working order always draws its windows. -/
theorem Orderly.draw (input : HostInput) : ∃ host,
    found.draw input = .ok (found.rootCommands input ++ host.idleCommands, host) ∧ Draws found input host ∧
      host.expansion = found.expansion.toggleAll (found.ids.filterMap (found.toggled? input)) := by
  have looking : Host.Orderly { found with seenWindow := found.seenWindow || !found.ids.isEmpty } :=
    ⟨orderly.accounts, orderly.distinct, orderly.known⟩
  have nodup := orderly.nodup
  obtain ⟨rooted, drewRoot, attends⟩ := looking.drawRoot input
  obtain ⟨host, drewOthers, attends⟩ := looking.drawDetached attends
    (nodup.sublist (List.drop_sublist 1 found.ids)) fun id among => by
      have apart : id ∉ found.ids.take 1 := fun first =>
        List.disjoint_take_drop nodup (Nat.le_refl 1) first among
      refine ⟨List.mem_of_mem_drop among, apart, ?_⟩
      split_ifs
      · exact apart
      · exact List.not_mem_nil
  have all : found.ids ⊆ (found.ids.drop 1).reverse ++ found.ids.take 1 := by
    intro id shown
    rw [← List.take_append_drop 1 found.ids] at shown
    simpa [or_comm] using shown
  obtain ⟨ids, keys, kept⟩ := looking.sweep attends all ((found.ids.drop 1).filter input.closeDetached.contains)
  refine ⟨host.sweep ((found.ids.drop 1).filter input.closeDetached.contains), ?_, ?_, ?_⟩
  · refine bind_eq_ok_iff.mpr ⟨_, drewRoot, bind_eq_ok_iff.mpr ⟨host, drewOthers, ?_⟩⟩
    rw [idleCommands]
    split_ifs with idle
    · exact if_pos idle
    · rw [List.append_nil]
      exact if_neg idle
  · constructor
    · exact attends.becomes.trans ((Registry.Becomes.closeEach ..).trans (.closeDismissed _))
    · exact attends.options
    · exact attends.channel
    · exact attends.seen
    · rw [ids]
      apply List.filter_congr
      intro id shown
      rw [orderly.closesViewport_eq shown]
      rfl
    · intro window member remains
      obtain ⟨drawn, redraws, dialogs, located⟩ :=
        attends.drawn window member (all (List.mem_map_of_mem member))
      obtain ⟨stayed, sameDialogs, sameWindow⟩ := kept window.id remains
      exact ⟨drawn, redraws, sameDialogs.trans dialogs, sameWindow.trans (located stayed)⟩
    · exact keys
  · have order : ((found.ids.drop 1).reverse ++ found.ids.take 1).reverse = found.ids := by
      rw [List.reverse_append, List.reverse_reverse]
      cases found.ids <;> rfl
    rw [← order]
    exact attends.expansion

end Sweep

/-- A host that has drawn its windows is in working order. -/
theorem Draws.orderly {found host : Host} {input : HostInput} (draws : Draws found input host)
    (orderly : found.Orderly) : host.Orderly := by
  obtain ⟨handles, operations, accounts⟩ := orderly.accounts
  obtain ⟨later, more, accounts, _⟩ := draws.becomes.accounts accounts
  exact ⟨⟨later, _, accounts⟩, draws.keys.nodup_iff.mpr accounts.distinct,
    fun id key => accounts.le_attempts (draws.keys.mem_iff.mp key)⟩

end Host

end TreeInspector
