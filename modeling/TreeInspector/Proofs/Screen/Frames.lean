import TreeInspector.Proofs.Window.History
import TreeInspector.Screen.Basic

/-! # What a frame does to a window

A frame lets some events happen to its window: those of the controls and selections in the outline and
on the canvas, unless a dialog is open, and last it takes an export request. So a frame never crashes,
and the window asks to be closed only if its own ok button was pressed. The dialogs change only by what
the user does to them and by an export that was asked for.
-/

namespace TreeInspector

namespace Window

/-- A window in working order: its view shows its session, and its tree does not crash. -/
structure Steady (window : Window) : Prop where
  shows : window.view.Shows window.session
  sound : window.session.root.Sound

/-- A window is in working order after every run of events. -/
theorem Reflects.steady {window : Window} {opened : Session} {displayed : Outline} {events : List Event}
    (reflects : window.Reflects opened displayed events) (sound : opened.root.Sound) : window.Steady := by
  refine ⟨reflects.view, ?_⟩
  rw [reflects.session]
  exact sound

theorem steady_of_construct {id : WindowId} {session : Session} {window : Window}
    (built : construct id session = .ok window) : window.Steady :=
  (reflects_construct built).steady (sound_of_construct built)

section Events

variable {window : Window} (steady : window.Steady)
include steady

theorem Steady.handle (event : Event) : ∃ next, window.handle event = .ok next ∧ next.Steady ∧
    next.id = window.id ∧ next.closeRequested = (event.dismisses || window.closeRequested) ∧
    next.exportRequested = event.requests window.exportRequested := by
  obtain ⟨view, session, same, shows, handled⟩ := handle_eq steady.shows steady.sound event
  refine ⟨_, handled, ⟨shows, ?_⟩, rfl, rfl, rfl⟩
  rw [same]
  exact steady.sound

/-- Events always happen to a window in working order. -/
theorem Steady.handleAll (events : List Event) : ∃ next, window.handleAll events = .ok next ∧
    next.Steady ∧ next.id = window.id ∧
    next.closeRequested = (events.any Event.dismisses || window.closeRequested) ∧
    next.exportRequested =
      events.foldl (fun pending event => event.requests pending) window.exportRequested := by
  induction events generalizing window with
  | nil => exact ⟨window, rfl, steady, rfl, rfl, rfl⟩
  | cons event events ih =>
    obtain ⟨mid, handled, steady, same, closes, requests⟩ := steady.handle event
    obtain ⟨next, ran, steady, id, closesLater, requestsLater⟩ := ih steady
    refine ⟨next, ?_, steady, id.trans same, ?_, ?_⟩
    · rw [Window.handleAll, List.foldlM_cons, handled]
      exact ran
    · rw [closesLater, closes, List.any_cons, Bool.or_left_comm, Bool.or_assoc]
    · rw [requestsLater, requests, List.foldl_cons]

/-- Events change neither the number nor the outline of a window, so they change none of its rows. -/
theorem Steady.rows_eq {events : List Event} {next : Window} (ran : window.handleAll events = .ok next)
    (expansion : Expansion) : next.rows expansion = window.rows expansion := by
  induction events generalizing window with
  | nil =>
    cases ran
    rfl
  | cons event events ih =>
    obtain ⟨view, session, same, shows, handled⟩ := handle_eq steady.shows steady.sound event
    obtain ⟨mid, again, steadyMid, _⟩ := steady.handle event
    obtain ⟨_, here, later⟩ := bind_eq_ok_iff.mp ran
    cases handled.symm.trans again
    cases handled.symm.trans here
    have kept := ih steadyMid later
    exact kept

end Events

end Window

namespace Screen

open Window (Event)

/-- The events of the controls. -/
def controlEvents (input : FrameInput) (window : Window) : List Event :=
  (input.slide.toList.filterMap fun value =>
    if Slider.clamp value = window.slider then none else some (.adjustScale (Slider.clamp value))) ++
  (if input.ok then [.press .ok] else []) ++ (if input.png then [.press .exportPng] else [])

theorem controlsFrame_eq (input : FrameInput) (window : Window) :
    controlsFrame input window = window.handleAll (controlEvents input window) := by
  obtain ⟨slide, ok, png, row, toggle, canvas, dialogs⟩ := input
  simp only [controlsFrame, controlEvents, moveSlider]
  cases slide with
  | none => cases ok <;> cases png <;> rfl
  | some value =>
    by_cases same : Slider.clamp value = window.slider
    · simp only [same, if_true, Option.toList_some, List.filterMap_cons, List.filterMap_nil]
      cases ok <;> cases png <;> rfl
    · simp only [same, if_false, Option.toList_some, List.filterMap_cons, List.filterMap_nil, Window.handleAll,
        List.cons_append, List.foldlM_cons, Window.handle]
      cases window.adjustScale (Slider.clamp value) with
      | error crash => rfl
      | ok moved => cases ok <;> cases png <;> rfl

theorem exists_clickRow (rows : List Outline) (path : Option NodePath) (window : Window) :
    ∃ paths : List NodePath, clickRow rows path window = window.handleAll (paths.map .select) := by
  cases path with
  | none => exact ⟨[], rfl⟩
  | some path =>
    simp only [clickRow]
    split_ifs
    · exact ⟨[path], (bind_pure _).symm⟩
    · exact ⟨[], rfl⟩

theorem exists_clickCanvas (point : Option (Point Single)) (window : Window) :
    ∃ paths : List NodePath, clickCanvas point window = window.handleAll (paths.map .select) := by
  unfold clickCanvas
  split
  · next node _ => exact ⟨[node.path], (bind_pure _).symm⟩
  · exact ⟨[], rfl⟩

/-- While a dialog is open, neither the controls nor the outline nor the canvas react. -/
theorem windowFrame_of_modal (input : FrameInput) {screen : Screen} (modal : screen.dialogs.isModal = true) :
    screen.windowFrame input = .ok screen := by
  simp only [windowFrame, modal, if_true]
  rfl

/-- What the user does to a window is a run of events: those of the controls and some selections. Nothing
else of the screen changes but the state of the outline, by a click on one of the rows. -/
theorem exists_windowFrame (input : FrameInput) {screen : Screen} (steady : screen.window.Steady)
    (idle : screen.dialogs.isModal = false) : ∃ window, ∃ paths : List NodePath,
    screen.windowFrame input = .ok { screen with
      window
      expansion :=
        clickToggle (screen.window.rows screen.expansion) screen.window.id input.toggle screen.expansion } ∧
      screen.window.handleAll (controlEvents input screen.window ++ paths.map .select) = .ok window := by
  obtain ⟨controlled, ran, steadyControlled, sameControlled, _⟩ :=
    steady.handleAll (controlEvents input screen.window)
  obtain ⟨first, clicked⟩ := exists_clickRow (controlled.rows screen.expansion) input.row controlled
  obtain ⟨selected, ranFirst, steadySelected, sameSelected, _⟩ := steadyControlled.handleAll (first.map .select)
  obtain ⟨second, drawn⟩ := exists_clickCanvas input.canvas selected
  obtain ⟨window, ranSecond, _, same, _⟩ := steadySelected.handleAll (second.map .select)
  refine ⟨window, first ++ second, ?_, ?_⟩
  · simp only [windowFrame, idle, Bool.false_eq_true, if_false, controlsFrame_eq, ran, bind, Except.bind, clicked,
      ranFirst, drawn, ranSecond]
    rw [steady.rows_eq ran, sameControlled]
    rfl
  · rw [List.map_append, Window.handleAll_append, ran]
    simp only [Except.bind, Window.handleAll_append, ranFirst, ranSecond]

section Events

variable (input : FrameInput) (window : Window) (paths : List NodePath)

theorem any_dismisses :
    (controlEvents input window ++ paths.map Event.select).any Event.dismisses = input.ok := by
  obtain ⟨slide, ok, png, row, toggle, canvas, dialogs⟩ := input
  have selections : (paths.map Event.select).any Event.dismisses = false := by simp [Event.dismisses]
  rw [List.any_append, selections, Bool.or_false]
  cases slide with
  | none => cases ok <;> cases png <;> rfl
  | some value =>
    by_cases same : Slider.clamp value = window.slider
    · cases ok <;> cases png <;> simp [controlEvents, same, Event.dismisses]
    · cases ok <;> cases png <;> simp [controlEvents, same, Event.dismisses]

theorem foldl_requests (pending : Bool) : (controlEvents input window ++ paths.map Event.select).foldl
    (fun pending event => Event.requests pending event) pending = (input.png || pending) := by
  obtain ⟨slide, ok, png, row, toggle, canvas, dialogs⟩ := input
  have selections (pending : Bool) : (paths.map Event.select).foldl
      (fun pending event => Event.requests pending event) pending = pending := by
    induction paths with
    | nil => rfl
    | cons path paths ih => exact ih
  rw [List.foldl_append, selections]
  cases slide with
  | none => cases ok <;> cases png <;> simp [controlEvents, Event.requests]
  | some value =>
    by_cases same : Slider.clamp value = window.slider
    · cases ok <;> cases png <;> simp [controlEvents, same, Event.requests]
    · cases ok <;> cases png <;> simp [controlEvents, same, Event.requests]

end Events

/-- What a frame has done to its screen. -/
structure Drawn (input : FrameInput) (screen drawn : Screen) : Prop where
  /-- Something happened to the window, at least that an export request was taken. -/
  events : ∃ event events, screen.window.handleAll (event :: events) = .ok drawn.window
  /-- The ok button works while no dialog is open. -/
  closeRequested : drawn.window.closeRequested =
    (input.ok && !screen.dialogs.isModal || screen.window.closeRequested)
  /-- The dialogs stay as they are if nothing is done to them and no export is asked for. -/
  dialogs : input.dialogs = FrameInput.none.dialogs →
    (input.png && !screen.dialogs.isModal || screen.window.exportRequested) = false →
    drawn.dialogs = screen.dialogs

/-- A prompt that is left alone stays. -/
theorem promptFrameBy_none (encoder : Encoder) (revealer : Revealer) (disk : Disk) (dialogs : Dialogs) :
    dialogs.promptFrameBy encoder .none revealer disk = (dialogs, [], disk) := by
  obtain ⟨prompt, notices⟩ := dialogs
  cases prompt with
  | none => rfl
  | some prompt => simp [Dialogs.promptFrameBy, SavePrompt.step, SavePrompt.applyEdit, PromptInput.none]

/-- What the user has done to a window by the time that an export may begin. -/
structure Reacted (input : FrameInput) (screen reacted : Screen) : Prop where
  dialogs : reacted.dialogs = screen.dialogs
  disk : reacted.disk = screen.disk
  folders : reacted.folders = screen.folders
  steady : reacted.window.Steady
  events : ∃ events, screen.window.handleAll events = .ok reacted.window
  closeRequested : reacted.window.closeRequested =
    (input.ok && !screen.dialogs.isModal || screen.window.closeRequested)
  exportRequested : reacted.window.exportRequested =
    (input.png && !screen.dialogs.isModal || screen.window.exportRequested)
  /-- Nothing but the dialogs reacts while one of them is open. -/
  modal : screen.dialogs.isModal = true → reacted = screen

theorem exists_reacted (input : FrameInput) {screen : Screen} (steady : screen.window.Steady) :
    ∃ reacted, screen.windowFrame input = .ok reacted ∧ Reacted input screen reacted := by
  cases modal : screen.dialogs.isModal with
  | true =>
    exact ⟨screen, windowFrame_of_modal input modal, rfl, rfl, rfl, steady, ⟨[], rfl⟩, by simp [modal],
      by simp [modal], fun _ => rfl⟩
  | false =>
    obtain ⟨window, paths, made, ran⟩ := exists_windowFrame input steady modal
    obtain ⟨_, again, sound, _, closes, exports⟩ :=
      steady.handleAll (controlEvents input screen.window ++ paths.map .select)
    cases ran.symm.trans again
    rw [any_dismisses] at closes
    rw [foldl_requests] at exports
    refine ⟨_, made, rfl, rfl, rfl, sound, ⟨_, ran⟩, ?_, ?_, ?_⟩
    · simp [closes, modal]
    · simp [exports, modal]
    · exact fun isModal => nomatch modal.symm.trans isModal

theorem frameBy_eq (rasterizer : Rasterizer) (encoder : Encoder) (revealer : Revealer) (input : FrameInput)
    (screen : Screen) : screen.frameBy rasterizer encoder revealer input =
      (screen.windowFrame input).map fun reacted => (reacted.exportFrameBy rasterizer).dialogsFrameBy encoder
        (dialogInput input.dialogs screen.dialogs) revealer := by
  unfold frameBy
  cases screen.windowFrame input with
  | error crash => rfl
  | ok reacted => rfl

/-- A frame of a window in working order is always drawn: first the window reacts, then a requested export
begins, and last the dialogs react. -/
theorem exists_frameBy (rasterizer : Rasterizer) (encoder : Encoder) (revealer : Revealer) (input : FrameInput)
    {screen : Screen} (steady : screen.window.Steady) :
    ∃ reacted, Reacted input screen reacted ∧ screen.frameBy rasterizer encoder revealer input =
      .ok ((reacted.exportFrameBy rasterizer).dialogsFrameBy encoder (dialogInput input.dialogs screen.dialogs)
        revealer) := by
  obtain ⟨reacted, made, did⟩ := exists_reacted input steady
  exact ⟨reacted, did, by rw [frameBy_eq, made]; rfl⟩

/-- A request is taken, and the export that was asked for begins. -/
theorem exportFrameBy_eq (rasterizer : Rasterizer) (screen : Screen) :
    screen.exportFrameBy rasterizer = { screen with
      window := { screen.window with exportRequested := false }
      dialogs := if screen.window.exportRequested then
          screen.dialogs.beginExport (screen.window.view.renderableBy rasterizer) screen.disk
        else screen.dialogs } := by
  unfold exportFrameBy
  dsimp only [Window.takeExportRequest]
  split_ifs <;> rfl

theorem exists_frame (revealer : Revealer) (input : FrameInput) {screen : Screen}
    (steady : screen.window.Steady) :
    ∃ drawn, screen.frame revealer input = .ok drawn ∧ Drawn input screen drawn := by
  obtain ⟨next, reacted, ran⟩ := exists_frameBy View.whitewash Png.encoder revealer input steady
  obtain ⟨events, handled⟩ := reacted.events
  have window : ((next.exportFrameBy View.whitewash).dialogsFrameBy Png.encoder
      (dialogInput input.dialogs screen.dialogs) revealer).window =
      { next.window with exportRequested := false } := by
    rw [exportFrameBy_eq]
    rfl
  refine ⟨_, ran, ?_, ?_, ?_⟩
  · rw [window]
    have taken : screen.window.handleAll (events ++ [.takeExportRequest]) =
        .ok { next.window with exportRequested := false } := by
      rw [Window.handleAll_append, handled]
      rfl
    obtain ⟨event, rest, same⟩ := List.exists_cons_of_ne_nil
      (List.append_ne_nil_of_right_ne_nil events (List.cons_ne_nil Event.takeExportRequest []))
    exact ⟨event, rest, same ▸ taken⟩
  · rw [window]
    exact reacted.closeRequested
  · intro quiet unasked
    have untouched : dialogInput input.dialogs screen.dialogs = FrameInput.none.dialogs := by
      rw [quiet, dialogInput]
      simp [FrameInput.none]
    have idle : (next.exportFrameBy View.whitewash).dialogs = next.dialogs := by
      rw [exportFrameBy_eq]
      simp [reacted.exportRequested, unasked]
    rw [untouched]
    simp [dialogsFrameBy, FrameInput.none, promptFrameBy_none, Dialogs.noticeFrame, idle, reacted.dialogs]

/-- A frame changes the state of the outline only by a click on one of the rows, and only while no dialog is
open. -/
theorem expansion_frame {revealer : Revealer} {input : FrameInput} {screen drawn : Screen}
    (steady : screen.window.Steady) (ran : screen.frame revealer input = .ok drawn) :
    drawn.expansion = if screen.dialogs.isModal then screen.expansion else
      clickToggle (screen.window.rows screen.expansion) screen.window.id input.toggle screen.expansion := by
  rw [frame, frameBy_eq] at ran
  obtain ⟨reacted, made, rfl⟩ := map_eq_ok_iff.mp ran
  have kept : ((reacted.exportFrameBy View.whitewash).dialogsFrameBy Png.encoder
      (dialogInput input.dialogs screen.dialogs) revealer).expansion = reacted.expansion := by
    rw [exportFrameBy_eq]
    rfl
  rw [kept]
  split_ifs with modal
  · cases made.symm.trans (windowFrame_of_modal input modal)
    rfl
  · obtain ⟨window, paths, ranWindow, _⟩ := exists_windowFrame input steady (Bool.eq_false_iff.mpr modal)
    cases made.symm.trans ranWindow
    rfl

end Screen

end TreeInspector
