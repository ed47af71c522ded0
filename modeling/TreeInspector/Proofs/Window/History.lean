import TreeInspector.Proofs.Layout.Nodes
import TreeInspector.Proofs.Number.Rounding
import TreeInspector.Proofs.Outline.Nodes
import TreeInspector.Window.Basic

/-! # What a window shows after a run of events

The session, the selected row, the slider and the view hold copies of the same facts, and each copy
is updated only when the one before it reports a change. The copies nevertheless agree after every
event: a view that is not told about a change already shows it. Hence the state after a run is given
by the last accepted selection, the last slider value and the buttons pressed, whatever happened in
between.

The scale guard compares numbers, so it could keep one zero in place of the other. It never does,
because no slider value stands for zero; and a window opened at `nan` takes over any slider value.
-/

namespace TreeInspector

namespace View

/-- The view shows what a session is about, with a layout made for just that. -/
structure Shows (view : View) (session : Session) : Prop where
  root : view.root = session.root
  rules : view.rules = session.rules
  focus : view.focus = session.focused
  scale : view.scale = session.scale
  fresh : layoutFor session.root session.rules session.focused session.scale = .ok view.layout

variable {view : View} {session : Session}

theorem exists_layoutFor {root : SourceTree} (sound : root.Sound) (rules : RuleNames) (focus : NodePath)
    (scale : Single) : ∃ layout, layoutFor root rules focus scale = .ok layout :=
  Layout.exists_ofTree sound focus

theorem relayout_eq {layout : Layout Single}
    (laid : layoutFor view.root view.rules view.focus view.scale = .ok layout) :
    view.relayout = .ok { view with layout } := by
  rw [relayout, laid]
  rfl

/-- A new focus is either passed on to the view, or the view shows it already. -/
theorem Shows.afterFocus (shows : view.Shows session) (sound : session.root.Sound) (path : NodePath) :
    (session.setFocused path = (false, { session with focused := path }) ∧
      view.Shows { session with focused := path }) ∨
    ∃ next, session.setFocused path = (true, { session with focused := path }) ∧
      view.setFocus path = .ok next ∧ next.Shows { session with focused := path } := by
  by_cases same : session.focused = path
  · subst same
    exact .inl ⟨by rw [Session.setFocused, if_pos rfl], shows⟩
  · obtain ⟨layout, laid⟩ := exists_layoutFor sound session.rules path session.scale
    have change : view.focus ≠ path := by rwa [shows.focus]
    refine .inr ⟨{ view with focus := path, layout }, by rw [Session.setFocused, if_neg same], ?_, ?_⟩
    · rw [setFocus, if_neg change]
      apply relayout_eq
      rwa [shows.root, shows.rules, shows.scale]
    · exact ⟨shows.root, shows.rules, rfl, shows.scale, laid⟩

/-- A new scale other than zero is either passed on to the view, or the view shows it already. -/
theorem Shows.afterScale (shows : view.Shows session) (sound : session.root.Sound) {scale : Single}
    (nonzero : scale.isZero = false) :
    (session.setScale scale = (false, { session with scale }) ∧ view.Shows { session with scale }) ∨
    ∃ next, session.setScale scale = (true, { session with scale }) ∧
      view.setScale scale = .ok next ∧ next.Shows { session with scale } := by
  by_cases equal : session.scale.equal scale = true
  · obtain rfl := Single.eq_of_equal equal nonzero
    exact .inl ⟨by rw [Session.setScale, if_pos equal], shows⟩
  · obtain ⟨layout, laid⟩ := exists_layoutFor sound session.rules session.focused scale
    have change : ¬view.scale.equal scale = true := by rwa [shows.scale]
    refine .inr ⟨{ view with scale, layout }, by rw [Session.setScale, if_neg equal], ?_, ?_⟩
    · rw [setScale, if_neg change]
      apply relayout_eq
      rwa [shows.root, shows.rules, shows.focus]
    · exact ⟨shows.root, shows.rules, shows.focus, rfl, laid⟩

/-- A view can be made for every tree without a crash. -/
theorem exists_ofSession (sound : session.root.Sound) : ∃ view, ofSession session = .ok view := by
  obtain ⟨whole, laid⟩ := exists_layoutFor sound session.rules [] session.scale
  obtain ⟨focused, refocused⟩ := exists_layoutFor sound session.rules session.focused session.scale
  rw [ofSession, ofTree, laid]
  by_cases root : [] = session.focused
  · exact ⟨_, if_pos root⟩
  · exact ⟨_, (if_neg root).trans (relayout_eq refocused)⟩

/-- The view made for a session shows it. -/
theorem shows_ofSession (made : ofSession session = .ok view) : view.Shows session := by
  obtain ⟨whole, first, focused⟩ := bind_eq_ok_iff.mp made
  obtain ⟨layout, laid, same⟩ := bind_eq_ok_iff.mp first
  cases same
  rw [setFocus] at focused
  split at focused
  · next root =>
    cases focused
    exact ⟨rfl, rfl, root, rfl, root ▸ laid⟩
  · obtain ⟨layout, laid, same⟩ := bind_eq_ok_iff.mp focused
    cases same
    exact ⟨rfl, rfl, rfl, rfl, laid⟩

end View

namespace Window

theorem construct_eq_ok_iff {id : WindowId} {session : Session} {window : Window} :
    construct id session = .ok window ↔ ∃ outline view,
      Outline.ofTree session.root = .ok outline ∧ View.ofSession session = .ok view ∧
        window = ⟨id, { session with isOpen := true }, outline, view, none,
          Slider.ofScale session.scale, false, false⟩ := by
  simp only [construct, bind_eq_ok_iff]
  constructor
  · rintro ⟨outline, built, view, made, same⟩
    cases same
    exact ⟨outline, view, built, made, rfl⟩
  · rintro ⟨outline, view, built, made, rfl⟩
    exact ⟨outline, built, view, made, rfl⟩

/-- A window can be opened for every tree without a crash. -/
theorem exists_construct (id : WindowId) (session : Session) (sound : session.root.Sound) :
    ∃ window, construct id session = .ok window := by
  obtain ⟨outline, outlined⟩ := Outline.exists_build sound []
  obtain ⟨view, made⟩ := View.exists_ofSession sound
  exact ⟨_, construct_eq_ok_iff.mpr ⟨outline, view, outlined, made, rfl⟩⟩

theorem outline_of_construct {id : WindowId} {session : Session} {window : Window}
    (built : construct id session = .ok window) : Outline.ofTree session.root = .ok window.outline := by
  obtain ⟨_, _, outlined, _, rfl⟩ := construct_eq_ok_iff.mp built
  exact outlined

theorem sound_of_construct {id : WindowId} {session : Session} {window : Window}
    (built : construct id session = .ok window) : session.root.Sound :=
  Outline.sound_of_build (outline_of_construct built)

theorem id_of_construct {id : WindowId} {session : Session} {window : Window}
    (built : construct id session = .ok window) : window.id = id := by
  obtain ⟨_, _, _, _, rfl⟩ := construct_eq_ok_iff.mp built
  rfl

section Steps

variable {window : Window} (shows : window.view.Shows window.session) (sound : window.session.root.Sound)
include shows sound

/-- A path that is found is selected and focused, and the view shows it. -/
theorem select_of_find? {path : NodePath} (found : (window.outline.find? path).isSome = true) :
    ∃ view, view.Shows { window.session with focused := path } ∧ window.select path =
      .ok { window with selected := some path, session := { window.session with focused := path }, view } := by
  obtain ⟨shown, found⟩ := Option.isSome_iff_exists.mp found
  have handled : window.select path = focusSubtree path window := bind_pure _
  rw [handled, focusSubtree, found]
  rcases shows.afterFocus sound path with ⟨unchanged, shows⟩ | ⟨view, changed, focused, shows⟩
  · exact ⟨window.view, shows, by simp only [unchanged]; rfl⟩
  · exact ⟨view, shows, by simp only [changed, focused]; rfl⟩

/-- A slider value becomes the scale, and the view shows it. -/
theorem adjustScale_eq (value : Int) :
    ∃ view, view.Shows { window.session with scale := Slider.toScale value } ∧ window.adjustScale value =
      .ok { window with
        slider := Slider.clamp value
        session := { window.session with scale := Slider.toScale value }
        view } := by
  have scale : Slider.toScale (Slider.clamp value) = Slider.toScale value := by
    rw [Slider.toScale, Slider.clamp_clamp, Slider.toScale]
  have handled : window.adjustScale value = rescaleView value window := bind_pure _
  rw [handled, rescaleView, scale]
  rcases shows.afterScale sound (Slider.isZero_toScale value) with
    ⟨unchanged, shows⟩ | ⟨view, changed, scaled, shows⟩
  · exact ⟨window.view, shows, by simp only [unchanged]; rfl⟩
  · exact ⟨view, shows, by simp only [changed, scaled]; rfl⟩

end Steps

/-- A path that is not found changes nothing. -/
theorem select_of_not_find? {window : Window} {path : NodePath}
    (missing : ¬(window.outline.find? path).isSome = true) : window.select path = .ok window := by
  have handled : window.select path = focusSubtree path window := bind_pure _
  rw [handled, focusSubtree, Option.not_isSome_iff_eq_none.mp missing]

/-- The path of a selection that the outline accepts. -/
def Event.accepted? (outline : Outline) : Event → Option NodePath
  | .select path => if (outline.find? path).isSome then some path else none
  | _ => none

/-- The value reported by the slider. -/
def Event.value? : Event → Option Int
  | .adjustScale value => some value
  | _ => none

/-- Whether the ok button was pressed. -/
def Event.dismisses : Event → Bool
  | .press .ok => true
  | _ => false

/-- Whether an export is requested after an event, given whether one was before it. -/
def Event.requests (pending : Bool) : Event → Bool
  | .press .exportPng => true
  | .takeExportRequest => false
  | _ => pending

/-- All that one event does: it never crashes, and the view goes along with the session. -/
theorem handle_eq {window : Window} (shows : window.view.Shows window.session)
    (sound : window.session.root.Sound) (event : Event) : ∃ view session,
      session = { window.session with
        focused := (event.accepted? window.outline).getD window.session.focused
        scale := (event.value?.map Slider.toScale).getD window.session.scale } ∧
      view.Shows session ∧
      window.handle event = .ok { window with
        session
        view
        selected := (event.accepted? window.outline).or window.selected
        slider := (event.value?.map Slider.clamp).getD window.slider
        closeRequested := event.dismisses || window.closeRequested
        exportRequested := event.requests window.exportRequested } := by
  cases event with
  | select path =>
    by_cases found : (window.outline.find? path).isSome = true
    · have accepted : (Event.select path).accepted? window.outline = some path := if_pos found
      obtain ⟨view, shows, handled⟩ := select_of_find? shows sound found
      rw [accepted]
      exact ⟨view, _, rfl, shows, handled⟩
    · have refused : (Event.select path).accepted? window.outline = none := if_neg found
      rw [refused]
      exact ⟨window.view, _, rfl, shows, select_of_not_find? found⟩
  | adjustScale value =>
    obtain ⟨view, shows, handled⟩ := adjustScale_eq shows sound value
    -- Rewritten, not left to `rfl`, which would compute the scale.
    have scaled : ((Event.adjustScale value).value?.map Slider.toScale).getD window.session.scale =
        Slider.toScale value := by rw [Event.value?, Option.map_some, Option.getD_some]
    refine ⟨view, { window.session with scale := Slider.toScale value }, ?_, shows, handled⟩
    rw [scaled]
    rfl
  | press button =>
    cases button with
    | ok => exact ⟨window.view, _, rfl, shows, rfl⟩
    | exportPng => exact ⟨window.view, _, rfl, shows, rfl⟩
  | takeExportRequest => exact ⟨window.view, _, rfl, shows, rfl⟩

/-- The path of the last accepted selection of a run. -/
def lastAccepted (outline : Outline) (events : List Event) : Option NodePath :=
  (events.filterMap (Event.accepted? outline)).getLast?

/-- The last slider value of a run. -/
def lastValue (events : List Event) : Option Int := (events.filterMap Event.value?).getLast?

/-- The export button was pressed and the request was not taken since. -/
def ExportAwaits (events : List Event) : Prop :=
  ∃ before after, events = before ++ .press .exportPng :: after ∧ .takeExportRequest ∉ after

private theorem getLast?_filterMap_concat {α β : Type} (choose : α → Option β) (items : List α) (item : α) :
    ((items ++ [item]).filterMap choose).getLast? = (choose item).or (items.filterMap choose).getLast? := by
  cases chosen : choose item with
  | none => simp [chosen]
  | some value => simp [chosen]

theorem lastAccepted_concat (outline : Outline) (events : List Event) (event : Event) :
    lastAccepted outline (events ++ [event]) = (event.accepted? outline).or (lastAccepted outline events) :=
  getLast?_filterMap_concat ..

theorem lastValue_concat (events : List Event) (event : Event) :
    lastValue (events ++ [event]) = event.value?.or (lastValue events) :=
  getLast?_filterMap_concat ..

theorem exportAwaits_concat (events : List Event) (event : Event) :
    ExportAwaits (events ++ [event]) ↔
      event = .press .exportPng ∨ event ≠ .takeExportRequest ∧ ExportAwaits events := by
  constructor
  · rintro ⟨before, after, same, untaken⟩
    rcases List.eq_nil_or_concat after with rfl | ⟨after, last, rfl⟩
    · exact .inl (List.append_singleton_inj.mp same).2
    · rw [List.concat_eq_append, ← List.cons_append, ← List.append_assoc] at same
      obtain ⟨rfl, rfl⟩ := List.append_singleton_inj.mp same
      simp only [List.concat_eq_append, List.mem_append, List.mem_singleton, not_or] at untaken
      exact .inr ⟨Ne.symm untaken.2, before, after, rfl, untaken.1⟩
  · rintro (rfl | ⟨kept, before, after, rfl, untaken⟩)
    · exact ⟨events, [], rfl, List.not_mem_nil⟩
    · refine ⟨before, after ++ [event], by rw [List.append_assoc, List.cons_append], ?_⟩
      rw [List.mem_append, List.mem_singleton, not_or]
      exact ⟨untaken, Ne.symm kept⟩

theorem dismisses_iff (event : Event) : event.dismisses = true ↔ .press .ok = event := by
  cases event with
  | press button => cases button <;> simp [Event.dismisses]
  | _ => simp [Event.dismisses]

theorem requests_iff (event : Event) (pending : Bool) : event.requests pending = true ↔
    event = .press .exportPng ∨ event ≠ .takeExportRequest ∧ pending = true := by
  cases event with
  | press button => cases button <;> simp [Event.requests]
  | _ => simp [Event.requests]

/-- The state a window is in after a run of events, by the last event of each kind. The window was
opened for a session and displays an outline, which stays. -/
structure Reflects (window : Window) (opened : Session) (displayed : Outline) (events : List Event) :
    Prop where
  session : window.session = { opened with
    focused := (lastAccepted displayed events).getD opened.focused
    scale := ((lastValue events).map Slider.toScale).getD opened.scale
    isOpen := true }
  outline : window.outline = displayed
  selected : window.selected = lastAccepted displayed events
  slider : window.slider = ((lastValue events).map Slider.clamp).getD (Slider.ofScale opened.scale)
  view : window.view.Shows window.session
  closeRequested : window.closeRequested = true ↔ .press .ok ∈ events
  exportRequested : window.exportRequested = true ↔ ExportAwaits events

theorem reflects_construct {id : WindowId} {session : Session} {window : Window}
    (built : construct id session = .ok window) : window.Reflects session window.outline [] := by
  obtain ⟨outline, view, _, made, rfl⟩ := construct_eq_ok_iff.mp built
  have shows := View.shows_ofSession made
  refine ⟨rfl, rfl, rfl, rfl, ⟨shows.root, shows.rules, shows.focus, shows.scale, shows.fresh⟩, ?_, ?_⟩
  · simp
  · simp [ExportAwaits]

private theorem getD_map_or {α β : Type} (f : α → β) (first second : Option α) (other : β) :
    ((first.or second).map f).getD other = (first.map f).getD ((second.map f).getD other) := by
  cases first <;> rfl

/-- One event adds itself to the run. -/
theorem Reflects.handle {window : Window} {opened : Session} {displayed : Outline} {events : List Event}
    (reflects : window.Reflects opened displayed events) (sound : opened.root.Sound) (event : Event) :
    ∃ next, window.handle event = .ok next ∧ next.id = window.id ∧
      next.Reflects opened displayed (events ++ [event]) := by
  have root : window.session.root = opened.root := by rw [reflects.session]
  obtain ⟨view, session, same, shows, handled⟩ := handle_eq reflects.view (by rwa [root]) event
  refine ⟨_, handled, rfl, ?_, reflects.outline, ?_, ?_, shows, ?_, ?_⟩
  · rw [same, reflects.session, reflects.outline, lastAccepted_concat, lastValue_concat, getD_map_or]
    cases event.accepted? displayed <;> rfl
  · rw [lastAccepted_concat, reflects.outline, reflects.selected]
  · rw [lastValue_concat, getD_map_or, reflects.slider]
  · rw [Bool.or_eq_true, dismisses_iff, reflects.closeRequested, List.mem_append, List.mem_singleton, or_comm]
  · rw [requests_iff, reflects.exportRequested, exportAwaits_concat]

/-- A run of events adds itself to the run before it. -/
theorem Reflects.handleAll {window : Window} {opened : Session} {displayed : Outline}
    {earlier : List Event} (reflects : window.Reflects opened displayed earlier)
    (sound : opened.root.Sound) (events : List Event) :
    ∃ final, window.handleAll events = .ok final ∧ final.id = window.id ∧
      final.Reflects opened displayed (earlier ++ events) := by
  induction events generalizing window earlier with
  | nil => exact ⟨window, rfl, rfl, by rwa [List.append_nil]⟩
  | cons event events ih =>
    obtain ⟨next, handled, kept, reflects⟩ := reflects.handle sound event
    obtain ⟨final, ran, number, reflects⟩ := ih reflects
    refine ⟨final, ?_, number.trans kept, ?_⟩
    · rw [Window.handleAll, List.foldlM_cons, handled]
      exact ran
    · rwa [List.append_assoc] at reflects

/-- Every run of events is carried out, and the window is then in the state that the last event of
each kind says. -/
theorem handleAll_reflects {id : WindowId} {session : Session} {window : Window}
    (built : construct id session = .ok window) (events : List Event) :
    ∃ final, window.handleAll events = .ok final ∧ final.id = id ∧
      Outline.ofTree session.root = .ok final.outline ∧
      final.Reflects session window.outline events := by
  obtain ⟨final, ran, kept, reflects⟩ :=
    (reflects_construct built).handleAll (sound_of_construct built) events
  refine ⟨final, ran, kept.trans (id_of_construct built), ?_, reflects⟩
  rw [reflects.outline]
  exact outline_of_construct built

theorem handleAll_reflects_gapped : ∃ window final,
    construct 1 { root := .gapped, rules := .empty, focused := [7], scale := .nan } = .ok window ∧
    window.handleAll [.select [0], .press .exportPng, .adjustScale 5000, .select [1]] = .ok final ∧
    final.selected = some [0] ∧ final.view.focus = [0] ∧ final.slider = 1000 ∧
    final.exportRequested = true ∧ final.closeRequested = false := by
  have outlined : Outline.ofTree .gapped = .ok (.node [] true [.node [1] true []]) := rfl
  obtain ⟨window, built⟩ := exists_construct 1
    { root := .gapped, rules := .empty, focused := [7], scale := .nan } (Outline.sound_of_build outlined)
  obtain ⟨final, ran, _, _, reflects⟩ := handleAll_reflects built
    [.select [0], .press .exportPng, .adjustScale 5000, .select [1]]
  have displayed : window.outline = .node [] true [.node [1] true []] :=
    Except.ok.inj ((outline_of_construct built).symm.trans outlined)
  have selected := reflects.selected
  rw [displayed] at selected
  refine ⟨window, final, built, ran, selected, ?_, reflects.slider, ?_, ?_⟩
  · rw [reflects.view.focus, reflects.session, displayed]
    rfl
  · rw [reflects.exportRequested]
    exact ⟨[.select [0]], _, rfl, by simp⟩
  · rw [← Bool.not_eq_true, reflects.closeRequested]
    simp

end Window

end TreeInspector
