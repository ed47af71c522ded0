import TreeInspector.Outline.Basic
import TreeInspector.Slider
import TreeInspector.View.Basic

/-! # Inspector windows

A window holds a session with its outline, the rendered view, the selected row, the slider and the
requests raised by its buttons. Each control has named handlers; an event goes through all handlers
of its control in order. A selection that names no node of the outline is ignored; the view is told
only what the session reports as changed.
-/

namespace TreeInspector

/-- The buttons of a window. -/
inductive Button where
  | ok
  | exportPng
deriving DecidableEq

/-- The number of a window. Numbers are unbounded here; they agree with a 64-bit counter as long as fewer than
2 ^ 64 windows were asked for. -/
abbrev WindowId := Nat

/-- The written form of a window's number. -/
def WindowId.text (id : WindowId) : String := "inspector-" ++ Nat.repr id

/-- One inspector window. -/
structure Window where
  id : WindowId
  session : Session
  outline : Outline
  view : View
  selected : Option NodePath
  slider : Int
  closeRequested : Bool
  exportRequested : Bool

namespace Window

/-- The title of every window. -/
def title : String := "Parse Tree Inspector"

/-- The colour of rows with an error at or below them. -/
def errorColor : Nat × Nat × Nat := (208, 16, 16)

/-- Whether rows show icons. -/
def showsIcons : Bool := false

/-- Build the window of a session. The outline is built before the view is laid out. -/
def construct (id : WindowId) (session : Session) : Except Crash Window := do
  let outline ← Outline.ofTree session.root
  let view ← View.ofSession session
  return {
    id
    session := { session with isOpen := true }
    outline
    view
    selected := none
    slider := Slider.ofScale session.scale
    closeRequested := false
    exportRequested := false }

/-- A reaction to an event. -/
abbrev Handler (ε : Type) := ε → Window → Except Crash Window

/-- Select the row of a path, focus its node and show its subtree. -/
def focusSubtree : Handler NodePath := fun path window =>
  match window.outline.find? path with
  | none => .ok window
  | some _ => do
    let (changed, session) := window.session.setFocused path
    let view ← if changed then window.view.setFocus path else .ok window.view
    return { window with selected := some path, session, view }

/-- Take over a slider value as the scale. -/
def rescaleView : Handler Int := fun value window => do
  let slider := Slider.clamp value
  let scale := Slider.toScale slider
  let (changed, session) := window.session.setScale scale
  let view ← if changed then window.view.setScale scale else .ok window.view
  return { window with slider, session, view }

/-- The ok button asks to close the window. -/
def dismiss : Handler Button := fun button window =>
  .ok (if button = .ok then { window with closeRequested := true } else window)

/-- The export button asks for an export. -/
def requestExport : Handler Button := fun button window =>
  .ok (if button = .exportPng then { window with exportRequested := true } else window)

/-- The named handlers of the outline. -/
def outlineHandlers : List (String × Handler NodePath) := [("focus-subtree", focusSubtree)]

/-- The named handlers of the slider. -/
def scaleHandlers : List (String × Handler Int) := [("rescale-view", rescaleView)]

/-- The named handlers of the buttons. -/
def buttonHandlers : List (String × Handler Button) :=
  [("dismiss", dismiss), ("export-png", requestExport)]

/-- Deliver an event to every handler in order. -/
def emit {ε : Type} (handlers : List (String × Handler ε)) (event : ε) (window : Window) :
    Except Crash Window :=
  handlers.foldlM (fun window handler => handler.2 event window) window

/-- The outline reports a selected path. -/
def select (path : NodePath) (window : Window) : Except Crash Window :=
  emit outlineHandlers path window

/-- The slider reports a value. -/
def adjustScale (value : Int) (window : Window) : Except Crash Window :=
  emit scaleHandlers value window

/-- A button was pressed. -/
def press (button : Button) (window : Window) : Except Crash Window :=
  emit buttonHandlers button window

/-- Consume a pending export request. -/
def takeExportRequest (window : Window) : Bool × Window :=
  (window.exportRequested, { window with exportRequested := false })

/-- What can happen to a window. -/
inductive Event where
  | select (path : NodePath)
  | adjustScale (value : Int)
  | press (button : Button)
  | takeExportRequest

/-- Let an event happen. -/
def handle (window : Window) : Event → Except Crash Window
  | .select path => window.select path
  | .adjustScale value => window.adjustScale value
  | .press button => window.press button
  | .takeExportRequest => .ok window.takeExportRequest.2

/-- Let events happen one after the other. -/
def handleAll (window : Window) (events : List Event) : Except Crash Window :=
  events.foldlM handle window

/-- A run of joined events is the run of the first part followed by that of the second. -/
theorem handleAll_append (window : Window) (first second : List Event) :
    window.handleAll (first ++ second) = (window.handleAll first).bind fun next =>
      next.handleAll second := by
  simp only [handleAll, List.foldlM_append]
  rfl

end Window

end TreeInspector
