import TreeInspector.Outline.Rows
import TreeInspector.Screen.Dialogs
import TreeInspector.View.Painting

/-! # Frames of a window

A window is drawn anew every frame, and what the user does in a frame takes effect while it is drawn:
first the controls, then the outline, then the canvas; then a requested export opens its prompt, and
last come the dialogs. While a dialog was open at the start of a frame, nothing but the dialogs reacts.
A dialog reacts only if it was already open at the start of the frame.

The first frame that draws a dialog in a viewport only finds out its size: its buttons do not react
yet. A viewport knows the dialogs it has laid out by their titles.
-/

namespace TreeInspector

/-- What the user does in one frame. -/
structure FrameInput where
  slide : Option Int
  ok : Bool
  png : Bool
  row : Option NodePath
  toggle : Option NodePath
  canvas : Option (Point Single)
  dialogs : DialogInput

namespace FrameInput

/-- The user does nothing. -/
def none : FrameInput := ⟨.none, false, false, .none, .none, .none, ⟨PromptInput.none, false⟩⟩

/-- The user moves the slider. -/
def slideTo (value : Int) : FrameInput := { none with slide := some value }

/-- The user does something to the dialogs only. -/
def ofDialogs (dialogs : DialogInput) : FrameInput := { none with dialogs }

end FrameInput

/-- One window with all that its frames may change: its dialogs, the state of the outline, the disk,
the folders shown so far, and the dialogs that its viewport has laid out. -/
structure Screen where
  window : Window
  dialogs : Dialogs
  expansion : Expansion
  disk : Disk
  folders : List String
  laidOut : List String

namespace Screen

/-- A window without dialogs. -/
def ofWindow (window : Window) (disk : Disk) : Screen := ⟨window, .none, .initial, disk, [], []⟩

/-- The slider reports a value within its range, if it differs from the present one. -/
def moveSlider (value : Int) (window : Window) : Except Crash Window :=
  if Slider.clamp value = window.slider then .ok window
  else window.adjustScale (Slider.clamp value)

/-- The controls take effect, from the slider to the buttons. -/
def controlsFrame (input : FrameInput) (window : Window) : Except Crash Window := do
  let moved ← match input.slide with
    | some value => moveSlider value window
    | none => .ok window
  let closing ← if input.ok then moved.press .ok else .ok moved
  if input.png then closing.press .exportPng else .ok closing

/-- Select the node of a row that is shown. -/
def clickRow (rows : List Outline) (path : Option NodePath) (window : Window) :
    Except Crash Window :=
  match path with
  | some path => if rows.any fun row => row.source == path then window.select path else .ok window
  | none => .ok window

/-- Toggle a node that is shown and has children. -/
def clickToggle (rows : List Outline) (id : WindowId) (path : Option NodePath)
    (expansion : Expansion) : Expansion :=
  match path with
  | some path =>
    if rows.any fun row => row.source == path && !row.isLeaf then expansion.toggle id path
    else expansion
  | none => expansion

/-- Select the drawn node at a point. -/
def clickCanvas (point : Option (Point Single)) (window : Window) : Except Crash Window :=
  match point.bind fun point => window.view.layout.nodeAt? point with
  | some node => window.select node.path
  | none => .ok window

/-- What the user does to the window takes effect, in the controls, the outline and the canvas. None of
them reacts while a dialog is open. -/
def windowFrame (input : FrameInput) (screen : Screen) : Except Crash Screen := do
  let isModal := screen.dialogs.isModal
  let controlled ← if isModal then .ok screen.window else controlsFrame input screen.window
  let rows := controlled.rows screen.expansion
  let selected ← if isModal then .ok controlled else clickRow rows input.row controlled
  let expansion :=
    if isModal then screen.expansion else clickToggle rows controlled.id input.toggle screen.expansion
  let window ← if isModal then .ok selected else clickCanvas input.canvas selected
  return { screen with window, expansion }

/-- A requested export opens its prompt. The scene goes to a rasterizer. -/
def exportFrameBy (rasterizer : Rasterizer) (screen : Screen) : Screen :=
  let (requested, window) := screen.window.takeExportRequest
  if requested then
    { screen with
      window
      dialogs := screen.dialogs.beginExport (window.view.renderableBy rasterizer) screen.disk }
  else { screen with window }

/-- What reaches dialogs that may not have been open at the start of the frame. -/
def dialogInput (input : DialogInput) (start : Dialogs) : DialogInput :=
  { toPromptInput := if start.prompt.isSome then input.toPromptInput else .none
    dismiss := input.dismiss && !start.notices.isEmpty }

/-- The dialogs react. A picture is encoded as an encoder does. -/
def dialogsFrameBy (encoder : Encoder) (input : DialogInput) (revealer : Revealer) (screen : Screen) :
    Screen :=
  let (dialogs, folders, disk) :=
    screen.dialogs.promptFrameBy encoder input.toPromptInput revealer screen.disk
  { screen with
    dialogs := dialogs.noticeFrame input.dismiss
    disk
    folders := screen.folders ++ folders
    laidOut := screen.laidOut ++ Dialogs.titles screen.dialogs.prompt dialogs.notices }

/-- Draw a frame, by a rasterizer of scenes and an encoder of pictures. -/
def frameBy (rasterizer : Rasterizer) (encoder : Encoder) (revealer : Revealer) (input : FrameInput)
    (screen : Screen) : Except Crash Screen := do
  let reacted ← screen.windowFrame input
  return (reacted.exportFrameBy rasterizer).dialogsFrameBy encoder
    (dialogInput input.dialogs screen.dialogs) revealer

/-- Draw a frame. -/
def frame : Revealer → FrameInput → Screen → Except Crash Screen := frameBy View.whitewash Png.encoder

/-- Draw frames one after the other. -/
def frames (revealer : Revealer) (screen : Screen) (inputs : List FrameInput) :
    Except Crash Screen :=
  inputs.foldlM (fun screen input => screen.frame revealer input) screen

end Screen

end TreeInspector
