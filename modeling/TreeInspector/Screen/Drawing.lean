import TreeInspector.Number.Decimal
import TreeInspector.Screen.Basic

/-! # What a frame shows

The widgets of a frame with their texts, whether they react, and what using one of them does. A
widget is looked for among those that are drawn.
-/

namespace TreeInspector

/-- A drawn dialog: its title, its buttons with whether they react, and its texts from the top. -/
structure DialogDrawing where
  title : String
  buttons : List (String × Bool)
  labels : List String

namespace DialogDrawing

/-- Dialogs of one shape have the same widgets at the same spots. -/
def shape (dialog : DialogDrawing) : String × Nat := (dialog.title, dialog.labels.length)

/-- Dialogs of one title drawn over each other: of those with one shape the last covers the others. -/
def uncovered (dialogs : List DialogDrawing) : List DialogDrawing :=
  (dialogs.map shape).eraseDups.filterMap fun shape =>
    dialogs.reverse.find? fun dialog => dialog.shape == shape

/-- Two dialogs of one title seen as one: all buttons, and the texts of the one with more of them. -/
def laidOver (upper lower : DialogDrawing) : DialogDrawing where
  title := lower.title
  buttons := lower.buttons ++ upper.buttons
  labels := if lower.labels.length < upper.labels.length then upper.labels else lower.labels

/-- Dialogs of one title seen as one. -/
def overlaid? (dialogs : List DialogDrawing) : Option DialogDrawing :=
  match uncovered dialogs with
  | [] => none
  | first :: rest => some (rest.foldl (fun lower upper => upper.laidOver lower) first)

end DialogDrawing

/-- What is drawn of a window: the rows with whether they are marked, the controls with whether they
react, the dialogs, and on the canvas the edges, the boxes and the texts with whether they are marked. -/
structure Drawing where
  rows : List (String × Bool)
  controls : List (String × Bool)
  prompt : Option DialogDrawing
  notice : Option DialogDrawing
  edges : Nat
  boxes : Nat
  texts : List (String × Bool)

/-- The kinds of dialogs. -/
inductive DialogKind where
  | prompt
  | notice
deriving DecidableEq

namespace SavePrompt

/-- The text of the button that saves. -/
def saveLabel (prompt : SavePrompt) (disk : Disk) : String :=
  if prompt.asksToReplace disk then "Overwrite" else "Save"

/-- The text of the button that cancels. -/
def cancelLabel : String := "Cancel"

/-- The drawn prompt. -/
def drawing (prompt : SavePrompt) (disk : Disk) : DialogDrawing where
  title := title
  buttons := [(prompt.saveLabel disk, prompt.choice?.isSome), (cancelLabel, true)]
  labels := ["File name", "PNG Files (*.png)"] ++
    (if prompt.asksToReplace disk then ["File exists. Overwrite?"] else [])

end SavePrompt

/-- The drawn notice. -/
def Notice.drawing (notice : Notice) : DialogDrawing :=
  ⟨notice.title, [("OK", true)], [notice.message]⟩

namespace Screen

/-- A dialog as its viewport draws it: until it is laid out, its buttons do not react. -/
def drawDialog (laidOut : List String) (dialog : DialogDrawing) : DialogDrawing :=
  if laidOut.contains dialog.title then dialog
  else { dialog with buttons := dialog.buttons.map fun button => (button.1, false) }

/-- The text beside the slider. -/
def sliderText (window : Window) : String := "scale " ++ window.view.scale.fixedText 3

/-- The dialog of a kind that is drawn for a window. -/
def dialog? (screen : Screen) (kind : DialogKind) : Option DialogDrawing :=
  let dialog : Option DialogDrawing := match kind with
    | .prompt => screen.dialogs.prompt.map fun prompt => SavePrompt.drawing prompt screen.disk
    | .notice => screen.dialogs.notices.head?.map Notice.drawing
  dialog.map (drawDialog screen.laidOut)

/-- What the next frame without input shows. -/
def drawing (screen : Screen) : Drawing where
  rows := (screen.window.rows screen.expansion).map fun row =>
    (screen.window.session.nodeText row.source, row.errorBelow)
  controls := [sliderText screen.window, "OK", "png"].map fun text =>
    (text, !screen.dialogs.isModal)
  prompt := screen.dialog? .prompt
  notice := screen.dialog? .notice
  edges := screen.window.view.layout.edges.length
  boxes := screen.window.view.layout.nodes.length
  texts := screen.window.view.layout.nodes.map fun node => (node.text, node.flagged)

end Screen

/-- What the user wants to do with the widgets of a window. -/
inductive Gesture where
  | control (label : String)
  | dialog (kind : DialogKind) (label : String)
  | row (index : Nat)
  | toggle (path : NodePath)
  | slide (value : Int)
  | canvas (point : Point Single)
  | type (text : String)

/-- A widget that was found: whether it reacts as it is drawn, and the input of using it. The input
is sent in either case; the frame that receives it decides whether it counts. -/
structure Use where
  reacts : Bool
  input : FrameInput

/-- Click a button of a dialog. -/
def DialogDrawing.click? (dialog : DialogDrawing) (kind : DialogKind) (label : String) : Option Use :=
  (dialog.buttons.lookup label).map fun reacts =>
    ⟨reacts, .ofDialogs (match kind with
      | .prompt =>
        let cancel := label == SavePrompt.cancelLabel
        ⟨⟨none, !cancel, cancel⟩, false⟩
      | .notice => ⟨PromptInput.none, true⟩)⟩

namespace Screen

/-- Click a button of the window. -/
def clickControl? (screen : Screen) (label : String) : Option Use :=
  ((screen.drawing.controls.drop 1).lookup label).map fun reacts =>
    ⟨reacts, { FrameInput.none with ok := label == "OK", png := label == "png" }⟩

/-- Use a widget that reacts while no dialog is open. -/
def unlessModal (screen : Screen) (input : FrameInput) : Use := ⟨!screen.dialogs.isModal, input⟩

/-- The input of a gesture, if its widget is drawn. The canvas always takes a click. -/
def inputFor? (screen : Screen) : Gesture → Option Use
  | .control label => screen.clickControl? label
  | .dialog kind label => (screen.dialog? kind).bind fun dialog => dialog.click? kind label
  | .row index =>
    (screen.window.rows screen.expansion)[index]?.map fun row =>
      screen.unlessModal { FrameInput.none with row := some row.source }
  | .toggle path =>
    if (screen.window.rows screen.expansion).any fun row => row.source == path && !row.isLeaf then
      some (screen.unlessModal { FrameInput.none with toggle := some path })
    else none
  | .slide value => some (screen.unlessModal (.slideTo value))
  | .canvas point => some ⟨true, { FrameInput.none with canvas := some point }⟩
  | .type text =>
    screen.dialogs.prompt.map fun _ => ⟨true, .ofDialogs ⟨⟨some text, false, false⟩, false⟩⟩

end Screen

end TreeInspector
