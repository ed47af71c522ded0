import TreeInspector.Dispatch.Coordinator
import TreeInspector.Screen.Drawing

/-! # The host of all windows

The host owns the windows and draws them all in every frame, after it has run the tasks sent to it.
The first open window is drawn in the root viewport and each further one in a viewport of its own.
A viewport that is asked to close closes its window; the root viewport stays for the next window.
The host asks to be closed when it was shut down and, if it was told so, once the last window is gone.
Where there are no further viewports, all windows are drawn inside the root viewport. A viewport knows
its dialogs by their titles, so dialogs of several windows with one title are seen and used as one.
-/

namespace TreeInspector

/-- What the host asks of the root viewport. -/
inductive ViewportCommand where
  | close
  | cancelClose
deriving DecidableEq

/-- What happens to the viewports in one frame: what the user does to each window, whether the root
viewport is asked to close, and the further windows whose viewports are. -/
structure HostInput where
  windows : WindowId → FrameInput
  closeRoot : Bool
  closeDetached : List WindowId

namespace HostInput

/-- Nothing happens. -/
def none : HostInput := ⟨fun _ => .none, false, []⟩

/-- The user does the same to some windows. -/
def ofWindows (ids : List WindowId) (input : FrameInput) : HostInput :=
  { none with windows := fun id => if ids.contains id then input else .none }

end HostInput

/-- A viewport: the root's or the one of a further window. -/
inductive Viewport where
  | root
  | detached (id : WindowId)
deriving DecidableEq

/-- How a host is set up: whether it asks to be closed once the last window is gone, whether all
windows share the root viewport, and how folders are shown. -/
structure HostOptions where
  exitWhenIdle : Bool
  embedded : Bool
  revealer : Revealer

/-- The host: the windows with the tasks sent to them, the dialogs of each window, the state of the
outlines, the disk, the folders shown so far, the dialogs laid out in each viewport, and whether a
window was ever open. -/
structure Host where
  options : HostOptions
  coordinator : Coordinator
  dialogs : List (WindowId × Dialogs)
  expansion : Expansion
  disk : Disk
  folders : List String
  laidOut : List (Viewport × String)
  seenWindow : Bool

namespace Host

/-- The number of the thread that draws. -/
def thread : ThreadId := 1

/-- A host without windows. -/
def fresh (options : HostOptions) (disk : Disk) : Host :=
  ⟨options, .fresh, [], .initial, disk, [], [], false⟩

/-- The windows. -/
def registry (host : Host) : Registry := host.coordinator.workspace.registry

/-- Replace the windows. -/
def setRegistry (registry : Registry) (host : Host) : Host :=
  { host with
    coordinator :=
      { host.coordinator with workspace := { host.coordinator.workspace with registry } } }

/-- The dialogs of a window. -/
def dialogsOf (host : Host) (id : WindowId) : Dialogs := (host.dialogs.lookup id).getD .none

/-- Set the dialogs of a window. -/
def setDialogs (id : WindowId) (dialogs : Dialogs) (host : Host) : Host :=
  { host with dialogs := (id, dialogs) :: host.dialogs.filter fun entry => entry.1 != id }

/-- The numbers of the open windows, the root's first. -/
def ids (host : Host) : List WindowId := host.registry.windows.map Window.id

/-- The viewport of a further window. -/
def detachedViewport (host : Host) (id : WindowId) : Viewport :=
  if host.options.embedded then .root else .detached id

/-- A window as it is drawn in a viewport. -/
def screenIn (host : Host) (viewport : Viewport) (window : Window) : Screen where
  window
  dialogs := host.dialogsOf window.id
  expansion := host.expansion
  disk := host.disk
  folders := host.folders
  laidOut := (host.laidOut.filter fun entry => entry.1 == viewport).map Prod.snd

/-- A window as the next frame draws it. -/
def screen (host : Host) (window : Window) : Screen :=
  host.screenIn (if host.ids.head? == some window.id then .root else host.detachedViewport window.id)
    window

/-- Take over what a frame changed. -/
def absorb (drawn : Screen) (viewport : Viewport) (host : Host) : Host :=
  let host := (host.setRegistry (host.registry.put drawn.window)).setDialogs drawn.window.id drawn.dialogs
  { host with
    expansion := drawn.expansion
    disk := drawn.disk
    folders := drawn.folders
    laidOut := host.laidOut.filter (fun entry => entry.1 != viewport) ++
      drawn.laidOut.eraseDups.map fun title => (viewport, title) }

/-- Draw a window in a viewport, if it is still open. -/
def drawWindow (input : FrameInput) (viewport : Viewport) (id : WindowId) (host : Host) :
    Except Crash Host :=
  match host.registry.get? id with
  | none => .ok host
  | some window => do
    let drawn ← (host.screenIn viewport window).frame host.options.revealer input
    return host.absorb drawn viewport

/-- Draw the first window in the root viewport. A viewport asked to close closes its window, and is
kept if another window needs it. -/
def drawRoot (input : HostInput) (host : Host) : Except Crash (List ViewportCommand × Host) :=
  match host.ids with
  | [] => .ok ([], host)
  | id :: others => do
    let drawn ← host.drawWindow (input.windows id) .root id
    if input.closeRoot then
      return (if others.isEmpty then [] else [.cancelClose],
        drawn.setRegistry (drawn.registry.close id).2)
    else return ([], drawn)

/-- Draw the further windows. -/
def drawDetached (input : HostInput) (ids : List WindowId) (host : Host) : Except Crash Host :=
  ids.foldlM (fun host id => host.drawWindow (input.windows id) (host.detachedViewport id) id) host

/-- Close the windows whose viewports were closed and those whose ok button was pressed, and forget
the dialogs of all that are gone. -/
def sweep (closed : List WindowId) (host : Host) : Host :=
  let registry := (host.registry.closeEach closed).closeDismissed.2
  let host := host.setRegistry registry
  { host with dialogs := host.dialogs.filter fun entry => registry.isOpen entry.1 }

/-- Draw all windows. -/
def draw (input : HostInput) (host : Host) : Except Crash (List ViewportCommand × Host) := do
  let host := { host with seenWindow := host.seenWindow || !host.ids.isEmpty }
  let detached := host.ids.drop 1
  let (commands, rooted) ← host.drawRoot input
  let drawn ← rooted.drawDetached input detached
  let swept := drawn.sweep (detached.filter input.closeDetached.contains)
  if swept.options.exitWhenIdle && swept.seenWindow && swept.ids.isEmpty then
    return (commands ++ [.close], swept)
  else return (commands, swept)

/-- One frame: run the tasks sent so far, then draw. A shutdown closes every window instead, and a
task that crashes takes the frame with it. -/
def frame (input : HostInput) (host : Host) : Except Crash (List ViewportCommand × Host) :=
  let (drained, coordinator) := host.coordinator.drain thread
  let host := { host with coordinator }
  match drained.crash, drained.stopped with
  | some crash, _ => .error crash
  | none, true => .ok ([.close], host.setRegistry host.registry.closeAll)
  | none, false => host.draw input

/-- The title of a further window's viewport. -/
def detachedTitle (id : WindowId) : String := Window.title ++ " (" ++ WindowId.text id ++ ")"

/-! ## Shared viewports -/

/-- The windows drawn in the viewport of a window, in the order of drawing. -/
def companions (host : Host) (window : Window) : List Window :=
  if host.options.embedded then host.registry.windows else [window]

/-- The dialogs of a kind in the viewport of a window, with the windows they belong to. Of several
titles, that of the first dialog counts. -/
def dialogsAround (host : Host) (window : Window) (kind : DialogKind) :
    List (WindowId × DialogDrawing) :=
  let drawn := (host.companions window).filterMap fun companion =>
    ((host.screen companion).dialog? kind).map fun dialog => (companion.id, dialog)
  drawn.filter fun entry => (drawn.head?.map fun first => first.2.title) == some entry.2.title

/-- What a frame without tasks and input shows of each window, the root's first, and of the dialogs in
its viewport. -/
def drawings (host : Host) : List (WindowId × Drawing) :=
  host.registry.windows.map fun window =>
    let dialog? kind := DialogDrawing.overlaid? ((host.dialogsAround window kind).map Prod.snd)
    (window.id,
      { (host.screen window).drawing with prompt := dialog? .prompt, notice := dialog? .notice })

/-- Click a dialog in the viewport of a window. The click reaches every window that draws a dialog of
the same shape. -/
def clickDialog? (host : Host) (window : Window) (kind : DialogKind) (label : String) :
    Option (Use × List WindowId) :=
  let drawn := host.dialogsAround window kind
  (DialogDrawing.uncovered (drawn.map Prod.snd)).findSome? fun dialog =>
    (dialog.click? kind label).map fun use =>
      (use, (drawn.filter fun entry => entry.2.shape == dialog.shape).map Prod.fst)

/-- The input of a gesture, if its widget is drawn in the viewport of a window, and the windows that
it reaches. -/
def inputFor? (host : Host) (window : Window) : Gesture → Option (Use × List WindowId)
  | .dialog kind label => host.clickDialog? window kind label
  | gesture => ((host.screen window).inputFor? gesture).map fun use => (use, [window.id])

/-- The end of the host: nobody drains its channel any more and every window is closed. -/
def finish (host : Host) : Host :=
  let host := { host with coordinator := host.coordinator.drop }
  host.setRegistry host.registry.closeAll

end Host

end TreeInspector
