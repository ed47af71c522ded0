import TreeInspector.Window.Basic

/-! # The registry of open windows

The registry owns all windows, in the order they were opened, and gives out their numbers. It also
keeps the phase of every window it ever showed, which outlives the window: a handle to a window is
its number, and its phase is looked up here.
-/

namespace TreeInspector

/-- The life of a window as its handles see it. -/
inductive Phase where
  | constructing
  | shown
  | closed
deriving DecidableEq

/-- The open windows, the number of attempts to open one, and the phases of all windows shown. The attempts are
counted without a bound. Nothing depends on it but that every attempt gets a number of its own, which a counter
of 64 bits grants for the first 2 ^ 64 - 1 attempts. -/
structure Registry where
  windows : List Window
  attempts : Nat
  phases : List (WindowId × Phase)

namespace Registry

/-- No window was ever opened. -/
def empty : Registry := ⟨[], 0, []⟩

/-- The phase of the window with a number. -/
def phase (registry : Registry) (id : WindowId) : Phase :=
  (registry.phases.lookup id).getD .constructing

/-- Set the phase of a window. -/
def setPhase (phases : List (WindowId × Phase)) (id : WindowId) (phase : Phase) :
    List (WindowId × Phase) :=
  phases.map fun entry => if entry.1 = id then (id, phase) else entry

/-- Open a window for a session. The number is used up even if the window cannot be built. -/
def openWindow (session : Session) (registry : Registry) : Except Crash WindowId × Registry :=
  let id := registry.attempts + 1
  match Window.construct id session with
  | .error crash => (.error crash, { registry with attempts := id })
  | .ok window =>
    (.ok id, ⟨registry.windows ++ [window], id, registry.phases ++ [(id, .shown)]⟩)

/-- The open window with a number. -/
def get? (registry : Registry) (id : WindowId) : Option Window :=
  registry.windows.find? fun window => window.id == id

/-- Whether a window with the number is open. -/
def isOpen (registry : Registry) (id : WindowId) : Bool :=
  registry.windows.any fun window => window.id == id

/-- Close the window with a number, if it is open, and report whether it was. -/
def close (id : WindowId) (registry : Registry) : Bool × Registry :=
  if registry.isOpen id then
    (true,
      { registry with
        windows := registry.windows.eraseP fun window => window.id == id
        phases := setPhase registry.phases id .closed })
  else (false, registry)

/-- Close several windows by number. -/
def closeEach (ids : List WindowId) (registry : Registry) : Registry :=
  ids.foldl (fun registry id => (registry.close id).2) registry

/-- Close every window whose ok button was pressed and give their numbers. -/
def closeDismissed (registry : Registry) : List WindowId × Registry :=
  let ids := (registry.windows.filter Window.closeRequested).map Window.id
  (ids, registry.closeEach ids)

/-- Close every window. -/
def closeAll (registry : Registry) : Registry :=
  registry.closeEach (registry.windows.map Window.id)

/-- Replace the open window with a number. -/
def put (window : Window) (registry : Registry) : Registry :=
  { registry with
    windows := registry.windows.map fun other => if other.id = window.id then window else other }

/-- Let an event happen to the window with a number; nothing happens if it is not open. -/
def handle (id : WindowId) (event : Window.Event) (registry : Registry) : Except Crash Registry :=
  match registry.get? id with
  | none => .ok registry
  | some window => (window.handle event).map registry.put

/-- Press the ok button of every window. -/
def pressAllOk (registry : Registry) : Except Crash Registry :=
  (registry.windows.map Window.id).foldlM
    (fun registry id => registry.handle id (.press .ok)) registry

/-- The phases of the given windows. -/
def phasesOf (registry : Registry) (ids : List WindowId) : List Phase := ids.map registry.phase

end Registry

end TreeInspector
