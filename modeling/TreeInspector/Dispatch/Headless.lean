import TreeInspector.Dispatch.Coordinator

/-! # A thread for windows without a screen

The thread drains its channel as soon as anything is sent. It ends when it meets a shutdown or when a
submitted task crashes; then the channel is dropped and every window closes. A crash inside a task
that someone waits for is reported to them and does not end the thread.
-/

namespace TreeInspector

/-- A coordinator that runs on a thread of its own. -/
structure Headless where
  coordinator : Coordinator

namespace Headless

/-- The number of the headless thread. -/
def thread : ThreadId := 1

/-- A headless thread without windows. -/
def fresh : Headless := ⟨.fresh⟩

/-- The windows. -/
def registry (headless : Headless) : Registry := headless.coordinator.workspace.registry

/-- Whether the thread still runs. -/
def isAvailable (headless : Headless) : Bool := headless.coordinator.channel.isAvailable

/-- The end of the thread: the channel is dropped and all windows close. -/
def finish (coordinator : Coordinator) : Coordinator :=
  let coordinator := coordinator.drop
  { coordinator with
    workspace :=
      { coordinator.workspace with registry := coordinator.workspace.registry.closeAll } }

/-- Let the thread run until nothing is queued. -/
def settle (coordinator : Coordinator) : Headless :=
  if coordinator.channel.isAvailable then
    let (drained, next) := coordinator.drain thread
    if drained.stopped || drained.crash.isSome then ⟨finish next⟩ else ⟨next⟩
  else ⟨coordinator⟩

/-- Send a message and let the thread run. -/
def send (message : Message Task) (headless : Headless) : Except DispatchError Unit × Headless :=
  let (result, next) := headless.coordinator.send message
  (result, settle next)

/-- Open a window and wait for it. -/
def openWindow (session : Session) (headless : Headless) :
    Except DispatchError WindowId × Headless :=
  match headless.coordinator.openWindow session with
  | (.error error, next) => (.error error, ⟨next⟩)
  | (.ok call, next) =>
    let settled := settle next
    (((settled.coordinator.call? call).join).getD (.error .unavailable), settled)

/-- Ask for a window to be closed. -/
def requestClose (id : WindowId) (headless : Headless) :
    Except DispatchError Unit × Headless :=
  headless.send (.run (.act fun registry => (registry.close id).2))

/-- Run an action on the thread and wait for its result; its crash is reported. -/
def invoke {α : Type} (action : Registry → Except Crash (α × Registry)) (headless : Headless) :
    Except DispatchError α × Headless :=
  if headless.isAvailable then
    match action headless.registry with
    | .error crash => (.error (.construction crash.text), headless)
    | .ok (result, registry) =>
      let coordinator := headless.coordinator
      (.ok result,
        ⟨{ coordinator with workspace := { coordinator.workspace with registry } }⟩)
  else (.error .unavailable, headless)

/-- Stop the thread and wait for its end. -/
def shutdown (headless : Headless) : Headless := (headless.send .shutdown).2

/-- Open a window, have it closed once it is shown, and stop the thread, also if it did not open. -/
def openUntilClosed (session : Session) (headless : Headless) :
    Except DispatchError Unit × Headless :=
  match headless.openWindow session with
  | (.error error, next) => (.error error, next.shutdown)
  | (.ok id, next) => (.ok (), (next.requestClose id).2.shutdown)

end Headless

end TreeInspector
