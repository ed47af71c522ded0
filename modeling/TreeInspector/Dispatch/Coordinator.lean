import TreeInspector.Dispatch.Channel
import TreeInspector.Window.Registry

/-! # Opening windows from any thread

Windows belong to one thread. A call to open one is a number: it first checks that the owner exists,
then hands the construction over, and is decided once the construction ran or can no longer run. What
later happens to the window is seen through the registry.
-/

namespace TreeInspector

/-- A call to open a window: undecided, or how it was decided. -/
abbrev CallState := Option (Except DispatchError WindowId)

/-- What runs on the thread that owns the windows. -/
inductive Task where
  | openWindow (call : Nat) (session : Session)
  | act (action : Registry → Registry)
  | note (text : String)
  | crash (crash : Crash)

/-- What tasks work on: the windows, the calls and the notes taken. -/
structure Workspace where
  registry : Registry
  calls : List CallState
  notes : List String

namespace Workspace

/-- No windows, no calls, no notes. -/
def empty : Workspace := ⟨.empty, [], []⟩

/-- Decide a call; the first decision stands. -/
def decideCall (call : Nat) (result : Except DispatchError WindowId) (workspace : Workspace) :
    Workspace :=
  { workspace with calls := workspace.calls.modify call fun state => state <|> some result }

/-- Run a task. A crash while a window is built decides the call and goes no further. -/
def execute (task : Task) (workspace : Workspace) : Workspace × Option Crash :=
  match task with
  | .openWindow call session =>
    let (result, registry) := workspace.registry.openWindow session
    let result := result.mapError fun crash => DispatchError.construction crash.text
    (({ workspace with registry } : Workspace).decideCall call result, none)
  | .act action => ({ workspace with registry := action workspace.registry }, none)
  | .note text =>
    let note := text ++ ":" ++ Nat.repr workspace.registry.windows.length
    ({ workspace with notes := workspace.notes ++ [note] }, none)
  | .crash crash => (workspace, some crash)

end Workspace

/-- The thread that owns the windows and the channel that leads to it. -/
structure Coordinator where
  channel : Channel Task
  workspace : Workspace

namespace Coordinator

/-- A coordinator that nothing was sent to. -/
def fresh : Coordinator := ⟨.fresh, .empty⟩

/-- Send a message. -/
def send (message : Message Task) (coordinator : Coordinator) :
    Except DispatchError Unit × Coordinator :=
  let (result, channel) := coordinator.channel.send message
  (result, { coordinator with channel })

/-- Send a task. -/
def submit (task : Task) (coordinator : Coordinator) : Except DispatchError Unit × Coordinator :=
  coordinator.send (.run task)

/-- Ask the owner to stop draining. -/
def shutdown (coordinator : Coordinator) : Except DispatchError Unit × Coordinator :=
  coordinator.send .shutdown

/-- Ask for a window to be closed. -/
def requestClose (id : WindowId) (coordinator : Coordinator) :
    Except DispatchError Unit × Coordinator :=
  coordinator.submit (.act fun registry => (registry.close id).2)

/-- Start a call to open a window, if the owner exists, and give its number. -/
def beginOpen (coordinator : Coordinator) : Except DispatchError Nat × Coordinator :=
  if coordinator.channel.isAvailable then
    (.ok coordinator.workspace.calls.length,
      { coordinator with
        workspace :=
          { coordinator.workspace with calls := coordinator.workspace.calls ++ [none] } })
  else (.error .unavailable, coordinator)

/-- Hand the construction of a call's window over; without an owner the call has failed. -/
def marshal (call : Nat) (session : Session) (coordinator : Coordinator) : Coordinator :=
  match coordinator.submit (.openWindow call session) with
  | (.ok (), next) => next
  | (.error error, next) =>
    { next with workspace := next.workspace.decideCall call (.error error) }

/-- Call for a window of a session. -/
def openWindow (session : Session) (coordinator : Coordinator) :
    Except DispatchError Nat × Coordinator :=
  match coordinator.beginOpen with
  | (.ok call, next) => (.ok call, next.marshal call session)
  | (.error error, next) => (.error error, next)

/-- The state of a call. -/
def call? (coordinator : Coordinator) (call : Nat) : Option CallState :=
  coordinator.workspace.calls[call]?

/-- How an attempt to run something on the owner's thread and wait for it fails at once, if it does. -/
def invocationError? (coordinator : Coordinator) (thread : ThreadId) : Option DispatchError :=
  if coordinator.channel.isOwner thread then
    some (.construction "invoke_and_wait called on the UI thread")
  else if coordinator.channel.isAvailable then none
  else some .unavailable

/-- Run what is queued on a thread. -/
def drain (thread : ThreadId) (coordinator : Coordinator) : Drained Task Workspace × Coordinator :=
  let (drained, channel) :=
    coordinator.channel.drain Workspace.execute thread coordinator.workspace
  (drained, ⟨channel, drained.state⟩)

/-- The calls whose construction is still queued. -/
def queuedCalls (messages : List (Message Task)) : List Nat :=
  messages.filterMap fun
    | .run (.openWindow call _) => some call
    | _ => none

/-- End the draining side: calls whose construction is still queued have failed. -/
def drop (coordinator : Coordinator) : Coordinator :=
  { channel := coordinator.channel.drop
    workspace := (queuedCalls coordinator.channel.queued).foldl
      (fun workspace call => workspace.decideCall call (.error .unavailable))
      coordinator.workspace }

end Coordinator

end TreeInspector
