import TreeInspector.Source.Tree

/-! # The task channel

Any thread may send tasks; the one thread that owns the windows drains them in the order they were
accepted. A shutdown message ends the drain that meets it and leaves what stands behind it queued.
A task that crashes ends its drain as well and is gone. Every accepted message is followed by one
call of the waker, if there is one.
-/

namespace TreeInspector

/-- Why work could not be handed to the thread that owns the windows. -/
inductive DispatchError where
  | unavailable
  | construction (message : String)
  | spawn (message : String)
deriving DecidableEq

/-- The message for work that could not be handed over. -/
def DispatchError.message : DispatchError → String
  | .unavailable => "no UI coordination thread is available"
  | .construction message => "inspector construction failed: " ++ message
  | .spawn message => "could not start marshaling thread: " ++ message

/-- The number of a thread. -/
abbrev ThreadId := Nat

/-- The number of a waker. -/
abbrev Waker := Nat

/-- What is sent through a channel. -/
inductive Message (τ : Type) where
  | run (task : τ)
  | shutdown

/-- A channel: the messages not yet drained, whether the draining end still exists, the thread that
drained first, the waker and the calls of it so far. -/
structure Channel (τ : Type) where
  queued : List (Message τ)
  isAvailable : Bool
  owner : Option ThreadId
  waker : Option Waker
  wakeCalls : List Waker

/-- How a drain ended: the tasks completed, whether a shutdown or a crash ended it, the messages left
over and the state the tasks produced. -/
structure Drained (τ σ : Type) where
  ran : Nat
  stopped : Bool
  crash : Option Crash
  rest : List (Message τ)
  state : σ

namespace Channel

variable {τ σ : Type}

/-- A new channel. -/
def fresh : Channel τ := ⟨[], true, none, none, []⟩

/-- Set the waker; only the first one counts. -/
def setWaker (waker : Waker) (channel : Channel τ) : Channel τ :=
  { channel with waker := channel.waker <|> some waker }

/-- Whether a thread is the one that drains the channel. -/
def isOwner (channel : Channel τ) (thread : ThreadId) : Bool := channel.owner == some thread

/-- Queue a message and call the waker. -/
def push (message : Message τ) (channel : Channel τ) : Channel τ :=
  { channel with
    queued := channel.queued ++ [message]
    wakeCalls := channel.wakeCalls ++ channel.waker.toList }

/-- Send a message, if the draining end still exists. -/
def send (message : Message τ) (channel : Channel τ) : Except DispatchError Unit × Channel τ :=
  if channel.isAvailable then (.ok (), channel.push message) else (.error .unavailable, channel)

/-- Run messages in order up to a shutdown, a crash or the end. -/
def runMessages (execute : τ → σ → σ × Option Crash) :
    List (Message τ) → Nat → σ → Drained τ σ
  | [], ran, state => ⟨ran, false, none, [], state⟩
  | .shutdown :: rest, ran, state => ⟨ran, true, none, rest, state⟩
  | .run task :: rest, ran, state =>
    match execute task state with
    | (state, none) => runMessages execute rest (ran + 1) state
    | (state, some crash) => ⟨ran, false, some crash, rest, state⟩

/-- Run what is queued. The first thread to do so owns the channel from then on. -/
def drain (execute : τ → σ → σ × Option Crash) (thread : ThreadId) (channel : Channel τ)
    (state : σ) : Drained τ σ × Channel τ :=
  let drained := runMessages execute channel.queued 0 state
  (drained, { channel with queued := drained.rest, owner := channel.owner <|> some thread })

/-- End the draining side: what is queued is lost. -/
def drop (channel : Channel τ) : Channel τ := { channel with queued := [], isAvailable := false }

end Channel

end TreeInspector
