import Mathlib.Tactic.Common
import TreeInspector.Dispatch.Channel

/-! # Traffic through a channel

A channel in use by any number of senders, one access at a time. A send checks that the draining end
exists, queues its message and calls the waker, and anything may happen in between: other sends, drains
that run tasks, the end of the draining side. That end comes in two steps as well: first the channel is
marked as unavailable, then the queue goes away.

Whatever the senders do, the draining side takes messages in the order they were queued, carries out
their tasks once, and each of its drains does what a drain at once does (`Orderly`).
-/

namespace TreeInspector.Channel

variable {τ σ : Type}

/-- How far a send has come. -/
inductive Progress where
  | begun
  | checked
  | pushed
  | returned (result : Except DispatchError Unit)

/-- A send: its message and how far it has come. -/
structure Delivery (τ : Type) where
  message : Message τ
  progress : Progress

/-- Whether a send is not over. -/
def Delivery.isUnderWay (delivery : Delivery τ) : Bool :=
  match delivery.progress with
  | .returned _ => false
  | _ => true

/-- A message whose task carries the number of its send. -/
def stamp (number : Nat) : Message τ → Message (Nat × τ)
  | .run task => .run (number, task)
  | .shutdown => .shutdown

/-- The tasks among messages. -/
def tasks (messages : List (Message τ)) : List τ :=
  messages.filterMap fun
    | .run task => some task
    | .shutdown => none

/-- A drain under way: whether it waits for senders, the number of tasks it completed, the messages it
took and the task that is running. -/
structure Round (τ : Type) where
  waits : Bool
  ran : Nat
  taken : List (Message τ)
  running : Option τ

/-- A drain that is over: the messages it took and how it ended. -/
structure Ended (τ σ : Type) where
  taken : List (Message τ)
  outcome : Drained τ σ

/-- A channel in use: whether the queue still exists, the number of handles for sending, all sends, the
messages queued so far with the numbers of their sends, the calls of the waker by send, the state the
tasks work on, the tasks carried out, the drain under way and those that are over. -/
structure Traffic (τ σ : Type) where
  channel : Channel (Nat × τ)
  connected : Bool
  dispatchers : Nat
  deliveries : List (Delivery τ)
  accepted : List (Nat × Message τ)
  wakes : List (Nat × Waker)
  state : σ
  executed : List (Nat × τ)
  round : Option (Round (Nat × τ))
  ended : List (Ended (Nat × τ) σ)

namespace Traffic

/-- What the senders and the draining side do. -/
inductive Move (τ : Type) where
  | clone
  | release
  | post (message : Message τ)
  | check (send : Nat)
  | push (send : Nat)
  | wake (send : Nat)
  | setWaker (waker : Waker)
  | start (waits : Bool) (thread : ThreadId)
  | receive
  | finish
  | retire
  | disconnect

/-- A new channel with one handle for sending. -/
def fresh (state : σ) : Traffic τ σ where
  channel := .fresh
  connected := true
  dispatchers := 1
  deliveries := []
  accepted := []
  wakes := []
  state := state
  executed := []
  round := none
  ended := []

/-- Move a send on. -/
def proceed (send : Nat) (delivery : Delivery τ) (traffic : Traffic τ σ) : Traffic τ σ :=
  { traffic with deliveries := traffic.deliveries.set send delivery }

/-- Queue the message of a send. -/
def enqueue (send : Nat) (message : Message τ) (traffic : Traffic τ σ) : Traffic τ σ :=
  { traffic with
    channel := { traffic.channel with queued := traffic.channel.queued ++ [stamp send message] }
    accepted := traffic.accepted ++ [(send, message)] }

/-- Call the waker for a send, if there is one. -/
def call (send : Nat) (traffic : Traffic τ σ) : Traffic τ σ :=
  let waker := traffic.channel.waker.toList
  { traffic with
    channel := { traffic.channel with wakeCalls := traffic.channel.wakeCalls ++ waker }
    wakes := traffic.wakes ++ waker.map fun waker => (send, waker) }

/-- End a drain. -/
def close (round : Round (Nat × τ)) (stopped : Bool) (crash : Option Crash) (traffic : Traffic τ σ) :
    Traffic τ σ :=
  { traffic with
    round := none
    ended := traffic.ended ++
      [⟨round.taken, ⟨round.ran, stopped, crash, traffic.channel.queued, traffic.state⟩⟩] }

/-- Go on with the given messages queued. -/
def leave (rest : List (Message (Nat × τ))) (traffic : Traffic τ σ) : Traffic τ σ :=
  { traffic with channel := { traffic.channel with queued := rest } }

/-- Take the next message; without one, a drain ends unless it waits for senders. -/
def receive (round : Round (Nat × τ)) (traffic : Traffic τ σ) : Traffic τ σ :=
  match traffic.channel.queued with
  | [] => if round.waits && 0 < traffic.dispatchers then traffic else traffic.close round false none
  | .shutdown :: rest =>
    (traffic.leave rest).close { round with taken := round.taken ++ [.shutdown] } true none
  | .run task :: rest =>
    let taken := round.taken ++ [.run task]
    { traffic.leave rest with round := some { round with taken, running := some task } }

/-- Carry out the task that was taken; a crash ends the drain. -/
def finish (execute : Nat × τ → σ → σ × Option Crash) (round : Round (Nat × τ)) (task : Nat × τ)
    (traffic : Traffic τ σ) : Traffic τ σ :=
  let (state, crash) := execute task traffic.state
  let next := { traffic with state, executed := traffic.executed ++ [task] }
  match crash with
  | none => { next with round := some { round with ran := round.ran + 1, running := none } }
  | some _ => next.close round false crash

/-- Make a move; a move that is not possible has no effect. -/
def step (execute : Nat × τ → σ → σ × Option Crash) (traffic : Traffic τ σ) : Move τ → Traffic τ σ
  | .clone =>
    if 0 < traffic.dispatchers then { traffic with dispatchers := traffic.dispatchers + 1 } else traffic
  | .release =>
    -- A send borrows a handle, so the last handle stays while a send is under way.
    if traffic.dispatchers = 1 && traffic.deliveries.any Delivery.isUnderWay then traffic
    else { traffic with dispatchers := traffic.dispatchers - 1 }
  | .post message =>
    if 0 < traffic.dispatchers then
      { traffic with deliveries := traffic.deliveries ++ [⟨message, .begun⟩] }
    else traffic
  | .check send =>
    match traffic.deliveries[send]? with
    | some ⟨message, .begun⟩ =>
      if traffic.channel.isAvailable then traffic.proceed send ⟨message, .checked⟩
      else traffic.proceed send ⟨message, .returned (.error .unavailable)⟩
    | _ => traffic
  | .push send =>
    match traffic.deliveries[send]? with
    | some ⟨message, .checked⟩ =>
      if traffic.connected then (traffic.enqueue send message).proceed send ⟨message, .pushed⟩
      else traffic.proceed send ⟨message, .returned (.error .unavailable)⟩
    | _ => traffic
  | .wake send =>
    match traffic.deliveries[send]? with
    | some ⟨message, .pushed⟩ => (traffic.call send).proceed send ⟨message, .returned (.ok ())⟩
    | _ => traffic
  | .setWaker waker =>
    if traffic.channel.isAvailable then { traffic with channel := traffic.channel.setWaker waker }
    else traffic
  | .start waits thread =>
    match traffic.channel.isAvailable, traffic.round with
    | true, none =>
      { traffic with
        channel := { traffic.channel with owner := traffic.channel.owner <|> some thread }
        round := some ⟨waits, 0, [], none⟩ }
    | _, _ => traffic
  | .receive =>
    match traffic.round with
    | some ⟨waits, ran, taken, none⟩ => traffic.receive ⟨waits, ran, taken, none⟩
    | _ => traffic
  | .finish =>
    match traffic.round with
    | some ⟨waits, ran, taken, some task⟩ => traffic.finish execute ⟨waits, ran, taken, some task⟩ task
    | _ => traffic
  | .retire =>
    match traffic.round with
    | none => { traffic with channel := { traffic.channel with isAvailable := false } }
    | some _ => traffic
  | .disconnect =>
    if traffic.channel.isAvailable then traffic
    else { traffic with channel := traffic.channel.drop, connected := false }

/-- Make moves one after the other. -/
def run (execute : Nat × τ → σ → σ × Option Crash) (traffic : Traffic τ σ) (moves : List (Move τ)) :
    Traffic τ σ :=
  moves.foldl (step execute) traffic

/-- The messages taken so far. -/
def taken (traffic : Traffic τ σ) : List (Message (Nat × τ)) :=
  traffic.ended.flatMap Ended.taken ++ (traffic.round.map Round.taken).getD []

/-- The messages queued so far. -/
def pushed (traffic : Traffic τ σ) : List (Message (Nat × τ)) :=
  traffic.accepted.map fun entry => stamp entry.1 entry.2

theorem run_append (execute : Nat × τ → σ → σ × Option Crash) (traffic : Traffic τ σ)
    (moves more : List (Move τ)) :
    traffic.run execute (moves ++ more) = (traffic.run execute moves).run execute more :=
  List.foldl_append

end Traffic

/-! ## The draining side -/

section Tasks

@[simp] theorem tasks_nil : tasks ([] : List (Message τ)) = [] := rfl

@[simp] theorem tasks_append (messages more : List (Message τ)) :
    tasks (messages ++ more) = tasks messages ++ tasks more :=
  List.filterMap_append

@[simp] theorem tasks_run (task : τ) (messages : List (Message τ)) :
    tasks (.run task :: messages) = task :: tasks messages := rfl

@[simp] theorem tasks_shutdown (messages : List (Message τ)) :
    tasks (.shutdown :: messages) = tasks messages := rfl

/-- The state after tasks were carried out in order. -/
def perform (execute : τ → σ → σ × Option Crash) (todo : List τ) (state : σ) : σ :=
  todo.foldl (fun state task => (execute task state).1) state

theorem perform_append (execute : τ → σ → σ × Option Crash) (todo more : List τ) (state : σ) :
    perform execute (todo ++ more) state = perform execute more (perform execute todo state) :=
  List.foldl_append

/-- The tasks that end without a crash when they are carried out in order. -/
def completed (execute : τ → σ → σ × Option Crash) : List τ → σ → List τ
  | [], _ => []
  | task :: rest, state =>
    match execute task state with
    | (next, none) => task :: completed execute rest next
    | (next, some _) => completed execute rest next

/-- A drain counts the tasks that it completed; a shutdown or a crash is that of the last message it
took. -/
theorem exists_consumed (execute : τ → σ → σ × Option Crash) (messages : List (Message τ)) (ran : Nat)
    (state : σ) : ∃ consumed,
      let drained := runMessages execute messages ran state
      messages = consumed ++ drained.rest ∧
        drained.ran = ran + (completed execute (tasks consumed) state).length ∧
        (drained.stopped = true → ∃ before, consumed = before ++ [.shutdown]) ∧
        ∀ crash, drained.crash = some crash → ∃ before task, consumed = before ++ [.run task] ∧
          execute task (perform execute (tasks before) state) = (drained.state, some crash) := by
  fun_induction runMessages execute messages ran state with
  | case1 ran state => exact ⟨[], rfl, rfl, by simp, by simp⟩
  | case2 rest ran state => exact ⟨[.shutdown], rfl, rfl, fun _ => ⟨[], rfl⟩, by simp⟩
  | case3 task rest ran state next result ih =>
    obtain ⟨consumed, split, counted, stopped, crashed⟩ := ih
    refine ⟨.run task :: consumed, congrArg (_ :: ·) split, ?_, ?_, ?_⟩
    · rw [counted, tasks_run, completed, result, List.length_cons]
      omega
    · intro found
      obtain ⟨before, rfl⟩ := stopped found
      exact ⟨.run task :: before, rfl⟩
    · intro crash found
      obtain ⟨before, last, rfl, same⟩ := crashed crash found
      refine ⟨.run task :: before, last, rfl, ?_⟩
      rw [tasks_run, perform, List.foldl_cons, result]
      exact same
  | case4 task rest ran state next crash result =>
    refine ⟨[.run task], rfl, ?_, by simp, ?_⟩
    · simp [completed, result]
    · rintro _ ⟨⟩
      exact ⟨[], task, rfl, result⟩

end Tasks

/-- What a drain did so far is what a whole drain does first. -/
def Round.Replays (execute : τ → σ → σ × Option Crash) (start state : σ) (round : Round τ) : Prop :=
  ∀ rest, runMessages execute (round.taken ++ rest) 0 start =
    runMessages execute ((round.running.map Message.run).toList ++ rest) round.ran state

/-- A drain that is over was a whole drain of what it took and of what it left. -/
def Ended.Whole (execute : τ → σ → σ × Option Crash) (start : σ) (drain : Ended τ σ) : Prop :=
  drain.outcome = runMessages execute (drain.taken ++ drain.outcome.rest) 0 start

section Whole

variable {execute : τ → σ → σ × Option Crash} {start : σ} {drain : Ended τ σ}
  (whole : drain.Whole execute start)
include whole

/-- A drain that is over counted the tasks that it completed. -/
theorem Ended.Whole.ran :
    drain.outcome.ran = (completed execute (tasks drain.taken) start).length := by
  obtain ⟨consumed, split, counted, _⟩ :=
    exists_consumed execute (drain.taken ++ drain.outcome.rest) 0 start
  rw [← whole] at split counted
  rw [counted, Nat.zero_add, List.append_cancel_right split]

/-- A drain that was stopped took a shutdown last. -/
theorem Ended.Whole.stopped (found : drain.outcome.stopped = true) :
    ∃ before, drain.taken = before ++ [.shutdown] := by
  obtain ⟨consumed, split, _, stopped, _⟩ :=
    exists_consumed execute (drain.taken ++ drain.outcome.rest) 0 start
  rw [← whole] at split stopped
  rw [List.append_cancel_right split]
  exact stopped found

/-- A crash that ended a drain is that of the last task it took. -/
theorem Ended.Whole.crashed {crash : Crash} (found : drain.outcome.crash = some crash) :
    ∃ before task, drain.taken = before ++ [.run task] ∧
      execute task (perform execute (tasks before) start) = (drain.outcome.state, some crash) := by
  obtain ⟨consumed, split, _, _, crashed⟩ :=
    exists_consumed execute (drain.taken ++ drain.outcome.rest) 0 start
  rw [← whole] at split crashed
  rw [List.append_cancel_right split]
  exact crashed crash found

end Whole

namespace Traffic

/-- The state in which the drain after some others starts. -/
def startAfter (execute : Nat × τ → σ → σ × Option Crash) (initial : σ)
    (ended : List (Ended (Nat × τ) σ)) : σ :=
  perform execute (tasks (ended.flatMap Ended.taken)) initial

/-- The draining side takes messages in the order they were queued, and each drain that is over was a
whole drain of what it took and of what was then queued behind it. -/
structure Orderly (execute : Nat × τ → σ → σ × Option Crash) (initial : σ) (traffic : Traffic τ σ) :
    Prop where
  order : traffic.connected = true → traffic.taken ++ traffic.channel.queued = traffic.pushed
  early : traffic.taken <+: traffic.pushed
  executed : traffic.executed ++ (traffic.round.bind Round.running).toList = tasks traffic.taken
  state : traffic.state = perform execute traffic.executed initial
  idle : traffic.channel.isAvailable = false → traffic.round = none
  gone : traffic.connected = false → traffic.channel.isAvailable = false
  emptied : traffic.connected = false → traffic.channel.queued = []
  current : ∀ round ∈ traffic.round,
    round.Replays execute (startAfter execute initial traffic.ended) traffic.state
  replays : ∀ before drain, before ++ [drain] <+: traffic.ended →
    drain.Whole execute (startAfter execute initial before) ∧
      before.flatMap Ended.taken ++ drain.taken ++ drain.outcome.rest <+: traffic.pushed

theorem orderly_fresh (execute : Nat × τ → σ → σ × Option Crash) (state : σ) :
    (fresh state : Traffic τ σ).Orderly execute state where
  order _ := rfl
  early := List.nil_prefix
  executed := rfl
  state := rfl
  idle _ := rfl
  gone := by simp [fresh]
  emptied := by simp [fresh]
  current := by simp [fresh]
  replays := by simp [fresh]


@[simp] theorem taken_close (round : Round (Nat × τ)) (stopped : Bool) (crash : Option Crash)
    (traffic : Traffic τ σ) : (traffic.close round stopped crash).taken =
      traffic.ended.flatMap Ended.taken ++ round.taken := by
  simp [taken, close]

section Step

variable {execute : Nat × τ → σ → σ × Option Crash} {initial : σ} {traffic : Traffic τ σ}

theorem taken_of_round {round : Round (Nat × τ)} (current : traffic.round = some round) :
    traffic.taken = traffic.ended.flatMap Ended.taken ++ round.taken := by
  simp [taken, current]

/-- A drain may end once what it did is a whole drain that leaves what is queued. -/
theorem orderly_close {round : Round (Nat × τ)} {stopped : Bool} {crash : Option Crash}
    (connected : traffic.connected = true)
    (order : traffic.ended.flatMap Ended.taken ++ round.taken ++ traffic.channel.queued = traffic.pushed)
    (executed : traffic.executed = tasks (traffic.ended.flatMap Ended.taken ++ round.taken))
    (state : traffic.state = perform execute traffic.executed initial)
    (replays : ∀ before drain, before ++ [drain] <+: traffic.ended →
      drain.Whole execute (startAfter execute initial before) ∧
        before.flatMap Ended.taken ++ drain.taken ++ drain.outcome.rest <+: traffic.pushed)
    (whole : runMessages execute (round.taken ++ traffic.channel.queued) 0
      (startAfter execute initial traffic.ended) =
        ⟨round.ran, stopped, crash, traffic.channel.queued, traffic.state⟩) :
    (traffic.close round stopped crash).Orderly execute initial := by
  constructor
  case order => exact fun _ => (taken_close ..).symm ▸ order
  case early => exact taken_close .. ▸ ⟨_, order⟩
  case executed => rw [taken_close, ← executed]; exact List.append_nil _
  case state => exact state
  case idle => exact fun _ => rfl
  case gone => exact fun gone => absurd connected (Bool.not_eq_true _ ▸ gone)
  case emptied => exact fun gone => absurd connected (Bool.not_eq_true _ ▸ gone)
  case current => simp [Traffic.close]
  case replays =>
    intro before drain among
    rcases List.prefix_concat_iff.mp among with now | earlier
    · obtain ⟨rfl, same⟩ := List.append_inj' now rfl
      obtain rfl := List.singleton_inj.mp same
      exact ⟨whole.symm, ⟨[], (List.append_nil _).trans order⟩⟩
    · exact replays before drain earlier

variable (orderly : traffic.Orderly execute initial)
include orderly

/-- While a drain is under way, the queue exists. -/
theorem Orderly.connected {round : Round (Nat × τ)} (current : traffic.round = some round) :
    traffic.connected = true := by
  by_contra gone
  have idle := orderly.idle (orderly.gone (Bool.not_eq_true _ ▸ gone))
  cases idle.symm.trans current

theorem Orderly.enqueue (connected : traffic.connected = true) (send : Nat) (message : Message τ) :
    (traffic.enqueue send message).Orderly execute initial := by
  have pushed : (traffic.enqueue send message).pushed = traffic.pushed ++ [stamp send message] := by
    simp [Traffic.pushed, Traffic.enqueue]
  constructor
  case order =>
    intro _
    rw [pushed, ← orderly.order connected, List.append_assoc]
    rfl
  case early => exact pushed ▸ orderly.early.trans (List.prefix_append _ _)
  case replays =>
    intro before drain among
    obtain ⟨whole, left⟩ := orderly.replays before drain among
    exact ⟨whole, pushed ▸ left.trans (List.prefix_append _ _)⟩
  case executed => exact orderly.executed
  case state => exact orderly.state
  case idle => exact orderly.idle
  case gone => exact orderly.gone
  case emptied => exact fun gone => absurd connected (Bool.not_eq_true _ ▸ gone)
  case current => exact orderly.current

theorem Orderly.receive {round : Round (Nat × τ)} (current : traffic.round = some round)
    (idle : round.running = none) : (traffic.receive round).Orderly execute initial := by
  have connected := orderly.connected current
  have order := orderly.order connected
  have executed := orderly.executed
  have replays := orderly.current round current
  rw [taken_of_round current] at order executed
  rw [current, Option.bind_some, idle, Option.toList_none, List.append_nil] at executed
  rw [Round.Replays, idle] at replays
  unfold Traffic.receive
  split
  · next empty =>
    split
    · exact orderly
    · apply orderly_close connected order executed orderly.state orderly.replays
      rw [empty]
      exact replays []
  · next rest queue =>
    rw [queue] at order
    apply orderly_close
    case connected => exact connected
    case order => exact order ▸ by simp [leave]
    case executed => simpa [leave] using executed
    case state => exact orderly.state
    case replays => exact orderly.replays
    case whole => simpa [leave, runMessages] using replays (.shutdown :: rest)
  · next task rest queue =>
    rw [queue] at order
    constructor
    case order => exact fun _ => order ▸ by simp [Traffic.taken, leave]
    case early => exact ⟨rest, order ▸ by simp [Traffic.taken, leave]⟩
    case executed => simp [Traffic.taken, leave, executed]
    case state => exact orderly.state
    case idle => exact fun lost => absurd (orderly.idle lost) (by simp [current])
    case gone => exact orderly.gone
    case emptied => exact fun gone => absurd connected (Bool.not_eq_true _ ▸ gone)
    case current =>
      rintro _ ⟨⟩ rest
      simpa [leave] using replays (.run task :: rest)
    case replays => exact orderly.replays

theorem Orderly.finish {round : Round (Nat × τ)} {task : Nat × τ} (current : traffic.round = some round)
    (running : round.running = some task) :
    (traffic.finish execute round task).Orderly execute initial := by
  have connected := orderly.connected current
  have order := orderly.order connected
  have executed := orderly.executed
  have replays := orderly.current round current
  rw [taken_of_round current] at order executed
  rw [current, Option.bind_some, running] at executed
  rw [Round.Replays, running] at replays
  have state : (execute task traffic.state).1 = perform execute (traffic.executed ++ [task]) initial := by
    rw [perform_append, ← orderly.state]
    rfl
  unfold Traffic.finish
  cases result : execute task traffic.state with
  | mk next crash =>
    rw [result] at state
    cases crash with
    | none =>
      constructor
      case order => exact fun _ => order ▸ by simp [Traffic.taken]
      case early => exact ⟨traffic.channel.queued, order ▸ by simp [Traffic.taken]⟩
      case executed => simpa [Traffic.taken] using executed
      case state => exact state
      case idle => exact fun lost => absurd (orderly.idle lost) (by simp [current])
      case gone => exact orderly.gone
      case emptied => exact orderly.emptied
      case current =>
        rintro _ ⟨⟩ rest
        simpa [runMessages, result] using replays rest
      case replays => exact orderly.replays
    | some crash =>
      apply orderly_close
      case connected => exact connected
      case order => exact order
      case executed => exact executed
      case state => exact state
      case replays => exact orderly.replays
      case whole => simpa [runMessages, result] using replays traffic.channel.queued

theorem Orderly.start (available : traffic.channel.isAvailable = true) (idle : traffic.round = none)
    (waits : Bool) (thread : ThreadId) :
    (traffic.step execute (.start waits thread)).Orderly execute initial := by
  obtain ⟨order, early, executed, state, lost, gone, emptied, current, replays⟩ := orderly
  simp only [Traffic.taken, idle] at order early executed
  rw [step, available, idle]
  refine ⟨order, early, executed, state, ?_, gone, emptied, ?_, replays⟩
  · exact fun lost => absurd available (Bool.not_eq_true _ ▸ lost)
  · rintro _ ⟨⟩ rest
    have same : traffic.state = startAfter execute initial traffic.ended := by
      rw [state, startAfter]
      congr 1
      simpa using executed
    exact same ▸ rfl

theorem Orderly.step (move : Move τ) : (traffic.step execute move).Orderly execute initial := by
  obtain ⟨order, early, executed, state, lost, gone, emptied, current, replays⟩ := id orderly
  have unchanged (deliveries : List (Delivery τ)) :
      ({ traffic with deliveries } : Traffic τ σ).Orderly execute initial :=
    ⟨order, early, executed, state, lost, gone, emptied, current, replays⟩
  cases move with
  | clone =>
    dsimp only [Traffic.step]
    split
    · exact ⟨order, early, executed, state, lost, gone, emptied, current, replays⟩
    · exact orderly
  | release =>
    dsimp only [Traffic.step]
    split
    · exact orderly
    · exact ⟨order, early, executed, state, lost, gone, emptied, current, replays⟩
  | post message =>
    dsimp only [Traffic.step]
    split
    · exact unchanged _
    · exact orderly
  | check send =>
    dsimp only [Traffic.step]
    split
    · split <;> exact unchanged _
    · exact orderly
  | push send =>
    dsimp only [Traffic.step]
    split
    · split
      · next connected =>
        obtain ⟨order, early, executed, state, lost, gone, emptied, current, replays⟩ :=
          orderly.enqueue connected send ‹_›
        exact ⟨order, early, executed, state, lost, gone, emptied, current, replays⟩
      · exact unchanged _
    · exact orderly
  | wake send =>
    dsimp only [Traffic.step]
    split
    · exact ⟨order, early, executed, state, lost, gone, emptied, current, replays⟩
    · exact orderly
  | setWaker waker =>
    dsimp only [Traffic.step]
    split
    · exact ⟨order, early, executed, state, lost, gone, emptied, current, replays⟩
    · exact orderly
  | start waits thread =>
    cases available : traffic.channel.isAvailable with
    | false => simpa [Traffic.step, available] using orderly
    | true =>
      cases idle : traffic.round with
      | none => exact orderly.start available idle waits thread
      | some round => simpa [Traffic.step, available, idle] using orderly
  | receive =>
    dsimp only [Traffic.step]
    split
    · next current => exact orderly.receive current rfl
    · exact orderly
  | finish =>
    dsimp only [Traffic.step]
    split
    · next current => exact orderly.finish current rfl
    · exact orderly
  | retire =>
    dsimp only [Traffic.step]
    split
    · next idle =>
      exact ⟨order, early, executed, state, fun _ => idle, fun _ => rfl, emptied, current, replays⟩
    · exact orderly
  | disconnect =>
    dsimp only [Traffic.step]
    split
    · exact orderly
    · next retired =>
      have idle := lost (Bool.not_eq_true _ ▸ retired)
      exact ⟨by simp, early, executed, state, fun _ => idle, fun _ => rfl, fun _ => rfl, current, replays⟩

theorem Orderly.run (moves : List (Move τ)) : (traffic.run execute moves).Orderly execute initial := by
  induction moves generalizing traffic with
  | nil => exact orderly
  | cons move moves ih => exact ih (orderly.step move)

end Step

/-! ## Whole operations -/

section Whole

variable (execute : Nat × τ → σ → σ × Option Crash) (traffic : Traffic τ σ)

/-- A send that nothing comes between is a send at once. -/
theorem run_send (whole : traffic.connected = traffic.channel.isAvailable)
    (sender : 0 < traffic.dispatchers) (message : Message τ) :
    let send := traffic.deliveries.length
    let (result, channel) := traffic.channel.send (stamp send message)
    let arrives := traffic.channel.isAvailable
    traffic.run execute [.post message, .check send, .push send, .wake send] =
      { traffic with
        channel
        deliveries := traffic.deliveries ++ [⟨message, .returned result⟩]
        accepted := traffic.accepted ++ if arrives then [(send, message)] else []
        wakes := traffic.wakes ++
          if arrives then traffic.channel.waker.toList.map fun waker => (send, waker) else [] } := by
  cases available : traffic.channel.isAvailable with
  | true =>
    rw [available] at whole
    simp [run, step, sender, available, whole, proceed, enqueue, call, Channel.send, Channel.push]
  | false => simp [run, step, sender, available, proceed, Channel.send]

theorem step_retire {execute : Nat × τ → σ → σ × Option Crash} {traffic : Traffic τ σ}
    (idle : traffic.round = none) : traffic.step execute .retire =
      { traffic with channel := { traffic.channel with isAvailable := false } } := by
  rw [step, idle]

theorem step_disconnect {execute : Nat × τ → σ → σ × Option Crash} {traffic : Traffic τ σ}
    (retired : traffic.channel.isAvailable = false) : traffic.step execute .disconnect =
      { traffic with channel := traffic.channel.drop, connected := false } := by
  rw [step, retired]
  rfl

/-- The end of the draining side that nothing comes between is its end at once. -/
theorem run_drop (idle : traffic.round = none) : traffic.run execute [.retire, .disconnect] =
    { traffic with channel := traffic.channel.drop, connected := false } := by
  rw [run, List.foldl_cons, List.foldl_cons, step_retire idle, step_disconnect rfl]
  rfl

/-- A drain that nothing comes between takes what a whole drain takes. -/
theorem run_rounds {taken : List (Message (Nat × τ))} {ran : Nat}
    (current : traffic.round = some ⟨false, ran, taken, none⟩) :
    let drained := runMessages execute traffic.channel.queued ran traffic.state
    ∃ moves consumed, consumed ++ drained.rest = traffic.channel.queued ∧
      traffic.run execute moves =
        { traffic with
          channel := { traffic.channel with queued := drained.rest }
          state := drained.state
          executed := traffic.executed ++ tasks consumed
          round := none
          ended := traffic.ended ++ [⟨taken ++ consumed, drained⟩] } := by
  generalize queue : traffic.channel.queued = messages
  induction messages generalizing traffic taken ran with
  | nil =>
    have same : { traffic.channel with queued := [] } = traffic.channel := by rw [← queue]
    refine ⟨[.receive], [], rfl, ?_⟩
    simp [run, step, current, receive, queue, close, runMessages, same]
  | cons message rest ih =>
    cases message with
    | shutdown =>
      refine ⟨[.receive], [.shutdown], rfl, ?_⟩
      simp [run, step, current, receive, queue, close, leave, runMessages]
    | run task =>
      cases result : execute task traffic.state with
      | mk state crash =>
        cases crash with
        | some crash =>
          refine ⟨[.receive, .finish], [.run task], by simp [runMessages, result], ?_⟩
          simp [run, step, current, receive, queue, close, leave, finish, runMessages, result]
        | none =>
          let next : Traffic τ σ :=
            { traffic with
              channel := { traffic.channel with queued := rest }
              state
              executed := traffic.executed ++ [task]
              round := some ⟨false, ran + 1, taken ++ [.run task], none⟩ }
          have first : traffic.run execute [.receive, .finish] = next := by
            simp [run, step, current, receive, queue, leave, finish, result, next]
          obtain ⟨moves, consumed, split, same⟩ := ih next rfl rfl
          refine ⟨[.receive, .finish] ++ moves, .run task :: consumed, ?_, ?_⟩
          · simpa [runMessages, result, next] using split
          · rw [run_append, first, same]
            simp [runMessages, result, next]

/-- Draining at once is one of the ways to drain step by step. -/
theorem run_drain (available : traffic.channel.isAvailable = true) (idle : traffic.round = none)
    (thread : ThreadId) :
    let (drained, channel) := traffic.channel.drain execute thread traffic.state
    ∃ moves consumed, consumed ++ drained.rest = traffic.channel.queued ∧
      traffic.run execute (.start false thread :: moves) =
        { traffic with
          channel
          state := drained.state
          executed := traffic.executed ++ tasks consumed
          ended := traffic.ended ++ [⟨consumed, drained⟩] } := by
  have begins : (traffic.step execute (.start false thread)).round = some ⟨false, 0, [], none⟩ := by
    simp [step, available, idle]
  obtain ⟨moves, consumed, split, same⟩ := run_rounds execute _ begins
  refine ⟨moves, consumed, ?_, ?_⟩
  · simpa [step, available, idle] using split
  · rw [run, List.foldl_cons]
    refine same.trans ?_
    simp [step, available, idle]

end Whole

end Traffic

end TreeInspector.Channel
