import TreeInspector.Proofs.Dispatch.Departure

/-! # A thread that nobody disturbs

The operations of a headless thread, each carried out at once, are runs of a thread that is served step
by step: the ones where nothing comes between the steps of an operation. The two threads then show the
same windows and give the same answers (`Mirrors`).
-/

namespace TreeInspector

open Channel (Traffic perform)
open Registry (Job)

/-! ## The operations at once -/

namespace Headless

variable {headless : Headless}

/-- A thread that is gone takes no message. -/
theorem send_of_gone (gone : headless.isAvailable = false) (message : Message Task) :
    headless.send message = (.error .unavailable, headless) := by
  rw [isAvailable] at gone
  simp [send, Coordinator.send, Channel.send, settle, gone]

theorem openWindow_of_gone (gone : headless.isAvailable = false) (session : Session) :
    headless.openWindow session = (.error .unavailable, headless) := by
  rw [isAvailable] at gone
  simp [openWindow, Coordinator.openWindow, Coordinator.beginOpen, gone]

section Quiet

variable (available : headless.isAvailable = true) (quiet : headless.coordinator.channel.queued = [])
include available quiet

/-- A thread that waits carries out a task at once, and goes away if it crashes. -/
theorem send_task {task : Task} {workspace : Workspace} {crash : Option Crash}
    (result : headless.coordinator.workspace.execute task = (workspace, crash)) :
    (headless.send (.run task)).1 = .ok () ∧ (headless.send (.run task)).2.isAvailable = crash.isNone ∧
      (headless.send (.run task)).2.coordinator.channel.queued = [] ∧
      (headless.send (.run task)).2.registry =
        if crash.isSome then workspace.registry.closeAll else workspace.registry := by
  rw [isAvailable] at available
  cases crash <;> simp [send, Coordinator.send, Channel.send, settle, available, Channel.push,
    Coordinator.drain, Channel.drain, quiet, Channel.runMessages, result, isAvailable, registry, finish,
    Coordinator.drop, Channel.drop, Coordinator.queuedCalls]

/-- A thread that waits goes away as soon as it is asked to. -/
theorem send_shutdown : (headless.send .shutdown).1 = .ok () ∧
    (headless.send .shutdown).2.isAvailable = false ∧
    (headless.send .shutdown).2.coordinator.channel.queued = [] ∧
    (headless.send .shutdown).2.registry = headless.registry.closeAll := by
  rw [isAvailable] at available
  simp [send, Coordinator.send, Channel.send, settle, available, Channel.push, Coordinator.drain,
    Channel.drain, quiet, Channel.runMessages, isAvailable, registry, finish, Coordinator.drop,
    Channel.drop, Coordinator.queuedCalls]

/-- A thread that waits opens a window at once. -/
theorem openWindow_eq (session : Session) :
    (headless.openWindow session).1 =
        (headless.registry.openWindow session).1.mapError (fun crash => .construction crash.text) ∧
      (headless.openWindow session).2.isAvailable = true ∧
      (headless.openWindow session).2.coordinator.channel.queued = [] ∧
      (headless.openWindow session).2.registry = (headless.registry.openWindow session).2 := by
  rw [isAvailable] at available
  simp [openWindow, Coordinator.openWindow, Coordinator.beginOpen, Coordinator.marshal,
    Coordinator.submit, Coordinator.send, Channel.send, settle, available, Channel.push,
    Coordinator.drain, Channel.drain, quiet, Channel.runMessages, isAvailable, registry,
    Workspace.execute, Workspace.decideCall, Coordinator.call?]

/-- A thread that waits runs a job at once, and does not go away if it crashes. -/
theorem invoke_eq {α : Type} (action : Registry → Except Crash (α × Registry)) :
    (headless.invoke action).1 =
        ((action headless.registry).map Prod.fst).mapError (fun crash => .construction crash.text) ∧
      (headless.invoke action).2.isAvailable = true ∧
      (headless.invoke action).2.coordinator.channel.queued = [] ∧
      (headless.invoke action).2.registry =
        ((action headless.registry).map Prod.snd).toOption.getD headless.registry := by
  rw [invoke, if_pos available]
  cases action headless.registry with
  | error crash => exact ⟨rfl, available, quiet, rfl⟩
  | ok result => exact ⟨rfl, available, quiet, rfl⟩

end Quiet

end Headless

/-! ## The operations step by step -/

namespace Hosting

variable {β : Type}

/-- The thread waits for messages. -/
structure Waits (hosting : Hosting β) : Prop where
  serving : hosting.ending = none
  kept : hosting.dropped = none
  available : hosting.isAvailable = true
  connected : hosting.traffic.connected = true
  empty : hosting.traffic.channel.queued = []
  senders : 0 < hosting.traffic.dispatchers
  unended : hosting.traffic.ended = []
  idle : ∃ ran taken, hosting.traffic.round = some ⟨true, ran, taken, none⟩

/-- Send a message and let the thread take it and carry it out, with nothing in between. -/
def deliver (message : Message (Chore β)) (hosting : Hosting β) : Hosting β :=
  ((hosting.drive (.post message)).conclude hosting.traffic.deliveries.length).run [.receive, .finish]

section Waits

variable {hosting : Hosting β} (waits : hosting.Waits)
include waits

theorem Waits.send (message : Message (Chore β)) :
    let send := hosting.traffic.deliveries.length
    (hosting.drive (.post message)).conclude send =
      { hosting with
        traffic := { hosting.traffic with
          channel := hosting.traffic.channel.push (Channel.stamp send message)
          deliveries := hosting.traffic.deliveries ++ [⟨message, .returned (.ok ())⟩]
          accepted := hosting.traffic.accepted ++ [(send, message)]
          wakes := hosting.traffic.wakes ++
            hosting.traffic.channel.waker.toList.map fun waker => (send, waker) } } := by
  intro send
  have available : hosting.traffic.channel.isAvailable = true := waits.available
  have whole := waits.connected.trans available.symm
  have sent := Traffic.run_send Workbench.execute hosting.traffic whole waits.senders message
  simp only [Channel.send, available, if_true] at sent
  exact congrArg (fun traffic => { hosting with traffic }) sent

theorem Waits.shutdown : (hosting.deliver .shutdown).ending = some [.retire, .disconnect, .closeWindows] ∧
    (hosting.deliver .shutdown).traffic.state = hosting.traffic.state ∧
    (hosting.deliver .shutdown).traffic.deliveries =
      hosting.traffic.deliveries ++ [⟨.shutdown, .returned (.ok ())⟩] := by
  obtain ⟨ran, taken, idle⟩ := waits.idle
  rw [deliver, waits.send]
  simp [run, step, drive, Traffic.step, idle, Traffic.receive, Channel.push, waits.empty, Channel.stamp,
    Traffic.close, Traffic.leave, turn, waits.serving, waits.unended, Teardown.after]

/-- A chore is taken as soon as it is sent. -/
theorem Waits.receive (chore : Chore β) : ∃ channel accepted wakes ran taken,
    ((hosting.drive (.post (.run chore))).conclude hosting.traffic.deliveries.length).step .receive =
      { hosting with
        traffic := { hosting.traffic with
          channel, accepted, wakes
          deliveries := hosting.traffic.deliveries ++ [⟨.run chore, .returned (.ok ())⟩]
          round := some ⟨true, ran, taken, some (hosting.traffic.deliveries.length, chore)⟩ } } ∧
    channel.isAvailable = true ∧ channel.queued = [] := by
  obtain ⟨ran, taken, idle⟩ := waits.idle
  rw [waits.send]
  simp only [step, drive, Traffic.step, idle, Traffic.receive, Channel.push, waits.empty, Channel.stamp,
    List.nil_append, Traffic.leave]
  exact ⟨_, _, _, _, _, turn_of_unended waits.unended, waits.available, rfl⟩

section Execute

variable {chore : Chore β} {state : Workbench β} {crash : Option Crash}
  (result : hosting.traffic.state.execute (hosting.traffic.deliveries.length, chore) = (state, crash))
include result

/-- A chore is carried out at once. -/
theorem Waits.deliver : let later := hosting.deliver (.run chore)
    later.traffic.state = state ∧
      later.traffic.executed =
        hosting.traffic.executed ++ [(hosting.traffic.deliveries.length, chore)] ∧
      later.traffic.deliveries = hosting.traffic.deliveries ++ [⟨.run chore, .returned (.ok ())⟩] ∧
      (crash = none → later.Waits) ∧
      (crash.isSome → later.ending = some [.closeWindows, .retire, .disconnect]) := by
  obtain ⟨channel, accepted, wakes, ran, taken, taking, available, empty⟩ := waits.receive chore
  intro later
  have finishing : later = Hosting.step (Hosting.step _ .receive) .finish := rfl
  rw [taking] at finishing
  cases crash with
  | none =>
    simp only [step, drive, Traffic.step, Traffic.finish, result] at finishing
    rw [finishing.trans (turn_of_unended waits.unended)]
    refine ⟨rfl, rfl, rfl, fun _ => ?_, by simp⟩
    exact ⟨waits.serving, waits.kept, available, waits.connected, empty, waits.senders, waits.unended, _,
      _, rfl⟩
  | some crash =>
    simp only [step, drive, Traffic.step, Traffic.finish, result, Traffic.close, waits.unended, turn,
      waits.serving, List.nil_append, Teardown.after] at finishing
    rw [finishing]
    exact ⟨rfl, rfl, rfl, by simp, fun _ => rfl⟩

end Execute

end Waits

/-- On its way out a thread leaves the sends and the windows that tasks left alone. -/
theorem exists_leave (hosting : Hosting β) : ∃ channel connected,
    (hosting.step .leave).traffic = { hosting.traffic with channel, connected } := by
  dsimp only [step]
  split
  · next teardown rest _ =>
    cases teardown with
    | retire =>
      dsimp only [quit, drive, Traffic.step]
      split <;> exact ⟨_, _, rfl⟩
    | disconnect =>
      dsimp only [quit, drive, Traffic.step]
      split <;> exact ⟨_, _, rfl⟩
    | closeWindows => exact ⟨_, _, rfl⟩
  · exact ⟨_, _, rfl⟩

theorem traffic_leaves (hosting : Hosting β) (count : Nat) :
    let later := hosting.run (List.replicate count .leave)
    later.traffic.state = hosting.traffic.state ∧ later.traffic.deliveries = hosting.traffic.deliveries := by
  induction count generalizing hosting with
  | zero => exact ⟨rfl, rfl⟩
  | succ count ih =>
    obtain ⟨_, _, same⟩ := exists_leave hosting
    rw [List.replicate_succ]
    have later := ih (hosting.step .leave)
    rw [same] at later
    exact later

/-- A headless thread and a thread that is served step by step, at rest, with the same windows. -/
structure Mirrors (hosting : Hosting β) (headless : Headless) : Prop where
  sound : hosting.Sound
  lives : hosting.Lives
  registry : headless.registry = hosting.ledger.registry
  quiet : headless.coordinator.channel.queued = []
  waits : headless.isAvailable = true → hosting.Waits
  ended : headless.isAvailable = false → hosting.HasEnded

theorem mirrors_fresh : ((fresh : Hosting β).step .serve).Mirrors .fresh where
  sound := sound_fresh.run [.serve]
  lives := lives_fresh.run [.serve]
  registry := rfl
  quiet := rfl
  waits _ := ⟨rfl, rfl, rfl, rfl, rfl, Nat.zero_lt_one, rfl, _, _, rfl⟩
  ended := by simp [Headless.fresh, Headless.isAvailable, Coordinator.fresh, Channel.fresh]

/-- A chore does to the windows what a task does. -/
def Performs (chore : Chore β) (task : Task) : Prop :=
  ∀ (workspace : Workspace) (bench : Workbench β) (send : Nat),
    workspace.registry = bench.ledger.registry →
      (workspace.execute task).1.registry = (bench.execute (send, chore)).1.ledger.registry ∧
        (workspace.execute task).2 = (bench.execute (send, chore)).2

theorem performs_close (id : WindowId) :
    Performs (.plain (.close id) : Chore β) (.act fun registry => (registry.close id).2) := by
  intro workspace bench send same
  exact ⟨congrArg (fun registry => (registry.close id).2) same, rfl⟩

/-- A thread on its way out mirrors one that is gone. -/
theorem mirrors_of_ending {hosting : Hosting β} (sound : hosting.Sound) (lives : hosting.Lives)
    {rest : List Teardown} (ending : hosting.ending = some rest) {headless : Headless}
    (gone : headless.isAvailable = false) (quiet : headless.coordinator.channel.queued = [])
    (registry : headless.registry = hosting.traffic.state.ledger.registry.closeAll) :
    (hosting.run (List.replicate rest.length .leave)).Mirrors headless := by
  have ended := run_leave ending
  have livesLater := lives.run (List.replicate rest.length .leave)
  refine ⟨sound.run _, livesLater, ?_, quiet, by simp [gone], fun _ => ended⟩
  rw [(livesLater.gone ended).2.2.2, (traffic_leaves hosting rest.length).1, registry]

section Mirrors

variable {hosting : Hosting β} {headless : Headless} (mirrors : hosting.Mirrors headless)
include mirrors

/-- While the thread waits, its windows are those that tasks left. -/
theorem Mirrors.shown (available : headless.isAvailable = true) :
    headless.registry = hosting.traffic.state.ledger.registry := by
  rw [mirrors.registry, ledger, (mirrors.waits available).kept]
  rfl

theorem Mirrors.sound_deliver (message : Message (Chore β)) : (hosting.deliver message).Sound :=
  ((mirrors.sound.drive (.post message)).run _).run _

theorem Mirrors.lives_deliver (message : Message (Chore β)) : (hosting.deliver message).Lives :=
  ((mirrors.lives.send rfl).run _).run _

/-- A thread that is gone refuses a message. -/
theorem Mirrors.refuse (gone : headless.isAvailable = false) (message : Message (Chore β)) :
    let later := (hosting.drive (.post message)).conclude hosting.traffic.deliveries.length
    later.Mirrors headless ∧ later.traffic.deliveries =
      hosting.traffic.deliveries ++ [⟨message, .returned (.error .unavailable)⟩] := by
  have ended := mirrors.ended gone
  obtain ⟨_, retired, disconnected, _⟩ := mirrors.lives.gone ended
  have dropped := (mirrors.lives.stopping [] ended).2.2.2.2
  replace retired : hosting.traffic.channel.isAvailable = false := retired
  have sent := Traffic.run_send Workbench.execute hosting.traffic (disconnected.trans retired.symm)
    mirrors.lives.senders message
  simp only [Channel.send, retired, Bool.false_eq_true, if_false, List.append_nil] at sent
  have same := congrArg (fun traffic => { hosting with traffic }) sent
  intro later
  have sound : later.Sound := (mirrors.sound.drive (.post message)).run _
  have lives : later.Lives := (mirrors.lives.send rfl).run _
  replace same : later = _ := same
  refine ⟨⟨sound, lives, ?_, mirrors.quiet, by simp [gone], fun _ => ?_⟩, ?_⟩
  · rw [mirrors.registry, same, ledger, ledger, dropped]
  · rw [same]
    exact ended
  · rw [same]

/-- A thread that waits carries out a chore and waits again. -/
theorem Mirrors.carryOn (available : headless.isAvailable = true) {chore : Chore β} {state : Workbench β}
    (result : hosting.traffic.state.execute (hosting.traffic.deliveries.length, chore) = (state, none))
    {next : Headless} (stays : next.isAvailable = true) (quiet : next.coordinator.channel.queued = [])
    (registry : next.registry = state.ledger.registry) : (hosting.deliver (.run chore)).Mirrors next := by
  obtain ⟨same, _, _, waits, _⟩ := (mirrors.waits available).deliver result
  refine ⟨mirrors.sound_deliver _, mirrors.lives_deliver _, ?_, quiet, fun _ => waits rfl, by simp [stays]⟩
  rw [registry, ledger, (waits rfl).kept, Option.getD_none, same]

/-- Asking a headless thread to stop is a run of a thread that is served step by step. -/
theorem Mirrors.shutdown :
    ∃ more, let later := ((hosting.step .shutdown).conclude hosting.traffic.deliveries.length).run more
      later.Mirrors headless.shutdown ∧ later.traffic.deliveries =
        hosting.traffic.deliveries ++ [⟨.shutdown, .returned (headless.send .shutdown).1⟩] := by
  rw [Headless.shutdown]
  cases available : headless.isAvailable with
  | false =>
    rw [Headless.send_of_gone available]
    exact ⟨[], mirrors.refuse available .shutdown⟩
  | true =>
    obtain ⟨accepted, gone, quiet, registry⟩ := Headless.send_shutdown available mirrors.quiet
    have waits := mirrors.waits available
    obtain ⟨ending, state, deliveries⟩ := waits.shutdown
    refine ⟨[.receive, .finish] ++ List.replicate 3 .leave, ?_⟩
    rw [run_append]
    refine ⟨mirrors_of_ending (mirrors.sound_deliver _) (mirrors.lives_deliver _) ending gone quiet ?_, ?_⟩
    · rw [registry, mirrors.registry, ledger, waits.kept, Option.getD_none, state]
    · rw [(traffic_leaves _ 3).2, accepted]
      exact deliveries

/-- Sending a headless thread a task is a run of a thread that is served step by step. -/
theorem Mirrors.submit {job : Job Unit} {task : Task} (performs : Performs (.plain job : Chore β) task) :
    ∃ more, let later := ((hosting.step (.submit job)).conclude hosting.traffic.deliveries.length).run more
      later.Mirrors (headless.send (.run task)).2 ∧ later.traffic.deliveries =
        hosting.traffic.deliveries ++
          [⟨.run (.plain job), .returned (headless.send (.run task)).1⟩] := by
  cases available : headless.isAvailable with
  | false =>
    rw [Headless.send_of_gone available]
    exact ⟨[], mirrors.refuse available (.run (.plain job))⟩
  | true =>
    have shown := mirrors.shown available
    cases result : headless.coordinator.workspace.execute task with
    | mk workspace crash =>
      have performed := performs _ _ hosting.traffic.deliveries.length shown
      rw [result] at performed
      obtain ⟨changed, same⟩ := performed
      obtain ⟨accepted, stays, quiet, registry⟩ := Headless.send_task available mirrors.quiet result
      have own : hosting.traffic.state.execute (hosting.traffic.deliveries.length, .plain job) =
        (_, crash) := Prod.ext rfl same.symm
      obtain ⟨state, _, deliveries, _, ending⟩ := (mirrors.waits available).deliver own
      rw [accepted]
      cases crash with
      | none =>
        exact ⟨[.receive, .finish], mirrors.carryOn available own stays quiet (registry.trans changed),
          deliveries⟩
      | some crash =>
        refine ⟨[.receive, .finish] ++ List.replicate 3 .leave, ?_⟩
        rw [run_append]
        refine ⟨mirrors_of_ending (mirrors.sound_deliver _) (mirrors.lives_deliver _) (ending rfl) stays
          quiet ?_, ?_⟩
        · rw [registry, state]
          exact congrArg Registry.closeAll changed
        · rw [(traffic_leaves _ 3).2]
          exact deliveries

/-- Asking a headless thread for a window to be closed is such a run as well. -/
theorem Mirrors.requestClose (id : WindowId) :
    ∃ more, let later := ((hosting.step (.requestClose id)).conclude
        hosting.traffic.deliveries.length).run more
      later.Mirrors (headless.requestClose id).2 ∧ later.traffic.deliveries =
        hosting.traffic.deliveries ++
          [⟨.run (.plain (.close id)), .returned (headless.requestClose id).1⟩] :=
  mirrors.submit (performs_close id)

omit mirrors in
theorem reply?_of_error {send : Nat} {message : Message (Chore β)} {error : DispatchError}
    (found : hosting.traffic.deliveries[send]? = some ⟨message, .returned (.error error)⟩) :
    hosting.reply? send = some (.error error) := by
  rw [Hosting.reply?, found]

/-- Somebody who waits for a chore is told the result of its job. -/
theorem Mirrors.reply? (available : headless.isAvailable = true) {chore : Chore β} {job : Job (Reply β)}
    (awaited : chore.awaited? = some job) :
    (hosting.deliver (.run chore)).reply? hosting.traffic.deliveries.length =
      some ((job.run hosting.traffic.state.ledger).1.mapError fun crash => .construction crash.text) := by
  have own := Workbench.execute_awaited awaited hosting.traffic.deliveries.length hosting.traffic.state
  obtain ⟨_, ran, deliveries, _⟩ := (mirrors.waits available).deliver own
  have answered := outcome?_of_mem (mirrors.sound_deliver (.run chore)) ran awaited
  rw [← mirrors.sound.orderly.state] at answered
  rw [Hosting.reply?, deliveries, List.getElem?_concat_length]
  exact answered

/-- Opening a window on a headless thread is a run of a thread that is served step by step. -/
theorem Mirrors.openWindow (session : Session) : ∃ more,
    let later := (hosting.openWindow session).2.run more
    later.Mirrors (headless.openWindow session).2 ∧
      (match (hosting.openWindow session).1 with
        | .ok send => later.reply? send
        | .error error => some (.error error)) =
          some ((headless.openWindow session).1.map Reply.window) := by
  cases available : headless.isAvailable with
  | false =>
    have retired := (mirrors.lives.gone (mirrors.ended available)).2.1
    rw [Headless.openWindow_of_gone available, Hosting.openWindow, retired]
    exact ⟨[], mirrors, rfl⟩
  | true =>
    have waits := mirrors.waits available
    have shown := mirrors.shown available
    obtain ⟨answer, stays, quiet, registry⟩ := Headless.openWindow_eq available mirrors.quiet session
    have own : hosting.traffic.state.execute (hosting.traffic.deliveries.length, .openWindow session) =
      (_, none) := rfl
    have told := mirrors.reply? available (show (Chore.openWindow session : Chore β).awaited? = _ from rfl)
    rw [Hosting.openWindow, waits.available]
    refine ⟨[.check hosting.traffic.deliveries.length, .push hosting.traffic.deliveries.length,
      .wake hosting.traffic.deliveries.length, .receive, .finish], ?_, ?_⟩
    · refine mirrors.carryOn available own stays quiet ?_
      rw [registry, shown]
      rfl
    · refine told.trans ?_
      rw [answer, shown]
      dsimp only [Job.map, Job.openWindow]
      cases (hosting.traffic.state.ledger.registry.openWindow session).1 <;> rfl

/-- Running a job on a headless thread and waiting for it is a run of a thread that is served step by
step. -/
theorem Mirrors.invoke {thread : ThreadId} (other : hosting.traffic.channel.isOwner thread = false)
    (job : Job β) {action : Registry → Except Crash (β × Registry)}
    (performs : ∀ ledger, (job.run ledger).1 = (action ledger.registry).map Prod.fst ∧
      (job.run ledger).2.registry = ((action ledger.registry).map Prod.snd).toOption.getD ledger.registry) :
    ∃ send more, (hosting.invoke thread job).1 = .ok send ∧
      let later := (hosting.invoke thread job).2.run more
      later.Mirrors (headless.invoke action).2 ∧
        later.reply? send = some ((headless.invoke action).1.map Reply.value) := by
  rw [Hosting.invoke, other]
  refine ⟨hosting.traffic.deliveries.length, ?_⟩
  cases available : headless.isAvailable with
  | false =>
    obtain ⟨mirrors, deliveries⟩ := mirrors.refuse available (.run (.awaited job))
    rw [Headless.invoke, available]
    refine ⟨_, rfl, mirrors, ?_⟩
    exact reply?_of_error (deliveries ▸ List.getElem?_concat_length)
  | true =>
    have shown := mirrors.shown available
    have own : hosting.traffic.state.execute (hosting.traffic.deliveries.length, .awaited job) =
      (_, none) := rfl
    have told := mirrors.reply? available (show (Chore.awaited job).awaited? = _ from rfl)
    obtain ⟨result, registry⟩ := performs hosting.traffic.state.ledger
    rw [← shown] at result registry
    obtain ⟨answer, stays, quiet, changed⟩ := Headless.invoke_eq available mirrors.quiet action
    refine ⟨[.check hosting.traffic.deliveries.length, .push hosting.traffic.deliveries.length,
      .wake hosting.traffic.deliveries.length, .receive, .finish], rfl, ?_, told.trans ?_⟩
    · exact mirrors.carryOn available own stays quiet (changed.trans registry.symm)
    · dsimp only [Job.map]
      rw [result, answer]
      cases (action headless.registry).map Prod.fst <;> rfl

end Mirrors

end Hosting

end TreeInspector
