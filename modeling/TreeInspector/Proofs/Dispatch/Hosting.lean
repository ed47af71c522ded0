import TreeInspector.Dispatch.Headless
import TreeInspector.Proofs.Dispatch.Deliveries
import TreeInspector.Proofs.Window.Ledger

/-! # The life of a thread for windows

A thread serves a channel until it takes a shutdown or a task crashes that nobody waits for. Then it
goes away in steps, and senders may act between any two of them. After a shutdown it drops the channel
first and the windows after it; a crash drops them the other way round. Either way it is clear at every
point what is left to do and what was done (`Lives`).
-/

namespace TreeInspector

open Channel (Traffic entriesOf perform tasks)

/-- Work on the windows that is made of operations of their registry and ends with a result or a
crash. Putting another set of windows in the place of all of them is no such work. -/
structure Registry.Job (α : Type) where
  run : Ledger → Except Crash α × Ledger
  byOperations : ∀ ledger : Ledger, ∃ operations, ledger.performAll operations = .ok (run ledger).2

namespace Registry.Job

variable {α β : Type}

/-- Go on from the result of a job. -/
def map (convert : α → β) (job : Job α) : Job β where
  run ledger := ((job.run ledger).1.map convert, (job.run ledger).2)
  byOperations := job.byOperations

/-- Open a window and give its number. -/
def openWindow (session : Session) : Job WindowId where
  run ledger :=
    let (answer, registry) := ledger.registry.openWindow session
    (answer, ⟨registry, ledger.handles ++ answer.toOption.toList⟩)
  byOperations _ := ⟨[.openWindow session], rfl⟩

/-- Close a window. -/
def close (id : WindowId) : Job Unit where
  run ledger := (.ok (), { ledger with registry := (ledger.registry.close id).2 })
  byOperations _ := ⟨[.close id], rfl⟩

end Registry.Job

open Registry (Ledger Job)

/-- What the thread is asked to do: something that nobody waits for, something that somebody waits for,
or a new window. -/
inductive Chore (β : Type) where
  | plain (job : Job Unit)
  | awaited (job : Job β)
  | openWindow (session : Session)

/-- What somebody who waits is told. -/
inductive Reply (β : Type) where
  | value (value : β)
  | window (id : WindowId)

/-- The job whose result somebody waits for. -/
def Chore.awaited? {β : Type} : Chore β → Option (Job (Reply β))
  | .plain _ => none
  | .awaited job => some (job.map .value)
  | .openWindow session => some ((Job.openWindow session).map .window)

/-- What tasks work on: the windows with their handles, and the answers given, by send. -/
structure Workbench (β : Type) where
  ledger : Ledger
  answers : List (Nat × Except DispatchError (Reply β))

namespace Workbench

variable {β : Type}

/-- No windows and no answers. -/
def empty : Workbench β := ⟨.empty, []⟩

/-- Answer a send by the result of a job; a crash is reported and goes no further. -/
def answer (send : Nat) (job : Job (Reply β)) (bench : Workbench β) : Workbench β :=
  let (result, ledger) := job.run bench.ledger
  ⟨ledger, bench.answers ++ [(send, result.mapError fun crash => .construction crash.text)]⟩

/-- Carry out a chore. -/
def execute (chore : Nat × Chore β) (bench : Workbench β) : Workbench β × Option Crash :=
  match chore with
  | (_, .plain job) =>
    let (result, ledger) := job.run bench.ledger
    let crash := match result with
      | .ok () => none
      | .error crash => some crash
    ({ bench with ledger }, crash)
  | (send, .awaited job) => (bench.answer send (job.map .value), none)
  | (send, .openWindow session) => (bench.answer send ((Job.openWindow session).map .window), none)

end Workbench

/-- What the thread does on its way out. -/
inductive Teardown where
  | retire
  | disconnect
  | closeWindows
deriving DecidableEq

/-- The way out after a drain: a crash drops the windows first. -/
def Teardown.after {τ σ : Type} (outcome : Drained τ σ) : List Teardown :=
  if outcome.crash.isSome then [.closeWindows, .retire, .disconnect]
  else [.retire, .disconnect, .closeWindows]

/-- On the way out nothing is done twice, and the channel is marked before it goes away. -/
theorem Teardown.of_suffix {τ σ : Type} {outcome : Drained τ σ} {teardown : Teardown}
    {rest : List Teardown} (left : teardown :: rest <:+ Teardown.after outcome) :
    teardown ∉ rest ∧ (teardown = .disconnect → .retire ∉ rest) := by
  unfold Teardown.after at left
  split at left
  all_goals
    simp only [List.suffix_cons_iff, List.suffix_nil, List.cons.injEq, reduceCtorEq, or_false] at left
    rcases left with ⟨rfl, rfl⟩ | ⟨rfl, rfl⟩ | ⟨rfl, rfl⟩ <;> simp

/-- A thread that serves a channel: the traffic, what is left to do on the way out, and the windows once
they were dropped. -/
structure Hosting (β : Type) where
  traffic : Traffic (Chore β) (Workbench β)
  ending : Option (List Teardown)
  dropped : Option Ledger

namespace Hosting

variable {β : Type}

/-- The steps of senders and of the thread. -/
inductive Move (β : Type) where
  | clone
  | release
  | submit (job : Job Unit)
  | invoke (thread : ThreadId) (job : Job β)
  | openWindow (session : Session)
  | requestClose (id : WindowId)
  | shutdown
  | check (send : Nat)
  | push (send : Nat)
  | wake (send : Nat)
  | serve
  | receive
  | finish
  | leave

/-- A new thread. -/
def fresh : Hosting β := ⟨.fresh .empty, none, none⟩

/-- Whether the thread is gone. -/
def HasEnded (hosting : Hosting β) : Prop := hosting.ending = some []

/-- Whether the channel is marked as available. -/
def isAvailable (hosting : Hosting β) : Bool := hosting.traffic.channel.isAvailable

/-- The windows and all handles to them. -/
def ledger (hosting : Hosting β) : Ledger := hosting.dropped.getD hosting.traffic.state.ledger

/-- A step of the traffic. -/
def drive (move : Traffic.Move (Chore β)) (hosting : Hosting β) : Hosting β :=
  { hosting with traffic := hosting.traffic.step Workbench.execute move }

/-- Begin to send a chore. -/
def post (chore : Chore β) (hosting : Hosting β) : Hosting β := hosting.drive (.post (.run chore))

/-- Begin to send a job and wait for it; the thread itself may not wait. -/
def invoke (thread : ThreadId) (job : Job β) (hosting : Hosting β) : Except DispatchError Nat × Hosting β :=
  if hosting.traffic.channel.isOwner thread then
    (.error (.construction "invoke_and_wait called on the UI thread"), hosting)
  else (.ok hosting.traffic.deliveries.length, hosting.post (.awaited job))

/-- Call for a window; the call goes on on a thread of its own. -/
def openWindow (session : Session) (hosting : Hosting β) : Except DispatchError Nat × Hosting β :=
  if hosting.isAvailable then
    (.ok hosting.traffic.deliveries.length, hosting.post (.openWindow session))
  else (.error .unavailable, hosting)

/-- Turn to the way out once the drain is over. -/
def turn (hosting : Hosting β) : Hosting β :=
  match hosting.ending, hosting.traffic.ended with
  | none, drain :: _ => { hosting with ending := some (Teardown.after drain.outcome) }
  | _, _ => hosting

/-- A step on the way out. -/
def quit (teardown : Teardown) (hosting : Hosting β) : Hosting β :=
  match teardown with
  | .retire => hosting.drive .retire
  | .disconnect => hosting.drive .disconnect
  | .closeWindows =>
    let ledger := hosting.traffic.state.ledger
    { hosting with dropped := some { ledger with registry := ledger.registry.closeAll } }

/-- Make a move; a move that is not possible has no effect. -/
def step (hosting : Hosting β) : Move β → Hosting β
  | .clone => hosting.drive .clone
  | .release =>
    -- The owner of the thread keeps a handle until the thread is gone.
    if 1 < hosting.traffic.dispatchers then hosting.drive .release else hosting
  | .submit job => hosting.post (.plain job)
  | .invoke thread job => (hosting.invoke thread job).2
  | .openWindow session => (hosting.openWindow session).2
  | .requestClose id => hosting.post (.plain (.close id))
  | .shutdown => hosting.drive (.post .shutdown)
  | .check send => hosting.drive (.check send)
  | .push send => hosting.drive (.push send)
  | .wake send => hosting.drive (.wake send)
  | .serve =>
    match hosting.ending with
    | none => hosting.drive (.start true Headless.thread)
    | some _ => hosting
  | .receive => (hosting.drive .receive).turn
  | .finish => (hosting.drive .finish).turn
  | .leave =>
    match hosting.ending with
    | some (teardown :: rest) => { hosting.quit teardown with ending := some rest }
    | _ => hosting

/-- Make moves one after the other. -/
def run (hosting : Hosting β) (moves : List (Move β)) : Hosting β := moves.foldl step hosting

/-- Whether the task of a send is queued or running, so that its answer may still come. -/
def holds (send : Nat) (hosting : Hosting β) : Bool :=
  (tasks hosting.traffic.channel.queued ++ (hosting.traffic.round.bind Channel.Round.running).toList).any
    (·.1 == send)

/-- What becomes of a task that was queued: its answer, or that it is lost. -/
def outcome? (send : Nat) (hosting : Hosting β) : Option (Except DispatchError (Reply β)) :=
  match entriesOf send hosting.traffic.state.answers with
  | answer :: _ => some answer
  | [] => if hosting.holds send then none else some (.error .unavailable)

/-- What somebody who waits for a send is told, once that is settled. -/
def reply? (send : Nat) (hosting : Hosting β) : Option (Except DispatchError (Reply β)) :=
  match hosting.traffic.deliveries[send]? with
  | some ⟨_, .returned (.error error)⟩ => some (.error error)
  | some ⟨_, .returned (.ok ())⟩ => hosting.outcome? send
  | _ => none

end Hosting

/-! ## Chores -/

namespace Workbench

variable {β : Type}

theorem execute_awaited {chore : Chore β} {job : Job (Reply β)} (awaited : chore.awaited? = some job)
    (send : Nat) (bench : Workbench β) : bench.execute (send, chore) = (bench.answer send job, none) := by
  cases chore <;> cases awaited <;> rfl

/-- Only a chore that nobody waits for ends with a crash. -/
theorem plain_of_crash {entry : Nat × Chore β} {bench next : Workbench β} {crash : Crash}
    (crashed : bench.execute entry = (next, some crash)) :
    ∃ job, entry.2 = .plain job ∧ (job.run bench.ledger).1 = .error crash := by
  obtain ⟨send, chore⟩ := entry
  cases chore with
  | plain job =>
    refine ⟨job, rfl, ?_⟩
    have found := congrArg Prod.snd crashed
    dsimp only [execute] at found
    split at found
    · cases found
    · next failed => exact failed.trans (congrArg _ (Option.some.inj found))
  | awaited job => cases congrArg Prod.snd crashed
  | openWindow session => cases congrArg Prod.snd crashed

/-- A chore acts on the windows by operations of their registry. -/
theorem byOperations (entry : Nat × Chore β) (bench : Workbench β) :
    ∃ operations, bench.ledger.performAll operations = .ok (bench.execute entry).1.ledger := by
  obtain ⟨send, chore⟩ := entry
  cases chore with
  | plain job => exact job.byOperations bench.ledger
  | awaited job => exact job.byOperations bench.ledger
  | openWindow session => exact (Job.openWindow session).byOperations bench.ledger

theorem exists_accounts (todo : List (Nat × Chore β)) {bench : Workbench β}
    {operations : List Registry.Operation} (accounts : bench.ledger.Accounts operations) :
    ∃ more, (perform execute todo bench).ledger.Accounts (operations ++ more) := by
  induction todo generalizing bench operations with
  | nil => exact ⟨[], by rwa [List.append_nil]⟩
  | cons entry todo ih =>
    obtain ⟨own, performed⟩ := byOperations entry bench
    obtain ⟨later, ran, accounts⟩ := accounts.run own
    obtain rfl := Except.ok.inj (ran.symm.trans performed)
    obtain ⟨more, accounts⟩ := ih accounts
    exact ⟨own ++ more, by rwa [← List.append_assoc]⟩

theorem accounts_perform (todo : List (Nat × Chore β)) :
    ∃ operations, (perform execute todo empty).ledger.Accounts operations := by
  obtain ⟨more, accounts⟩ := exists_accounts todo (show empty.ledger.Accounts [] from Ledger.accounts_empty)
  exact ⟨_, accounts⟩

/-- Handles that were given out stay given out. -/
theorem mem_handles_perform (todo : List (Nat × Chore β)) {bench : Workbench β}
    {operations : List Registry.Operation} (accounts : bench.ledger.Accounts operations) {id : WindowId}
    (given : id ∈ bench.ledger.handles) : id ∈ (perform execute todo bench).ledger.handles := by
  obtain ⟨more, later⟩ := exists_accounts todo accounts
  exact accounts.mem_handles_append later given

/-- The number that is told for a new window is a handle. -/
theorem mem_handles_openWindow {bench : Workbench β} {session : Session} {id : WindowId}
    (told : (((Job.openWindow session).map Reply.window).run bench.ledger).1.mapError
      (fun crash => DispatchError.construction crash.text) = .ok (.window id : Reply β)) (send : Nat) :
    id ∈ (bench.execute (send, .openWindow session)).1.ledger.handles := by
  have opened : (bench.ledger.registry.openWindow session).1 = .ok id := by
    dsimp only [Job.map, Job.openWindow] at told
    cases answer : (bench.ledger.registry.openWindow session).1 with
    | error crash => simp [answer, Except.map, Except.mapError] at told
    | ok number =>
      rw [answer] at told
      cases told
      rfl
  dsimp only [execute, answer, Job.map, Job.openWindow]
  rw [opened]
  exact List.mem_append_right _ (.head _)

theorem answers_execute {send : Nat} {entry : Nat × Chore β} (different : entry.1 ≠ send)
    (bench : Workbench β) :
    entriesOf send (bench.execute entry).1.answers = entriesOf send bench.answers := by
  obtain ⟨number, chore⟩ := entry
  cases chore with
  | plain job => rfl
  | awaited job | openWindow session => simp [execute, answer, Channel.entriesOf_single_other different]

theorem answers_perform {send : Nat} {todo : List (Nat × Chore β)} (absent : send ∉ todo.map Prod.fst)
    (bench : Workbench β) :
    entriesOf send (perform execute todo bench).answers = entriesOf send bench.answers := by
  induction todo generalizing bench with
  | nil => rfl
  | cons entry todo ih =>
    rw [List.map_cons, List.mem_cons, not_or] at absent
    exact (ih absent.2 _).trans (answers_execute (Ne.symm absent.1) bench)

/-- What a send is answered is the result of its job, in the state that the tasks before it left. -/
theorem answers_of_mem {send : Nat} {before after : List (Nat × Chore β)} {chore : Chore β}
    {job : Job (Reply β)} (awaited : chore.awaited? = some job)
    (distinct : ((before ++ (send, chore) :: after).map Prod.fst).Nodup) :
    let result := (job.run (perform execute before empty).ledger).1
    entriesOf send (perform execute (before ++ (send, chore) :: after) empty).answers =
      [result.mapError fun crash => .construction crash.text] := by
  intro result
  rw [List.map_append, List.map_cons, List.nodup_middle, List.nodup_cons, List.mem_append,
    not_or] at distinct
  obtain ⟨⟨unseen, unrepeated⟩, _⟩ := distinct
  have earlier := answers_perform unseen empty
  rw [Channel.perform_append, perform, List.foldl_cons]
  refine (answers_perform unrepeated _).trans ?_
  rw [execute_awaited awaited]
  dsimp only [answer]
  rw [Channel.entriesOf_append, Channel.entriesOf_single]
  exact congrArg (· ++ _) earlier

end Workbench

namespace Hosting

variable {β : Type}

theorem run_append (hosting : Hosting β) (moves more : List (Move β)) :
    hosting.run (moves ++ more) = (hosting.run moves).run more :=
  List.foldl_append

/-! ## The traffic of a thread -/

theorem traffic_turn (hosting : Hosting β) : hosting.turn.traffic = hosting.traffic := by
  unfold turn
  split <;> rfl

theorem turn_of_ending {hosting : Hosting β} {rest : List Teardown} (ending : hosting.ending = some rest) :
    hosting.turn = hosting := by
  rw [turn, ending]

theorem turn_of_unended {hosting : Hosting β} (unended : hosting.traffic.ended = []) :
    hosting.turn = hosting := by
  unfold turn
  split
  · next ended => cases unended.symm.trans ended
  · rfl

/-- A move of a thread or of its senders is at most one move of the traffic. -/
theorem exists_traffic_step (hosting : Hosting β) (move : Move β) :
    ∃ moves, (hosting.step move).traffic = hosting.traffic.run Workbench.execute moves := by
  have stays : hosting.traffic = hosting.traffic.run Workbench.execute [] := rfl
  have drives (one : Traffic.Move (Chore β)) :
      (hosting.drive one).traffic = hosting.traffic.run Workbench.execute [one] := rfl
  cases move with
  | release =>
    dsimp only [step]
    split
    · exact ⟨_, drives _⟩
    · exact ⟨[], stays⟩
  | invoke thread job =>
    dsimp only [step, invoke]
    split
    · exact ⟨[], stays⟩
    · exact ⟨_, drives _⟩
  | openWindow session =>
    dsimp only [step, openWindow]
    split
    · exact ⟨_, drives _⟩
    · exact ⟨[], stays⟩
  | serve =>
    dsimp only [step]
    split
    · exact ⟨_, drives _⟩
    · exact ⟨[], stays⟩
  | receive | finish => exact ⟨_, (traffic_turn _).trans (drives _)⟩
  | leave =>
    dsimp only [step]
    split
    · next teardown rest _ =>
      cases teardown with
      | retire => exact ⟨_, drives .retire⟩
      | disconnect => exact ⟨_, drives .disconnect⟩
      | closeWindows => exact ⟨[], stays⟩
    · exact ⟨[], stays⟩
  | _ => exact ⟨_, drives _⟩

theorem exists_traffic_run (hosting : Hosting β) (moves : List (Move β)) :
    ∃ steps, (hosting.run moves).traffic = hosting.traffic.run Workbench.execute steps := by
  induction moves generalizing hosting with
  | nil => exact ⟨[], rfl⟩
  | cons move moves ih =>
    obtain ⟨first, next⟩ := exists_traffic_step hosting move
    obtain ⟨rest, later⟩ := ih (hosting.step move)
    refine ⟨first ++ rest, ?_⟩
    rw [Traffic.run_append, ← next]
    exact later

/-- The traffic of a thread keeps all that is true of traffic. -/
structure Sound (hosting : Hosting β) : Prop where
  orderly : hosting.traffic.Orderly Workbench.execute Workbench.empty
  fair : ∀ send, hosting.traffic.Fair (hosting.traffic.record send)

theorem sound_fresh : (fresh : Hosting β).Sound where
  orderly := Traffic.orderly_fresh _ _
  fair := Traffic.fair_fresh _

theorem Sound.drive {hosting : Hosting β} (sound : hosting.Sound) (move : Traffic.Move (Chore β)) :
    (hosting.drive move).Sound where
  orderly := sound.orderly.step move
  fair send := Traffic.fair_run sound.orderly (sound.fair send) [move]

theorem Sound.run {hosting : Hosting β} (sound : hosting.Sound) (moves : List (Move β)) :
    (hosting.run moves).Sound := by
  obtain ⟨steps, same⟩ := exists_traffic_run hosting moves
  constructor
  · rw [same]
    exact sound.orderly.run steps
  · intro send
    rw [same]
    exact Traffic.fair_run sound.orderly (sound.fair send) steps

/-! ## The way out -/

/-- Where a thread stands: it serves, or it does what is left to do after its drain. -/
structure Lives (hosting : Hosting β) : Prop where
  senders : 0 < hosting.traffic.dispatchers
  waits : ∀ round ∈ hosting.traffic.round, round.waits = true
  serving : hosting.ending = none → hosting.traffic.ended = [] ∧ hosting.isAvailable = true ∧
    hosting.traffic.connected = true ∧ hosting.dropped = none
  stopping : ∀ rest, hosting.ending = some rest → hosting.traffic.round = none ∧
    (∃ drain, hosting.traffic.ended = [drain] ∧ rest <:+ Teardown.after drain.outcome ∧
      (drain.outcome.stopped = true ∨ drain.outcome.crash.isSome)) ∧
    hosting.isAvailable = decide (.retire ∈ rest) ∧
    hosting.traffic.connected = decide (.disconnect ∈ rest) ∧
    hosting.dropped =
      let ledger := hosting.traffic.state.ledger
      if .closeWindows ∈ rest then none else some { ledger with registry := ledger.registry.closeAll }

theorem lives_fresh : (fresh : Hosting β).Lives where
  senders := Nat.zero_lt_one
  waits := by simp [fresh, Traffic.fresh]
  serving _ := ⟨rfl, rfl, rfl, rfl⟩
  stopping := by simp [fresh]

/-- Whether a move of the traffic is made by a sender that keeps its handle. -/
def bySender : Traffic.Move (Chore β) → Bool
  | .clone | .post _ | .check _ | .push _ | .wake _ => true
  | _ => false

/-- What a sender does leaves the draining side alone. -/
theorem exists_send (traffic : Traffic (Chore β) (Workbench β)) {move : Traffic.Move (Chore β)}
    (sender : bySender move = true) : ∃ queued wakeCalls dispatchers deliveries accepted wakes,
      traffic.dispatchers ≤ dispatchers ∧ traffic.step Workbench.execute move =
        { traffic with
          channel := { traffic.channel with queued, wakeCalls }
          dispatchers, deliveries, accepted, wakes } := by
  cases move with
  | clone =>
    dsimp only [Traffic.step]
    split
    · exact ⟨_, _, _, _, _, _, Nat.le_succ _, rfl⟩
    · exact ⟨_, _, _, _, _, _, Nat.le_refl _, rfl⟩
  | check send | push send =>
    dsimp only [Traffic.step]
    split
    · split <;> exact ⟨_, _, _, _, _, _, Nat.le_refl _, rfl⟩
    · exact ⟨_, _, _, _, _, _, Nat.le_refl _, rfl⟩
  | post message | wake send =>
    dsimp only [Traffic.step]
    split <;> exact ⟨_, _, _, _, _, _, Nat.le_refl _, rfl⟩
  | _ => cases sender

section Lives

variable {hosting : Hosting β}

/-- What a thread has at hand while it serves. -/
def Serves (hosting : Hosting β) : Prop :=
  0 < hosting.traffic.dispatchers ∧ hosting.ending = none ∧ hosting.isAvailable = true ∧
    hosting.traffic.connected = true ∧ hosting.dropped = none

theorem Serves.goOn (serves : hosting.Serves) (unended : hosting.traffic.ended = [])
    (waits : ∀ round ∈ hosting.traffic.round, round.waits = true) : hosting.turn.Lives := by
  obtain ⟨senders, serving, present⟩ := serves
  rw [turn_of_unended unended]
  exact ⟨senders, waits, fun _ => ⟨unended, present⟩, by simp [serving]⟩

/-- Once its drain is over, a thread turns to the way out. -/
theorem Serves.close {traffic : Traffic (Chore β) (Workbench β)}
    (serves : ({ hosting with traffic } : Hosting β).Serves) (unended : traffic.ended = [])
    {round : Channel.Round (Nat × Chore β)} {stopped : Bool} {crash : Option Crash}
    (stops : stopped = true ∨ crash.isSome) :
    ({ hosting with traffic := traffic.close round stopped crash } : Hosting β).turn.Lives := by
  obtain ⟨senders, serving, present⟩ := serves
  rw [Traffic.close, unended, List.nil_append, turn, serving]
  refine ⟨senders, by simp, by simp, ?_⟩
  rintro _ ⟨⟩
  refine ⟨rfl, ⟨_, rfl, List.suffix_rfl, stops⟩, ?_⟩
  have all (outcome : Drained (Nat × Chore β) (Workbench β)) : .retire ∈ Teardown.after outcome ∧
      .disconnect ∈ Teardown.after outcome ∧ .closeWindows ∈ Teardown.after outcome := by
    unfold Teardown.after
    split <;> decide
  simpa [all, isAvailable] using present

variable (lives : hosting.Lives)
include lives

theorem Lives.send {move : Traffic.Move (Chore β)} (sender : bySender move = true) :
    (hosting.drive move).Lives := by
  obtain ⟨senders, waits, serving, stopping⟩ := lives
  obtain ⟨_, _, _, _, _, _, more, same⟩ := exists_send hosting.traffic sender
  rw [drive, same]
  exact ⟨Nat.lt_of_lt_of_le senders more, waits, serving, stopping⟩

/-- Once the thread has stopped, the steps of its rounds do nothing. -/
theorem Lives.idle {rest : List Teardown} (stopping : hosting.ending = some rest) {move : Traffic.Move (Chore β)}
    (own : move = .receive ∨ move = .finish) : (hosting.drive move).turn.Lives := by
  have still : hosting.drive move = hosting := by
    rcases own with rfl | rfl
    · rw [drive, Traffic.step, (lives.stopping rest stopping).1]
    · rw [drive, Traffic.step, (lives.stopping rest stopping).1]
  rwa [still, turn_of_ending stopping]

theorem Lives.receive : (hosting.drive .receive).turn.Lives := by
  obtain ⟨senders, waits, _, _⟩ := id lives
  cases serving : hosting.ending with
  | some rest => exact lives.idle serving (.inl rfl)
  | none =>
    obtain ⟨unended, present⟩ := lives.serving serving
    have serves : hosting.Serves := ⟨senders, serving, present⟩
    dsimp only [drive, Traffic.step]
    split
    · next stays ran taken current =>
      obtain rfl : stays = true := waits _ current
      unfold Traffic.receive
      split
      · rw [if_pos (by simpa using senders)]
        exact serves.goOn unended waits
      · apply Serves.close
        · exact serves
        · exact unended
        · exact .inl rfl
      · refine Serves.goOn serves unended ?_
        rintro _ ⟨⟩
        rfl
    · exact serves.goOn unended waits

theorem Lives.finish : (hosting.drive .finish).turn.Lives := by
  obtain ⟨senders, waits, _, _⟩ := id lives
  cases serving : hosting.ending with
  | some rest => exact lives.idle serving (.inr rfl)
  | none =>
    obtain ⟨unended, present⟩ := lives.serving serving
    have serves : hosting.Serves := ⟨senders, serving, present⟩
    dsimp only [drive, Traffic.step]
    split
    · next stays ran taken task current =>
      have still : stays = true := waits _ current
      unfold Traffic.finish
      dsimp only
      split
      · refine Serves.goOn serves unended ?_
        rintro _ ⟨⟩
        exact still
      · next crashed =>
        apply Serves.close
        · exact serves
        · exact unended
        · exact .inr (congrArg Option.isSome crashed)
    · exact serves.goOn unended waits

theorem Lives.leave : (hosting.step .leave).Lives := by
  obtain ⟨senders, waits, _, stopping⟩ := id lives
  dsimp only [Hosting.step]
  split
  · next teardown rest left =>
    obtain ⟨idle, ⟨drain, one, suffix, stops⟩, available, connected, dropped⟩ := stopping _ left
    obtain ⟨single, marked⟩ := Teardown.of_suffix suffix
    have shorter : rest <:+ Teardown.after drain.outcome := (List.suffix_cons _ _).trans suffix
    cases teardown with
    | retire =>
      rw [quit, drive, Traffic.step_retire idle]
      refine ⟨senders, waits, by simp, ?_⟩
      rintro _ ⟨⟩
      refine ⟨idle, ⟨drain, one, shorter, stops⟩, ?_, ?_, ?_⟩
      · exact (decide_eq_false single).symm
      · simpa using connected
      · simpa using dropped
    | disconnect =>
      have retired : hosting.isAvailable = false := by
        rw [available, decide_eq_false]
        simpa using marked rfl
      rw [quit, drive, Traffic.step_disconnect retired]
      refine ⟨senders, waits, by simp, ?_⟩
      rintro _ ⟨⟩
      refine ⟨idle, ⟨drain, one, shorter, stops⟩, ?_, ?_, ?_⟩
      · exact (decide_eq_false (marked rfl)).symm
      · exact (decide_eq_false single).symm
      · simpa using dropped
    | closeWindows =>
      refine ⟨senders, waits, by simp, ?_⟩
      rintro _ ⟨⟩
      refine ⟨idle, ⟨drain, one, shorter, stops⟩, ?_, ?_, ?_⟩
      · simpa [isAvailable, quit] using available
      · simpa [quit] using connected
      · exact (if_neg single).symm
  · exact lives

theorem Lives.step (move : Move β) : (hosting.step move).Lives := by
  obtain ⟨senders, waits, serving, stopping⟩ := id lives
  cases move with
  | release =>
    dsimp only [Hosting.step]
    split
    · next more =>
      dsimp only [drive, Traffic.step]
      rw [if_neg (by simp; omega)]
      exact ⟨Nat.sub_pos_of_lt more, waits, serving, stopping⟩
    · exact lives
  | invoke thread job =>
    dsimp only [Hosting.step, invoke]
    split
    · exact lives
    · exact lives.send rfl
  | openWindow session =>
    dsimp only [Hosting.step, openWindow]
    split
    · exact lives.send rfl
    · exact lives
  | serve =>
    dsimp only [Hosting.step]
    split
    · next serves =>
      obtain ⟨none, present⟩ := serving serves
      dsimp only [drive, Traffic.step]
      split
      · refine ⟨senders, ?_, fun _ => ⟨none, present⟩, by simp [serves]⟩
        rintro _ ⟨⟩
        rfl
      · exact lives
    · exact lives
  | receive => exact lives.receive
  | finish => exact lives.finish
  | leave => exact lives.leave
  | _ => exact lives.send rfl

theorem Lives.run (moves : List (Move β)) : (hosting.run moves).Lives := by
  induction moves generalizing hosting with
  | nil => exact lives
  | cons move moves ih => exact ih (lives.step move)

end Lives

end Hosting

end TreeInspector
