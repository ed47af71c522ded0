import TreeInspector.Proofs.Dispatch.Hosting

/-! # After the end of a thread for windows

Once the thread is gone, all windows are closed, whoever sends anything is told so, and nobody waits
for a task that will not run. Somebody who waits for a task that did run is told its result, and its
crash does not end the thread.
-/

namespace TreeInspector

open Channel (Traffic entriesOf perform tasks)
open Registry (Ledger Job)

namespace Hosting

variable {β : Type}

/-- The sender takes all the steps it has left. -/
def conclude (send : Nat) (hosting : Hosting β) : Hosting β :=
  hosting.run [.check send, .push send, .wake send]

theorem conclude_eq (send : Nat) (hosting : Hosting β) : hosting.conclude send =
    { hosting with traffic := hosting.traffic.conclude Workbench.execute send } := rfl

theorem HasEnded.step {hosting : Hosting β} (ended : hosting.HasEnded) (move : Move β) :
    (hosting.step move).HasEnded := by
  cases move with
  | release =>
    dsimp only [Hosting.step]
    split <;> exact ended
  | invoke thread job =>
    dsimp only [Hosting.step, invoke]
    split <;> exact ended
  | openWindow session =>
    dsimp only [Hosting.step, openWindow]
    split <;> exact ended
  | serve =>
    rw [Hosting.step, ended]
    exact ended
  | receive | finish =>
    rw [Hosting.step, turn_of_ending]
    · exact ended
    · exact ended
  | leave =>
    rw [Hosting.step, ended]
    exact ended
  | _ => exact ended

theorem HasEnded.run {hosting : Hosting β} (ended : hosting.HasEnded) (moves : List (Move β)) :
    (hosting.run moves).HasEnded := by
  induction moves generalizing hosting with
  | nil => exact ended
  | cons move moves ih => exact ih (ended.step move)

/-- A thread on its way out gets there. -/
theorem run_leave {hosting : Hosting β} {rest : List Teardown} (ending : hosting.ending = some rest) :
    (hosting.run (List.replicate rest.length .leave)).HasEnded := by
  induction rest generalizing hosting with
  | nil => exact ending
  | cons teardown rest ih =>
    rw [List.length_cons, List.replicate_succ]
    apply ih
    rw [step, ending]

section Ended

variable {hosting : Hosting β} (sound : hosting.Sound) (lives : hosting.Lives)

include lives in
/-- What is left once a thread is gone. -/
theorem Lives.gone (ended : hosting.HasEnded) :
    hosting.traffic.round = none ∧ hosting.isAvailable = false ∧ hosting.traffic.connected = false ∧
      hosting.ledger = { hosting.traffic.state.ledger with
        registry := hosting.traffic.state.ledger.registry.closeAll } := by
  obtain ⟨idle, _, retired, gone, dropped⟩ := lives.stopping [] ended
  refine ⟨idle, retired, gone, ?_⟩
  rw [ledger, dropped]
  rfl

include sound in
/-- The windows are what operations of their registry made of them. -/
theorem Sound.exists_accounts : ∃ operations, hosting.traffic.state.ledger.Accounts operations := by
  rw [sound.orderly.state]
  exact Workbench.accounts_perform _

include sound lives in
theorem closed_of_ended (ended : hosting.HasEnded) : hosting.ledger.registry.windows = [] ∧
    ∀ id ∈ hosting.ledger.handles, hosting.ledger.registry.phase id = .closed := by
  obtain ⟨_, accounts⟩ := sound.exists_accounts
  rw [(lives.gone ended).2.2.2]
  exact accounts.closeAll

include lives in
/-- The handles given out are the same whether the windows were dropped or not. -/
theorem handles_eq : hosting.ledger.handles = hosting.traffic.state.ledger.handles := by
  cases ending : hosting.ending with
  | none => rw [ledger, (lives.serving ending).2.2.2]; rfl
  | some rest =>
    rw [ledger, (lives.stopping rest ending).2.2.2.2]
    dsimp only
    split <;> rfl

end Ended

/-! ## What those who wait are told -/

section Replies

variable {hosting : Hosting β} {send : Nat} (sound : hosting.Sound)
include sound

/-- Somebody whose message was queued is told what became of the task after the last steps of the
send. -/
theorem reply?_conclude {message : Message (Chore β)}
    (sent : (send, message) ∈ hosting.traffic.accepted) :
    (hosting.conclude send).reply? send = hosting.outcome? send := by
  have stage := ((sound.fair send).mem_accepted_iff message).mp (Channel.mem_entriesOf.mpr sent)
  rcases stage with found | returned
  · have still : (hosting.traffic.call send).deliveries[send]? = _ := found
    have told := congrArg Channel.Record.delivery
      (Traffic.record_proceed still ⟨message, .returned (.ok ())⟩)
    rw [conclude_eq, Traffic.conclude_of_pushed _ found, reply?]
    dsimp only [Traffic.record] at told ⊢
    rw [told]
    rfl
  · have told : hosting.traffic.deliveries[send]? = some ⟨message, .returned (.ok ())⟩ := returned
    rw [conclude_eq, Traffic.conclude_of_returned _ told, reply?, told]

/-- A send whose task did not run has no answer. -/
theorem answers_of_unrun (unrun : send ∉ hosting.traffic.executed.map Prod.fst) :
    entriesOf send hosting.traffic.state.answers = [] := by
  rw [sound.orderly.state]
  exact Workbench.answers_perform unrun _

/-- The message of a task that ran was queued. -/
theorem accepted_of_mem {chore : Chore β} (ran : (send, chore) ∈ hosting.traffic.executed) :
    (send, .run chore) ∈ hosting.traffic.accepted :=
  (Traffic.mem_tasks_pushed _ _ _).mp (sound.orderly.executed_early.subset ran)

theorem outcome?_of_mem {before after : List (Nat × Chore β)} {chore : Chore β} {job : Job (Reply β)}
    (ran : hosting.traffic.executed = before ++ (send, chore) :: after)
    (awaited : chore.awaited? = some job) :
    let result := (job.run (perform Workbench.execute before .empty).ledger).1
    hosting.outcome? send = some (result.mapError fun crash => .construction crash.text) := by
  intro result
  have distinct := Traffic.nodup_executed sound.orderly sound.fair
  rw [ran] at distinct
  rw [outcome?, sound.orderly.state, ran, Workbench.answers_of_mem awaited distinct]

end Replies

section Lost

variable {hosting : Hosting β} {send : Nat} (sound : hosting.Sound) (lives : hosting.Lives)
  (ended : hosting.HasEnded)
include sound lives ended

/-- A task that did not run before the end is lost. -/
theorem outcome?_of_unrun (unrun : send ∉ hosting.traffic.executed.map Prod.fst) :
    hosting.outcome? send = some (.error .unavailable) := by
  obtain ⟨idle, _, gone, _⟩ := lives.gone ended
  have dropped : hosting.holds send = false := by
    rw [holds, sound.orderly.emptied gone, idle]
    rfl
  rw [outcome?, answers_of_unrun sound unrun]
  dsimp only
  rw [dropped]
  rfl

/-- After the end, a send that did not push its message fails. -/
theorem refused_of_unsent {delivery : Channel.Delivery (Chore β)}
    (found : hosting.traffic.deliveries[send]? = some delivery)
    (unsent : entriesOf send hosting.traffic.accepted = []) :
    (hosting.conclude send).traffic.deliveries[send]? =
      some ⟨delivery.message, .returned (.error .unavailable)⟩ := by
  obtain ⟨_, retired, gone, _⟩ := lives.gone ended
  rw [conclude_eq, Traffic.conclude_of_gone _ (sound.fair send) retired gone found unsent]
  exact congrArg Channel.Record.delivery (Traffic.record_proceed found _)

/-- After the end, somebody who waits for a task that did not run is told that there is no thread. -/
theorem reply?_of_unrun (unrun : send ∉ hosting.traffic.executed.map Prod.fst) :
    (∀ reply, hosting.reply? send = some reply → reply = .error .unavailable) ∧
      ∀ delivery, hosting.traffic.deliveries[send]? = some delivery →
        (hosting.conclude send).reply? send = some (.error .unavailable) := by
  have lost := outcome?_of_unrun sound lives ended unrun
  constructor
  · intro reply told
    unfold reply? at told
    split at told
    · next failed =>
      cases told
      rw [((sound.fair send).of_error failed).1]
    · exact Option.some.inj (told.symm.trans lost)
    · cases told
  · intro delivery found
    cases accepted : entriesOf send hosting.traffic.accepted with
    | nil =>
      have refused := refused_of_unsent sound lives ended found accepted
      rw [reply?, refused]
    | cons message _ =>
      have sent : (send, message) ∈ hosting.traffic.accepted := by
        rw [← Channel.mem_entriesOf, accepted]
        exact .head _
      rw [reply?_conclude sound sent, lost]

end Lost

section Life

variable {hosting : Hosting β} (sound : hosting.Sound) (lives : hosting.Lives)
include lives

include sound in
/-- A thread goes away only after a shutdown or after a crash of a task that nobody waits for. -/
theorem exists_reason {rest : List Teardown} (ending : hosting.ending = some rest) :
    ∃ drain taken, hosting.traffic.ended = [drain] ∧ (drain.taken = taken ++ [.shutdown] ∨
      ∃ send job crash, drain.taken = taken ++ [.run (send, .plain job)] ∧
        drain.outcome.crash = some crash) := by
  obtain ⟨_, ⟨drain, one, _, stops⟩, _⟩ := lives.stopping rest ending
  obtain ⟨whole, _⟩ := sound.orderly.replays [] drain (one ▸ List.prefix_rfl)
  rcases stops with stopped | crashed
  · obtain ⟨taken, last⟩ := whole.stopped stopped
    exact ⟨drain, taken, one, .inl last⟩
  · obtain ⟨crash, found⟩ := Option.isSome_iff_exists.mp crashed
    obtain ⟨taken, ⟨send, chore⟩, last, failed⟩ := whole.crashed found
    obtain ⟨job, rfl, _⟩ := Workbench.plain_of_crash failed
    exact ⟨drain, taken, one, .inr ⟨send, job, crash, last, found⟩⟩

/-- A task that somebody waits for never ends the thread, whether it crashes or not. -/
theorem finish_awaited {round : Channel.Round (Nat × Chore β)} {send : Nat} {chore : Chore β}
    {job : Job (Reply β)} (current : hosting.traffic.round = some round)
    (running : round.running = some (send, chore)) (awaited : chore.awaited? = some job) :
    let next := hosting.step .finish
    next.ending = none ∧ next.isAvailable = true ∧
      next.traffic.round = some { round with ran := round.ran + 1, running := none } ∧
      next.traffic.executed = hosting.traffic.executed ++ [(send, chore)] := by
  intro next
  have serving : hosting.ending = none := by
    cases ending : hosting.ending with
    | none => rfl
    | some rest => exact absurd ((lives.stopping rest ending).1.symm.trans current) (by simp)
  obtain ⟨unended, available, _, _⟩ := lives.serving serving
  obtain ⟨waits, ran, taken, _⟩ := round
  cases running
  have done : hosting.traffic.step Workbench.execute .finish =
      { hosting.traffic with
        state := hosting.traffic.state.answer send job
        executed := hosting.traffic.executed ++ [(send, chore)]
        round := some ⟨waits, ran + 1, taken, none⟩ } := by
    rw [Traffic.step, current]
    dsimp only [Traffic.finish]
    rw [Workbench.execute_awaited awaited]
  have same : next = hosting.drive .finish := turn_of_unended (by rw [drive, done]; exact unended)
  rw [same, drive, done]
  exact ⟨serving, available, rfl, rfl⟩

end Life

section Handles

variable {hosting : Hosting β} (sound : hosting.Sound) (lives : hosting.Lives)
include sound lives

/-- Handles that were given out stay given out. -/
theorem handles_run (moves : List (Move β)) {id : WindowId} (given : id ∈ hosting.ledger.handles) :
    id ∈ (hosting.run moves).ledger.handles := by
  obtain ⟨steps, same⟩ := exists_traffic_run hosting moves
  obtain ⟨more, longer⟩ := (Traffic.lasts_run hosting.traffic steps).executed
  obtain ⟨_, accounts⟩ := sound.exists_accounts
  rw [handles_eq lives] at given
  rw [handles_eq (lives.run moves), (sound.run moves).orderly.state, same, ← longer,
    Channel.perform_append, ← sound.orderly.state]
  exact Workbench.mem_handles_perform more accounts given

omit lives in
/-- The task of a send that was answered ran. -/
theorem exists_run_of_reply? {send : Nat} {chore : Chore β} {progress : Channel.Progress}
    {reply : Reply β} (found : hosting.traffic.deliveries[send]? = some ⟨.run chore, progress⟩)
    (told : hosting.reply? send = some (.ok reply)) : hosting.outcome? send = some (.ok reply) ∧
      ∃ before after, hosting.traffic.executed = before ++ (send, chore) :: after := by
  have answered : hosting.outcome? send = some (.ok reply) := by
    rw [reply?, found] at told
    split at told
    · cases told
    · exact told
    · cases told
  refine ⟨answered, ?_⟩
  have ran : send ∈ hosting.traffic.executed.map Prod.fst := by
    by_contra unrun
    rw [outcome?, answers_of_unrun sound unrun] at answered
    dsimp only at answered
    split at answered <;> cases answered
  obtain ⟨⟨_, other⟩, member, rfl⟩ := List.mem_map.mp ran
  have sent := Channel.mem_entriesOf.mpr (accepted_of_mem sound member)
  have same : other = chore := by
    rcases ((sound.fair _).mem_accepted_iff _).mp sent with stands | stands
    all_goals
      cases found.symm.trans stands
      rfl
  exact List.append_of_mem (same ▸ member)

/-- The number that somebody is told who called for a window is a handle that was given out. -/
theorem handle_of_reply? {send : Nat} {session : Session} {progress : Channel.Progress} {id : WindowId}
    (found : hosting.traffic.deliveries[send]? = some ⟨.run (.openWindow session), progress⟩)
    (told : hosting.reply? send = some (.ok (.window id))) : id ∈ hosting.ledger.handles := by
  obtain ⟨answered, before, after, ran⟩ := exists_run_of_reply? sound found told
  have result := (outcome?_of_mem sound ran rfl).symm.trans answered
  obtain ⟨_, accounts⟩ := Workbench.accounts_perform (before ++ [(send, Chore.openWindow session)])
  rw [handles_eq lives, sound.orderly.state, ran, List.append_cons, Channel.perform_append]
  apply Workbench.mem_handles_perform after accounts
  rw [Channel.perform_append]
  exact Workbench.mem_handles_openWindow (Option.some.inj result) send

end Handles

/-- A thread after some moves, and after any more of them. -/
structure Settles (hosting later : Hosting β) : Prop where
  /-- The thread goes away only after a shutdown or after a crash of a task that nobody waits for, and
  once it is on its way, it gets there. -/
  reason : ∀ rest, hosting.ending = some rest → ∃ drain taken, hosting.traffic.ended = [drain] ∧
    (drain.taken = taken ++ [.shutdown] ∨ ∃ send job crash,
      drain.taken = taken ++ [.run (send, .plain job)] ∧ drain.outcome.crash = some crash)
  leaves : ∀ rest, hosting.ending = some rest →
    (hosting.run (List.replicate rest.length .leave)).HasEnded
  /-- Then it stays gone, and every window that anybody has a handle to is closed. -/
  gone : hosting.HasEnded → later.HasEnded ∧ later.isAvailable = false
  closed : hosting.HasEnded → later.ledger.registry.windows = [] ∧
    ∀ id ∈ later.ledger.handles, later.ledger.registry.phase id = .closed
  handles : ∀ id ∈ hosting.ledger.handles, id ∈ later.ledger.handles
  told : ∀ send session progress id,
    hosting.traffic.deliveries[send]? = some ⟨.run (.openWindow session), progress⟩ →
      hosting.reply? send = some (.ok (.window id)) → id ∈ hosting.ledger.handles
  /-- Every later send or call for a window fails, and so does every send that had not come far enough. -/
  sends : hosting.HasEnded → ∀ send delivery, later.traffic.deliveries[send]? = some delivery →
    send ∉ hosting.traffic.accepted.map Prod.fst →
      (later.conclude send).traffic.deliveries[send]? =
        some ⟨delivery.message, .returned (.error .unavailable)⟩
  opens : hosting.HasEnded → ∀ session, later.openWindow session = (.error .unavailable, later)
  /-- Whoever waits for a task that had not run is told that there is no thread, and nothing else. -/
  lost : hosting.HasEnded → ∀ send chore progress job,
    later.traffic.deliveries[send]? = some ⟨.run chore, progress⟩ → chore.awaited? = some job →
      send ∉ hosting.traffic.executed.map Prod.fst →
        (∀ reply, later.reply? send = some reply → reply = .error .unavailable) ∧
          (later.conclude send).reply? send = some (.error .unavailable)
  /-- Whoever waits for a task that ran is told its result, a crash by its text. -/
  answered : ∀ before after send chore job,
    hosting.traffic.executed = before ++ (send, chore) :: after → chore.awaited? = some job →
      let result := (job.run (perform Workbench.execute before .empty).ledger).1
      (hosting.conclude send).reply? send =
        some (result.mapError fun crash => .construction crash.text)
  text : ∀ crash : Crash, crash.text = match crash with
    | .message text => text
    | .silent => "panic with non-string payload"
  /-- A task that somebody waits for never ends the thread, whether it crashes or not. -/
  spared : ∀ round send chore job, hosting.traffic.round = some round →
    round.running = some (send, chore) → chore.awaited? = some job →
      let next := hosting.step .finish
      next.ending = none ∧ next.isAvailable = true ∧
        next.traffic.round = some { round with ran := round.ran + 1, running := none } ∧
        next.traffic.executed = hosting.traffic.executed ++ [(send, chore)]
  /-- Only the thread itself may not wait; it is told so at once. -/
  misuse : ∀ thread job, (hosting.invoke thread job).1 =
    if hosting.traffic.channel.owner = some thread then
      .error (.construction "invoke_and_wait called on the UI thread")
    else .ok hosting.traffic.deliveries.length

/-- However a thread for windows ends, and whatever happens before and after, its windows are closed and
everybody who waits for it is told. -/
theorem run_settles (moves more : List (Move β)) :
    let hosting := (fresh : Hosting β).run moves
    hosting.Settles (hosting.run more) := by
  intro hosting
  have sound : hosting.Sound := sound_fresh.run moves
  have lives : hosting.Lives := lives_fresh.run moves
  have soundLater := sound.run more
  have livesLater := lives.run more
  obtain ⟨steps, same⟩ := exists_traffic_run hosting more
  constructor
  case reason => exact fun _ ending => exists_reason sound lives ending
  case leaves => exact fun _ ending => run_leave ending
  case gone => exact fun ended => ⟨ended.run more, (livesLater.gone (ended.run more)).2.1⟩
  case closed => exact fun ended => closed_of_ended soundLater livesLater (ended.run more)
  case handles => exact fun _ given => handles_run sound lives more given
  case told => exact fun _ _ _ _ found told => handle_of_reply? sound lives found told
  case sends =>
    intro ended send delivery found unsent
    apply refused_of_unsent soundLater livesLater (ended.run more) found
    rw [same, Traffic.accepted_of_gone sound.orderly (lives.gone ended).2.2.1]
    exact Channel.entriesOf_eq_nil_iff.mpr unsent
  case opens =>
    intro ended session
    rw [openWindow, (livesLater.gone (ended.run more)).2.1]
    rfl
  case lost =>
    intro ended send chore progress job found _ unrun
    have still := (sound.orderly.over_run (lives.gone ended).2.1 steps).2
    rw [← still, ← same] at unrun
    obtain ⟨replies, last⟩ := reply?_of_unrun soundLater livesLater (ended.run more) unrun
    exact ⟨replies, last _ found⟩
  case answered =>
    intro before after send chore job ran awaited
    have sent := accepted_of_mem sound (ran ▸ List.mem_append_right _ (.head _))
    rw [reply?_conclude sound sent]
    exact outcome?_of_mem sound ran awaited
  case text => exact fun crash => by cases crash <;> rfl
  case spared => exact fun _ _ _ _ current running awaited => finish_awaited lives current running awaited
  case misuse =>
    intro thread job
    rw [invoke, Channel.isOwner]
    split <;> simp_all

end Hosting

end TreeInspector
