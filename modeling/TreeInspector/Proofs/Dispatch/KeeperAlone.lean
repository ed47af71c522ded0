import TreeInspector.Dispatch.Headless
import TreeInspector.Proofs.Dispatch.Headless
import TreeInspector.Proofs.Dispatch.KeeperRuns

/-! # A keeper that nobody disturbs

To open a window and stay until it is closed, all at once and on a thread that waits, is one of the runs of
a keeper: the one where the thread carries out what the keeper sends as soon as it is sent, and nothing
else happens but that the window is closed once it is shown.
-/

namespace TreeInspector

namespace Exchange

section Whole

variable {exchange : Exchange}

/-- A call that is made, carried out and answered at once. -/
theorem run_answer (sound : exchange.Sound) (available : exchange.coordinator.channel.isAvailable = true)
    (connected : exchange.connected = true) (idle : exchange.queued = []) (session : Session) :
    let call := exchange.stages.length
    let construction : Construction := ⟨call, session, exchange.registry⟩
    let later := exchange.run [.call session, .check call, .push call, .take, .complete call]
    construction ∈ later.built ∧ (call, construction.answer) ∈ later.completed ∧
      later.registry = construction.after ∧ later.queued = [] := by
  intro call construction later
  obtain ⟨course, stands⟩ := sound.courses call
  obtain ⟨rfl, _⟩ := dossier_made sound.numbered available stands session
  let pushed := exchange.run [.call session, .check call, .push call]
  have opens : pushed.coordinator = (exchange.coordinator.openWindow session).2 :=
    run_openWindow sound.numbered connected session
  have made : exchange.coordinator.workspace.calls.length = call := sound.numbered.lengths.symm
  have first : pushed.queued = [.run (.openWindow call session)] := by
    rw [queued] at idle ⊢
    simp [opens, Coordinator.openWindow, Coordinator.beginOpen, Coordinator.marshal, Coordinator.submit,
      Coordinator.send, Channel.send, available, Channel.push, idle, made]
  have untouched : pushed.registry = exchange.registry := by
    rw [registry, registry]
    simp [opens, Coordinator.openWindow, Coordinator.beginOpen, Coordinator.marshal, Coordinator.submit,
      Coordinator.send, Channel.send, available]
  have waits : pushed.dossier call = (Course.queued session).dossier := by
    obtain ⟨course, stands, _⟩ := follows_run sound.numbered stands [.call session, .check call, .push call]
    have queue : course.dossier.queued = [session] := by
      rw [← stands, dossier, first]
      simp [sessionOf?]
    obtain ⟨rfl, _⟩ := Course.eq_queued queue
    exact stands
  let taken := (pushed.claim []).execute (.openWindow call session)
  have takes : pushed.step .take = taken := by
    dsimp only [step]
    rw [first]
  have same : (pushed.claim []).registry = exchange.registry := untouched
  have ran : taken.dossier call = (Course.ran construction false).dossier := by
    rw [dossier_execute, dossier_claim, waits, same]
    rfl
  have waiting : taken.stages[call]? = some .waiting := congrArg Dossier.stage ran
  have decided : taken.coordinator.call? call = some (some construction.answer) := congrArg Dossier.answer ran
  have completes :
      taken.step (.complete call) = (taken.proceed call .done).record call construction.answer := by
    dsimp only [step]
    rw [waiting, decided]
  have whole : later = (taken.proceed call .done).record call construction.answer := by
    rw [← completes, ← takes]
    rfl
  have built : construction ∈ taken.built := by
    have last : taken.built = pushed.built ++ [⟨call, session, (pushed.claim []).registry⟩] := rfl
    rw [last, same]
    exact List.mem_append_right _ (.head _)
  have after : taken.registry = construction.after :=
    congrArg (fun registry => (registry.openWindow session).2) same
  rw [whole]
  exact ⟨built, List.mem_append_right _ (.head _), after, rfl⟩

/-- The first answer to a call is the one of its construction. -/
theorem Sound.lookup_completed (sound : exchange.Sound) {construction : Construction}
    (member : construction ∈ exchange.built)
    (told : (construction.call, construction.answer) ∈ exchange.completed) :
    exchange.completed.lookup construction.call = some construction.answer := by
  cases found : exchange.completed.lookup construction.call with
  | none =>
    have others := List.lookup_eq_none_iff.mp found _ told
    exact absurd rfl (bne_iff_ne.mp others)
  | some result =>
    obtain ⟨before, after, split, _⟩ := List.lookup_eq_some_iff.mp found
    rw [sound.answer_eq member (split ▸ List.mem_append_right before (.head after))]

/-- A window that was opened for a call is closed by closing it. -/
theorem Known.closed_close (known : exchange.Known) {construction : Construction}
    (member : construction ∈ exchange.built) {id : WindowId} (answer : construction.answer = .ok id) :
    (exchange.registry.close id).2.phase id = .closed := by
  obtain ⟨handles, operations, accounts, told⟩ := known
  have given := told construction member id answer
  obtain ⟨next, performed, accountsNext, _⟩ := accounts.step (.close id)
  cases performed
  refine (accountsNext.phase_eq_closed_iff given).mpr ?_
  refine (Registry.removed_concat (accounts.known given) (.close id)).mpr (.inr ?_)
  exact beq_self_eq_true id

/-- A wish to close a window that is sent and carried out at once. -/
theorem run_requestClose (connected : exchange.connected = true) (idle : exchange.queued = [])
    (id : WindowId) : let later := exchange.run [.post (.requestClose id), .take]
    later.registry = (exchange.registry.close id).2 ∧ later.queued = [] := by
  rw [queued] at idle
  simp [run, step, connected, queued, enqueue, Channel.push, idle, Errand.message, claim, execute, registry,
    Workspace.execute]

/-- The owner is asked to stop, goes away at once and closes all windows. -/
theorem run_shutdown (connected : exchange.connected = true) (idle : exchange.queued = []) :
    let later := exchange.run [.post .shutdown, .take, .retire, .disconnect, .operate .closeAll]
    later.registry = exchange.registry.closeAll ∧ later.queued = [] ∧
      later.coordinator.channel.isAvailable = false ∧ later.connected = false := by
  rw [queued] at idle
  simp [run, step, connected, queued, enqueue, Channel.push, idle, Errand.message, claim, registry,
    Coordinator.drop, Channel.drop, Coordinator.queuedCalls]

end Whole

end Exchange

namespace Supervision

/-- A thread that waits, or is gone, and an exchange with the same windows. -/
structure Mirrors (supervision : Supervision) (headless : Headless) : Prop where
  registry : headless.registry = supervision.exchange.registry
  available : headless.isAvailable = supervision.isAvailable
  connected : supervision.exchange.connected = supervision.isAvailable
  quiet : headless.coordinator.channel.queued = []
  idle : supervision.exchange.queued = []

theorem mirrors_fresh : fresh.Mirrors .fresh := ⟨rfl, rfl, rfl, rfl, rfl⟩

theorem run_others (supervision : Supervision) (drives : List Exchange.Move) :
    supervision.run (drives.map .other) = { supervision with exchange := supervision.exchange.run drives } := by
  induction drives generalizing supervision with
  | nil => rfl
  | cons drive drives ih => exact ih (supervision.drive drive)

section Alone

variable {supervision : Supervision} {headless : Headless} {k : Nat}

theorem Mirrors.proceed (mirrors : supervision.Mirrors headless) (stage : Keeper.Stage) :
    (supervision.proceed k stage).Mirrors headless :=
  ⟨mirrors.registry, mirrors.available, mirrors.connected, mirrors.quiet, mirrors.idle⟩

/-- A keeper that is about to stop the owner does so, and returns. -/
theorem Mirrors.shutdown (mirrors : supervision.Mirrors headless) {result : Except DispatchError Unit}
    (stands : supervision.stage? k = some (.stopping result)) : ∃ moves,
      (supervision.run moves).stage? k = some (.returned result) ∧
        (supervision.run moves).Mirrors headless.shutdown := by
  cases present : supervision.isAvailable with
  | false =>
    have checks : supervision.run [.check k] = supervision.proceed k (.returned result) := by
      simp [run, step, stands, present]
    have gone := Headless.send_of_gone (mirrors.available.trans present) .shutdown
    refine ⟨[.check k], ?_⟩
    rw [checks, Headless.shutdown, gone]
    exact ⟨stage?_proceed_self _ k _ stands, mirrors.proceed _⟩
  | true =>
    have checks : supervision.step (.check k) = supervision.proceed k (.checked result) := by
      simp [step, stands, present]
    have checked := stage?_proceed_self supervision k (.checked result) stands
    have connected : supervision.exchange.connected = true := mirrors.connected.trans present
    let stopped := (supervision.proceed k (.checked result)).accept k result
    have stops : (supervision.proceed k (.checked result)).step (.stop k) = stopped :=
      step_stop checked connected
    let leaves : List Exchange.Move := [.take, .retire, .disconnect, .operate .closeAll]
    refine ⟨.check k :: .stop k :: leaves.map .other, ?_⟩
    have whole : supervision.run (.check k :: .stop k :: leaves.map .other) =
        { stopped with exchange := stopped.exchange.run leaves } := by
      rw [← run_others, ← stops, ← checks]
      rfl
    obtain ⟨closed, empty, retired, gone⟩ := Exchange.run_shutdown connected mirrors.idle
    obtain ⟨_, left, quiet, registry⟩ :=
      Headless.send_shutdown (mirrors.available.trans present) mirrors.quiet
    rw [whole]
    refine ⟨?_, ?_, left.trans retired.symm, gone.trans retired.symm, quiet, empty⟩
    · exact stage?_proceed_self _ k (.returned result) checked
    · rw [Headless.shutdown, registry, mirrors.registry]
      exact closed.symm

/-- A window is closed as soon as somebody asks for it. -/
theorem Mirrors.requestClose (mirrors : supervision.Mirrors headless)
    (present : supervision.isAvailable = true) (id : WindowId) :
    let later := supervision.run [.other (.post (.requestClose id)), .other .take]
    later.Mirrors (headless.requestClose id).2 ∧ later.keepers = supervision.keepers ∧
      later.exchange.registry = (supervision.exchange.registry.close id).2 := by
  intro later
  have connected : supervision.exchange.connected = true := mirrors.connected.trans present
  let drives : List Exchange.Move := [.post (.requestClose id), .take]
  have runs : later = { supervision with exchange := supervision.exchange.run drives } :=
    run_others supervision drives
  obtain ⟨available, still⟩ := supervision.exchange.present_run drives (by simp [drives]) (by simp [drives])
  obtain ⟨closed, idle⟩ := Exchange.run_requestClose connected mirrors.idle id
  have waiting : headless.isAvailable = true := mirrors.available.trans present
  have closes : headless.coordinator.workspace.execute (.act fun registry => (registry.close id).2) =
    ({ headless.coordinator.workspace with registry := (headless.registry.close id).2 }, none) := rfl
  obtain ⟨_, waits, quiet, done⟩ := Headless.send_task waiting mirrors.quiet closes
  rw [runs]
  refine ⟨⟨?_, ?_, ?_, quiet, idle⟩, rfl, closed⟩
  · rw [closed, ← mirrors.registry]
    exact done
  · exact waits.trans (available.trans present).symm
  · exact (still.trans connected).trans (available.trans present).symm

/-- A keeper's window is opened as soon as it asks for it, or crashes. -/
theorem Mirrors.openWindow (mirrors : supervision.Mirrors headless) (consistent : supervision.Consistent)
    (present : supervision.isAvailable = true) (session : Session) : ∃ moves,
      let later := supervision.run (.begin session none :: moves)
      later.Mirrors (headless.openWindow session).2 ∧ later.isAvailable = true ∧
        later.stage? supervision.keepers.length = some .opening ∧
        later.answer? supervision.keepers.length = some (headless.openWindow session).1 ∧
        ∃ construction ∈ later.exchange.built, construction.answer = (headless.openWindow session).1 := by
  let call := supervision.exchange.stages.length
  let drives : List Exchange.Move := [.check call, .push call, .take, .complete call]
  have connected : supervision.exchange.connected = true := mirrors.connected.trans present
  refine ⟨drives.map .other, ?_⟩
  intro later
  have begins : supervision.step (.begin session none) = supervision.callFor session := by
    simp [step, present]
  have runs : later =
      { supervision.callFor session with exchange := supervision.exchange.run (.call session :: drives) } := by
    have first : later = (supervision.step (.begin session none)).run (drives.map .other) := rfl
    rw [first, begins, run_others]
    rfl
  have exchanged : later.exchange = supervision.exchange.run (.call session :: drives) := by rw [runs]
  have keeper : later.keepers[supervision.keepers.length]? = some ⟨session, .ok call, .opening⟩ := by
    rw [runs]
    exact List.getElem?_concat_length
  obtain ⟨available, still⟩ :=
    supervision.exchange.present_run (.call session :: drives) (by simp [drives]) (by simp [drives])
  obtain ⟨built, told, registry, idle⟩ :=
    Exchange.run_answer consistent.sound present connected mirrors.idle session
  rw [← exchanged] at available still built told registry idle
  obtain ⟨answer, waits, quiet, opened⟩ :=
    Headless.openWindow_eq (mirrors.available.trans present) mirrors.quiet session
  have given : (headless.openWindow session).1 =
      Construction.answer ⟨call, session, supervision.exchange.registry⟩ := by
    rw [answer, mirrors.registry]
    rfl
  have stays : later.isAvailable = true := available.trans present
  refine ⟨⟨?_, ?_, ?_, quiet, idle⟩, stays, ?_, ?_, _, built, given.symm⟩
  · rw [opened, mirrors.registry]
    exact registry.symm
  · exact waits.trans stays.symm
  · exact (still.trans connected).trans stays.symm
  · rw [stage?, keeper]
    rfl
  · rw [answer?, call?, keeper, given]
    exact (consistent.run _).sound.lookup_completed built told

/-- A keeper whose window did not open stops the owner. -/
theorem Mirrors.hear_error (mirrors : supervision.Mirrors headless) {error : DispatchError}
    (stands : supervision.stage? k = some .opening) (answered : supervision.answer? k = some (.error error)) :
    ∃ moves, (supervision.run moves).stage? k = some (.returned (.error error)) ∧
      (supervision.run moves).Mirrors headless.shutdown := by
  have hears : supervision.step (.hear k) = supervision.proceed k (.stopping (.error error)) := by
    simp [step, stands, answered]
  have stopping := stage?_proceed_self supervision k (.stopping (.error error)) stands
  obtain ⟨moves, returned, later⟩ := (mirrors.proceed _).shutdown stopping
  rw [← hears] at returned later
  exact ⟨.hear k :: moves, returned, later⟩

/-- A keeper whose window is open has it closed and stops the owner. -/
theorem Mirrors.hear_ok (mirrors : supervision.Mirrors headless) (consistent : supervision.Consistent)
    (present : supervision.isAvailable = true) {id : WindowId}
    (stands : supervision.stage? k = some .opening) (answered : supervision.answer? k = some (.ok id))
    {construction : Construction} (built : construction ∈ supervision.exchange.built)
    (answer : construction.answer = .ok id) :
    ∃ moves, (supervision.run moves).stage? k = some (.returned (.ok ())) ∧
      (supervision.run moves).Mirrors (headless.requestClose id).2.shutdown := by
  let watching := supervision.proceed k (.watching id)
  have hears : supervision.step (.hear k) = watching := by simp [step, stands, answered, watching]
  let closing := watching.run [.other (.post (.requestClose id)), .other .take]
  obtain ⟨closes, keepers, registry⟩ := (mirrors.proceed (.watching id)).requestClose present id
  have watches : closing.stage? k = some (.watching id) := by
    rw [stage?, keepers]
    exact stage?_proceed_self supervision k (.watching id) stands
  have closed : closing.exchange.registry.phase id = .closed := by
    rw [registry]
    exact consistent.lawful.2.closed_close built answer
  have notices : closing.step (.notice k) = closing.proceed k (.stopping (.ok ())) := by
    simp [step, watches, closed]
  have stopping := stage?_proceed_self closing k (.stopping (.ok ())) watches
  obtain ⟨moves, returned, later⟩ := (closes.proceed _).shutdown stopping
  rw [← notices] at returned later
  let first : List Move := [.hear k, .other (.post (.requestClose id)), .other .take, .notice k]
  have runs : supervision.run (first ++ moves) = (closing.step (.notice k)).run moves := by
    rw [run_append]
    simp only [first, closing, run, List.foldl_cons, List.foldl_nil, hears]
  refine ⟨first ++ moves, ?_⟩
  rw [runs]
  exact ⟨returned, later⟩

/-- To open a window and stay until it is closed, all at once, is a run of a keeper. -/
theorem Mirrors.openUntilClosed (mirrors : supervision.Mirrors headless)
    (consistent : supervision.Consistent) (session : Session) : ∃ moves,
      let later := supervision.run (.begin session none :: moves)
      later.stage? supervision.keepers.length = some (.returned (headless.openUntilClosed session).1) ∧
        later.Mirrors (headless.openUntilClosed session).2 := by
  cases present : supervision.isAvailable with
  | false =>
    let turned := supervision.turnAway session .unavailable
    have begins : supervision.step (.begin session none) = turned := by simp [step, present, turned]
    have stands : turned.stage? supervision.keepers.length = some (.stopping (.error .unavailable)) := by
      rw [stage?]
      exact congrArg (Option.map Keeper.stage) List.getElem?_concat_length
    have same : turned.Mirrors headless :=
      ⟨mirrors.registry, mirrors.available, mirrors.connected, mirrors.quiet, mirrors.idle⟩
    obtain ⟨moves, returned, later⟩ := same.shutdown stands
    have gone := Headless.openWindow_of_gone (mirrors.available.trans present) session
    refine ⟨moves, ?_⟩
    rw [Headless.openUntilClosed, gone, run, List.foldl_cons, begins]
    exact ⟨returned, later⟩
  | true =>
    obtain ⟨moves, opened, available, stands, answered, construction, built, answer⟩ :=
      mirrors.openWindow consistent present session
    have consistentLater := consistent.run (.begin session none :: moves)
    suffices ∃ more, let later := (supervision.run (.begin session none :: moves)).run more
        later.stage? supervision.keepers.length = some (.returned (headless.openUntilClosed session).1) ∧
          later.Mirrors (headless.openUntilClosed session).2 by
      obtain ⟨more, done⟩ := this
      rw [← run_append] at done
      exact ⟨moves ++ more, done⟩
    rw [Headless.openUntilClosed]
    generalize headless.openWindow session = opening at opened answered answer ⊢
    obtain ⟨error | id, next⟩ := opening
    · exact opened.hear_error stands answered
    · exact opened.hear_ok consistentLater available stands answered built answer

end Alone

/-- The first keeper of all, undisturbed, comes back with what it is told if it all happens at once. -/
theorem exists_openUntilClosed (session : Session) : ∃ moves,
    (fresh.run moves).stage? 0 = some (.returned (Headless.fresh.openUntilClosed session).1) ∧
      (fresh.run moves).exchange.registry = (Headless.fresh.openUntilClosed session).2.registry := by
  obtain ⟨moves, returned, later⟩ := mirrors_fresh.openUntilClosed consistent_fresh session
  exact ⟨.begin session none :: moves, returned, later.registry.symm⟩

end Supervision

end TreeInspector
