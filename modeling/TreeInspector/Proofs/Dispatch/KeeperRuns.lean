import TreeInspector.Proofs.Dispatch.Keepers

/-! # What keepers come back with

In every run, whatever the order of steps: a keeper comes back with success only if its own window was
opened, shown and closed, and with an error only if that error kept its window from opening. Only then it
asks the owner to stop, once, and it does not come back before that is queued unless the owner was already
going away.
-/

namespace TreeInspector

/-- How far a keeper is. -/
@[simp] def Keeper.Stage.rank : Keeper.Stage → Nat
  | .opening => 0
  | .watching _ => 1
  | .stopping _ => 2
  | .checked _ => 3
  | .returned _ => 4

namespace Supervision

/-! ## How it came to this -/

/-- A keeper at a stage has come back, waits for an answer or for its window to be closed, or can move on. -/
def Pending (supervision : Supervision) (k : Nat) (stage : Keeper.Stage) : Prop :=
  (∃ result, stage = .returned result) ∨ (stage = .opening ∧ supervision.answer? k = none) ∨
    (∃ id, stage = .watching id ∧ supervision.exchange.registry.phase id ≠ .closed) ∨
    ∃ move later, (∀ other, move ≠ .other other) ∧ (supervision.step move).stage? k = some later ∧
      stage.rank < later.rank

/-- The owner has begun to go away. -/
def Left (moves : List Move) : Prop := .other .retire ∈ moves ∨ .other .disconnect ∈ moves

/-- A keeper that may have its result asks the owner to stop: a shutdown is queued next. -/
def Stops (supervision : Supervision) (k : Nat) : Prop :=
  ∃ keeper result, supervision.keepers[k]? = some keeper ∧ keeper.stage = .checked result ∧
    supervision.exchange.Concluded keeper result ∧
    (supervision.step (.stop k)).exchange.queued = supervision.exchange.queued ++ [.shutdown]

end Supervision

namespace Exchange

/-- Nobody but the owner itself makes it go away. -/
theorem present_step (exchange : Exchange) {move : Move} (stays : move ≠ .retire) (keeps : move ≠ .disconnect) :
    (exchange.step move).coordinator.channel.isAvailable = exchange.coordinator.channel.isAvailable ∧
      (exchange.step move).connected = exchange.connected := by
  cases move with
  | retire => exact absurd rfl stays
  | disconnect => exact absurd rfl keeps
  | operate action => exact ⟨rfl, rfl⟩
  | call session =>
    dsimp only [step, Coordinator.beginOpen]
    split_ifs <;> exact ⟨rfl, rfl⟩
  | check call | push call =>
    dsimp only [step]
    split
    · split <;> exact ⟨rfl, rfl⟩
    · exact ⟨rfl, rfl⟩
  | complete call | post errand | take =>
    dsimp only [step]
    split <;> exact ⟨rfl, rfl⟩

theorem present_run (exchange : Exchange) (moves : List Move) (stays : .retire ∉ moves)
    (keeps : .disconnect ∉ moves) :
    (exchange.run moves).coordinator.channel.isAvailable = exchange.coordinator.channel.isAvailable ∧
      (exchange.run moves).connected = exchange.connected := by
  induction moves generalizing exchange with
  | nil => exact ⟨rfl, rfl⟩
  | cons move moves ih =>
    obtain ⟨stay, stays⟩ := not_or.mp (List.mem_cons.not.mp stays)
    obtain ⟨keep, keeps⟩ := not_or.mp (List.mem_cons.not.mp keeps)
    obtain ⟨available, connected⟩ := exchange.present_step (Ne.symm stay) (Ne.symm keep)
    obtain ⟨later, still⟩ := ih (exchange.step move) stays keeps
    exact ⟨later.trans available, still.trans connected⟩

theorem IsGone.of_step {exchange : Exchange} {move : Move} (gone : (exchange.step move).IsGone) :
    exchange.IsGone ∨ move = .retire ∨ move = .disconnect := by
  by_contra others
  obtain ⟨present, stays, keeps⟩ : ¬exchange.IsGone ∧ move ≠ .retire ∧ move ≠ .disconnect := by
    simpa only [not_or] using others
  obtain ⟨available, connected⟩ := exchange.present_step stays keeps
  rw [IsGone, available, connected] at gone
  exact present gone

end Exchange

namespace Supervision

/-! ### One move -/

section Step

variable {supervision next : Supervision} {move : Move} {k : Nat}

theorem queued_accept {result : Except DispatchError Unit} (connected : supervision.exchange.connected = true) :
    (supervision.accept k result).exchange.queued = supervision.exchange.queued ++ [.shutdown] := by
  simp [accept, proceed, drive, Exchange.step, connected, Exchange.enqueue, Exchange.queued, Channel.push,
    Errand.message]

theorem queued_callFor (session : Session) :
    (supervision.callFor session).exchange.queued = supervision.exchange.queued := by
  dsimp only [callFor, enter, drive, Exchange.step, Coordinator.beginOpen]
  split_ifs <;> rfl

theorem step_stop {result : Except DispatchError Unit} (stands : supervision.stage? k = some (.checked result))
    (connected : supervision.exchange.connected = true) :
    supervision.step (.stop k) = supervision.accept k result := by
  simp [step, stands, connected]

/-- A keeper that has found the owner there, and is right, may have its result and queues a shutdown. -/
theorem Consistent.stops (consistent : supervision.Consistent) {result : Except DispatchError Unit}
    (stands : supervision.stage? k = some (.checked result))
    (connected : supervision.exchange.connected = true) : supervision.Stops k := by
  obtain ⟨keeper, found, stage⟩ := exists_stage stands
  have settled : supervision.exchange.Settled keeper result := consistent.allows_of_stage stands keeper found
  refine ⟨keeper, result, found, stage, ?_, ?_⟩
  · exact settled.concluded consistent.sound (consistent.follows k keeper found)
  · rw [step_stop stands connected]
    exact queued_accept connected

/-- A keeper that has neither come back nor something to wait for can move on. -/
theorem pending_of_stage {stage : Keeper.Stage} (stands : supervision.stage? k = some stage) :
    supervision.Pending k stage := by
  have goesOn (move : Move) (later : Keeper.Stage) (own : ∀ other, move ≠ .other other)
      (moves : supervision.step move = supervision.proceed k later) (further : stage.rank < later.rank) :
      supervision.Pending k stage :=
    .inr (.inr (.inr ⟨move, later, own, moves ▸ stage?_proceed_self supervision k later stands, further⟩))
  cases stage with
  | opening =>
    cases answered : supervision.answer? k with
    | none => exact .inr (.inl ⟨rfl, answered⟩)
    | some result =>
      cases result with
      | ok id =>
        exact goesOn (.hear k) (.watching id) nofun (by simp [step, stands, answered]) (by simp)
      | error error =>
        exact goesOn (.hear k) (.stopping (.error error)) nofun (by simp [step, stands, answered]) (by simp)
  | watching id =>
    by_cases closed : supervision.exchange.registry.phase id = .closed
    · exact goesOn (.notice k) (.stopping (.ok ())) nofun (by simp [step, stands, closed]) (by simp)
    · exact .inr (.inr (.inl ⟨id, rfl, closed⟩))
  | stopping result =>
    cases available : supervision.isAvailable with
    | false =>
      exact goesOn (.check k) (.returned result) nofun (by simp [step, stands, available]) (by simp)
    | true =>
      exact goesOn (.check k) (.checked result) nofun (by simp [step, stands, available]) (by simp)
  | checked result =>
    cases connected : supervision.exchange.connected with
    | false =>
      exact goesOn (.stop k) (.returned result) nofun (by simp [step, stands, connected]) (by simp)
    | true =>
      refine .inr (.inr (.inr ⟨.stop k, .returned result, nofun, ?_, by simp⟩))
      rw [step_stop stands connected]
      exact stage?_proceed_self _ k (.returned result) stands
  | returned result => exact .inl ⟨result, rfl⟩

theorem length_begin (supervision : Supervision) (session : Session) (obstacle : Option String) :
    (supervision.step (.begin session obstacle)).keepers.length = supervision.keepers.length + 1 := by
  dsimp only [step]
  split_ifs
  · cases obstacle with
    | none => exact List.length_append
    | some reason => exact List.length_append
  · exact List.length_append

section Effect

variable (effect : supervision.Effect move next)
include effect

theorem Effect.exchange_eq :
    next.exchange = supervision.exchange ∨ ∃ drives, next.exchange = supervision.exchange.step drives := by
  cases effect with
  | none | turnAway | proceed => exact .inl rfl
  | drive move => exact .inr ⟨move, rfl⟩
  | callFor session available => exact .inr ⟨.call session, rfl⟩
  | accept stands connected => exact .inr ⟨.post .shutdown, rfl⟩

theorem Effect.isGone (gone : next.exchange.IsGone) :
    supervision.exchange.IsGone ∨ move = .other .retire ∨ move = .other .disconnect := by
  cases effect with
  | none | turnAway | proceed => exact .inl gone
  | drive move => exact gone.of_step.imp_right (Or.imp (congrArg Move.other) (congrArg Move.other))
  | callFor | accept => exact .inl (gone.of_step.resolve_right (by simp))

/-- Only a keeper that has found the owner there queues anything, apart from its call. -/
theorem Effect.queued (own : ∀ other, move ≠ .other other)
    (changed : next.exchange.queued ≠ supervision.exchange.queued) :
    ∃ k result, move = .stop k ∧ supervision.stage? k = some (.checked result) ∧
      supervision.exchange.connected = true := by
  cases effect with
  | none | turnAway | proceed => exact absurd rfl changed
  | drive move => exact absurd rfl (own move)
  | callFor session available => exact absurd (queued_callFor session) changed
  | accept stands connected => exact ⟨_, _, rfl, stands, connected⟩

theorem Effect.mem_accepted (among : k ∈ next.accepted) : k ∈ supervision.accepted ∨
    move = .stop k ∧ supervision.exchange.connected = true ∧
      ∃ result, supervision.stage? k = some (.checked result) := by
  cases effect with
  | accept stands connected =>
    rcases List.mem_append.mp among with earlier | last
    · exact .inl earlier
    · cases List.mem_singleton.mp last
      exact .inr ⟨rfl, connected, _, stands⟩
  | _ => exact .inl among

theorem Effect.accepted_subset : supervision.accepted ⊆ next.accepted := by
  cases effect with
  | accept => exact List.subset_append_left _ _
  | _ => exact List.Subset.refl _

/-- A keeper that returns has queued its wish just now, or the owner is not there. -/
theorem Effect.returned {result : Except DispatchError Unit}
    (returned : next.stage? k = some (.returned result)) :
    supervision.stage? k = some (.returned result) ∨ k ∈ next.accepted ∨
      supervision.exchange.IsGone ∧ ∀ other, supervision.stage? k ≠ some (.returned other) := by
  cases effect with
  | none | drive => exact .inl returned
  | turnAway | callFor =>
    refine .inl (stage?_of_enter _ ?_ returned)
    exact nofun
  | @proceed _ l old stage own stands under allows gone =>
    by_cases same : l = k
    · subst same
      rw [stage?_proceed_self supervision l stage stands] at returned
      refine .inr (.inr ⟨gone result (Option.some.inj returned), fun other before => ?_⟩)
      exact under other (Option.some.inj (stands.symm.trans before))
    · rw [stage?_proceed_of_ne supervision l stage same] at returned
      exact .inl returned
  | @accept l other stands connected =>
    by_cases same : l = k
    · exact .inr (.inl (List.mem_append_right _ (List.mem_singleton.mpr same.symm)))
    · have before := stage?_proceed_of_ne (supervision.drive (.post .shutdown)) l (.returned other) same
      exact .inl (before.symm.trans returned)

end Effect

end Step

/-! ### Whole runs -/

theorem run_append (supervision : Supervision) (moves more : List Move) :
    supervision.run (moves ++ more) = (supervision.run moves).run more := List.foldl_append

theorem run_concat (supervision : Supervision) (moves : List Move) (move : Move) :
    supervision.run (moves ++ [move]) = (supervision.run moves).step move :=
  supervision.run_append moves [move]

theorem consistent_run (moves : List Move) : (fresh.run moves).Consistent := consistent_fresh.run moves

/-- What happens to keepers is to the others a run of their own. -/
theorem Consistent.exists_run {supervision : Supervision} (consistent : supervision.Consistent)
    (moves : List Move) : ∃ drives, (supervision.run moves).exchange = supervision.exchange.run drives := by
  induction moves generalizing supervision with
  | nil => exact ⟨[], rfl⟩
  | cons move moves ih =>
    have effect := consistent.effect move
    obtain ⟨drives, same⟩ := ih (consistent.of_effect effect)
    rcases effect.exchange_eq with unchanged | ⟨first, changed⟩
    · exact ⟨drives, by rw [← unchanged]; exact same⟩
    · exact ⟨first :: drives, by rw [Exchange.run, List.foldl_cons, ← changed]; exact same⟩

/-- A keeper that may have a result may have it for good. -/
theorem Consistent.concluded {supervision : Supervision} (consistent : supervision.Consistent) {k : Nat}
    {keeper : Keeper} (found : supervision.keepers[k]? = some keeper) {result : Except DispatchError Unit}
    (returned : keeper.stage = .returned result) (more : List Move) :
    (supervision.run more).exchange.Concluded keeper result := by
  have settled : supervision.exchange.Allows keeper (.returned result) :=
    returned ▸ consistent.allows k keeper found
  have follows := consistent.follows k keeper found
  obtain ⟨drives, same⟩ := consistent.exists_run more
  have later := (consistent.run more).sound
  rw [same] at later ⊢
  have kept : (supervision.exchange.run drives).Settled keeper result :=
    Exchange.Settled.run drives consistent.sound consistent.lawful.1 consistent.lawful.2 settled
  exact kept.concluded later (follows.run drives consistent.sound.numbered)

/-- An owner that is not there has begun to go away. -/
theorem left_of_isGone (moves : List Move) (gone : (fresh.run moves).exchange.IsGone) : Left moves := by
  induction moves using List.reverseRecOn with
  | nil => simp [run, fresh, Exchange.fresh, Exchange.IsGone, Coordinator.fresh, Channel.fresh] at gone
  | append_singleton moves move ih =>
    rw [run_concat] at gone
    rcases ((consistent_run moves).effect move).isGone gone with before | rfl | rfl
    · exact (ih before).imp (List.mem_append_left [move]) (List.mem_append_left [move])
    · exact .inl (List.mem_append_right moves (List.mem_singleton_self _))
    · exact .inr (List.mem_append_right moves (List.mem_singleton_self _))

/-- A wish that was queued was queued by a keeper that may have its result. -/
theorem exists_stop (moves : List Move) {k : Nat} (among : k ∈ (fresh.run moves).accepted) :
    ∃ first rest, moves = first ++ .stop k :: rest ∧ (fresh.run first).Stops k := by
  induction moves using List.reverseRecOn with
  | nil => cases among
  | append_singleton moves move ih =>
    have consistent := consistent_run moves
    rw [run_concat] at among
    -- The wish was there before the last move, or that move is the one that queued it.
    rcases (consistent.effect move).mem_accepted among with before | ⟨rfl, connected, result, stands⟩
    · obtain ⟨first, rest, rfl, stops⟩ := ih before
      exact ⟨first, rest ++ [move], by simp, stops⟩
    · exact ⟨moves, [], rfl, consistent.stops stands connected⟩

/-- A keeper that returned has had its wish queued, or the owner had begun to go away before it did. -/
theorem accepted_or_left (moves : List Move) {k : Nat} {result : Except DispatchError Unit}
    (returned : (fresh.run moves).stage? k = some (.returned result)) : k ∈ (fresh.run moves).accepted ∨
      ∃ first rest, moves = first ++ rest ∧ Left first ∧
        ∀ other, (fresh.run first).stage? k ≠ some (.returned other) := by
  induction moves using List.reverseRecOn with
  | nil => cases returned
  | append_singleton moves move ih =>
    have effect := (consistent_run moves).effect move
    rw [run_concat] at returned ⊢
    -- The keeper was back before the last move, or that move has brought it back, in one of two ways.
    rcases effect.returned returned with before | accepted | ⟨gone, under⟩
    · rcases ih before with accepted | ⟨first, rest, rfl, left⟩
      · exact .inl (effect.accepted_subset accepted)
      · exact .inr ⟨first, rest ++ [move], by simp, left⟩
    · exact .inl accepted
    · exact .inr ⟨moves, [move], rfl, left_of_isGone moves gone, under⟩

/-! ## Guarantees -/

/-- What holds after any moves, whatever comes next. -/
structure Guarantees (moves : List Move) (supervision : Supervision) : Prop where
  /-- Anybody may become a keeper, and waits for nothing but an answer and the end of a window. -/
  begins : ∀ session obstacle,
    (supervision.step (.begin session obstacle)).keepers.length = supervision.keepers.length + 1
  pending : ∀ k stage, supervision.stage? k = some stage → supervision.Pending k stage
  /-- Every keeper has a call of its own. -/
  own : ∀ k l call, supervision.call? k = some call → supervision.call? l = some call → k = l
  /-- A keeper comes back with a result that it may have, and that stays so. -/
  concluded : ∀ (k : Nat) keeper, supervision.keepers[k]? = some keeper → ∀ result,
    keeper.stage = .returned result → ∀ more, (supervision.run more).exchange.Concluded keeper result
  /-- All that a keeper queues, apart from its call, is a shutdown, once it may have its result. -/
  sends : ∀ first move rest, moves = first ++ move :: rest → (∀ other, move ≠ .other other) →
    ((fresh.run first).step move).exchange.queued ≠ (fresh.run first).exchange.queued →
      ∃ k, move = .stop k ∧ (fresh.run first).Stops k
  /-- The wishes noted as queued were queued so, at most one of each keeper. -/
  stops : ∀ k ∈ supervision.accepted,
    ∃ first rest, moves = first ++ .stop k :: rest ∧ (fresh.run first).Stops k
  once : supervision.accepted.Nodup
  /-- A keeper that came back has had its wish queued, or the owner had begun to go away before. -/
  returns : ∀ k result, supervision.stage? k = some (.returned result) → k ∈ supervision.accepted ∨
    ∃ first rest, moves = first ++ rest ∧ Left first ∧
      ∀ other, (fresh.run first).stage? k ≠ some (.returned other)

/-- Whatever the order of steps, keepers watch over their windows to the end and stop the owner then. -/
theorem run_keeps_watch (moves : List Move) : Guarantees moves (fresh.run moves) where
  begins := length_begin _
  pending _ _ stands := pending_of_stage stands
  own := (consistent_run moves).own
  concluded _ _ found _ returned more := (consistent_run moves).concluded found returned more
  sends first move rest _ own changed := by
    have consistent := consistent_run first
    obtain ⟨k, result, rfl, stands, connected⟩ := (consistent.effect move).queued own changed
    exact ⟨k, rfl, consistent.stops stands connected⟩
  stops _ among := exists_stop moves among
  once := (consistent_run moves).once
  returns _ _ returned := accepted_or_left moves returned

/-- A keeper whose window crashes stops the owner; that closes the window of another one, which finds the
owner gone when it comes to stop it. -/
example :
    let bad : Session := { root := .node (.text "a") false (some (.message "boom")) [], rules := .empty }
    let good : Session := { root := .node (.text "a") false none [], rules := .empty }
    let opens : List Exchange.Move :=
      [.check 0, .push 0, .take, .complete 0, .check 1, .push 1, .take, .complete 1]
    let leaves : List Exchange.Move := [.take, .operate .closeAll, .retire]
    let opened := (fresh.run [.begin bad none, .begin good none]).run (opens.map .other)
    let stopped := opened.run [.hear 0, .hear 1, .check 0, .stop 0]
    let later := (stopped.run (leaves.map .other)).run [.notice 1, .check 1]
    later.keepers.map Keeper.stage = [.returned (.error (.construction "boom")), .returned (.ok ())] ∧
      later.accepted = [0] := by
  exact ⟨rfl, rfl⟩

end Supervision

end TreeInspector
