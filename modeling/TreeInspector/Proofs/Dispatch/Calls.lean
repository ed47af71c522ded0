import TreeInspector.Proofs.Dispatch.Exchange

/-! # What callers are told

Whatever the order of steps, every call is answered at most once and for good. It is told a window
exactly if its construction ran and succeeded, and then that construction added one window that no
other call is told; it is told of a crash exactly if its construction ran and crashed, and then nothing
else noticed; and it is told that the owner is gone only if its construction never runs. Until then its
construction is not sent yet or still queued, or the answer only has to be passed on.
-/

namespace TreeInspector

/-! ## Windows and numbers -/

namespace Registry

/-- Phases are recorded only for numbers that were given out. -/
def Bounded (registry : Registry) : Prop := ∀ entry ∈ registry.phases, entry.1 ≤ registry.attempts

/-- Numbers are not given out again. -/
structure Grows (registry later : Registry) : Prop where
  attempts : registry.attempts ≤ later.attempts
  bounded : registry.Bounded → later.Bounded

theorem Grows.refl (registry : Registry) : registry.Grows registry := ⟨Nat.le_refl _, id⟩

theorem Grows.trans {registry next later : Registry} (first : registry.Grows next)
    (second : next.Grows later) : registry.Grows later :=
  ⟨first.attempts.trans second.attempts, second.bounded ∘ first.bounded⟩

theorem grows_close (registry : Registry) (id : WindowId) : registry.Grows (registry.close id).2 := by
  refine ⟨Nat.le_of_eq (attempts_close registry id).symm, ?_⟩
  intro bounded entry member
  rw [attempts_close]
  rw [close] at member
  split_ifs at member
  · obtain ⟨old, memberOld, rfl⟩ := List.mem_map.mp member
    have low := bounded old memberOld
    split_ifs with same
    · exact same ▸ low
    · exact low
  · exact bounded entry member

theorem grows_closeEach (registry : Registry) (ids : List WindowId) :
    registry.Grows (registry.closeEach ids) := by
  induction ids generalizing registry with
  | nil => exact .refl registry
  | cons id ids ih => exact (grows_close registry id).trans (ih _)

theorem grows_openWindow (registry : Registry) (session : Session) :
    registry.Grows (registry.openWindow session).2 := by
  rw [openWindow]
  split
  · refine ⟨Nat.le_succ _, ?_⟩
    intro bounded entry member
    exact (bounded entry member).trans (Nat.le_succ _)
  · refine ⟨Nat.le_succ _, ?_⟩
    intro bounded entry member
    rcases List.mem_append.mp member with old | new
    · exact (bounded entry old).trans (Nat.le_succ _)
    · rw [List.mem_singleton.mp new]

theorem grows_perform {ledger next : Ledger} {operation : Operation}
    (performed : ledger.perform operation = .ok next) : ledger.registry.Grows next.registry := by
  cases operation with
  | openWindow session =>
    cases performed
    exact grows_openWindow ledger.registry session
  | close id =>
    cases performed
    exact grows_close ledger.registry id
  | closeDismissed =>
    cases performed
    exact grows_closeEach ledger.registry _
  | closeAll =>
    cases performed
    exact grows_closeEach ledger.registry _
  | handle id event =>
    rw [Ledger.perform, handle] at performed
    split at performed
    · cases performed
      exact .refl _
    · next window _ =>
      cases handled : window.handle event with
      | error crash =>
        rw [handled] at performed
        cases performed
      | ok window =>
        rw [handled] at performed
        cases performed
        exact ⟨Nat.le_refl _, fun bounded => bounded⟩

theorem grows_performAll {ledger later : Ledger} {operations : List Operation}
    (performed : ledger.performAll operations = .ok later) : ledger.registry.Grows later.registry := by
  induction operations generalizing ledger with
  | nil =>
    cases performed
    exact .refl _
  | cons operation operations ih =>
    rw [Ledger.performAll, List.foldlM_cons] at performed
    cases next : ledger.perform operation with
    | error crash =>
      rw [next] at performed
      cases performed
    | ok ledger =>
      rw [next] at performed
      exact (grows_perform next).trans (ih performed)

theorem Action.grows (action : Action) (registry : Registry) : registry.Grows (action.run registry) := by
  obtain ⟨operations, ledger, performed, same⟩ := action.byOperations registry
  exact same ▸ grows_performAll performed

end Registry

namespace Construction

variable (construction : Construction)

/-- A construction adds one window with the next number, or it crashes and only uses the number up. -/
theorem outcome :
    (∃ window, window.id = construction.before.attempts + 1 ∧
      construction.answer = .ok (construction.before.attempts + 1) ∧
      construction.after = ⟨construction.before.windows ++ [window], construction.before.attempts + 1,
        construction.before.phases ++ [(construction.before.attempts + 1, .shown)]⟩) ∨
    ∃ crash : Crash, construction.answer = .error (.construction crash.text) ∧
      construction.after = { construction.before with attempts := construction.before.attempts + 1 } := by
  cases built : Window.construct (construction.before.attempts + 1) construction.session with
  | ok window =>
    refine .inl ⟨window, Window.id_of_construct built, ?_, ?_⟩
    · simp [answer, Registry.openWindow, built, Except.mapError]
    · simp [after, Registry.openWindow, built]
  | error crash =>
    refine .inr ⟨crash, ?_, ?_⟩
    · simp [answer, Registry.openWindow, built, Except.mapError]
    · simp [after, Registry.openWindow, built]

theorem attempts_after : construction.after.attempts = construction.before.attempts + 1 := by
  obtain ⟨_, _, _, after⟩ | ⟨_, _, after⟩ := construction.outcome <;> rw [after]

variable {construction}

theorem number_of_answer {id : WindowId} (told : construction.answer = .ok id) :
    id = construction.before.attempts + 1 := by
  obtain ⟨_, _, answer, _⟩ | ⟨_, answer, _⟩ := construction.outcome
  · exact Except.ok.inj (told.symm.trans answer)
  · rw [answer] at told
    cases told

/-- A successful construction added one window, with the number told, and it was shown. -/
theorem added (bounded : construction.before.Bounded) {id : WindowId}
    (told : construction.answer = .ok id) :
    ∃ window, window.id = id ∧ construction.after.windows = construction.before.windows ++ [window] ∧
      construction.after.phase id = .shown := by
  obtain rfl := number_of_answer told
  obtain ⟨window, number, _, after⟩ | ⟨_, answer, _⟩ := construction.outcome
  · have unused : construction.before.phases.lookup (construction.before.attempts + 1) = none := by
      rw [List.lookup_eq_none_iff]
      intro entry member
      have low := bounded entry member
      rw [bne_iff_ne]
      exact (Nat.lt_succ_of_le low).ne'
    refine ⟨window, number, by rw [after], ?_⟩
    rw [after, Registry.phase, List.lookup_append, unused]
    simp
  · rw [answer] at told
    cases told

/-- A construction that crashed left all windows and their phases alone. -/
theorem unharmed {error : DispatchError} (told : construction.answer = .error error) :
    construction.after.windows = construction.before.windows ∧
      construction.after.phases = construction.before.phases := by
  obtain ⟨_, _, answer, _⟩ | ⟨_, _, after⟩ := construction.outcome
  · rw [answer] at told
    cases told
  · rw [after]
    exact ⟨rfl, rfl⟩

end Construction

namespace Exchange

/-! ## What a run keeps -/

theorem registry_decideAll (workspace : Workspace) (calls : List Nat)
    (result : Except DispatchError WindowId) :
    (calls.foldl (fun workspace call => workspace.decideCall call result) workspace).registry =
      workspace.registry := by
  induction calls generalizing workspace with
  | nil => rfl
  | cons call calls ih => rw [List.foldl_cons, ih, Workspace.decideCall]

/-- No queued task makes the registry forget a number. -/
def Harmless (message : Message Task) : Prop :=
  ∀ task, message = .run task → ∀ workspace : Workspace,
    workspace.registry.Grows (workspace.execute task).1.registry

theorem harmless_open (call : Nat) (session : Session) : Harmless (.run (.openWindow call session)) := by
  rintro task ⟨⟩ workspace
  exact Registry.grows_openWindow workspace.registry session

theorem harmless_errand (errand : Errand) : Harmless errand.message := by
  intro task same workspace
  cases errand with
  | shutdown => cases same
  | requestClose id =>
    cases same
    exact (Registry.Action.close id).grows workspace.registry
  | act action =>
    cases same
    exact action.grows workspace.registry
  | note text =>
    cases same
    exact .refl workspace.registry
  | crash cause =>
    cases same
    exact .refl workspace.registry

/-- Constructions were carried out on registries that had given out fewer numbers, one after the other. -/
structure Counted (exchange : Exchange) : Prop where
  harmless : ∀ message ∈ exchange.queued, Harmless message
  bounded : exchange.registry.Bounded
  earlier : ∀ construction ∈ exchange.built,
    construction.before.Bounded ∧ construction.before.attempts < exchange.registry.attempts
  ordered : exchange.built.Pairwise fun first second => first.before.attempts < second.before.attempts

theorem counted_fresh : fresh.Counted where
  harmless := by simp [fresh, queued, Coordinator.fresh, Channel.fresh]
  bounded := by simp [fresh, registry, Registry.Bounded, Coordinator.fresh, Workspace.empty, Registry.empty]
  earlier := by simp [fresh]
  ordered := .nil

section Step

variable {exchange : Exchange} (counted : exchange.Counted)
include counted

/-- Moves that leave the windows and the constructions alone. -/
theorem Counted.same (next : Exchange) (registry : next.registry = exchange.registry)
    (built : next.built = exchange.built) (queue : ∀ message ∈ next.queued, Harmless message) :
    next.Counted where
  harmless := queue
  bounded := registry ▸ counted.bounded
  earlier := by
    rw [registry, built]
    exact counted.earlier
  ordered := built ▸ counted.ordered

theorem Counted.enqueue {message : Message Task} (harmless : Harmless message) :
    (exchange.enqueue message).Counted := by
  apply counted.same (exchange.enqueue message) rfl rfl
  intro other member
  rcases List.mem_append.mp member with before | last
  · exact counted.harmless other before
  · rwa [List.mem_singleton.mp last]

theorem Counted.claim {rest : List (Message Task)} (fewer : rest ⊆ exchange.queued) :
    (exchange.claim rest).Counted := by
  apply counted.same (exchange.claim rest) rfl rfl
  intro message member
  exact counted.harmless message (fewer member)

/-- A task that is carried out gives out no number twice. -/
theorem Counted.execute {task : Task} (harmless : Harmless (.run task)) :
    (exchange.execute task).Counted := by
  have grows : exchange.registry.Grows (exchange.execute task).registry :=
    harmless task rfl exchange.coordinator.workspace
  have before : ∀ construction ∈ construction? exchange.registry task,
      construction.before = exchange.registry ∧ (exchange.execute task).registry = construction.after := by
    intro construction carried
    cases task with
    | openWindow call session =>
      cases carried
      exact ⟨rfl, rfl⟩
    | _ => cases carried
  constructor
  · exact counted.harmless
  · exact grows.bounded counted.bounded
  · intro construction member
    rcases List.mem_append.mp member with old | new
    · obtain ⟨bounded, fewer⟩ := counted.earlier construction old
      exact ⟨bounded, fewer.trans_le grows.attempts⟩
    · obtain ⟨same, after⟩ := before construction (Option.mem_toList.mp new)
      rw [after, construction.attempts_after, same]
      exact ⟨counted.bounded, Nat.lt_succ_self _⟩
  · refine List.pairwise_append.mpr ⟨counted.ordered, ?_, ?_⟩
    · cases construction? exchange.registry task <;> simp
    · intro first old second new
      rw [(before second (Option.mem_toList.mp new)).1]
      exact (counted.earlier first old).2

theorem Counted.step (move : Move) : (exchange.step move).Counted := by
  cases move with
  | call session =>
    dsimp only [Exchange.step, Coordinator.beginOpen]
    split_ifs
    · exact counted.same _ rfl rfl counted.harmless
    · exact counted
  | check call =>
    dsimp only [Exchange.step]
    split
    · split
      · exact counted.same _ rfl rfl counted.harmless
      · exact counted.same _ rfl rfl counted.harmless
    · exact counted
  | push call =>
    dsimp only [Exchange.step]
    split
    · next session _ =>
      split
      · have sent := counted.enqueue (harmless_open call session)
        exact sent.same _ rfl rfl sent.harmless
      · exact counted.same _ rfl rfl counted.harmless
    · exact counted
  | complete call =>
    dsimp only [Exchange.step]
    split
    · exact counted.same _ rfl rfl counted.harmless
    · exact counted
  | post errand =>
    dsimp only [Exchange.step]
    split
    · exact counted.enqueue (harmless_errand errand)
    · exact counted
  | take =>
    dsimp only [Exchange.step]
    split
    · exact counted.claim (List.nil_subset _)
    · next rest first =>
      apply counted.claim
      rw [first]
      exact List.subset_cons_self _ _
    · next task rest first =>
      have claimed : (exchange.claim rest).Counted := by
        apply counted.claim
        rw [first]
        exact List.subset_cons_self _ _
      apply claimed.execute
      apply counted.harmless
      rw [first]
      exact .head rest
  | operate action =>
    have grows := action.grows exchange.registry
    refine ⟨counted.harmless, grows.bounded counted.bounded, ?_, counted.ordered⟩
    intro construction member
    obtain ⟨bounded, fewer⟩ := counted.earlier construction member
    exact ⟨bounded, fewer.trans_le grows.attempts⟩
  | retire => exact counted.same _ rfl rfl counted.harmless
  | disconnect => exact counted.same _ (registry_decideAll ..) rfl (List.forall_mem_nil _)

end Step

theorem Counted.run {exchange : Exchange} (counted : exchange.Counted) (moves : List Move) :
    (exchange.run moves).Counted := by
  induction moves generalizing exchange with
  | nil => exact counted
  | cons move moves ih => exact ih (counted.step move)

/-! ## Where constructions come from -/

/-- The owner takes the construction of a call, and nothing but the windows and that call notices. -/
structure Serves (exchange : Exchange) (construction : Construction) : Prop where
  first : exchange.queued =
    .run (.openWindow construction.call construction.session) :: (exchange.step .take).queued
  before : exchange.registry = construction.before
  after : (exchange.step .take).registry = construction.after
  available : (exchange.step .take).coordinator.channel.isAvailable =
    exchange.coordinator.channel.isAvailable
  others : ∀ call, call ≠ construction.call → (exchange.step .take).dossier call = exchange.dossier call
  goesOn : (exchange.coordinator.workspace.execute
    (.openWindow construction.call construction.session)).2 = none

theorem serves_take {exchange : Exchange} {call : Nat} {session : Session} {rest : List (Message Task)}
    (first : exchange.queued = .run (.openWindow call session) :: rest) :
    exchange.Serves ⟨call, session, exchange.registry⟩ := by
  have taken : exchange.step .take = (exchange.claim rest).execute (.openWindow call session) := by
    dsimp only [step]
    rw [first]
  constructor
  · rw [taken]
    exact first
  · rfl
  · rw [taken]
    rfl
  · rw [taken]
    rfl
  · intro other different
    have foreign : sessionOf? other (.run (.openWindow call session)) = none := if_neg (Ne.symm different)
    have queue : (exchange.dossier other).queued = exchange.queued.filterMap (sessionOf? other) := rfl
    rw [first, List.filterMap_cons_none foreign] at queue
    rw [taken, dossier_execute_foreign _ foreign, dossier_claim, ← queue]
  · rfl

/-- A channel whose draining end is gone holds nothing. -/
def Emptied (exchange : Exchange) : Prop := exchange.connected = false → exchange.queued = []

/-- No construction is carried out, and what was passed on stays passed on. -/
structure Spares (exchange next : Exchange) : Prop where
  built : next.built = exchange.built
  completed : exchange.completed <+: next.completed
  emptied : exchange.Emptied → next.Emptied

theorem Spares.refl (exchange : Exchange) : exchange.Spares exchange := ⟨rfl, List.prefix_rfl, id⟩

theorem spares_step (exchange : Exchange) {move : Move} (other : move ≠ .take) :
    exchange.Spares (exchange.step move) := by
  cases move with
  | call session =>
    dsimp only [step, Coordinator.beginOpen]
    split_ifs
    · exact ⟨rfl, List.prefix_rfl, id⟩
    · exact .refl exchange
  | check call =>
    dsimp only [step]
    split
    · split
      · exact ⟨rfl, List.prefix_rfl, id⟩
      · exact ⟨rfl, List.prefix_rfl, id⟩
    · exact .refl exchange
  | push call =>
    dsimp only [step]
    split
    · split_ifs with connected
      · exact ⟨rfl, List.prefix_rfl, fun _ gone => absurd (gone.symm.trans connected) Bool.false_ne_true⟩
      · exact ⟨rfl, List.prefix_rfl, id⟩
    · exact .refl exchange
  | complete call =>
    dsimp only [step]
    split
    · exact ⟨rfl, List.prefix_append _ _, id⟩
    · exact .refl exchange
  | post errand =>
    dsimp only [step]
    split_ifs with connected
    · exact ⟨rfl, List.prefix_rfl, fun _ gone => absurd (gone.symm.trans connected) Bool.false_ne_true⟩
    · exact .refl exchange
  | take => exact absurd rfl other
  | operate action => exact ⟨rfl, List.prefix_rfl, id⟩
  | retire => exact ⟨rfl, List.prefix_rfl, id⟩
  | disconnect => exact ⟨rfl, List.prefix_rfl, fun _ _ => rfl⟩

theorem completed_take (exchange : Exchange) : (exchange.step .take).completed = exchange.completed := by
  dsimp only [step]
  split <;> rfl

theorem Emptied.take {exchange : Exchange} (emptied : exchange.Emptied) :
    (exchange.step .take).Emptied := by
  intro gone
  have empty : exchange.queued = [] := by
    apply emptied
    rw [← gone]
    dsimp only [step]
    split <;> rfl
  dsimp only [step]
  rw [empty]
  rfl

theorem mem_built_step {exchange : Exchange} {move : Move} {construction : Construction}
    (member : construction ∈ (exchange.step move).built) :
    construction ∈ exchange.built ∨ move = .take ∧ exchange.Serves construction := by
  by_cases taking : move = .take
  · subst taking
    dsimp only [step] at member
    split at member
    · exact .inl member
    · exact .inl member
    · next task rest first =>
      rcases List.mem_append.mp member with old | new
      · exact .inl old
      · cases task with
        | openWindow call session =>
          cases List.mem_singleton.mp new
          exact .inr ⟨rfl, serves_take first⟩
        | _ => cases new
  · rw [(spares_step exchange taking).built] at member
    exact .inl member

theorem exists_take (moves : List Move) {construction : Construction}
    (member : construction ∈ (fresh.run moves).built) :
    ∃ first rest, moves = first ++ .take :: rest ∧ (fresh.run first).Serves construction := by
  induction moves using List.reverseRecOn with
  | nil => cases member
  | append_singleton moves move ih =>
    rw [run, List.foldl_append] at member
    rcases mem_built_step member with old | ⟨rfl, serves⟩
    · obtain ⟨first, rest, rfl, serves⟩ := ih old
      exact ⟨first, rest ++ [move], by simp, serves⟩
    · exact ⟨moves, [], rfl, serves⟩

/-! ## Guarantees -/

section Dossier

variable {exchange : Exchange} {call : Nat}

theorem mem_completed_iff {result : Except DispatchError WindowId} :
    (call, result) ∈ exchange.completed ↔ result ∈ (exchange.dossier call).results := by
  simp [dossier]

theorem exists_built_iff {property : Construction → Prop} :
    (∃ construction ∈ exchange.built, construction.call = call ∧ property construction) ↔
      ∃ construction ∈ (exchange.dossier call).built, property construction := by
  simp [dossier, and_assoc]

/-- An answer that was passed on comes from the construction, or the call is lost. -/
theorem Course.of_results {course : Course} {result : Except DispatchError WindowId}
    (told : result ∈ course.dossier.results) : (course = .lost true ∧ result = .error .unavailable) ∨
      ∃ construction, course = .ran construction true ∧ result = construction.answer := by
  cases course with
  | lost passed =>
    cases passed with
    | false => cases told
    | true => exact .inl ⟨rfl, List.mem_singleton.mp told⟩
  | ran construction passed =>
    cases passed with
    | false => cases told
    | true => exact .inr ⟨construction, rfl, List.mem_singleton.mp told⟩
  | _ => cases told

theorem Course.length_results (course : Course) : course.dossier.results.length ≤ 1 := by
  cases course with
  | lost passed => cases passed <;> simp [Course.dossier, answered]
  | ran construction passed => cases passed <;> simp [Course.dossier, answered]
  | _ => simp [Course.dossier]

theorem Course.length_built (course : Course) : course.dossier.built.length ≤ 1 := by
  cases course <;> simp [Course.dossier, answered]

/-- An answer that is given and not passed on is passed on next. -/
theorem completed_complete {answer : Except DispatchError WindowId} {built : List Construction}
    (given : exchange.dossier call = answered answer built false) :
    (exchange.step (.complete call)).completed = exchange.completed ++ [(call, answer)] := by
  have stage : exchange.stages[call]? = some .waiting := congrArg Dossier.stage given
  have told : exchange.coordinator.call? call = some (some answer) := congrArg Dossier.answer given
  dsimp only [step]
  rw [stage, told]
  rfl

/-- A call that is told that the owner is gone stays lost. -/
theorem Course.lost_final {later : Course}
    (steps : Relation.ReflTransGen (Course.Step call) (.lost true) later) : later = .lost true := by
  cases steps using Relation.ReflTransGen.head_induction_on with
  | refl => rfl
  | head step _ => cases step

end Dossier

private theorem nodup_map_of_filter {α : Type} {number : α → Nat} {list : List α}
    (single : ∀ wanted, (list.filter (number · = wanted)).length ≤ 1) : (list.map number).Nodup := by
  rw [List.nodup_iff_count_le_one]
  intro wanted
  rw [List.count, List.countP_map, List.countP_eq_length_filter]
  exact single wanted

/-- What holds after any moves, whatever comes next. -/
structure Guarantees (moves : List Move) (exchange : Exchange) : Prop where
  /-- Every call is answered at most once, and the answer stays. -/
  once : (exchange.completed.map (·.1)).Nodup
  final : ∀ more, exchange.completed <+: (exchange.run more).completed
  /-- A call is told a window exactly if its construction ran and succeeded. -/
  opened : ∀ call result, (call, result) ∈ exchange.completed → ∀ id, result = .ok id ↔
    ∃ construction ∈ exchange.built, construction.call = call ∧ construction.answer = .ok id
  /-- A call is told of a crash exactly if its construction ran and crashed. -/
  crashed : ∀ call result, (call, result) ∈ exchange.completed → ∀ message,
    result = .error (.construction message) ↔ ∃ construction ∈ exchange.built,
      construction.call = call ∧ construction.answer = .error (.construction message)
  /-- Otherwise its construction never runs. -/
  lost : ∀ call result, (call, result) ∈ exchange.completed →
    (∃ id, result = .ok id) ∨ (∃ message, result = .error (.construction message)) ∨
      result = .error .unavailable ∧
        ∀ more, ∀ construction ∈ (exchange.run more).built, construction.call ≠ call
  /-- Every construction runs at most once, by a step of the owner that nobody else notices. -/
  runsOnce : (exchange.built.map Construction.call).Nodup
  served : ∀ construction ∈ exchange.built, ∃ first rest, moves = first ++ .take :: rest ∧
    (fresh.run first).Serves construction
  /-- A success adds one window, which is shown, and whose number no other call is told. -/
  added : ∀ construction ∈ exchange.built, ∀ id, construction.answer = .ok id →
    ∃ window, window.id = id ∧ construction.after.windows = construction.before.windows ++ [window] ∧
      construction.after.phase id = .shown
  distinct : ∀ call other id, (call, .ok id) ∈ exchange.completed → (other, .ok id) ∈ exchange.completed →
    call = other
  /-- A crash adds none and leaves all others alone. -/
  unharmed : ∀ construction ∈ exchange.built, ∀ error, construction.answer = .error error →
    construction.after.windows = construction.before.windows ∧
      construction.after.phases = construction.before.phases
  /-- A call waits only while its construction is not sent or still queued, or to pass its answer on. -/
  pending : ∀ call, call < exchange.stages.length → (∀ result, (call, result) ∉ exchange.completed) →
    (∃ session, exchange.stages[call]? = some (.ready session) ∨
      exchange.stages[call]? = some (.checked session)) ∨
    (exchange.connected = true ∧ ∃ session, .run (.openWindow call session) ∈ exchange.queued) ∨
    ∃ result, (exchange.step (.complete call)).completed = exchange.completed ++ [(call, result)]

theorem dossier_fresh (call : Nat) : fresh.dossier call = Course.absent.dossier := rfl

theorem numbered_fresh : fresh.Numbered := ⟨rfl, nofun⟩

theorem emptied_run (moves : List Move) : (fresh.run moves).Emptied := by
  induction moves using List.reverseRecOn with
  | nil => exact fun _ => rfl
  | append_singleton moves move ih =>
    rw [run, List.foldl_append]
    by_cases taking : move = .take
    · subst taking
      exact ih.take
    · exact (spares_step _ taking).emptied ih

theorem completed_run (exchange : Exchange) (moves : List Move) :
    exchange.completed <+: (exchange.run moves).completed := by
  induction moves generalizing exchange with
  | nil => exact List.prefix_rfl
  | cons move moves ih =>
    by_cases taking : move = .take
    · subst taking
      exact completed_take exchange ▸ ih (exchange.step .take)
    · exact (spares_step exchange taking).completed.trans (ih _)

/-- Every call is on its course, and all numbers are accounted for. -/
structure Sound (exchange : Exchange) : Prop where
  numbered : exchange.Numbered
  counted : exchange.Counted
  emptied : exchange.Emptied
  courses : ∀ call, ∃ course : Course, exchange.dossier call = course.dossier

theorem sound_run (moves : List Move) : (fresh.run moves).Sound where
  numbered := numbered_fresh.run moves
  counted := counted_fresh.run moves
  emptied := emptied_run moves
  courses call := (follows_run numbered_fresh (dossier_fresh call) moves).imp fun _ stands => stands.1

section Sound

variable {exchange : Exchange} (sound : exchange.Sound) {call : Nat} {result : Except DispatchError WindowId}
include sound

/-- Anything but the loss of the owner is told exactly if a construction gave that answer. -/
theorem Sound.told_iff (told : (call, result) ∈ exchange.completed) (answer : Except DispatchError WindowId)
    (given : answer ≠ .error .unavailable) : result = answer ↔
      ∃ construction ∈ exchange.built, construction.call = call ∧ construction.answer = answer := by
  obtain ⟨course, stands⟩ := sound.courses call
  rw [mem_completed_iff, stands] at told
  rw [exists_built_iff, stands]
  obtain ⟨rfl, rfl⟩ | ⟨construction, rfl, rfl⟩ := Course.of_results told
  · simp [Course.dossier, answered, given.symm]
  · simp [Course.dossier, answered]

theorem Sound.lost (told : (call, result) ∈ exchange.completed) :
    (∃ id, result = .ok id) ∨ (∃ message, result = .error (.construction message)) ∨
      result = .error .unavailable ∧
        ∀ more, ∀ construction ∈ (exchange.run more).built, construction.call ≠ call := by
  obtain ⟨course, stands⟩ := sound.courses call
  rw [mem_completed_iff, stands] at told
  obtain ⟨rfl, rfl⟩ | ⟨construction, rfl, rfl⟩ := Course.of_results told
  · refine .inr (.inr ⟨rfl, ?_⟩)
    intro more construction member same
    obtain ⟨later, standsLater, steps⟩ := follows_run sound.numbered stands more
    have built : ∃ other ∈ ((exchange.run more).dossier call).built, other = construction :=
      exists_built_iff.mp ⟨construction, member, same, rfl⟩
    rw [standsLater, Course.lost_final steps] at built
    simp [Course.dossier, answered] at built
  · obtain ⟨_, _, answer, _⟩ | ⟨_, answer, _⟩ := construction.outcome
    · exact .inl ⟨_, answer⟩
    · exact .inr (.inl ⟨_, answer⟩)

theorem Sound.distinct {other : Nat} {id : WindowId} (told : (call, .ok id) ∈ exchange.completed)
    (toldOther : (other, .ok id) ∈ exchange.completed) : call = other := by
  obtain ⟨construction, member, rfl, answer⟩ := (sound.told_iff told (.ok id) (by simp)).mp rfl
  obtain ⟨second, memberSecond, rfl, answerSecond⟩ := (sound.told_iff toldOther (.ok id) (by simp)).mp rfl
  have numbers : (exchange.built.map fun construction => construction.before.attempts).Nodup :=
    List.pairwise_map.mpr (sound.counted.ordered.imp Nat.ne_of_lt)
  have same : construction.before.attempts = second.before.attempts := by
    have first := Construction.number_of_answer answer
    exact Nat.succ.inj (first.symm.trans (Construction.number_of_answer answerSecond))
  rw [List.inj_on_of_nodup_map numbers member memberSecond same]

theorem Sound.pending (made : call < exchange.stages.length)
    (untold : ∀ result, (call, result) ∉ exchange.completed) :
    (∃ session, exchange.stages[call]? = some (.ready session) ∨
      exchange.stages[call]? = some (.checked session)) ∨
    (exchange.connected = true ∧ ∃ session, .run (.openWindow call session) ∈ exchange.queued) ∨
    ∃ result, (exchange.step (.complete call)).completed = exchange.completed ++ [(call, result)] := by
  obtain ⟨course, stands⟩ := sound.courses call
  have stage : exchange.stages[call]? = course.dossier.stage := congrArg Dossier.stage stands
  have queue : exchange.queued.filterMap (sessionOf? call) = course.dossier.queued :=
    congrArg Dossier.queued stands
  simp only [mem_completed_iff, stands] at untold
  cases course with
  | absent => exact absurd stage (by simp [Course.dossier, made])
  | ready session => exact .inl ⟨session, .inl stage⟩
  | checked session => exact .inl ⟨session, .inr stage⟩
  | queued session =>
    have sent : session ∈ exchange.queued.filterMap (sessionOf? call) := by
      rw [queue]
      exact .head _
    obtain ⟨message, member, found⟩ := List.mem_filterMap.mp sent
    cases sessionOf?_eq_some found
    refine .inr (.inl ⟨?_, session, member⟩)
    by_contra gone
    rw [sound.emptied (Bool.eq_false_iff.mpr gone)] at member
    cases member
  | lost passed =>
    cases passed with
    | false => exact .inr (.inr ⟨_, completed_complete stands⟩)
    | true => exact absurd (List.mem_singleton_self _) (untold _)
  | ran construction passed =>
    cases passed with
    | false => exact .inr (.inr ⟨_, completed_complete stands⟩)
    | true => exact absurd (List.mem_singleton_self _) (untold _)

end Sound

/-- Whatever the order of steps, callers are told what happened, once and for good. -/
theorem run_guarantees (moves : List Move) : Guarantees moves (fresh.run moves) := by
  have sound := sound_run moves
  constructor
  case once =>
    apply nodup_map_of_filter
    intro call
    obtain ⟨course, stands⟩ := sound.courses call
    have single := course.length_results
    rw [← stands] at single
    simpa [dossier] using single
  case final => exact completed_run _
  case opened => exact fun _ _ told _ => sound.told_iff told _ (by simp)
  case crashed => exact fun _ _ told _ => sound.told_iff told _ (by simp)
  case lost => exact fun _ _ told => sound.lost told
  case runsOnce =>
    apply nodup_map_of_filter
    intro call
    obtain ⟨course, stands⟩ := sound.courses call
    have single := course.length_built
    rwa [← stands] at single
  case served => exact fun _ member => exists_take moves member
  case added =>
    intro construction member id told
    exact Construction.added (sound.counted.earlier construction member).1 told
  case distinct => exact fun _ _ _ told toldOther => sound.distinct told toldOther
  case unharmed => exact fun _ _ _ told => Construction.unharmed told
  case pending => exact fun _ made untold => sound.pending made untold

/-- Of two calls answered out of order, one is told of its crash and the other one of its window. -/
example :
    let bad := { root := .node (.text "a") false (some (.message "boom")) [], rules := .empty }
    let good := { root := .node (.text "a") false none [], rules := .empty }
    (fresh.run [.call bad, .call good, .check 1, .check 0, .push 0, .push 1, .take, .take, .complete 1,
      .complete 0]).completed = [(1, .ok 2), (0, .error (.construction "boom"))] := by
  rfl

/-! ## Whole calls and whole drains -/

/-- A call that is made and queued at once is one of the orders of its steps. -/
theorem run_openWindow {exchange : Exchange} (numbered : exchange.Numbered)
    (connected : exchange.connected = true) (session : Session) :
    let call := exchange.stages.length
    (exchange.run [.call session, .check call, .push call]).coordinator =
      (exchange.coordinator.openWindow session).2 := by
  intro call
  cases available : exchange.coordinator.channel.isAvailable with
  | false => simp [run, step, Coordinator.beginOpen, Coordinator.openWindow, available, call]
  | true =>
    let made : Exchange :=
      { exchange with
        coordinator := exchange.coordinator.beginOpen.2
        stages := exchange.stages ++ [.ready session] }
    have begun : exchange.coordinator.beginOpen = (.ok call, made.coordinator) := by
      simp [Coordinator.beginOpen, available, numbered.lengths, call, made]
    have makes : exchange.step (.call session) = made := by
      dsimp only [step]
      rw [begun]
    have stands : made.stages[call]? = some (.ready session) := by simp [made, call]
    have welcome : made.coordinator.invocationError? (threadOf call) = none := by
      simp [made, Coordinator.beginOpen, Coordinator.invocationError?, available, numbered.foreign call]
    let checked := made.proceed call (.checked session)
    have checks : made.step (.check call) = checked := by
      simp [step, stands, welcome, checked]
    have pushes : checked.step (.push call) =
        (checked.enqueue (.run (.openWindow call session))).proceed call .waiting := by
      simp [checked, step, proceed, made, call, connected]
    have opened : made.coordinator.channel.isAvailable = true := by
      simp [made, Coordinator.beginOpen, available]
    rw [run, List.foldl_cons, List.foldl_cons, List.foldl_cons, List.foldl_nil, makes, checks, pushes,
      Coordinator.openWindow, begun]
    simp [Coordinator.marshal, Coordinator.submit, Coordinator.send, Channel.send, opened, checked, proceed,
      enqueue]

/-- Draining at once is one of the ways to take messages. -/
theorem run_drain (exchange : Exchange) : ∃ takes,
    (exchange.run (List.replicate takes .take)).coordinator = (exchange.coordinator.drain owner).2 := by
  suffices ∀ ran, ∃ takes,
      let drained :=
        Channel.runMessages Workspace.execute exchange.queued ran exchange.coordinator.workspace
      (exchange.run (List.replicate takes .take)).coordinator =
        ⟨(exchange.claim drained.rest).coordinator.channel, drained.state⟩ from this 0
  generalize queue : exchange.queued = messages
  induction messages generalizing exchange with
  | nil =>
    intro ran
    refine ⟨1, ?_⟩
    simp [run, step, queue, claim, Channel.runMessages]
  | cons message rest ih =>
    intro ran
    cases message with
    | shutdown =>
      refine ⟨1, ?_⟩
      simp [run, step, queue, claim, Channel.runMessages]
    | run task =>
      have first : exchange.step .take = (exchange.claim rest).execute task := by simp [step, queue]
      cases result : exchange.coordinator.workspace.execute task with
      | mk workspace crash =>
        cases crash with
        | some crash =>
          refine ⟨1, ?_⟩
          simp [run, first, execute, claim, Channel.runMessages, result]
        | none =>
          obtain ⟨takes, same⟩ := ih ((exchange.claim rest).execute task) rfl (ran + 1)
          refine ⟨takes + 1, ?_⟩
          rw [List.replicate_succ, run, List.foldl_cons, first]
          cases claimed : exchange.coordinator.channel.owner <;>
            simpa [run, Channel.runMessages, result, execute, claim, claimed] using same

end Exchange

end TreeInspector
