import TreeInspector.Proofs.Dispatch.Closings

/-! # Callers that stay until their window is closed

A keeper opens a window, waits until it is closed and then asks the owner to stop. If the window does not
open, the keeper asks the owner to stop at once. Its steps may happen in any order with those of other
keepers, of other callers and of the owner: between any two of them windows may be opened and closed, and
the owner may stop or go away.
-/

namespace TreeInspector

/-- Where a keeper stands: it waits for its call to be answered, or for its window to be closed; it is about
to ask the owner to stop, has found that the owner is there, or has returned. -/
inductive Keeper.Stage where
  | opening
  | watching (id : WindowId)
  | stopping (result : Except DispatchError Unit)
  | checked (result : Except DispatchError Unit)
  | returned (result : Except DispatchError Unit)

/-- A keeper: its session, its call for a window or why there is none, and where it stands. -/
structure Keeper where
  session : Session
  call : Except DispatchError Nat
  stage : Keeper.Stage

/-- Keepers under way, with all that goes on besides, and the keepers whose wish to stop the owner was
queued. -/
structure Supervision where
  exchange : Exchange
  keepers : List Keeper
  accepted : List Nat

namespace Supervision

/-- The steps of keepers and everybody else's. A keeper may find that no thread can be started for its
call. -/
inductive Move where
  | other (move : Exchange.Move)
  | begin (session : Session) (obstacle : Option String)
  | hear (keeper : Nat)
  | notice (keeper : Nat)
  | check (keeper : Nat)
  | stop (keeper : Nat)

/-- Before the first keeper. -/
def fresh : Supervision := ⟨.fresh, [], []⟩

/-- Whether the owner still takes messages, as far as a keeper can see. -/
def isAvailable (supervision : Supervision) : Bool := supervision.exchange.coordinator.channel.isAvailable

/-- Where a keeper stands. -/
def stage? (supervision : Supervision) (keeper : Nat) : Option Keeper.Stage :=
  supervision.keepers[keeper]?.map Keeper.stage

/-- The number of a keeper's call, if it was made. -/
def call? (supervision : Supervision) (keeper : Nat) : Option Nat :=
  supervision.keepers[keeper]?.bind fun keeper => keeper.call.toOption

/-- What a keeper's call was answered, as far as the answer was passed on. -/
def answer? (supervision : Supervision) (keeper : Nat) : Option (Except DispatchError WindowId) :=
  (supervision.call? keeper).bind fun call => supervision.exchange.completed.lookup call

/-- Move a keeper on. -/
def proceed (keeper : Nat) (stage : Keeper.Stage) (supervision : Supervision) : Supervision :=
  { supervision with keepers := supervision.keepers.modify keeper fun keeper => { keeper with stage } }

/-- Somebody else makes a move. -/
def drive (move : Exchange.Move) (supervision : Supervision) : Supervision :=
  { supervision with exchange := supervision.exchange.step move }

/-- A keeper comes along. -/
def enter (keeper : Keeper) (supervision : Supervision) : Supervision :=
  { supervision with keepers := supervision.keepers ++ [keeper] }

/-- A keeper whose call was not even made. -/
def turnAway (session : Session) (error : DispatchError) : Supervision → Supervision :=
  enter ⟨session, .error error, .stopping (.error error)⟩

/-- A keeper makes its call. -/
def callFor (session : Session) (supervision : Supervision) : Supervision :=
  (supervision.drive (.call session)).enter ⟨session, .ok supervision.exchange.stages.length, .opening⟩

/-- A keeper's wish to stop the owner is queued, and the keeper returns. -/
def accept (keeper : Nat) (result : Except DispatchError Unit) (supervision : Supervision) : Supervision :=
  { (supervision.drive (.post .shutdown)).proceed keeper (.returned result) with
    accepted := supervision.accepted ++ [keeper] }

/-- Make a move; a move that is not possible has no effect. -/
def step (supervision : Supervision) : Move → Supervision
  | .other move => supervision.drive move
  | .begin session obstacle =>
    if supervision.isAvailable then
      match obstacle with
      | some reason => supervision.turnAway session (.spawn reason)
      | none => supervision.callFor session
    else supervision.turnAway session .unavailable
  | .hear keeper =>
    match supervision.stage? keeper, supervision.answer? keeper with
    | some .opening, some (.ok id) => supervision.proceed keeper (.watching id)
    | some .opening, some (.error error) => supervision.proceed keeper (.stopping (.error error))
    | _, _ => supervision
  | .notice keeper =>
    match supervision.stage? keeper with
    | some (.watching id) =>
      if supervision.exchange.registry.phase id = .closed then supervision.proceed keeper (.stopping (.ok ()))
      else supervision
    | _ => supervision
  | .check keeper =>
    match supervision.stage? keeper with
    | some (.stopping result) =>
      supervision.proceed keeper (if supervision.isAvailable then .checked result else .returned result)
    | _ => supervision
  | .stop keeper =>
    match supervision.stage? keeper with
    | some (.checked result) =>
      if supervision.exchange.connected then supervision.accept keeper result
      else supervision.proceed keeper (.returned result)
    | _ => supervision

/-- Make moves one after the other. -/
def run (supervision : Supervision) (moves : List Move) : Supervision := moves.foldl step supervision

end Supervision

namespace Exchange

/-! ## What may be said of a keeper -/

/-- The course is that of a call for a session. -/
def Course.IsFor (session : Session) : Course → Prop
  | .absent => False
  | .ready own | .checked own | .queued own => own = session
  | .lost _ => True
  | .ran construction _ => construction.session = session

/-- The call of a keeper is on its course, for the keeper's own session. -/
def Follows (exchange : Exchange) (keeper : Keeper) : Prop :=
  ∀ call, keeper.call = .ok call →
    ∃ course : Course, exchange.dossier call = course.dossier ∧ course.IsFor keeper.session

/-- A keeper was told that its window is shown. -/
def Told (exchange : Exchange) (keeper : Keeper) (id : WindowId) : Prop :=
  ∃ call, keeper.call = .ok call ∧ (call, .ok id) ∈ exchange.completed

/-- A keeper was told why its window did not open: its call was not made for that reason, or was answered
so. -/
def Refused (exchange : Exchange) (keeper : Keeper) (error : DispatchError) : Prop :=
  keeper.call = .error error ∨ ∃ call, keeper.call = .ok call ∧ (call, .error error) ∈ exchange.completed

/-- What a keeper was told allows it to have the result. -/
def Settled (exchange : Exchange) (keeper : Keeper) : Except DispatchError Unit → Prop
  | .ok () => ∃ id, exchange.Told keeper id ∧ exchange.registry.phase id = .closed
  | .error error => exchange.Refused keeper error

/-- What a keeper was told allows it to stand at a stage. -/
def Allows (exchange : Exchange) (keeper : Keeper) : Keeper.Stage → Prop
  | .opening => True
  | .watching id => exchange.Told keeper id
  | .stopping result | .checked result | .returned result => exchange.Settled keeper result

/-- A window of a keeper was opened: the construction that its call asked for added it, and it was shown. -/
def Opened (exchange : Exchange) (keeper : Keeper) (id : WindowId) : Prop :=
  ∃ construction ∈ exchange.built, keeper.call = .ok construction.call ∧
    construction.session = keeper.session ∧ construction.answer = .ok id ∧
    construction.after.phase id = .shown ∧ ∃ window, window.id = id ∧
      construction.after.windows = construction.before.windows ++ [window]

/-- A keeper may have the result: its window was opened, and what was opened for it is closed, or it was told
why there is none and no construction that its call asked for has added one. -/
def Concluded (exchange : Exchange) (keeper : Keeper) : Except DispatchError Unit → Prop
  | .ok () => (∃ id, exchange.Opened keeper id) ∧
      ∀ id, exchange.Opened keeper id → exchange.registry.phase id = .closed
  | .error error => exchange.Refused keeper error ∧ ∀ construction ∈ exchange.built,
      keeper.call = .ok construction.call → construction.answer = .error error ∧
        construction.after.windows = construction.before.windows

/-- The owner is on its way out, or has gone. -/
def IsGone (exchange : Exchange) : Prop :=
  exchange.coordinator.channel.isAvailable = false ∨ exchange.connected = false

/-! ### What others do to it -/

theorem Course.IsFor.step {session : Session} {call : Nat} {course next : Course}
    (isFor : course.IsFor session) (step : course.Step call next) : next.IsFor session := by
  cases step with
  | make other => exact isFor.elim
  | decline | miss | lose | passLost => trivial
  | check | push | run | passRan => exact isFor

section Run

variable {exchange : Exchange} {keeper : Keeper} (moves : List Move)

theorem Told.run {id : WindowId} (told : exchange.Told keeper id) : (exchange.run moves).Told keeper id := by
  obtain ⟨call, made, told⟩ := told
  exact ⟨call, made, (completed_run exchange moves).subset told⟩

theorem Refused.run {error : DispatchError} (refused : exchange.Refused keeper error) :
    (exchange.run moves).Refused keeper error := by
  refine refused.imp_right ?_
  rintro ⟨call, made, told⟩
  exact ⟨call, made, (completed_run exchange moves).subset told⟩

theorem Follows.run (follows : exchange.Follows keeper) (numbered : exchange.Numbered) :
    (exchange.run moves).Follows keeper := by
  intro call made
  obtain ⟨course, stands, isFor⟩ := follows call made
  obtain ⟨later, standsLater, steps⟩ := follows_run numbered stands moves
  refine ⟨later, standsLater, ?_⟩
  clear standsLater
  induction steps with
  | refl => exact isFor
  | tail _ step ih => exact ih.step step

section Sound

variable (sound : exchange.Sound) (lawful : exchange.Lawful) (known : exchange.Known)
include sound lawful known

/-- What a keeper was told stays told, and a window that is closed stays closed. -/
theorem Settled.run {result : Except DispatchError Unit} (settled : exchange.Settled keeper result) :
    (exchange.run moves).Settled keeper result := by
  cases result with
  | ok =>
    obtain ⟨id, told, closed⟩ := settled
    refine ⟨id, told.run moves, ?_⟩
    obtain ⟨call, _, told⟩ := told
    exact sound.closed_run lawful known told closed moves
  | error error => exact Refused.run moves settled

theorem Allows.run {stage : Keeper.Stage} (allows : exchange.Allows keeper stage) :
    (exchange.run moves).Allows keeper stage := by
  cases stage with
  | opening => trivial
  | watching id => exact Told.run moves allows
  | stopping result | checked result | returned result => exact Settled.run moves sound lawful known allows

end Sound

end Run

/-! ### What it comes down to -/

section Sound

variable {exchange : Exchange} {keeper : Keeper}

/-- A construction that a keeper's call asked for is one of the keeper's session. -/
theorem Follows.session_eq (follows : exchange.Follows keeper) {construction : Construction}
    (member : construction ∈ exchange.built) (made : keeper.call = .ok construction.call) :
    construction.session = keeper.session := by
  obtain ⟨course, stands, isFor⟩ := follows construction.call made
  have built : ∃ other ∈ (exchange.dossier construction.call).built, other = construction :=
    exists_built_iff.mp ⟨construction, member, rfl, rfl⟩
  rw [stands] at built
  obtain ⟨_, among, rfl⟩ := built
  cases course with
  | ran other passed =>
    rw [List.mem_singleton.mp among]
    exact isFor
  | _ => cases among

variable (sound : exchange.Sound)
include sound

/-- A construction that was carried out gave the answer that its call is told. -/
theorem Sound.answer_eq {construction : Construction} {result : Except DispatchError WindowId}
    (member : construction ∈ exchange.built) (told : (construction.call, result) ∈ exchange.completed) :
    construction.answer = result := by
  obtain ⟨course, stands⟩ := sound.courses construction.call
  have built : ∃ other ∈ (exchange.dossier construction.call).built, other = construction :=
    exists_built_iff.mp ⟨construction, member, rfl, rfl⟩
  rw [stands] at built
  rw [mem_completed_iff, stands] at told
  obtain ⟨rfl, rfl⟩ | ⟨other, rfl, rfl⟩ := Course.of_results told
  · simp [Course.dossier, answered] at built
  · obtain ⟨_, among, rfl⟩ := built
    rw [List.mem_singleton.mp among]

section Follows

variable (follows : exchange.Follows keeper)
include follows

theorem Told.opened {id : WindowId} (told : exchange.Told keeper id) : exchange.Opened keeper id := by
  obtain ⟨call, made, told⟩ := told
  obtain ⟨construction, member, rfl, answer⟩ := (sound.told_iff told (.ok id) (by simp)).mp rfl
  obtain ⟨window, number, windows, shown⟩ :=
    Construction.added (sound.counted.earlier construction member).1 answer
  exact ⟨construction, member, made, follows.session_eq member made, answer, shown, window, number, windows⟩

/-- A keeper that was told what allows a result may have it. -/
theorem Settled.concluded {result : Except DispatchError Unit} (settled : exchange.Settled keeper result) :
    exchange.Concluded keeper result := by
  cases result with
  | ok =>
    obtain ⟨id, told, closed⟩ := settled
    refine ⟨⟨id, told.opened sound follows⟩, ?_⟩
    rintro other ⟨construction, member, made, _, answer, _⟩
    -- A call is answered once, so its window is the one that the keeper was told.
    obtain ⟨call, same, told⟩ := told
    cases made.symm.trans same
    cases answer.symm.trans (sound.answer_eq member told)
    exact closed
  | error error =>
    refine ⟨settled, fun construction member made => ?_⟩
    rcases settled with unmade | ⟨call, same, told⟩
    · rw [unmade] at made
      cases made
    · cases made.symm.trans same
      have answer := sound.answer_eq member told
      exact ⟨answer, (Construction.unharmed answer).1⟩

end Follows

end Sound

end Exchange

namespace Supervision

/-! ## What a move comes to -/

/-- What may become of a supervision by a move: nothing, a move of somebody else, a new keeper, a keeper that
goes on to a stage where it is allowed to stand, or a keeper whose wish to stop the owner is queued. -/
inductive Effect (supervision : Supervision) : Move → Supervision → Prop where
  | none (move : Move) : Effect supervision move supervision
  | drive (move : Exchange.Move) : Effect supervision (.other move) (supervision.drive move)
  | turnAway (session : Session) (obstacle : Option String) (error : DispatchError) :
      Effect supervision (.begin session obstacle) (supervision.turnAway session error)
  | callFor (session : Session) (available : supervision.isAvailable = true) :
      Effect supervision (.begin session .none) (supervision.callFor session)
  | proceed {move : Move} {k : Nat} {old stage : Keeper.Stage} (own : ∀ other, move ≠ .other other)
      (stands : supervision.stage? k = some old) (under : ∀ result, old ≠ .returned result)
      (allows : ∀ keeper, supervision.keepers[k]? = some keeper → supervision.exchange.Allows keeper stage)
      (gone : ∀ result, stage = .returned result → supervision.exchange.IsGone) :
      Effect supervision move (supervision.proceed k stage)
  | accept {k : Nat} {result : Except DispatchError Unit}
      (stands : supervision.stage? k = some (.checked result))
      (connected : supervision.exchange.connected = true) :
      Effect supervision (.stop k) (supervision.accept k result)

/-- Everything goes its way: the exchange is one of those that may be, every keeper stands where it is
allowed to, has a call of its own and stops the owner at most once, when it returns. -/
structure Consistent (supervision : Supervision) : Prop where
  exchanged : ∃ moves, supervision.exchange = Exchange.fresh.run moves
  follows : ∀ (k : Nat) keeper, supervision.keepers[k]? = some keeper → supervision.exchange.Follows keeper
  allows : ∀ (k : Nat) keeper, supervision.keepers[k]? = some keeper →
    supervision.exchange.Allows keeper keeper.stage
  own : ∀ k l call, supervision.call? k = some call → supervision.call? l = some call → k = l
  stopped : ∀ k ∈ supervision.accepted, ∃ result, supervision.stage? k = some (.returned result)
  once : supervision.accepted.Nodup

theorem consistent_fresh : fresh.Consistent where
  exchanged := ⟨[], rfl⟩
  follows := by simp [fresh]
  allows := by simp [fresh]
  own := by simp [fresh, call?]
  stopped := by simp [fresh]
  once := .nil

section Parts

variable (supervision : Supervision)

theorem exists_stage {supervision : Supervision} {k : Nat} {stage : Keeper.Stage}
    (stands : supervision.stage? k = some stage) :
    ∃ keeper, supervision.keepers[k]? = some keeper ∧ keeper.stage = stage :=
  Option.map_eq_some_iff.mp stands

theorem exists_call {supervision : Supervision} {k call : Nat} (made : supervision.call? k = some call) :
    ∃ keeper, supervision.keepers[k]? = some keeper ∧ keeper.call = .ok call := by
  obtain ⟨keeper, found, made⟩ := Option.bind_eq_some_iff.mp made
  exact ⟨keeper, found, toOption_eq_some_iff.mp made⟩

/-- The answer to a keeper's call was passed on. -/
theorem exists_told {supervision : Supervision} {k : Nat} {result : Except DispatchError WindowId}
    (answered : supervision.answer? k = some result) (keeper : Keeper)
    (found : supervision.keepers[k]? = some keeper) :
    ∃ call, keeper.call = .ok call ∧ (call, result) ∈ supervision.exchange.completed := by
  obtain ⟨call, made, told⟩ := Option.bind_eq_some_iff.mp answered
  obtain ⟨other, again, same⟩ := exists_call made
  cases found.symm.trans again
  obtain ⟨before, after, split, _⟩ := List.lookup_eq_some_iff.mp told
  exact ⟨call, same, split ▸ List.mem_append_right before (.head after)⟩

/-! ### One keeper goes on -/

section Proceed

variable (k : Nat) (stage : Keeper.Stage)

theorem call?_proceed : (supervision.proceed k stage).call? = supervision.call? := by
  funext l
  rw [call?, proceed, List.getElem?_modify, call?]
  cases supervision.keepers[l]? with
  | none => rfl
  | some keeper => by_cases same : k = l <;> simp [same]

theorem stage?_proceed_self {old : Keeper.Stage} (stands : supervision.stage? k = some old) :
    (supervision.proceed k stage).stage? k = some stage := by
  obtain ⟨keeper, found, _⟩ := exists_stage stands
  simp [stage?, proceed, found]

theorem stage?_proceed_of_ne {l : Nat} (differs : k ≠ l) :
    (supervision.proceed k stage).stage? l = supervision.stage? l := by
  simp [stage?, proceed, differs]

/-- A keeper behind a step of one of them is the keeper before it, but for the stage of that one. -/
theorem getElem?_proceed {l : Nat} {keeper : Keeper}
    (found : (supervision.proceed k stage).keepers[l]? = some keeper) :
    ∃ old, supervision.keepers[l]? = some old ∧ (keeper = old ∨ k = l ∧ keeper = { old with stage }) := by
  rw [proceed, List.getElem?_modify, Option.map_eq_map, Option.map_eq_some_iff] at found
  obtain ⟨old, before, rfl⟩ := found
  refine ⟨old, before, ?_⟩
  split_ifs with same
  · exact .inr ⟨same, rfl⟩
  · exact .inl rfl

end Proceed

/-! ### One keeper comes along -/

theorem getElem?_enter {keeper other : Keeper} {k : Nat}
    (found : (supervision.enter keeper).keepers[k]? = some other) :
    supervision.keepers[k]? = some other ∨ k = supervision.keepers.length ∧ other = keeper := by
  rcases Nat.lt_trichotomy k supervision.keepers.length with before | rfl | past
  · exact .inl (List.getElem?_append_left before ▸ found)
  · rw [enter, List.getElem?_concat_length] at found
    exact .inr ⟨rfl, (Option.some.inj found).symm⟩
  · rw [enter, List.getElem?_eq_none (by simpa using past)] at found
    cases found

theorem stage?_enter {keeper : Keeper} {k : Nat} {stage : Keeper.Stage}
    (stands : supervision.stage? k = some stage) : (supervision.enter keeper).stage? k = some stage := by
  obtain ⟨other, found, rfl⟩ := exists_stage stands
  have bound := (List.getElem?_eq_some_iff.mp found).1
  rw [stage?, enter, List.getElem?_append_left bound, found, Option.map_some]

theorem stage?_of_enter {keeper : Keeper} {k : Nat} {stage : Keeper.Stage} (differs : keeper.stage ≠ stage)
    (stands : (supervision.enter keeper).stage? k = some stage) : supervision.stage? k = some stage := by
  obtain ⟨other, found, same⟩ := exists_stage stands
  rcases getElem?_enter supervision found with before | ⟨_, rfl⟩
  · rw [stage?, before, Option.map_some, same]
  · exact absurd same differs

end Parts

section Step

variable {supervision next : Supervision} {move : Move} (consistent : supervision.Consistent)
include consistent

theorem Consistent.sound : supervision.exchange.Sound := by
  obtain ⟨moves, same⟩ := consistent.exchanged
  rw [same]
  exact Exchange.sound_run moves

theorem Consistent.lawful : supervision.exchange.Lawful ∧ supervision.exchange.Known := by
  obtain ⟨moves, same⟩ := consistent.exchanged
  rw [same]
  exact Exchange.lawful_run moves

theorem Consistent.allows_of_stage {k : Nat} {stage : Keeper.Stage} (stands : supervision.stage? k = some stage)
    (keeper : Keeper) (found : supervision.keepers[k]? = some keeper) :
    supervision.exchange.Allows keeper stage := by
  obtain ⟨other, again, rfl⟩ := exists_stage stands
  cases found.symm.trans again
  exact consistent.allows k keeper found

/-- What was told of a window so far allows a keeper to go on. -/
theorem Consistent.effect (move : Move) : supervision.Effect move (supervision.step move) := by
  cases move with
  | other move => exact .drive move
  | begin session obstacle =>
    dsimp only [step]
    split_ifs with available
    · cases obstacle with
      | some reason => exact .turnAway ..
      | none => exact .callFor session available
    · exact .turnAway ..
  | hear k =>
    dsimp only [step]
    split
    · next id stands answered =>
      exact .proceed nofun stands nofun (exists_told answered) nofun
    · next error stands answered =>
      refine .proceed nofun stands nofun (fun keeper found => ?_) nofun
      exact .inr (exists_told answered keeper found)
    · exact .none _
  | notice k =>
    dsimp only [step]
    split
    · next id stands =>
      split_ifs with closed
      · refine .proceed nofun stands nofun (fun keeper found => ?_) nofun
        exact ⟨id, consistent.allows_of_stage stands keeper found, closed⟩
      · exact .none _
    · exact .none _
  | check k =>
    dsimp only [step]
    split
    · next result stands =>
      have settled := consistent.allows_of_stage stands
      split_ifs with available
      · exact .proceed nofun stands nofun settled nofun
      · exact .proceed nofun stands nofun settled fun _ _ => .inl (Bool.eq_false_iff.mpr available)
    · exact .none _
  | stop k =>
    dsimp only [step]
    split
    · next result stands =>
      have settled := consistent.allows_of_stage stands
      split_ifs with connected
      · exact .accept stands connected
      · exact .proceed nofun stands nofun settled fun _ _ => .inr (Bool.eq_false_iff.mpr connected)
    · exact .none _

/-! ### What every effect keeps -/

theorem Consistent.drive (move : Exchange.Move) : (supervision.drive move).Consistent where
  exchanged := by
    obtain ⟨moves, same⟩ := consistent.exchanged
    refine ⟨moves ++ [move], ?_⟩
    rw [Supervision.drive, same, Exchange.run, Exchange.run, List.foldl_append]
    rfl
  follows k keeper found := (consistent.follows k keeper found).run [move] consistent.sound.numbered
  allows k keeper found :=
    (consistent.allows k keeper found).run [move] consistent.sound consistent.lawful.1 consistent.lawful.2
  own := consistent.own
  stopped := consistent.stopped
  once := consistent.once

/-- A keeper that has not returned goes on to a stage where it is allowed to stand. -/
theorem Consistent.proceed {k : Nat} {old stage : Keeper.Stage} (stands : supervision.stage? k = some old)
    (under : ∀ result, old ≠ .returned result)
    (allows : ∀ keeper, supervision.keepers[k]? = some keeper → supervision.exchange.Allows keeper stage) :
    (supervision.proceed k stage).Consistent where
  exchanged := consistent.exchanged
  follows l keeper found := by
    obtain ⟨before, there, rfl | ⟨_, rfl⟩⟩ := getElem?_proceed supervision k stage found
    · exact consistent.follows l _ there
    · exact consistent.follows l before there
  allows l keeper found := by
    obtain ⟨before, there, rfl | ⟨rfl, rfl⟩⟩ := getElem?_proceed supervision k stage found
    · exact consistent.allows l _ there
    · have fine := allows before there
      cases stage <;> exact fine
  own := by
    rw [call?_proceed]
    exact consistent.own
  stopped l among := by
    obtain ⟨result, returned⟩ := consistent.stopped l among
    have other : k ≠ l := by
      rintro rfl
      exact under result (Option.some.inj (stands.symm.trans returned))
    exact ⟨result, (stage?_proceed_of_ne supervision k stage other).trans returned⟩
  once := consistent.once

/-- A keeper comes along, with a call that no other keeper has. -/
theorem Consistent.enter {keeper : Keeper} (follows : supervision.exchange.Follows keeper)
    (allows : supervision.exchange.Allows keeper keeper.stage)
    (alone : ∀ k call, supervision.call? k = some call → keeper.call ≠ .ok call) :
    (supervision.enter keeper).Consistent where
  exchanged := consistent.exchanged
  follows k other found := by
    rcases getElem?_enter supervision found with before | ⟨_, rfl⟩
    · exact consistent.follows k other before
    · exact follows
  allows k other found := by
    rcases getElem?_enter supervision found with before | ⟨_, rfl⟩
    · exact consistent.allows k other before
    · exact allows
  own k l call own own' := by
    obtain ⟨first, found, made⟩ := exists_call own
    obtain ⟨second, found', made'⟩ := exists_call own'
    have known {k : Nat} {old : Keeper} (before : supervision.keepers[k]? = some old)
        (made : old.call = .ok call) : supervision.call? k = some call := by
      rw [call?, before, Option.bind_some, toOption_eq_some_iff.mpr made]
    rcases getElem?_enter supervision found with before | ⟨rfl, rfl⟩ <;>
      rcases getElem?_enter supervision found' with before' | ⟨rfl, rfl⟩
    · exact consistent.own k l call (known before made) (known before' made')
    · exact absurd made' (alone k call (known before made))
    · exact absurd made (alone l call (known before' made'))
    · rfl
  stopped k among := by
    obtain ⟨result, returned⟩ := consistent.stopped k among
    exact ⟨result, stage?_enter supervision returned⟩
  once := consistent.once

theorem Consistent.callFor (available : supervision.isAvailable = true) (session : Session) :
    (supervision.callFor session).Consistent := by
  obtain ⟨course, stands⟩ := consistent.sound.courses supervision.exchange.stages.length
  obtain ⟨_, made⟩ := Exchange.dossier_made consistent.sound.numbered available stands session
  apply (consistent.drive (.call session)).enter
  · rintro call same
    cases same
    exact ⟨.ready session, made, rfl⟩
  · trivial
  · rintro k call own same
    cases same
    -- The calls of the other keepers were made before, so their numbers are smaller.
    obtain ⟨keeper, found, earlier⟩ := exists_call own
    obtain ⟨course, stands, isFor⟩ := consistent.follows k keeper found _ earlier
    obtain rfl : course = .absent := Exchange.Course.eq_absent (by
      rw [← stands]
      exact List.getElem?_eq_none (Nat.le_refl _))
    exact isFor

/-- A keeper that asks the owner to stop does so for the first time. -/
theorem Consistent.accept {k : Nat} {result : Except DispatchError Unit}
    (stands : supervision.stage? k = some (.checked result)) : (supervision.accept k result).Consistent := by
  have driven := consistent.drive (.post .shutdown)
  have still : (supervision.drive (.post .shutdown)).stage? k = some (.checked result) := stands
  have settled := driven.allows_of_stage still
  have proceeded : ((supervision.drive (.post .shutdown)).proceed k (.returned result)).Consistent :=
    driven.proceed still nofun settled
  have before : k ∉ supervision.accepted := by
    intro among
    obtain ⟨other, returned⟩ := consistent.stopped k among
    cases stands.symm.trans returned
  refine { proceeded with stopped := ?_, once := ?_ }
  · intro l among
    rcases List.mem_append.mp among with earlier | last
    · exact proceeded.stopped l earlier
    · rw [List.mem_singleton.mp last]
      exact ⟨result, stage?_proceed_self _ k (.returned result) stands⟩
  · rw [Supervision.accept, List.nodup_append]
    refine ⟨consistent.once, List.nodup_singleton k, ?_⟩
    rintro earlier among _ last rfl
    exact before (List.mem_singleton.mp last ▸ among)

theorem Consistent.of_effect (effect : supervision.Effect move next) : next.Consistent := by
  cases effect with
  | none => exact consistent
  | drive move => exact consistent.drive move
  | turnAway session obstacle error =>
    apply consistent.enter
    · intro call made
      cases made
    · exact .inl rfl
    · intro k call _ made
      cases made
  | callFor session available => exact consistent.callFor available session
  | proceed own stands under allows gone => exact consistent.proceed stands under allows
  | accept stands connected => exact consistent.accept stands

theorem Consistent.run (moves : List Move) : (supervision.run moves).Consistent := by
  induction moves generalizing supervision with
  | nil => exact consistent
  | cons move moves ih => exact ih (consistent.of_effect (consistent.effect move))

end Step

end Supervision

end TreeInspector
