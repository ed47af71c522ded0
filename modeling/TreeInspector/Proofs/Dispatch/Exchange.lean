import Mathlib.Logic.Relation
import Mathlib.Tactic.Common
import TreeInspector.Dispatch.Coordinator
import TreeInspector.Proofs.Window.Ledger

/-! # Calls for windows, one step at a time

Every call for a window runs on a thread of its own: it checks that the owner of the windows is there,
queues the construction, waits for the answer and passes it on. The owner takes queued messages one at
a time, and may stop and go away at any point. These steps may happen in any order, with those of other
calls and of other senders between them. Each call by itself follows a fixed course, whatever the
others do: it is lost or it runs once, and what it then passes on is settled.
-/

namespace TreeInspector

/-- An action on the windows that is made of operations of their registry. Putting another set of windows
in the place of all of them is no such action. -/
structure Registry.Action where
  run : Registry → Registry
  byOperations : ∀ registry, ∃ operations ledger,
    Ledger.performAll ⟨registry, []⟩ operations = .ok ledger ∧ ledger.registry = run registry

namespace Registry.Action

/-- Close the window with a number. -/
def close (id : WindowId) : Action where
  run registry := (registry.close id).2
  byOperations _ := ⟨[.close id], _, rfl, rfl⟩

/-- Close every window. -/
def closeAll : Action where
  run := Registry.closeAll
  byOperations _ := ⟨[.closeAll], _, rfl, rfl⟩

/-- Let an event happen to the window with a number. If it crashes, the windows stay as they were. -/
def handle (id : WindowId) (event : Window.Event) : Action where
  run registry := (registry.handle id event).toOption.getD registry
  byOperations registry := by
    cases handled : registry.handle id event with
    | error crash => exact ⟨[], _, rfl, rfl⟩
    | ok next =>
      have performed : Ledger.perform ⟨registry, []⟩ (.handle id event) = .ok ⟨next, []⟩ := by
        rw [Ledger.perform, handled]
        rfl
      exact ⟨[.handle id event], _, bind_eq_ok_iff.mpr ⟨_, performed, rfl⟩, rfl⟩

@[simp] theorem run_close (id : WindowId) (registry : Registry) :
    (close id).run registry = (registry.close id).2 := rfl

@[simp] theorem run_closeAll (registry : Registry) : closeAll.run registry = registry.closeAll := rfl

end Registry.Action

/-- Where the thread of a call stands. -/
inductive Stage where
  | ready (session : Session)
  | checked (session : Session)
  | waiting
  | done

/-- A construction that was carried out: its call, its session and the windows before it. -/
structure Construction where
  call : Nat
  session : Session
  before : Registry

namespace Construction

/-- What the call is answered. -/
def answer (construction : Construction) : Except DispatchError WindowId :=
  (construction.before.openWindow construction.session).1.mapError fun crash => .construction crash.text

/-- The windows behind the construction. -/
def after (construction : Construction) : Registry :=
  (construction.before.openWindow construction.session).2

end Construction

/-- What other senders ask for. -/
inductive Errand where
  | shutdown
  | requestClose (id : WindowId)
  | act (action : Registry.Action)
  | note (text : String)
  | crash (crash : Crash)

/-- The message that is sent for an errand. -/
def Errand.message : Errand → Message Task
  | .shutdown => .shutdown
  | .requestClose id => .run (.act (Registry.Action.close id).run)
  | .act action => .run (.act action.run)
  | .note text => .run (.note text)
  | .crash cause => .run (.crash cause)

/-- Calls under way: the coordinator, whether its draining end still exists, where the thread of each
call stands, the constructions carried out and the answers passed on. -/
structure Exchange where
  coordinator : Coordinator
  connected : Bool
  stages : List Stage
  built : List Construction
  completed : List (Nat × Except DispatchError WindowId)

namespace Exchange

/-- The steps of callers, of their threads, of other senders and of the owner of the windows. -/
inductive Move where
  | call (session : Session)
  | check (call : Nat)
  | push (call : Nat)
  | complete (call : Nat)
  | post (errand : Errand)
  | take
  | operate (action : Registry.Action)
  | retire
  | disconnect

/-- Before the first call. -/
def fresh : Exchange := ⟨.fresh, true, [], [], []⟩

/-- The windows. -/
def registry (exchange : Exchange) : Registry := exchange.coordinator.workspace.registry

/-- The messages that were sent and not taken. -/
def queued (exchange : Exchange) : List (Message Task) := exchange.coordinator.channel.queued

/-- The number of the thread that owns the windows. -/
def owner : ThreadId := 0

/-- The number of the thread of a call. -/
def threadOf (call : Nat) : ThreadId := call + 1

/-- The construction that a task carries out. -/
def construction? (registry : Registry) : Task → Option Construction
  | .openWindow call session => some ⟨call, session, registry⟩
  | _ => none

/-- Queue a message. -/
def enqueue (message : Message Task) (exchange : Exchange) : Exchange :=
  { exchange with
    coordinator := { exchange.coordinator with channel := exchange.coordinator.channel.push message } }

/-- Move the thread of a call on. -/
def proceed (call : Nat) (stage : Stage) (exchange : Exchange) : Exchange :=
  { exchange with stages := exchange.stages.set call stage }

/-- Answer a call before its construction was queued. -/
def refuse (call : Nat) (error : DispatchError) (exchange : Exchange) : Exchange :=
  { exchange with
    coordinator := { exchange.coordinator with
      workspace := exchange.coordinator.workspace.decideCall call (.error error) } }

/-- Pass an answer on. -/
def record (call : Nat) (result : Except DispatchError WindowId) (exchange : Exchange) : Exchange :=
  { exchange with completed := exchange.completed ++ [(call, result)] }

/-- The owner claims the channel and goes on with the given messages queued. -/
def claim (rest : List (Message Task)) (exchange : Exchange) : Exchange :=
  let channel := exchange.coordinator.channel
  { exchange with
    coordinator := { exchange.coordinator with
      channel := { channel with queued := rest, owner := channel.owner <|> some owner } } }

/-- The owner runs a task. -/
def execute (task : Task) (exchange : Exchange) : Exchange :=
  { exchange with
    coordinator := { exchange.coordinator with
      workspace := (exchange.coordinator.workspace.execute task).1 }
    built := exchange.built ++ (construction? exchange.registry task).toList }

/-- Make a move; a move that is not possible has no effect. -/
def step (exchange : Exchange) : Move → Exchange
  | .call session =>
    match exchange.coordinator.beginOpen with
    | (.ok _, coordinator) => { exchange with coordinator, stages := exchange.stages ++ [.ready session] }
    | (.error _, coordinator) => { exchange with coordinator }
  | .check call =>
    match exchange.stages[call]? with
    | some (.ready session) =>
      match exchange.coordinator.invocationError? (threadOf call) with
      | none => exchange.proceed call (.checked session)
      | some error => (exchange.refuse call error).proceed call .waiting
    | _ => exchange
  | .push call =>
    match exchange.stages[call]? with
    | some (.checked session) =>
      if exchange.connected then
        (exchange.enqueue (.run (.openWindow call session))).proceed call .waiting
      else (exchange.refuse call .unavailable).proceed call .waiting
    | _ => exchange
  | .complete call =>
    match exchange.stages[call]?, exchange.coordinator.call? call with
    | some .waiting, some (some result) =>
      (exchange.proceed call .done).record call result
    | _, _ => exchange
  | .post errand => if exchange.connected then exchange.enqueue errand.message else exchange
  | .take =>
    match exchange.queued with
    | [] => exchange.claim []
    | .shutdown :: rest => exchange.claim rest
    | .run task :: rest => (exchange.claim rest).execute task
  | .operate action =>
    { exchange with
      coordinator := { exchange.coordinator with
        workspace := { exchange.coordinator.workspace with registry := action.run exchange.registry } } }
  | .retire =>
    { exchange with
      coordinator := { exchange.coordinator with
        channel := { exchange.coordinator.channel with isAvailable := false } } }
  | .disconnect => { exchange with coordinator := exchange.coordinator.drop, connected := false }

/-- Make moves one after the other. -/
def run (exchange : Exchange) (moves : List Move) : Exchange := moves.foldl step exchange

/-! ## The course of a call -/

/-- The session of a call's construction, if a message is that construction. -/
def sessionOf? (call : Nat) : Message Task → Option Session
  | .run (.openWindow other session) => if other = call then some session else none
  | _ => none

/-- All that concerns one call. -/
structure Dossier where
  stage : Option Stage
  answer : Option CallState
  queued : List Session
  built : List Construction
  results : List (Except DispatchError WindowId)

/-- The dossier of a call. -/
def dossier (exchange : Exchange) (call : Nat) : Dossier where
  stage := exchange.stages[call]?
  answer := exchange.coordinator.call? call
  queued := exchange.queued.filterMap (sessionOf? call)
  built := exchange.built.filter (·.call = call)
  results := (exchange.completed.filter (·.1 = call)).map (·.2)

/-- The course of a call: not made yet, not sent yet, queued, lost or carried out; an answer is passed
on in the end. -/
inductive Course where
  | absent
  | ready (session : Session)
  | checked (session : Session)
  | queued (session : Session)
  | lost (passed : Bool)
  | ran (construction : Construction) (passed : Bool)

/-- The dossier of a call whose answer is given. -/
def answered (result : Except DispatchError WindowId) (built : List Construction) (passed : Bool) :
    Dossier where
  stage := some (if passed then .done else .waiting)
  answer := some (some result)
  queued := []
  built := built
  results := if passed then [result] else []

/-- The dossier of a call by its course. -/
def Course.dossier : Course → Dossier
  | .absent => ⟨none, none, [], [], []⟩
  | .ready session => ⟨some (.ready session), some none, [], [], []⟩
  | .checked session => ⟨some (.checked session), some none, [], [], []⟩
  | .queued session => ⟨some .waiting, some none, [session], [], []⟩
  | .lost passed => answered (.error .unavailable) [] passed
  | .ran construction passed => answered construction.answer [construction] passed

/-- How a call may go on. -/
inductive Course.Step (call : Nat) : Course → Course → Prop where
  | make (session : Session) : Step call .absent (.ready session)
  | check (session : Session) : Step call (.ready session) (.checked session)
  | decline (session : Session) : Step call (.ready session) (.lost false)
  | push (session : Session) : Step call (.checked session) (.queued session)
  | miss (session : Session) : Step call (.checked session) (.lost false)
  | run (session : Session) (before : Registry) :
      Step call (.queued session) (.ran ⟨call, session, before⟩ false)
  | lose (session : Session) : Step call (.queued session) (.lost false)
  | passLost : Step call (.lost false) (.lost true)
  | passRan (construction : Construction) : Step call (.ran construction false) (.ran construction true)

/-- The dossier of a call that goes on by one step, or not at all. -/
def Course.GoesOn (call : Nat) (course : Course) (dossier : Dossier) : Prop :=
  ∃ next : Course, dossier = next.dossier ∧ (next = course ∨ course.Step call next)

/-! ### What the parts of a move do to a dossier -/

section Parts

variable (exchange : Exchange)

theorem getElem?_decideCall (workspace : Workspace) (call other : Nat)
    (result : Except DispatchError WindowId) :
    (workspace.decideCall call result).calls[other]? =
      if call = other then workspace.calls[other]?.map (· <|> some result)
      else workspace.calls[other]? := by
  rw [Workspace.decideCall, List.getElem?_modify]
  split_ifs <;> simp

@[simp] theorem dossier_proceed_other {call other : Nat} (different : call ≠ other) (stage : Stage) :
    (exchange.proceed call stage).dossier other = exchange.dossier other := by
  simp [dossier, proceed, different, queued]

theorem dossier_proceed {call : Nat} {old : Stage} (stands : exchange.stages[call]? = some old)
    (stage : Stage) :
    (exchange.proceed call stage).dossier call = { exchange.dossier call with stage := some stage } := by
  have made : call < exchange.stages.length := (List.getElem?_eq_some_iff.mp stands).1
  simp [dossier, proceed, made, queued]

theorem dossier_enqueue (message : Message Task) (call : Nat) :
    (exchange.enqueue message).dossier call =
      { exchange.dossier call with
        queued := (exchange.dossier call).queued ++ (sessionOf? call message).toList } := by
  cases sent : sessionOf? call message <;>
    simp [dossier, enqueue, queued, Channel.push, Coordinator.call?, sent]

theorem dossier_refuse (call other : Nat) (error : DispatchError) :
    (exchange.refuse call error).dossier other =
      { exchange.dossier other with
        answer := if call = other then (exchange.dossier other).answer.map (· <|> some (.error error))
          else (exchange.dossier other).answer } := by
  simp [dossier, refuse, queued, Coordinator.call?, getElem?_decideCall]

theorem dossier_record (call other : Nat) (result : Except DispatchError WindowId) :
    (exchange.record call result).dossier other =
      { exchange.dossier other with
        results := (exchange.dossier other).results ++ if call = other then [result] else [] } := by
  by_cases same : call = other <;> simp [dossier, record, queued, same]

theorem dossier_claim (rest : List (Message Task)) (call : Nat) :
    (exchange.claim rest).dossier call =
      { exchange.dossier call with queued := rest.filterMap (sessionOf? call) } := by
  simp [dossier, claim, queued, Coordinator.call?]

theorem sessionOf?_eq_some {call : Nat} {message : Message Task} {session : Session}
    (sent : sessionOf? call message = some session) : message = .run (.openWindow call session) := by
  unfold sessionOf? at sent
  split at sent
  · next other found =>
    split_ifs at sent with same
    cases sent
    rw [same]
  · cases sent

theorem dossier_execute (call : Nat) (session : Session) :
    (exchange.execute (.openWindow call session)).dossier call =
      { exchange.dossier call with
        answer := (exchange.dossier call).answer.map
          (· <|> some (Construction.mk call session exchange.registry).answer)
        built := (exchange.dossier call).built ++ [⟨call, session, exchange.registry⟩] } := by
  simp [dossier, execute, construction?, queued, Coordinator.call?, Workspace.execute, getElem?_decideCall,
    Construction.answer, registry]

theorem dossier_execute_foreign {task : Task} {call : Nat} (foreign : sessionOf? call (.run task) = none) :
    (exchange.execute task).dossier call = exchange.dossier call := by
  cases task with
  | openWindow other session =>
    have different : other ≠ call := by
      rintro rfl
      simp [sessionOf?] at foreign
    simp [dossier, execute, construction?, queued, Coordinator.call?, Workspace.execute,
      getElem?_decideCall, different]
  | _ => simp [dossier, execute, construction?, queued, Coordinator.call?, Workspace.execute]

/-- Calls that are decided all in the same way. -/
theorem getElem?_decideAll (workspace : Workspace) (calls : List Nat) (other : Nat)
    (result : Except DispatchError WindowId) :
    (calls.foldl (fun workspace call => workspace.decideCall call result) workspace).calls[other]? =
      if other ∈ calls then workspace.calls[other]?.map (· <|> some result)
      else workspace.calls[other]? := by
  induction calls generalizing workspace with
  | nil => rfl
  | cons call calls ih =>
    rw [List.foldl_cons, ih, getElem?_decideCall]
    by_cases same : call = other
    · subst same
      cases workspace.calls[call]? with
      | none => simp
      | some state => cases state <;> simp
    · simp [same, Ne.symm same]

theorem mem_queuedCalls_iff (messages : List (Message Task)) (call : Nat) :
    call ∈ Coordinator.queuedCalls messages ↔ messages.filterMap (sessionOf? call) ≠ [] := by
  induction messages with
  | nil => simp [Coordinator.queuedCalls]
  | cons message messages ih =>
    rw [Coordinator.queuedCalls] at ih ⊢
    match message with
    | .run (.openWindow other session) =>
      by_cases same : other = call
      · simp [sessionOf?, same]
      · simp [sessionOf?, same, Ne.symm same, ih]
    | .run (.act _) => simpa [sessionOf?] using ih
    | .run (.note _) => simpa [sessionOf?] using ih
    | .run (.crash _) => simpa [sessionOf?] using ih
    | .shutdown => simpa [sessionOf?] using ih

theorem dossier_disconnect (call : Nat) :
    (exchange.step .disconnect).dossier call =
      { exchange.dossier call with
        answer := if (exchange.dossier call).queued = [] then (exchange.dossier call).answer
          else (exchange.dossier call).answer.map (· <|> some (.error .unavailable))
        queued := [] } := by
  have waiting := mem_queuedCalls_iff exchange.coordinator.channel.queued call
  by_cases empty : exchange.coordinator.channel.queued.filterMap (sessionOf? call) = [] <;>
    simp [dossier, step, Coordinator.drop, Channel.drop, queued, Coordinator.call?, getElem?_decideAll,
      waiting, empty]

end Parts

/-! ### What a move does to a dossier -/

/-- Calls and their threads are numbered alike, and only the owner takes messages. -/
structure Numbered (exchange : Exchange) : Prop where
  lengths : exchange.stages.length = exchange.coordinator.workspace.calls.length
  owned : ∀ thread ∈ exchange.coordinator.channel.owner, thread = owner

/-- The thread of a call is not the owner. -/
theorem Numbered.foreign {exchange : Exchange} (numbered : exchange.Numbered) (call : Nat) :
    ¬exchange.coordinator.channel.isOwner (threadOf call) = true := by
  rw [Channel.isOwner, beq_iff_eq]
  intro same
  exact absurd (numbered.owned _ same) (Nat.succ_ne_zero call)

theorem Numbered.refused {exchange : Exchange} (numbered : exchange.Numbered) {call : Nat}
    {error : DispatchError}
    (refused : exchange.coordinator.invocationError? (threadOf call) = some error) :
    error = .unavailable := by
  rw [Coordinator.invocationError?, if_neg (numbered.foreign call)] at refused
  split at refused
  · cases refused
  · cases refused
    rfl

section Course

variable {course : Course}

theorem Course.eq_absent (stands : course.dossier.stage = none) : course = .absent := by
  cases course with
  | absent => rfl
  | _ => cases stands

theorem Course.eq_ready {session : Session} (stands : course.dossier.stage = some (.ready session)) :
    course = .ready session := by
  cases course with
  | ready other => cases stands; rfl
  | lost passed => cases passed <;> cases stands
  | ran construction passed => cases passed <;> cases stands
  | _ => cases stands

theorem Course.eq_checked {session : Session} (stands : course.dossier.stage = some (.checked session)) :
    course = .checked session := by
  cases course with
  | checked other => cases stands; rfl
  | lost passed => cases passed <;> cases stands
  | ran construction passed => cases passed <;> cases stands
  | _ => cases stands

theorem Course.eq_queued {session : Session} {others : List Session}
    (stands : course.dossier.queued = session :: others) : course = .queued session ∧ others = [] := by
  cases course with
  | queued other => cases stands; exact ⟨rfl, rfl⟩
  | _ => cases stands

theorem Course.eq_answered {result : Except DispatchError WindowId}
    (waits : course.dossier.stage = some .waiting) (decided : course.dossier.answer = some (some result)) :
    (course = .lost false ∧ result = .error .unavailable) ∨
      ∃ construction, course = .ran construction false ∧ result = construction.answer := by
  cases course with
  | lost passed =>
    cases passed with
    | false => cases decided; exact .inl ⟨rfl, rfl⟩
    | true => cases waits
  | ran construction passed =>
    cases passed with
    | false => cases decided; exact .inr ⟨construction, rfl, rfl⟩
    | true => cases waits
  | queued session => cases decided
  | _ => cases waits

end Course

/-- A call that is made gets the next number. -/
theorem dossier_call {exchange : Exchange} (available : exchange.coordinator.channel.isAvailable = true)
    (session : Session) (call : Nat) : (exchange.step (.call session)).dossier call =
      { exchange.dossier call with
        stage := (exchange.stages ++ [.ready session])[call]?
        answer := (exchange.coordinator.workspace.calls ++ [none])[call]? } := by
  simp [step, Coordinator.beginOpen, available, dossier, queued, Coordinator.call?]

theorem dossier_made {exchange : Exchange} {course : Course} (numbered : exchange.Numbered)
    (available : exchange.coordinator.channel.isAvailable = true)
    (stands : exchange.dossier exchange.stages.length = course.dossier) (session : Session) :
    course = .absent ∧
      (exchange.step (.call session)).dossier exchange.stages.length = (Course.ready session).dossier := by
  obtain rfl : course = .absent := Course.eq_absent (by
    rw [← stands]
    exact List.getElem?_eq_none (Nat.le_refl _))
  refine ⟨rfl, ?_⟩
  rw [dossier_call available, stands]
  nth_rewrite 2 [numbered.lengths]
  simp [Course.dossier]

section Step

variable {exchange : Exchange} {call : Nat} {course : Course}
  (stands : exchange.dossier call = course.dossier)
include stands

theorem follows_call (numbered : exchange.Numbered) (session : Session) :
    course.GoesOn call ((exchange.step (.call session)).dossier call) := by
  by_cases available : exchange.coordinator.channel.isAvailable = true
  · rcases Nat.lt_trichotomy call exchange.stages.length with before | rfl | past
    · refine ⟨course, ?_, .inl rfl⟩
      rw [dossier_call available, ← stands, List.getElem?_append_left before,
        List.getElem?_append_left (numbered.lengths ▸ before)]
      rfl
    · obtain ⟨rfl, made⟩ := dossier_made numbered available stands session
      exact ⟨.ready session, made, .inr (.make session)⟩
    · have unmade : call ≥ exchange.stages.length + 1 := past
      have uncalled : call ≥ exchange.coordinator.workspace.calls.length + 1 := numbered.lengths ▸ unmade
      refine ⟨course, ?_, .inl rfl⟩
      rw [dossier_call available, ← stands, List.getElem?_eq_none (by simpa using unmade),
        List.getElem?_eq_none (by simpa using uncalled),
        ← List.getElem?_eq_none (Nat.le_of_succ_le unmade),
        ← List.getElem?_eq_none (Nat.le_of_succ_le uncalled)]
      rfl
  · refine ⟨course, ?_, .inl rfl⟩
    rw [← stands]
    simp [step, Coordinator.beginOpen, available]

theorem follows_check (numbered : exchange.Numbered) (other : Nat) :
    course.GoesOn call ((exchange.step (.check other)).dossier call) := by
  dsimp only [step]
  split
  · next session ready =>
    by_cases same : other = call
    · subst same
      obtain rfl := Course.eq_ready ((congrArg Dossier.stage stands).symm.trans ready)
      split
      · refine ⟨.checked session, ?_, .inr (.check session)⟩
        rw [dossier_proceed _ ready, stands]
        rfl
      · next error refused =>
        rw [numbered.refused refused]
        refine ⟨.lost false, ?_, .inr (.decline session)⟩
        rw [dossier_proceed (exchange.refuse other .unavailable) ready, dossier_refuse, stands]
        simp [Course.dossier, answered]
    · refine ⟨course, ?_, .inl rfl⟩
      rw [← stands]
      split
      · exact dossier_proceed_other _ same _
      · rw [dossier_proceed_other _ same, dossier_refuse, if_neg same]
  · exact ⟨course, stands, .inl rfl⟩

theorem follows_push (other : Nat) :
    course.GoesOn call ((exchange.step (.push other)).dossier call) := by
  dsimp only [step]
  split
  · next session checked =>
    by_cases same : other = call
    · subst same
      obtain rfl := Course.eq_checked ((congrArg Dossier.stage stands).symm.trans checked)
      split
      · refine ⟨.queued session, ?_, .inr (.push session)⟩
        rw [dossier_proceed (exchange.enqueue (.run (.openWindow other session))) checked,
          dossier_enqueue, stands]
        simp [Course.dossier, sessionOf?]
      · refine ⟨.lost false, ?_, .inr (.miss session)⟩
        rw [dossier_proceed (exchange.refuse other .unavailable) checked, dossier_refuse, stands]
        simp [Course.dossier, answered]
    · refine ⟨course, ?_, .inl rfl⟩
      rw [← stands]
      split
      · rw [dossier_proceed_other _ same, dossier_enqueue]
        simp [sessionOf?, same]
      · rw [dossier_proceed_other _ same, dossier_refuse, if_neg same]
  · exact ⟨course, stands, .inl rfl⟩

theorem follows_complete (other : Nat) :
    course.GoesOn call ((exchange.step (.complete other)).dossier call) := by
  dsimp only [step]
  split
  · next result waiting decided =>
    rw [dossier_record]
    by_cases same : other = call
    · subst same
      rw [dossier_proceed _ waiting, stands, if_pos rfl]
      obtain ⟨rfl, rfl⟩ | ⟨construction, rfl, rfl⟩ := Course.eq_answered
        ((congrArg Dossier.stage stands).symm.trans waiting)
        ((congrArg Dossier.answer stands).symm.trans decided)
      · exact ⟨.lost true, rfl, .inr .passLost⟩
      · exact ⟨.ran construction true, rfl, .inr (.passRan construction)⟩
    · refine ⟨course, ?_, .inl rfl⟩
      rw [dossier_proceed_other _ same, if_neg same, List.append_nil, ← stands]
  · exact ⟨course, stands, .inl rfl⟩

theorem follows_take : course.GoesOn call ((exchange.step .take).dossier call) := by
  have queue : (exchange.dossier call).queued = exchange.queued.filterMap (sessionOf? call) := rfl
  dsimp only [step]
  split
  · next empty =>
    rw [empty] at queue
    refine ⟨course, ?_, .inl rfl⟩
    rw [dossier_claim, ← stands, ← queue]
  · next rest shutdown =>
    rw [shutdown, List.filterMap_cons_none rfl] at queue
    refine ⟨course, ?_, .inl rfl⟩
    rw [dossier_claim, ← stands, ← queue]
  · next task rest first =>
    cases sent : sessionOf? call (.run task) with
    | some session =>
      rw [first, List.filterMap_cons_some sent, stands] at queue
      obtain ⟨rfl, others⟩ := Course.eq_queued queue
      cases sessionOf?_eq_some sent
      refine ⟨.ran ⟨call, session, exchange.registry⟩ false, ?_, .inr (.run session exchange.registry)⟩
      rw [dossier_execute, dossier_claim, stands, others]
      rfl
    | none =>
      rw [first, List.filterMap_cons_none sent] at queue
      refine ⟨course, ?_, .inl rfl⟩
      rw [dossier_execute_foreign _ sent, dossier_claim, ← stands, ← queue]

theorem follows_post (errand : Errand) :
    course.GoesOn call ((exchange.step (.post errand)).dossier call) := by
  have foreign : sessionOf? call errand.message = none := by cases errand <;> rfl
  refine ⟨course, ?_, .inl rfl⟩
  rw [← stands, step]
  split
  · rw [dossier_enqueue, foreign, Option.toList_none, List.append_nil]
  · rfl

theorem follows_disconnect : course.GoesOn call ((exchange.step .disconnect).dossier call) := by
  rw [dossier_disconnect, stands]
  cases course with
  | queued session => exact ⟨.lost false, rfl, .inr (.lose session)⟩
  | _ => exact ⟨_, rfl, .inl rfl⟩

/-- A move leaves every call where it stands, or takes it one step further on its course. -/
theorem follows_step (numbered : exchange.Numbered) (move : Move) :
    course.GoesOn call ((exchange.step move).dossier call) := by
  cases move with
  | call session => exact follows_call stands numbered session
  | check other => exact follows_check stands numbered other
  | push other => exact follows_push stands other
  | complete other => exact follows_complete stands other
  | post errand => exact follows_post stands errand
  | take => exact follows_take stands
  | operate action => exact ⟨course, stands, .inl rfl⟩
  | retire => exact ⟨course, stands, .inl rfl⟩
  | disconnect => exact follows_disconnect stands

end Step

/-! ### Whole runs -/

theorem length_decideCall (workspace : Workspace) (call : Nat) (result : Except DispatchError WindowId) :
    (workspace.decideCall call result).calls.length = workspace.calls.length := by
  rw [Workspace.decideCall, List.length_modify]

theorem length_decideAll (workspace : Workspace) (calls : List Nat)
    (result : Except DispatchError WindowId) :
    (calls.foldl (fun workspace call => workspace.decideCall call result) workspace).calls.length =
      workspace.calls.length := by
  induction calls generalizing workspace with
  | nil => rfl
  | cons call calls ih => rw [List.foldl_cons, ih, length_decideCall]

theorem length_execute (workspace : Workspace) (task : Task) :
    (workspace.execute task).1.calls.length = workspace.calls.length := by
  cases task with
  | openWindow call session => exact length_decideCall ..
  | _ => rfl

section Run

variable {exchange : Exchange}

theorem Numbered.claim (numbered : exchange.Numbered) (rest : List (Message Task)) :
    (exchange.claim rest).Numbered := by
  refine ⟨numbered.lengths, ?_⟩
  intro thread claimed
  have owned := numbered.owned
  cases first : exchange.coordinator.channel.owner with
  | none => simpa [Exchange.claim, first, eq_comm] using claimed
  | some earlier =>
    rw [first] at owned
    exact owned thread (by simpa [Exchange.claim, first] using claimed)

theorem Numbered.step (numbered : exchange.Numbered) (move : Move) : (exchange.step move).Numbered := by
  obtain ⟨lengths, owned⟩ := id numbered
  cases move with
  | call session =>
    dsimp only [Exchange.step, Coordinator.beginOpen]
    split_ifs
    · exact ⟨by simp [lengths], owned⟩
    · exact numbered
  | check call =>
    dsimp only [Exchange.step]
    split
    · split
      · exact ⟨by simp [proceed, lengths], owned⟩
      · exact ⟨by simp [proceed, refuse, length_decideCall, lengths], owned⟩
    · exact numbered
  | push call =>
    dsimp only [Exchange.step]
    split
    · split
      · exact ⟨by simp [proceed, enqueue, lengths], owned⟩
      · exact ⟨by simp [proceed, refuse, length_decideCall, lengths], owned⟩
    · exact numbered
  | complete call =>
    dsimp only [Exchange.step]
    split
    · exact ⟨by simp [proceed, record, lengths], owned⟩
    · exact numbered
  | post errand =>
    dsimp only [Exchange.step]
    split
    · exact ⟨lengths, owned⟩
    · exact numbered
  | take =>
    dsimp only [Exchange.step]
    split
    · exact numbered.claim []
    · exact numbered.claim _
    · next task rest _ =>
      refine ⟨?_, (numbered.claim rest).owned⟩
      exact lengths.trans (length_execute ..).symm
  | operate action => exact ⟨lengths, owned⟩
  | retire => exact ⟨lengths, owned⟩
  | disconnect => exact ⟨lengths.trans (length_decideAll ..).symm, owned⟩

theorem Numbered.run (numbered : exchange.Numbered) (moves : List Move) :
    (exchange.run moves).Numbered := by
  induction moves generalizing exchange with
  | nil => exact numbered
  | cons move moves ih => exact ih (numbered.step move)

/-- Along a run, every call goes on along its course. -/
theorem follows_run (numbered : exchange.Numbered) {call : Nat} {course : Course}
    (stands : exchange.dossier call = course.dossier) (moves : List Move) :
    ∃ later : Course, (exchange.run moves).dossier call = later.dossier ∧
      Relation.ReflTransGen (Course.Step call) course later := by
  induction moves generalizing exchange course with
  | nil => exact ⟨course, stands, .refl⟩
  | cons move moves ih =>
    obtain ⟨next, standsNext, same | step⟩ := follows_step stands numbered move
    · rw [same] at standsNext
      exact ih (numbered.step move) standsNext
    · obtain ⟨later, standsLater, steps⟩ := ih (numbered.step move) standsNext
      exact ⟨later, standsLater, .head step steps⟩

end Run

end Exchange

end TreeInspector
