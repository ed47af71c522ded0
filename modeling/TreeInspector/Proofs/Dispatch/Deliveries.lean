import Mathlib.Data.List.Nodup
import TreeInspector.Proofs.Dispatch.Traffic

/-! # Deliveries

What becomes of a single send. All that is known of it (how far it has come, what it queued and which
calls of the waker it made) changes in a few ways only, whoever moves (`advances_step`). So a send that
failed never queues anything, a send that starts too late fails, and a message that is queued once there
is a waker is followed by one call of it.
-/

namespace TreeInspector.Channel

variable {τ σ : Type}

/-- The entries that carry a number. -/
def entriesOf {α : Type} (number : Nat) (entries : List (Nat × α)) : List α :=
  (entries.filter (·.1 == number)).map Prod.snd

section Entries

variable {α : Type}

@[simp] theorem entriesOf_append (number : Nat) (entries more : List (Nat × α)) :
    entriesOf number (entries ++ more) = entriesOf number entries ++ entriesOf number more := by
  simp [entriesOf]

@[simp] theorem entriesOf_pairs (number : Nat) (values : List α) :
    entriesOf number (values.map fun value => (number, value)) = values := by
  simp [entriesOf, List.filter_map, Function.comp_def]

theorem entriesOf_pairs_other {number other : Nat} (different : other ≠ number) (values : List α) :
    entriesOf number (values.map fun value => (other, value)) = [] := by
  simp [entriesOf, different]

@[simp] theorem entriesOf_single (number : Nat) (value : α) :
    entriesOf number [(number, value)] = [value] :=
  entriesOf_pairs number [value]

theorem entriesOf_single_other {number other : Nat} (different : other ≠ number) (value : α) :
    entriesOf number [(other, value)] = [] :=
  entriesOf_pairs_other different [value]

theorem mem_entriesOf {number : Nat} {entries : List (Nat × α)} {value : α} :
    value ∈ entriesOf number entries ↔ (number, value) ∈ entries := by
  simp [entriesOf]

theorem entriesOf_eq_nil_iff {number : Nat} {entries : List (Nat × α)} :
    entriesOf number entries = [] ↔ number ∉ entries.map Prod.fst := by
  rw [List.eq_nil_iff_forall_not_mem]
  simp [mem_entriesOf]

/-- Numbers do not repeat if there is at most one entry for each. -/
theorem nodup_of_entriesOf {entries : List (Nat × α)}
    (single : ∀ number, (entriesOf number entries).length ≤ 1) : (entries.map Prod.fst).Nodup := by
  rw [List.nodup_iff_count_le_one]
  intro number
  rw [List.count, List.countP_map, List.countP_eq_length_filter]
  simpa [entriesOf, Function.comp_def] using single number

end Entries

/-- What is known of a send: how far it has come, the messages it queued and the wakers it called. -/
structure Record (τ : Type) where
  delivery : Option (Delivery τ)
  accepted : List (Message τ)
  calls : List Waker

namespace Traffic

/-- What is known of a send. -/
def record (send : Nat) (traffic : Traffic τ σ) : Record τ :=
  ⟨traffic.deliveries[send]?, entriesOf send traffic.accepted, entriesOf send traffic.wakes⟩

/-- How the record of a send may change. -/
inductive Advances (traffic : Traffic τ σ) : Record τ → Record τ → Prop where
  | stay (record : Record τ) : Advances traffic record record
  | post (message : Message τ) (accepted : List (Message τ)) (calls : List Waker) :
    Advances traffic ⟨none, accepted, calls⟩ ⟨some ⟨message, .begun⟩, accepted, calls⟩
  | check (message : Message τ) (accepted : List (Message τ)) (calls : List Waker)
    (available : traffic.channel.isAvailable = true) :
    Advances traffic ⟨some ⟨message, .begun⟩, accepted, calls⟩ ⟨some ⟨message, .checked⟩, accepted, calls⟩
  | refuse (message : Message τ) (accepted : List (Message τ)) (calls : List Waker)
    (retired : traffic.channel.isAvailable = false) :
    Advances traffic ⟨some ⟨message, .begun⟩, accepted, calls⟩
      ⟨some ⟨message, .returned (.error .unavailable)⟩, accepted, calls⟩
  | push (message : Message τ) (accepted : List (Message τ)) (calls : List Waker)
    (connected : traffic.connected = true) :
    Advances traffic ⟨some ⟨message, .checked⟩, accepted, calls⟩
      ⟨some ⟨message, .pushed⟩, accepted ++ [message], calls⟩
  | miss (message : Message τ) (accepted : List (Message τ)) (calls : List Waker)
    (gone : traffic.connected = false) :
    Advances traffic ⟨some ⟨message, .checked⟩, accepted, calls⟩
      ⟨some ⟨message, .returned (.error .unavailable)⟩, accepted, calls⟩
  | wake (message : Message τ) (accepted : List (Message τ)) (calls : List Waker) :
    Advances traffic ⟨some ⟨message, .pushed⟩, accepted, calls⟩
      ⟨some ⟨message, .returned (.ok ())⟩, accepted, calls ++ traffic.channel.waker.toList⟩

section Record

variable {send other : Nat} {traffic : Traffic τ σ}

theorem record_proceed {old : Delivery τ} (found : traffic.deliveries[send]? = some old)
    (delivery : Delivery τ) : (traffic.proceed send delivery).record send =
      { traffic.record send with delivery := some delivery } := by
  obtain ⟨inside, _⟩ := List.getElem?_eq_some_iff.mp found
  simp [record, proceed, inside]

theorem record_proceed_other (different : other ≠ send) (delivery : Delivery τ) :
    (traffic.proceed other delivery).record send = traffic.record send := by
  simp [record, proceed, different]

theorem record_enqueue (message : Message τ) : (traffic.enqueue send message).record send =
    { traffic.record send with accepted := (traffic.record send).accepted ++ [message] } := by
  simp [record, enqueue]

theorem record_enqueue_other (different : other ≠ send) (message : Message τ) :
    (traffic.enqueue other message).record send = traffic.record send := by
  simp [record, enqueue, entriesOf_single_other different]

theorem record_call : (traffic.call send).record send =
    { traffic.record send with
      calls := (traffic.record send).calls ++ traffic.channel.waker.toList } := by
  simp [record, call]

theorem record_call_other (different : other ≠ send) :
    (traffic.call other).record send = traffic.record send := by
  simp [record, call, entriesOf_pairs_other different]

end Record

section Step

variable (execute : Nat × τ → σ → σ × Option Crash) (traffic : Traffic τ σ) (send : Nat)

theorem advances_check (other : Nat) :
    traffic.Advances (traffic.record send) ((traffic.step execute (.check other)).record send) := by
  dsimp only [step]
  split
  · next message found =>
    by_cases different : other ≠ send
    · split <;> exact (record_proceed_other different _).symm ▸ .stay _
    · obtain rfl := not_ne_iff.mp different
      split
      · next available =>
        rw [record_proceed found]
        simp only [record, found]
        exact .check _ _ _ available
      · next retired =>
        rw [record_proceed found]
        simp only [record, found]
        exact .refuse _ _ _ (Bool.not_eq_true _ ▸ retired)
  · exact .stay _

theorem advances_push (other : Nat) :
    traffic.Advances (traffic.record send) ((traffic.step execute (.push other)).record send) := by
  dsimp only [step]
  split
  · next message found =>
    by_cases different : other ≠ send
    · split
      · rw [record_proceed_other different, record_enqueue_other different]
        exact .stay _
      · rw [record_proceed_other different]
        exact .stay _
    · obtain rfl := not_ne_iff.mp different
      split
      · next connected =>
        have still : (traffic.enqueue other message).deliveries[other]? = _ := found
        rw [record_proceed still, record_enqueue]
        simp only [record, found]
        exact .push _ _ _ connected
      · next gone =>
        rw [record_proceed found]
        simp only [record, found]
        exact .miss _ _ _ (Bool.not_eq_true _ ▸ gone)
  · exact .stay _

theorem advances_wake (other : Nat) :
    traffic.Advances (traffic.record send) ((traffic.step execute (.wake other)).record send) := by
  dsimp only [step]
  split
  · next message found =>
    by_cases different : other ≠ send
    · rw [record_proceed_other different, record_call_other different]
      exact .stay _
    · obtain rfl := not_ne_iff.mp different
      have still : (traffic.call other).deliveries[other]? = _ := found
      rw [record_proceed still, record_call]
      simp only [record, found]
      exact .wake _ _ _
  · exact .stay _

theorem advances_post (message : Message τ) :
    traffic.Advances (traffic.record send) ((traffic.step execute (.post message)).record send) := by
  dsimp only [step]
  split
  · simp only [record]
    rw [List.getElem?_append]
    split
    · exact .stay _
    · next outside =>
      rw [List.getElem?_eq_none (Nat.not_lt.mp outside)]
      cases send - traffic.deliveries.length with
      | zero => exact .post _ _ _
      | succ _ => exact .stay _
  · exact .stay _

/-- Taking a message leaves the senders and the waker alone. -/
theorem exists_receive : ∃ queued round ended, traffic.step execute .receive =
    { traffic with channel := { traffic.channel with queued }, round, ended } := by
  dsimp only [step]
  split
  · unfold receive
    split
    · split <;> exact ⟨_, _, _, rfl⟩
    · exact ⟨_, _, _, rfl⟩
    · exact ⟨_, _, _, rfl⟩
  · exact ⟨_, _, _, rfl⟩

/-- Carrying out a task leaves the channel and the senders alone. -/
theorem exists_finish : ∃ state more round ended, traffic.step execute .finish =
    { traffic with state, executed := traffic.executed ++ more, round, ended } := by
  have stays : traffic = { traffic with executed := traffic.executed ++ [] } := by rw [List.append_nil]
  dsimp only [step]
  split
  · unfold finish
    dsimp only
    split <;> exact ⟨_, _, _, _, rfl⟩
  · exact ⟨_, _, _, _, stays⟩

/-- Whoever moves, the record of a send stays or goes one step further. -/
theorem advances_step (move : Move τ) :
    traffic.Advances (traffic.record send) ((traffic.step execute move).record send) := by
  cases move with
  | post message => exact advances_post ..
  | check other => exact advances_check ..
  | push other => exact advances_push ..
  | wake other => exact advances_wake ..
  | receive =>
    obtain ⟨_, _, _, same⟩ := exists_receive execute traffic
    exact same ▸ .stay _
  | finish =>
    obtain ⟨_, _, _, _, same⟩ := exists_finish execute traffic
    exact same ▸ .stay _
  | _ =>
    dsimp only [step]
    split <;> exact .stay _

end Step

/-- What lasts, once it holds: the end of the draining side, the waker that was set and the tasks carried
out. -/
structure Lasts (traffic later : Traffic τ σ) : Prop where
  retired : traffic.channel.isAvailable = false → later.channel.isAvailable = false
  gone : traffic.connected = false → later.connected = false
  waker : ∀ waker, traffic.channel.waker = some waker → later.channel.waker = some waker
  executed : traffic.executed <+: later.executed

theorem Lasts.refl (traffic : Traffic τ σ) : traffic.Lasts traffic := ⟨id, id, fun _ => id, List.prefix_rfl⟩

theorem Lasts.trans {traffic next later : Traffic τ σ} (first : traffic.Lasts next)
    (second : next.Lasts later) : traffic.Lasts later where
  retired := second.retired ∘ first.retired
  gone := second.gone ∘ first.gone
  waker waker := second.waker waker ∘ first.waker waker
  executed := first.executed.trans second.executed

theorem lasts_step (execute : Nat × τ → σ → σ × Option Crash) (traffic : Traffic τ σ) (move : Move τ) :
    traffic.Lasts (traffic.step execute move) := by
  cases move with
  | check send | push send =>
    dsimp only [step]
    split
    · split <;> exact ⟨id, id, fun _ => id, List.prefix_rfl⟩
    · exact .refl _
  | setWaker waker =>
    dsimp only [step]
    split
    · exact ⟨id, id, fun _ set => by simp [Channel.setWaker, set], List.prefix_rfl⟩
    · exact .refl _
  | receive =>
    obtain ⟨_, _, _, same⟩ := exists_receive execute traffic
    exact same ▸ ⟨id, id, fun _ => id, List.prefix_rfl⟩
  | finish =>
    obtain ⟨_, more, _, _, same⟩ := exists_finish execute traffic
    exact same ▸ ⟨id, id, fun _ => id, more, rfl⟩
  | retire =>
    dsimp only [step]
    split
    · exact ⟨fun _ => rfl, id, fun _ => id, List.prefix_rfl⟩
    · exact .refl _
  | disconnect =>
    dsimp only [step]
    split
    · exact .refl _
    · exact ⟨fun _ => rfl, fun _ => rfl, fun _ => id, List.prefix_rfl⟩
  | _ =>
    dsimp only [step]
    split <;> exact ⟨id, id, fun _ => id, List.prefix_rfl⟩

section Run

variable {execute : Nat × τ → σ → σ × Option Crash} {initial : σ} {traffic : Traffic τ σ}

theorem lasts_run (traffic : Traffic τ σ) (moves : List (Move τ)) :
    traffic.Lasts (traffic.run execute moves) := by
  induction moves generalizing traffic with
  | nil => exact .refl _
  | cons move moves ih => exact (lasts_step execute traffic move).trans (ih _)

/-- What holds of a send and is kept by every advance holds after any run. -/
theorem record_run (send : Nat) (holds : Traffic τ σ → Record τ → Prop)
    (kept : ∀ {traffic next : Traffic τ σ} {record changed : Record τ}, traffic.Orderly execute initial →
      traffic.Lasts next → traffic.Advances record changed → holds traffic record → holds next changed)
    (orderly : traffic.Orderly execute initial) (now : holds traffic (traffic.record send))
    (moves : List (Move τ)) :
    holds (traffic.run execute moves) ((traffic.run execute moves).record send) := by
  induction moves generalizing traffic with
  | nil => exact now
  | cons move moves ih =>
    apply ih (orderly.step move)
    exact kept orderly (lasts_step execute traffic move) (advances_step execute traffic send move) now

end Run

/-- What the record of a send can be. -/
inductive Fair (traffic : Traffic τ σ) : Record τ → Prop where
  | absent : Fair traffic ⟨none, [], []⟩
  | begun (message : Message τ) : Fair traffic ⟨some ⟨message, .begun⟩, [], []⟩
  | checked (message : Message τ) : Fair traffic ⟨some ⟨message, .checked⟩, [], []⟩
  | pushed (message : Message τ) : Fair traffic ⟨some ⟨message, .pushed⟩, [message], []⟩
  | delivered (message : Message τ) (waker : Option Waker) :
    Fair traffic ⟨some ⟨message, .returned (.ok ())⟩, [message], waker.toList⟩
  | refused (message : Message τ) (retired : traffic.channel.isAvailable = false) :
    Fair traffic ⟨some ⟨message, .returned (.error .unavailable)⟩, [], []⟩

section Fair

variable {execute : Nat × τ → σ → σ × Option Crash} {initial : σ} {traffic next : Traffic τ σ}
  {record changed : Record τ} {send : Nat}

theorem Fair.advance (fair : traffic.Fair record) (orderly : traffic.Orderly execute initial)
    (lasts : traffic.Lasts next) (advances : traffic.Advances record changed) : next.Fair changed := by
  cases fair with
  | absent =>
    cases advances with
    | stay => exact .absent
    | post message => exact .begun message
  | begun message =>
    cases advances with
    | stay => exact .begun message
    | check => exact .checked message
    | refuse _ _ _ retired => exact .refused message (lasts.retired retired)
  | checked message =>
    cases advances with
    | stay => exact .checked message
    | push => exact .pushed message
    | miss _ _ _ gone => exact .refused message (lasts.retired (orderly.gone gone))
  | pushed message =>
    cases advances with
    | stay => exact .pushed message
    | wake => exact .delivered message _
  | delivered message waker =>
    cases advances with
    | stay => exact .delivered message waker
  | refused message retired =>
    cases advances with
    | stay => exact .refused message (lasts.retired retired)

theorem Fair.mem_accepted_iff (fair : traffic.Fair record) (message : Message τ) :
    message ∈ record.accepted ↔ record.delivery = some ⟨message, .pushed⟩ ∨
      record.delivery = some ⟨message, .returned (.ok ())⟩ := by
  cases fair <;> simp [eq_comm]

theorem Fair.progress_of_unsent (fair : traffic.Fair record) {delivery : Delivery τ}
    (found : record.delivery = some delivery) (unsent : record.accepted = []) :
    delivery.progress = .begun ∨ delivery.progress = .checked ∨
      delivery.progress = .returned (.error .unavailable) := by
  cases fair with
  | absent => cases found
  | pushed | delivered => cases unsent
  | begun | checked | refused =>
    cases found
    simp

theorem Fair.length_accepted (fair : traffic.Fair record) : record.accepted.length ≤ 1 := by
  cases fair <;> simp

theorem Fair.calls_eq_nil (fair : traffic.Fair record) (unsent : record.accepted = []) :
    record.calls = [] := by
  cases fair with
  | pushed | delivered => cases unsent
  | _ => rfl

theorem Fair.calls_of_pushed (fair : traffic.Fair record) {message : Message τ}
    (found : record.delivery = some ⟨message, .pushed⟩) : record.calls = [] := by
  cases fair with
  | pushed => rfl
  | _ => cases found

theorem Fair.of_error (fair : traffic.Fair record) {message : Message τ} {error : DispatchError}
    (failed : record.delivery = some ⟨message, .returned (.error error)⟩) :
    error = .unavailable ∧ traffic.channel.isAvailable = false ∧ record.accepted = [] := by
  cases fair with
  | refused message retired =>
    cases failed
    exact ⟨rfl, retired, rfl⟩
  | _ => cases failed

theorem fair_run (orderly : traffic.Orderly execute initial) (fair : traffic.Fair (traffic.record send))
    (moves : List (Move τ)) :
    (traffic.run execute moves).Fair ((traffic.run execute moves).record send) :=
  record_run send Fair (fun orderly lasts advances fair => fair.advance orderly lasts advances) orderly
    fair moves

/-- A send that is over has the record it will always have. -/
theorem record_of_returned (orderly : traffic.Orderly execute initial) {message : Message τ}
    {result : Except DispatchError Unit}
    (found : traffic.deliveries[send]? = some ⟨message, .returned result⟩) (moves : List (Move τ)) :
    (traffic.run execute moves).record send = traffic.record send := by
  have returned : (traffic.record send).delivery = some ⟨message, .returned result⟩ := found
  apply record_run send (fun _ record => record = traffic.record send) _ orderly rfl
  intro _ _ _ _ _ _ advances same
  subst same
  generalize traffic.record send = record at returned advances
  cases advances with
  | stay => rfl
  | _ => cases returned

/-- Once the queue is gone, no send pushes anything. -/
theorem accepted_of_gone (orderly : traffic.Orderly execute initial) (gone : traffic.connected = false)
    (send : Nat) (moves : List (Move τ)) :
    entriesOf send (traffic.run execute moves).accepted = entriesOf send traffic.accepted := by
  refine (record_run send (fun later record => later.connected = false ∧
    record.accepted = entriesOf send traffic.accepted) ?_ orderly ⟨gone, rfl⟩ moves).2
  rintro _ _ _ _ _ lasts advances ⟨gone, same⟩
  refine ⟨lasts.gone gone, ?_⟩
  cases advances with
  | push _ _ _ connected => simp [gone] at connected
  | _ => exact same

/-- How far a send can come that starts after the end of the draining side. -/
def Late (traffic : Traffic τ σ) (record : Record τ) : Prop :=
  traffic.channel.isAvailable = false ∧ ∀ delivery ∈ record.delivery,
    delivery.progress = .begun ∨ delivery.progress = .returned (.error .unavailable)

theorem Late.advance (late : traffic.Late record) (lasts : traffic.Lasts next)
    (advances : traffic.Advances record changed) : next.Late changed := by
  obtain ⟨retired, late⟩ := late
  refine ⟨lasts.retired retired, ?_⟩
  cases advances with
  | stay => exact late
  | post | refuse | miss => simp
  | check _ _ _ available => simp [retired] at available
  | push | wake => simpa using late _ rfl

/-- A send that starts after the end of the draining side fails at its first check. -/
theorem late_run (orderly : traffic.Orderly execute initial) (retired : traffic.channel.isAvailable = false)
    (unsent : traffic.deliveries[send]? = none) (moves : List (Move τ)) :
    (traffic.run execute moves).Late ((traffic.run execute moves).record send) :=
  record_run send Late (fun _ lasts advances late => late.advance lasts advances) orderly
    ⟨retired, by simp [Traffic.record, unsent]⟩ moves

/-- A send that is over made one call, of the given waker. -/
def Woken (waker : Waker) (traffic : Traffic τ σ) (record : Record τ) : Prop :=
  traffic.Fair record ∧ traffic.channel.waker = some waker ∧
    ∀ message, record.delivery = some ⟨message, .returned (.ok ())⟩ → record.calls = [waker]

theorem Woken.advance {waker : Waker} (woken : Woken waker traffic record)
    (orderly : traffic.Orderly execute initial) (lasts : traffic.Lasts next)
    (advances : traffic.Advances record changed) : Woken waker next changed := by
  obtain ⟨fair, set, woken⟩ := woken
  refine ⟨fair.advance orderly lasts advances, lasts.waker waker set, ?_⟩
  cases advances with
  | stay => exact woken
  | wake =>
    cases fair
    simp [set]
  | _ => simp

/-- A message that is queued once there is a waker is followed by one call of that waker. -/
theorem woken_run {waker : Waker} (orderly : traffic.Orderly execute initial)
    (fair : traffic.Fair (traffic.record send)) (set : traffic.channel.waker = some waker)
    (unsent : send ∉ traffic.accepted.map Prod.fst) (moves : List (Move τ)) :
    Woken waker (traffic.run execute moves) ((traffic.run execute moves).record send) := by
  have nothing : (traffic.record send).accepted = [] := entriesOf_eq_nil_iff.mpr unsent
  refine record_run send (Woken waker) (fun orderly lasts advances woken =>
    woken.advance orderly lasts advances) orderly ⟨fair, set, ?_⟩ moves
  intro message delivered
  generalize traffic.record send = record at fair nothing delivered
  cases fair with
  | delivered => cases nothing
  | _ => cases delivered

end Fair

section Whole

variable {execute : Nat × τ → σ → σ × Option Crash} {initial : σ} {traffic : Traffic τ σ}

/-- Every call of the waker is made by a send. -/
theorem wakeCalls_step (counted : traffic.channel.wakeCalls = traffic.wakes.map Prod.snd)
    (move : Move τ) : let next := traffic.step execute move
    next.channel.wakeCalls = next.wakes.map Prod.snd := by
  cases move with
  | check send | push send =>
    dsimp only [step]
    split
    · split <;> exact counted
    · exact counted
  | wake send =>
    dsimp only [step]
    split
    · simp [proceed, call, counted, Function.comp_def]
    · exact counted
  | receive =>
    obtain ⟨_, _, _, same⟩ := exists_receive execute traffic
    exact same ▸ counted
  | finish =>
    obtain ⟨_, _, _, _, same⟩ := exists_finish execute traffic
    exact same ▸ counted
  | _ =>
    dsimp only [step]
    split <;> exact counted

theorem wakeCalls_run (counted : traffic.channel.wakeCalls = traffic.wakes.map Prod.snd)
    (moves : List (Move τ)) : let later := traffic.run execute moves
    later.channel.wakeCalls = later.wakes.map Prod.snd := by
  induction moves generalizing traffic with
  | nil => exact counted
  | cons move moves ih => exact ih (wakeCalls_step counted move)

/-- After the end of the draining side no message is taken and no task is carried out. -/
theorem Orderly.over_step (orderly : traffic.Orderly execute initial)
    (retired : traffic.channel.isAvailable = false) (move : Move τ) :
    (traffic.step execute move).taken = traffic.taken ∧
      (traffic.step execute move).executed = traffic.executed := by
  have idle := orderly.idle retired
  cases move with
  | check send | push send =>
    dsimp only [Traffic.step]
    split
    · split <;> exact ⟨rfl, rfl⟩
    · exact ⟨rfl, rfl⟩
  | start waits thread =>
    rw [Traffic.step, retired]
    exact ⟨rfl, rfl⟩
  | receive | finish =>
    rw [Traffic.step, idle]
    exact ⟨rfl, rfl⟩
  | _ =>
    dsimp only [Traffic.step]
    split <;> exact ⟨rfl, rfl⟩

theorem Orderly.over_run (orderly : traffic.Orderly execute initial)
    (retired : traffic.channel.isAvailable = false) (moves : List (Move τ)) :
    (traffic.run execute moves).taken = traffic.taken ∧
      (traffic.run execute moves).executed = traffic.executed := by
  induction moves generalizing traffic with
  | nil => exact ⟨rfl, rfl⟩
  | cons move moves ih =>
    obtain ⟨taken, executed⟩ := orderly.over_step retired move
    have later := ih (orderly.step move) ((lasts_step execute traffic move).retired retired)
    exact ⟨later.1.trans taken, later.2.trans executed⟩

end Whole

theorem mem_tasks_pushed (traffic : Traffic τ σ) (send : Nat) (task : τ) :
    (send, task) ∈ tasks traffic.pushed ↔ (send, .run task) ∈ traffic.accepted := by
  simp only [tasks, pushed, List.mem_filterMap, List.mem_map]
  constructor
  · rintro ⟨_, ⟨⟨number, message⟩, member, rfl⟩, found⟩
    cases message with
    | run other =>
      cases found
      exact member
    | shutdown => cases found
  · intro member
    exact ⟨_, ⟨_, member, rfl⟩, rfl⟩

theorem numbers_tasks (entries : List (Nat × Message τ)) :
    ((tasks (entries.map fun entry => stamp entry.1 entry.2)).map Prod.fst).Sublist
      (entries.map Prod.fst) := by
  induction entries with
  | nil => exact .slnil
  | cons entry entries ih =>
    obtain ⟨number, message⟩ := entry
    cases message with
    | run task => exact ih.cons_cons number
    | shutdown => exact ih.cons number

/-- A channel in use after some moves, and after any more of them. -/
structure Reliable (execute : Nat × τ → σ → σ × Option Crash) (initial : σ)
    (traffic later : Traffic τ σ) : Prop where
  /-- While the queue exists, what was taken and what is queued is what was pushed, in order. -/
  present : traffic.channel.isAvailable = true → traffic.connected = true
  order : traffic.connected = true → traffic.taken ++ traffic.channel.queued = traffic.pushed
  /-- Once it is dropped, nothing more is taken. -/
  dropped : traffic.channel.isAvailable = false →
    later.taken = traffic.taken ∧ later.executed = traffic.executed
  /-- A message is pushed exactly by the sends that came that far, each time once. -/
  accepted : ∀ send message, (send, message) ∈ traffic.accepted ↔
    traffic.deliveries[send]? = some ⟨message, .pushed⟩ ∨
      traffic.deliveries[send]? = some ⟨message, .returned (.ok ())⟩
  distinct : (traffic.accepted.map Prod.fst).Nodup
  /-- Tasks are carried out as they are taken, in the order of their acceptance and at most once. -/
  carried : traffic.executed ++ (traffic.round.bind Round.running).toList = tasks traffic.taken
  state : traffic.state = perform execute traffic.executed initial
  inOrder : traffic.executed <+: tasks traffic.pushed
  once : (traffic.executed.map Prod.fst).Nodup
  /-- A send fails only as unavailable and once the queue is dropped, and its task never runs. -/
  refused : ∀ send message error,
    traffic.deliveries[send]? = some ⟨message, .returned (.error error)⟩ →
      error = .unavailable ∧ traffic.channel.isAvailable = false ∧
        send ∉ later.accepted.map Prod.fst ∧ send ∉ later.executed.map Prod.fst
  /-- A send that starts after the queue was dropped fails with its first step. -/
  late : ∀ send, traffic.channel.isAvailable = false → traffic.deliveries[send]? = none →
    ∀ delivery, later.deliveries[send]? = some delivery →
      (delivery.progress = .begun ∨ delivery.progress = .returned (.error .unavailable)) ∧
        (later.step execute (.check send)).deliveries[send]? =
          some ⟨delivery.message, .returned (.error .unavailable)⟩
  /-- A drain does what a whole drain does, counts the tasks it completed, and leaves what was queued
  behind the last message it took, also if that was a task that crashed. -/
  drains : ∀ before drain, before ++ [drain] <+: traffic.ended →
    let start := perform execute (tasks (before.flatMap Ended.taken)) initial
    drain.outcome = runMessages execute (drain.taken ++ drain.outcome.rest) 0 start ∧
      drain.outcome.ran = (completed execute (tasks drain.taken) start).length ∧
      before.flatMap Ended.taken ++ drain.taken ++ drain.outcome.rest <+: traffic.pushed ∧
      ∀ crash, drain.outcome.crash = some crash → ∃ earlier task,
        drain.taken = earlier ++ [.run task] ∧
          execute task (perform execute (tasks earlier) start) = (drain.outcome.state, some crash)
  /-- The first waker stays, and all its calls are made by sends that pushed their message. -/
  setWaker : ∀ waker, traffic.channel.isAvailable = true →
    (traffic.step execute (.setWaker waker)).channel.waker =
      some (traffic.channel.waker.getD waker)
  firstWaker : ∀ waker, traffic.channel.waker = some waker → later.channel.waker = some waker
  wakeCalls : traffic.channel.wakeCalls = traffic.wakes.map Prod.snd
  calledAfter : ∀ send, send ∉ traffic.accepted.map Prod.fst → entriesOf send traffic.wakes = []
  /-- A message pushed once there is a waker is followed by one call of it, made by the next step of its
  send. -/
  woken : ∀ waker send message, traffic.channel.waker = some waker →
    send ∉ traffic.accepted.map Prod.fst → (send, message) ∈ later.accepted →
      (later.deliveries[send]? = some ⟨message, .pushed⟩ ∧ entriesOf send later.wakes = [] ∧
        let next := later.step execute (.wake send)
        next.deliveries[send]? = some ⟨message, .returned (.ok ())⟩ ∧
          entriesOf send next.wakes = [waker]) ∨
      (later.deliveries[send]? = some ⟨message, .returned (.ok ())⟩ ∧
        entriesOf send later.wakes = [waker])

theorem fair_fresh (state : σ) (send : Nat) :
    (fresh state : Traffic τ σ).Fair ((fresh state).record send) :=
  .absent

section Later

variable {execute : Nat × τ → σ → σ × Option Crash} {initial : σ} {traffic : Traffic τ σ}
  (orderly : traffic.Orderly execute initial) (fair : ∀ send, traffic.Fair (traffic.record send))

include orderly

/-- Tasks are carried out in the order in which they were pushed. -/
theorem Orderly.executed_early : traffic.executed <+: tasks traffic.pushed := by
  obtain ⟨rest, early⟩ := orderly.early
  rw [← early, tasks_append, ← orderly.executed, List.append_assoc]
  exact List.prefix_append _ _

/-- A send that starts after the end of the draining side fails with its first step. -/
theorem late_send {send : Nat} (retired : traffic.channel.isAvailable = false)
    (unsent : traffic.deliveries[send]? = none) (moves : List (Move τ)) {delivery : Delivery τ}
    (found : (traffic.run execute moves).deliveries[send]? = some delivery) :
    (delivery.progress = .begun ∨ delivery.progress = .returned (.error .unavailable)) ∧
      ((traffic.run execute moves).step execute (.check send)).deliveries[send]? =
        some ⟨delivery.message, .returned (.error .unavailable)⟩ := by
  obtain ⟨retired, late⟩ := late_run orderly retired unsent moves
  have stage := late delivery found
  refine ⟨stage, ?_⟩
  obtain ⟨message, progress⟩ := delivery
  rcases stage with rfl | rfl
  · rw [step, found]
    simp only [retired]
    exact congrArg Record.delivery (record_proceed found _)
  · rw [step, found]
    exact found

include fair

omit orderly in
theorem nodup_accepted : (traffic.accepted.map Prod.fst).Nodup :=
  nodup_of_entriesOf fun send => (fair send).length_accepted

theorem nodup_executed : (traffic.executed.map Prod.fst).Nodup := by
  have early := (orderly.executed_early.sublist.map Prod.fst).trans (numbers_tasks traffic.accepted)
  exact (nodup_accepted fair).sublist early

/-- A send that failed never pushes anything. -/
theorem never_of_error {send : Nat} {message : Message τ} {error : DispatchError}
    (failed : traffic.deliveries[send]? = some ⟨message, .returned (.error error)⟩)
    (moves : List (Move τ)) : let later := traffic.run execute moves
    send ∉ later.accepted.map Prod.fst ∧ send ∉ later.executed.map Prod.fst := by
  intro later
  have nothing : entriesOf send later.accepted = [] := by
    have same := congrArg Record.accepted (record_of_returned orderly failed moves)
    exact same.trans ((fair send).of_error failed).2.2
  refine ⟨entriesOf_eq_nil_iff.mp nothing, ?_⟩
  rintro ran
  obtain ⟨⟨_, task⟩, member, rfl⟩ := List.mem_map.mp ran
  have among := (orderly.run moves).executed_early.subset member
  rw [mem_tasks_pushed, ← mem_entriesOf, nothing] at among
  cases among

/-- A message that is pushed once there is a waker is followed by one call of it. -/
theorem woken_send {waker : Waker} {send : Nat} {message : Message τ}
    (set : traffic.channel.waker = some waker) (unsent : send ∉ traffic.accepted.map Prod.fst)
    (moves : List (Move τ)) (sent : (send, message) ∈ (traffic.run execute moves).accepted) :
    let later := traffic.run execute moves
    (later.deliveries[send]? = some ⟨message, .pushed⟩ ∧ entriesOf send later.wakes = [] ∧
      let next := later.step execute (.wake send)
      next.deliveries[send]? = some ⟨message, .returned (.ok ())⟩ ∧
        entriesOf send next.wakes = [waker]) ∨
    (later.deliveries[send]? = some ⟨message, .returned (.ok ())⟩ ∧
      entriesOf send later.wakes = [waker]) := by
  intro later
  obtain ⟨fair, set, woken⟩ : Woken waker later (later.record send) :=
    woken_run orderly (fair send) set unsent moves
  have stage := (fair.mem_accepted_iff message).mp (mem_entriesOf.mpr sent)
  rcases stage with found | delivered
  · have silent : entriesOf send later.wakes = [] := fair.calls_of_pushed found
    refine .inl ⟨found, silent, ?_⟩
    have still : (later.call send).deliveries[send]? = _ := found
    have next : (later.step execute (.wake send)).record send =
        ⟨some ⟨message, .returned (.ok ())⟩, entriesOf send later.accepted, [waker]⟩ := by
      rw [step, show later.deliveries[send]? = _ from found]
      dsimp only
      rw [record_proceed still, record_call, set]
      simp [record, silent]
    exact ⟨congrArg Record.delivery next, congrArg Record.calls next⟩
  · exact .inr ⟨delivered, woken message delivered⟩

end Later

/-! ## Sends that go on alone -/

section Alone

variable (execute : Nat × τ → σ → σ × Option Crash) {traffic : Traffic τ σ} {send : Nat}
  {message : Message τ}

/-- The sender takes all the steps it has left. -/
def conclude (send : Nat) (traffic : Traffic τ σ) : Traffic τ σ :=
  traffic.run execute [.check send, .push send, .wake send]

theorem conclude_of_returned {result : Except DispatchError Unit}
    (found : traffic.deliveries[send]? = some ⟨message, .returned result⟩) :
    traffic.conclude execute send = traffic := by
  simp [conclude, run, step, found]

theorem conclude_of_pushed (found : traffic.deliveries[send]? = some ⟨message, .pushed⟩) :
    traffic.conclude execute send = (traffic.call send).proceed send ⟨message, .returned (.ok ())⟩ := by
  simp [conclude, run, step, found]

/-- Without a queue a send fails, wherever it stands. -/
theorem conclude_of_gone (fair : traffic.Fair (traffic.record send))
    (retired : traffic.channel.isAvailable = false) (gone : traffic.connected = false)
    {delivery : Delivery τ} (found : traffic.deliveries[send]? = some delivery)
    (unsent : entriesOf send traffic.accepted = []) : traffic.conclude execute send =
      traffic.proceed send ⟨delivery.message, .returned (.error .unavailable)⟩ := by
  obtain ⟨inside, same⟩ := List.getElem?_eq_some_iff.mp found
  have stage := fair.progress_of_unsent found unsent
  obtain ⟨message, progress⟩ := delivery
  rcases stage with rfl | rfl | rfl
  · simp [conclude, run, step, same, retired, proceed, inside]
  · simp [conclude, run, step, same, gone, proceed, inside]
  · rw [conclude_of_returned execute found, proceed, ← same, List.set_getElem_self]

end Alone

/-- Whatever senders and drains do, no message is lost or taken twice, and all are taken in order. -/
theorem run_reliable (execute : Nat × τ → σ → σ × Option Crash) (initial : σ)
    (moves more : List (Move τ)) :
    let traffic := (fresh initial).run execute moves
    Reliable execute initial traffic (traffic.run execute more) := by
  intro traffic
  have orderly : traffic.Orderly execute initial := (orderly_fresh execute initial).run moves
  have fair (send : Nat) : traffic.Fair (traffic.record send) :=
    fair_run (orderly_fresh execute initial) (fair_fresh initial send) moves
  constructor
  case present =>
    intro available
    by_contra gone
    exact absurd available (Bool.not_eq_true _ ▸ orderly.gone (Bool.not_eq_true _ ▸ gone))
  case order => exact orderly.order
  case dropped => exact fun retired => orderly.over_run retired more
  case accepted => exact fun send message => mem_entriesOf.symm.trans ((fair send).mem_accepted_iff message)
  case distinct => exact nodup_accepted fair
  case carried => exact orderly.executed
  case state => exact orderly.state
  case inOrder => exact orderly.executed_early
  case once => exact nodup_executed orderly fair
  case refused =>
    intro send message error failed
    obtain ⟨unavailable, retired, _⟩ := (fair send).of_error failed
    exact ⟨unavailable, retired, never_of_error orderly fair failed more⟩
  case late => exact fun _ retired unsent _ found => late_send orderly retired unsent more found
  case drains =>
    intro before drain among
    obtain ⟨whole, left⟩ := orderly.replays before drain among
    exact ⟨whole, whole.ran, left, fun _ found => whole.crashed found⟩
  case setWaker =>
    intro waker available
    rw [step, if_pos available]
    cases set : traffic.channel.waker <;> simp [Channel.setWaker, set]
  case firstWaker => exact (lasts_run traffic more).waker
  case wakeCalls => exact wakeCalls_run rfl moves
  case calledAfter => exact fun send unsent => (fair send).calls_eq_nil (entriesOf_eq_nil_iff.mpr unsent)
  case woken => exact fun _ _ _ set unsent sent => woken_send orderly fair set unsent more sent

end Traffic

end TreeInspector.Channel
