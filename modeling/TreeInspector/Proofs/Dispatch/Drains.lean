import Mathlib.Tactic.Common
import TreeInspector.Dispatch.Coordinator

/-! # Drains and shutdowns

A channel in use, one step at a time: senders may send between any two steps of a drain, and one drain
may follow another. Whatever happens, messages are taken in the order they were accepted and a shutdown
is the last message of the drain that takes it. So nothing behind a shutdown is run by that drain, but
it stays queued, and a later drain does run it. A task behind a shutdown is run exactly if some drain
goes on to take tasks after an earlier one met a shutdown.
-/

namespace TreeInspector.Channel

variable {τ σ : Type}

/-- A drain under way: whether it waits for senders, and the messages it took so far. -/
structure Drain (τ : Type) where
  waits : Bool
  taken : List (Message τ)

/-- A channel in use: the state its tasks work on, whether there are still senders, the drain under way,
what the drains before it took, and all messages accepted so far. -/
structure Service (τ σ : Type) where
  channel : Channel τ
  state : σ
  hasSenders : Bool
  draining : Option (Drain τ)
  finished : List (List (Message τ))
  accepted : List (Message τ)

/-- What the senders and the draining side do. -/
inductive Move (τ : Type) where
  | send (message : Message τ)
  | leave
  | start (waits : Bool) (thread : ThreadId)
  | look

namespace Service

/-- A new channel before any message. -/
def fresh (state : σ) : Service τ σ := ⟨.fresh, state, true, none, [], []⟩

/-- End the drain under way. -/
def finish (taken : List (Message τ)) (service : Service τ σ) : Service τ σ :=
  { service with draining := none, finished := service.finished ++ [taken] }

/-- Take the next message; without one, a drain ends unless it waits for senders. -/
def look (execute : τ → σ → σ × Option Crash) (drain : Drain τ) (service : Service τ σ) : Service τ σ :=
  match service.channel.queued with
  | [] => if drain.waits && service.hasSenders then service else service.finish drain.taken
  | .shutdown :: rest =>
    let next := { service with channel := { service.channel with queued := rest } }
    next.finish (drain.taken ++ [.shutdown])
  | .run task :: rest =>
    let taken := drain.taken ++ [.run task]
    let (state, crash) := execute task service.state
    let next := { service with channel := { service.channel with queued := rest }, state }
    match crash with
    | none => { next with draining := some { drain with taken } }
    | some _ => next.finish taken

/-- Make a move; a move that is not possible has no effect. -/
def step (execute : τ → σ → σ × Option Crash) (service : Service τ σ) : Move τ → Service τ σ
  | .send message =>
    if service.hasSenders then
      match service.channel.send message with
      | (.ok (), channel) => { service with channel, accepted := service.accepted ++ [message] }
      | (.error _, channel) => { service with channel }
    else service
  | .leave => { service with hasSenders := false }
  | .start waits thread =>
    match service.draining with
    | none =>
      { service with
        channel := { service.channel with owner := service.channel.owner <|> some thread }
        draining := some ⟨waits, []⟩ }
    | some _ => service
  | .look =>
    match service.draining with
    | none => service
    | some drain => service.look execute drain

/-- Make moves one after the other. -/
def run (execute : τ → σ → σ × Option Crash) (service : Service τ σ) (moves : List (Move τ)) :
    Service τ σ :=
  moves.foldl (step execute) service

/-- What each drain took, in order; the drain under way is the last one. -/
def drains (service : Service τ σ) : List (List (Message τ)) :=
  service.finished ++ [(service.draining.map Drain.taken).getD []]

/-- The messages taken so far. -/
def taken (service : Service τ σ) : List (Message τ) := service.drains.flatten

/-- A task was taken that was accepted behind a shutdown. -/
def RunsBehindShutdown (service : Service τ σ) : Prop :=
  ∃ before between task after,
    service.accepted = before ++ .shutdown :: (between ++ .run task :: after) ∧
      (before ++ .shutdown :: between).length < service.taken.length

/-- Some drain took a task after an earlier drain had met a shutdown. -/
def DrainsOn (service : Service τ σ) : Prop :=
  ∃ earlier stopped later, service.drains = earlier ++ stopped :: later ∧ .shutdown ∈ stopped ∧
    ∃ task, .run task ∈ later.flatten

/-- Messages are taken in the order they were accepted, and no drain goes past a shutdown. -/
structure Orderly (service : Service τ σ) : Prop where
  order : service.taken ++ service.channel.queued = service.accepted
  stops : ∀ drain ∈ service.finished, .shutdown ∉ drain.dropLast
  going : ∀ drain ∈ service.draining, .shutdown ∉ drain.taken

theorem taken_eq (service : Service τ σ) :
    service.taken = service.finished.flatten ++ (service.draining.map Drain.taken).getD [] := by
  simp [taken, drains]

theorem orderly_fresh (state : σ) : (fresh state : Service τ σ).Orderly where
  order := rfl
  stops := by simp [fresh]
  going := by simp [fresh]

/-- A drain may end once it took the messages that come next, a shutdown at most as the last one. -/
theorem orderly_finish {service : Service τ σ} {taken : List (Message τ)}
    (order : service.finished.flatten ++ taken ++ service.channel.queued = service.accepted)
    (stops : ∀ drain ∈ service.finished, .shutdown ∉ drain.dropLast) (last : .shutdown ∉ taken.dropLast) :
    (service.finish taken).Orderly where
  order := by simpa [taken_eq, finish] using order
  stops := by
    intro drain member
    rcases List.mem_append.mp member with before | new
    · exact stops drain before
    · rwa [List.mem_singleton.mp new]
  going := by simp [finish]

section Step

variable {service : Service τ σ} (orderly : service.Orderly)
include orderly

theorem Orderly.look (execute : τ → σ → σ × Option Crash) {drain : Drain τ}
    (current : service.draining = some drain) : (service.look execute drain).Orderly := by
  have order := orderly.order
  have going := orderly.going drain current
  rw [taken_eq, current, Option.map_some, Option.getD_some] at order
  unfold Service.look
  split
  · split
    · exact orderly
    · apply orderly_finish order orderly.stops
      exact fun stopped => going (List.dropLast_subset _ stopped)
  · next rest queued =>
    rw [queued] at order
    apply orderly_finish
    · simpa using order
    · exact orderly.stops
    · rwa [List.dropLast_concat]
  · next task rest queued =>
    rw [queued] at order
    have clear : Message.shutdown ∉ drain.taken ++ [.run task] := by simp [going]
    dsimp only
    split
    · constructor
      · simpa [taken_eq] using order
      · exact orderly.stops
      · rintro _ ⟨⟩
        exact clear
    · apply orderly_finish
      · simpa using order
      · exact orderly.stops
      · exact fun stopped => clear (List.dropLast_subset _ stopped)

theorem Orderly.step (execute : τ → σ → σ × Option Crash) (move : Move τ) :
    (service.step execute move).Orderly := by
  obtain ⟨order, stops, going⟩ := id orderly
  cases move with
  | send message =>
    dsimp only [Service.step]
    split
    · cases available : service.channel.isAvailable with
      | true =>
        rw [Channel.send, if_pos available]
        refine ⟨?_, stops, going⟩
        rw [← order, List.append_assoc]
        rfl
      | false =>
        rw [Channel.send, available]
        exact orderly
    · exact orderly
  | leave => exact ⟨order, stops, going⟩
  | start waits thread =>
    dsimp only [Service.step]
    split
    · next idle =>
      rw [taken_eq, idle] at order
      refine ⟨?_, stops, ?_⟩
      · rw [taken_eq]
        exact order
      · rintro _ ⟨⟩
        exact List.not_mem_nil
    · exact orderly
  | look =>
    dsimp only [Service.step]
    split
    · exact orderly
    · next current => exact orderly.look execute current

theorem Orderly.run (execute : τ → σ → σ × Option Crash) (moves : List (Move τ)) :
    (service.run execute moves).Orderly := by
  induction moves generalizing service with
  | nil => exact orderly
  | cons move moves ih => exact ih (orderly.step execute move)

end Step

/-- The part of a list of lists that holds an element of their concatenation. -/
private theorem exists_of_flatten {α : Type} {parts : List (List α)} {before after : List α} {element : α}
    (same : parts.flatten = before ++ element :: after) : ∃ earlier first last later,
      parts = earlier ++ (first ++ element :: last) :: later ∧ after = last ++ later.flatten := by
  induction parts generalizing before with
  | nil => simp at same
  | cons part parts ih =>
    rw [List.flatten_cons, List.append_eq_append_iff] at same
    rcases same with ⟨rest, rfl, same⟩ | ⟨rest, rfl, same⟩
    · obtain ⟨earlier, first, last, later, rfl, rfl⟩ := ih same
      exact ⟨part :: earlier, first, last, later, rfl, rfl⟩
    · cases rest with
      | nil =>
        obtain ⟨earlier, first, last, later, rfl, rfl⟩ := @ih [] same.symm
        exact ⟨(before ++ []) :: earlier, first, last, later, rfl, rfl⟩
      | cons found rest =>
        obtain ⟨rfl, rfl⟩ := List.cons_eq_cons.mp same
        exact ⟨[], before, rest, parts, rfl, rfl⟩

section Behind

variable {service : Service τ σ} (orderly : service.Orderly)
include orderly

/-- A shutdown is the last message of its drain. -/
theorem Orderly.last {before after : List (Message τ)}
    (among : before ++ .shutdown :: after ∈ service.drains) : after = [] := by
  rcases List.mem_append.mp among with finished | current
  · by_contra more
    apply orderly.stops _ finished
    rw [List.dropLast_append_of_ne_nil (List.cons_ne_nil _ _), List.dropLast_cons_of_ne_nil more]
    exact List.mem_append_right _ (.head _)
  · rw [List.mem_singleton] at current
    cases draining : service.draining with
    | none => simp [draining] at current
    | some drain =>
      rw [draining, Option.map_some, Option.getD_some] at current
      exact absurd (by simp [← current]) (orderly.going drain draining)

/-- A task behind a shutdown is run exactly if drains go on after a shutdown. -/
theorem Orderly.runsBehindShutdown_iff : service.RunsBehindShutdown ↔ service.DrainsOn := by
  constructor
  · rintro ⟨before, between, task, after, accepted, taken⟩
    -- what was taken reaches past the task
    obtain ⟨rest, same⟩ : ∃ rest,
        service.drains.flatten = before ++ .shutdown :: (between ++ .run task :: rest) := by
      have order := orderly.order
      rw [accepted, ← List.cons_append, ← List.append_assoc, List.append_eq_append_iff] at order
      rcases order with ⟨missing, short, _⟩ | ⟨rest, long, split⟩
      · rw [short, List.length_append] at taken
        omega
      · cases rest with
        | nil => simp [long] at taken
        | cons first rest =>
          obtain ⟨rfl, _⟩ := List.cons_eq_cons.mp split
          exact ⟨rest, long.trans (by simp)⟩
    obtain ⟨earlier, first, last, later, drains, behind⟩ := exists_of_flatten same
    obtain rfl : last = [] := orderly.last (drains ▸ by simp : first ++ _ ∈ service.drains)
    refine ⟨earlier, _, later, drains, by simp, task, ?_⟩
    rw [List.nil_append] at behind
    simp [← behind]
  · rintro ⟨earlier, stopped, later, drains, shut, task, ran⟩
    obtain ⟨first, last, rfl⟩ := List.mem_iff_append.mp shut
    obtain rfl : last = [] := orderly.last (drains ▸ by simp : first ++ _ ∈ service.drains)
    obtain ⟨between, rest, same⟩ := List.mem_iff_append.mp ran
    have taken : service.taken =
        (earlier.flatten ++ first) ++ .shutdown :: (between ++ .run task :: rest) := by
      simp [Service.taken, drains, same]
    refine ⟨earlier.flatten ++ first, between, task, rest ++ service.channel.queued, ?_, ?_⟩
    · rw [← orderly.order, taken]
      simp
    · rw [taken]
      simp

end Behind

/-- Whatever senders and drains do, messages are taken in the order they were accepted, and a shutdown
ends its drain; a task accepted behind one is run exactly if a later drain takes tasks. -/
theorem runsBehindShutdown_iff_drainsOn (execute : τ → σ → σ × Option Crash) (state : σ)
    (moves : List (Move τ)) :
    let service := (fresh state).run execute moves
    service.taken ++ service.channel.queued = service.accepted ∧
      (∀ before after, before ++ .shutdown :: after ∈ service.drains → after = []) ∧
        (service.RunsBehindShutdown ↔ service.DrainsOn) := by
  intro service
  have orderly : service.Orderly := (orderly_fresh state).run execute moves
  exact ⟨orderly.order, fun _ _ among => orderly.last among, orderly.runsBehindShutdown_iff⟩

/-- Two drains in a row: the first one meets the shutdown, the second one runs the task behind it. -/
theorem late_task_runs :
    let moves : List (Move Task) := [.send .shutdown, .send (.run (.note "late")), .start false 0, .look,
      .start false 0, .look]
    let service := (fresh Workspace.empty).run Workspace.execute moves
    service.RunsBehindShutdown ∧ service.state.notes = ["late:0"] := by
  intro moves service
  exact ⟨⟨[], [], .note "late", [], rfl, by decide⟩, rfl⟩

/-! ## Whole drains -/

/-- A drain that does not wait takes what a whole drain takes and leaves what it leaves. -/
theorem run_looks (execute : τ → σ → σ × Option Crash) (service : Service τ σ) {taken : List (Message τ)}
    (current : service.draining = some ⟨false, taken⟩) (ran : Nat) :
    let drained := runMessages execute service.channel.queued ran service.state
    ∃ looks consumed, consumed ++ drained.rest = service.channel.queued ∧
      service.run execute (List.replicate looks .look) =
        { service with
          channel := { service.channel with queued := drained.rest }
          state := drained.state
          draining := none
          finished := service.finished ++ [taken ++ consumed] } := by
  generalize queue : service.channel.queued = messages
  induction messages generalizing service taken ran with
  | nil =>
    have same : { service.channel with queued := [] } = service.channel := by rw [← queue]
    refine ⟨1, [], rfl, ?_⟩
    simp [run, step, current, look, queue, finish, runMessages, same]
  | cons message rest ih =>
    cases message with
    | shutdown =>
      refine ⟨1, [.shutdown], rfl, ?_⟩
      simp [run, step, current, look, queue, finish, runMessages]
    | run task =>
      cases result : execute task service.state with
      | mk state crash =>
        cases crash with
        | some crash =>
          refine ⟨1, [.run task], by simp [runMessages, result], ?_⟩
          simp [run, step, current, look, queue, finish, runMessages, result]
        | none =>
          let next : Service τ σ :=
            { service with
              channel := { service.channel with queued := rest }
              state
              draining := some ⟨false, taken ++ [.run task]⟩ }
          have first : service.step execute .look = next := by
            simp [step, current, look, queue, result, next]
          obtain ⟨looks, consumed, split, same⟩ := ih next rfl (ran + 1) rfl
          refine ⟨looks + 1, .run task :: consumed, ?_, ?_⟩
          · simpa [runMessages, result, next] using split
          · rw [List.replicate_succ, run, List.foldl_cons, first]
            simpa [run, runMessages, result, next] using same

/-- Draining at once is one of the ways to drain step by step. -/
theorem run_drain (execute : τ → σ → σ × Option Crash) (service : Service τ σ)
    (idle : service.draining = none) (thread : ThreadId) :
    let (drained, channel) := service.channel.drain execute thread service.state
    ∃ looks consumed, consumed ++ drained.rest = service.channel.queued ∧
      service.run execute (.start false thread :: List.replicate looks .look) =
        { service with
          channel
          state := drained.state
          finished := service.finished ++ [consumed] } := by
  obtain ⟨looks, consumed, split, same⟩ :=
    run_looks execute (service.step execute (.start false thread)) (by rw [step, idle]) 0
  refine ⟨looks, consumed, ?_, ?_⟩
  · simpa [step, idle] using split
  · rw [run, List.foldl_cons]
    refine same.trans ?_
    simp [step, idle]

end Service

end TreeInspector.Channel
