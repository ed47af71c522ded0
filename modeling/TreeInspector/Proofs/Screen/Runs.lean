import TreeInspector.Proofs.Dispatch.Closings
import TreeInspector.Proofs.Screen.Host

/-! # Runs of a host

Anybody may call for windows and send tasks to a host, in any order with its frames. A frame first runs
what was sent; unless a shutdown was among it, it then draws the windows that it found. A reel keeps the
frames of a run. From what one frame can do follows what holds of every frame of every run: dialogs are
kept for the open windows and belong to them alone, and the host remembers whether it ever found a
window open.
-/

namespace TreeInspector

open Registry (Ledger)

/-- What a drain does: the windows go on, messages are only taken away, and it crashes only by a task that
is a crash. -/
theorem Channel.runMessages_lawful {messages : List (Message Task)} (lawful : ∀ message ∈ messages, message.Lawful)
    (ran : Nat) (workspace : Workspace) :
    workspace.registry.Becomes (runMessages Workspace.execute messages ran workspace).state.registry ∧
    (runMessages Workspace.execute messages ran workspace).rest ⊆ messages ∧
    ∀ crash, (runMessages Workspace.execute messages ran workspace).crash = some crash →
      .run (.crash crash) ∈ messages := by
  induction messages generalizing ran workspace with
  | nil => exact ⟨.refl _, List.Subset.refl _, fun _ crashed => nomatch crashed⟩
  | cons message rest ih =>
    have later := ih fun message among => lawful message (List.mem_cons_of_mem _ among)
    cases message with
    | shutdown => exact ⟨.refl _, List.subset_cons_self .., fun _ crashed => nomatch crashed⟩
    | run task =>
      have here := Workspace.becomes_execute (lawful _ List.mem_cons_self) workspace
      rw [runMessages]
      split
      · next state executed =>
        obtain ⟨becomes, left, crashes⟩ := later (ran + 1) state
        rw [executed] at here
        exact ⟨here.trans becomes, List.subset_cons_of_subset _ left,
          fun crash crashed => List.mem_cons_of_mem _ (crashes crash crashed)⟩
      · next state cause executed =>
        rw [executed] at here
        refine ⟨here, List.subset_cons_self .., fun crash crashed => ?_⟩
        cases crashed
        cases task with
        | crash other =>
          cases executed
          exact List.mem_cons_self
        | _ => cases executed

section Sending

variable (coordinator : Coordinator)

theorem Coordinator.send_spec (message : Message Task) :
    (coordinator.send message).2.workspace = coordinator.workspace ∧
    ∀ other ∈ (coordinator.send message).2.channel.queued,
      other ∈ coordinator.channel.queued ∨ other = message := by
  unfold Coordinator.send Channel.send
  split_ifs
  · exact ⟨rfl, fun other queued => (List.mem_append.mp queued).imp_right List.mem_singleton.mp⟩
  · exact ⟨rfl, fun other queued => .inl queued⟩

theorem Coordinator.openWindow_spec (session : Session) :
    (coordinator.openWindow session).2.workspace.registry = coordinator.workspace.registry ∧
    ∀ other ∈ (coordinator.openWindow session).2.channel.queued,
      other ∈ coordinator.channel.queued ∨ ∃ call, other = .run (.openWindow call session) := by
  cases available : coordinator.channel.isAvailable with
  | false =>
    have refused : coordinator.openWindow session = (.error .unavailable, coordinator) := by
      simp [openWindow, beginOpen, available]
    rw [refused]
    exact ⟨rfl, fun other queued => .inl queued⟩
  | true =>
    simp only [openWindow, beginOpen, available, if_true, marshal, submit, send, Channel.send, true_and]
    intro other queued
    exact (List.mem_append.mp queued).imp_right fun last => ⟨_, List.mem_singleton.mp last⟩

end Sending

namespace Host

/-- The host once it has run what was sent to it. -/
def found (host : Host) : Host := { host with coordinator := (host.coordinator.drain thread).2 }

/-- Whether a shutdown was among what was sent. -/
def isStopped (host : Host) : Bool := (host.coordinator.drain thread).1.stopped

/-- The messages that were sent and not run yet. -/
def queued (host : Host) : List (Message Task) := host.coordinator.channel.queued

/-- All messages sent to a host act by operations of the registry. -/
def Lawful (host : Host) : Prop := ∀ message ∈ host.queued, message.Lawful

section Frame

variable {host : Host} (orderly : host.Orderly) (lawful : host.Lawful)

include orderly in
/-- A host stays in working order while its windows go on. -/
theorem Orderly.goOn {next : Host} (becomes : host.registry.Becomes next.registry)
    (dialogs : next.dialogs = host.dialogs) : next.Orderly := by
  obtain ⟨handles, operations, accounts⟩ := orderly.accounts
  obtain ⟨later, more, accounts, _⟩ := becomes.accounts accounts
  have keys : next.keys = host.keys := congrArg (List.map Prod.fst) dialogs
  exact ⟨⟨later, _, accounts⟩, keys ▸ orderly.distinct,
    fun id key => (orderly.known id (keys ▸ key)).trans becomes.extends.1⟩

include orderly in
theorem Orderly.ids_closeAll : (host.setRegistry host.registry.closeAll).ids = [] := by
  obtain ⟨_, _, accounts⟩ := orderly.accounts
  exact congrArg (List.map Window.id) accounts.closeAll.1

include lawful in
theorem Lawful.becomes : host.registry.Becomes host.found.registry :=
  (Channel.runMessages_lawful lawful 0 host.coordinator.workspace).1

include lawful in
theorem Lawful.found_queued : host.found.queued ⊆ host.queued :=
  (Channel.runMessages_lawful lawful 0 host.coordinator.workspace).2.1

include lawful in
theorem Lawful.found : host.found.Lawful := fun message left => lawful message (lawful.found_queued left)

include orderly lawful

theorem Orderly.found : host.found.Orderly := orderly.goOn lawful.becomes rfl

/-- What a frame can do: a task crashes, or a shutdown closes all windows, or the windows that are found
are drawn. -/
theorem Orderly.frame_cases (input : HostInput) :
    (∃ crash, host.frame input = .error crash ∧ .run (.crash crash) ∈ host.queued) ∨
    host.isStopped = true ∧
      host.frame input = .ok ([.close], host.found.setRegistry host.found.registry.closeAll) ∨
    host.isStopped = false ∧ ∃ after, Draws host.found input after ∧
      after.expansion = host.expansion.toggleAll (host.found.ids.filterMap (host.found.toggled? input)) ∧
      host.frame input = .ok (host.found.rootCommands input ++ after.idleCommands, after) := by
  have crashes := (Channel.runMessages_lawful lawful 0 host.coordinator.workspace).2.2
  cases crashed : (host.coordinator.drain thread).1.crash with
  | some crash =>
    refine .inl ⟨crash, ?_, crashes crash crashed⟩
    simp only [frame, crashed]
  | none =>
    cases stopped : (host.coordinator.drain thread).1.stopped with
    | true =>
      refine .inr (.inl ⟨stopped, ?_⟩)
      simp only [frame, crashed, stopped]
      rfl
    | false =>
      obtain ⟨after, drew, draws, expansion⟩ := (orderly.found lawful).draw input
      refine .inr (.inr ⟨stopped, after, draws, expansion, ?_⟩)
      simp only [frame, crashed, stopped]
      exact drew

end Frame

/-! ## Frames of a run -/

/-- A frame that was drawn: the host before it, what the user did, what was asked of the root viewport and
the host behind it. -/
structure Take where
  before : Host
  input : HostInput
  commands : List ViewportCommand
  after : Host

/-- The windows that a frame found open and drew. -/
def Take.drew (take : Take) : List WindowId := if take.before.isStopped then [] else take.before.found.ids

/-- The windows that the tasks of a frame opened, in the order of their opening. -/
def Take.opened (take : Take) : List WindowId :=
  take.before.found.registry.opened.drop take.before.registry.opened.length

/-- Those of them that the frame still found open and drew. -/
def Take.presented (take : Take) : List WindowId := take.opened.filter (· ∈ take.drew)

/-- What can happen to a host: somebody calls for a window or sends something else, or a frame is drawn. -/
inductive Move where
  | call (session : Session)
  | post (errand : Errand)
  | frame (input : HostInput)

/-- A host with the frames that it has drawn. -/
structure Reel where
  host : Host
  takes : List Take

namespace Reel

/-- A host that has drawn nothing. -/
def fresh (options : HostOptions) (disk : Disk) : Reel := ⟨.fresh options disk, []⟩

/-- Replace the coordinator of the host. -/
def setCoordinator (coordinator : Coordinator) (reel : Reel) : Reel :=
  { reel with host := { reel.host with coordinator } }

/-- Let something happen. -/
def step (reel : Reel) : Move → Except Crash Reel
  | .call session => .ok (reel.setCoordinator (reel.host.coordinator.openWindow session).2)
  | .post errand => .ok (reel.setCoordinator (reel.host.coordinator.send errand.message).2)
  | .frame input => do
    let (commands, after) ← reel.host.frame input
    return ⟨after, reel.takes ++ [⟨reel.host, input, commands, after⟩]⟩

/-- Let things happen one after the other. -/
def run (reel : Reel) (moves : List Move) : Except Crash Reel := moves.foldlM step reel

end Reel

/-- What every frame keeps to. -/
structure Take.Faithful (take : Take) : Prop where
  /-- The first window is the one with the smallest number, and stays so. -/
  found : take.before.found.ids.Pairwise (· < ·)
  after : take.after.ids.Pairwise (· < ·)
  /-- A new window has no dialogs yet, its own or another's. -/
  starts : ∀ id ∈ take.before.found.ids, id ∉ take.before.ids → take.before.dialogsOf id = .none
  /-- Without a shutdown, the windows that were found are drawn. -/
  drawn : take.before.isStopped = false → Draws take.before.found take.input take.after
  /-- The dialogs of a window stay as they are if nothing is done to them and no export is asked for. -/
  untouched : ∀ window ∈ take.before.found.registry.windows, window.id ∈ take.after.ids →
    (take.input.windows window.id).dialogs = FrameInput.none.dialogs →
    ((take.input.windows window.id).png && !(take.before.dialogsOf window.id).isModal ||
      window.exportRequested) = false →
    take.after.dialogsOf window.id = take.before.dialogsOf window.id
  /-- The root viewport is kept if it was asked to close and there are other windows. -/
  cancels : .cancelClose ∈ take.commands ↔ take.before.isStopped = false ∧
    take.input.closeRoot = true ∧ 1 < take.before.found.ids.length
  /-- A shutdown closes all windows, and the host asks to be closed. -/
  stopped : take.before.isStopped = true → take.after.ids = [] ∧ .close ∈ take.commands

/-- A host goes on from the frames that it has drawn: windows and dialogs are as the last one left them. -/
structure Resumes (start : Host) (earlier : List Take) (host : Host) : Prop where
  options : host.options = start.options
  dialogs : host.dialogs = ((earlier.getLast?.map Take.after).getD start).dialogs
  registry : host.registry = ((earlier.getLast?.map Take.after).getD start).registry
  seen : host.seenWindow = earlier.any fun take => !take.drew.isEmpty

/-- A frame goes on from the frames before it. -/
structure Take.Follows (start : Host) (earlier : List Take) (take : Take) : Prop where
  resumes : Resumes start earlier take.before
  commands : take.before.isStopped = false →
    take.commands = take.before.found.rootCommands take.input ++ take.after.idleCommands

theorem Draws.untouched {found after : Host} {input : HostInput} (draws : Draws found input after)
    {window : Window} (member : window ∈ found.registry.windows) (stays : window.id ∈ after.ids)
    (quiet : (input.windows window.id).dialogs = FrameInput.none.dialogs)
    (unasked : ((input.windows window.id).png && !(found.dialogsOf window.id).isModal ||
      window.exportRequested) = false) : after.dialogsOf window.id = found.dialogsOf window.id := by
  obtain ⟨drawn, ⟨screen, rfl, dialogs, _, did⟩, kept, _⟩ := draws.drawn window member stays
  rw [← dialogs] at unasked
  rw [kept, did.dialogs quiet unasked, dialogs]

theorem cancelClose_mem_rootCommands {found : Host} {input : HostInput} :
    .cancelClose ∈ found.rootCommands input ↔ input.closeRoot = true ∧ 1 < found.ids.length := by
  rw [rootCommands]
  split_ifs with kept
  · simpa using kept
  · simpa using kept

theorem close_notMem_rootCommands (found : Host) (input : HostInput) : .close ∉ found.rootCommands input := by
  rw [rootCommands]
  split_ifs <;> simp

theorem cancelClose_notMem_idleCommands (host : Host) : .cancelClose ∉ host.idleCommands := by
  rw [idleCommands]
  split_ifs <;> simp

section Faithful

variable {host : Host} (orderly : host.Orderly) (lawful : host.Lawful)
include orderly lawful

theorem Orderly.starts : ∀ id ∈ host.found.ids, id ∉ host.ids → host.dialogsOf id = .none := by
  intro id shown absent
  apply dialogsOf_of_notMem
  intro key
  -- Dialogs are kept for numbers that were given out, and these are not given out again.
  rcases lawful.becomes.extends.2 id shown with before | new
  · exact absent before
  · exact Nat.lt_irrefl _ (new.trans_le (orderly.known id key))

/-- A shutdown makes a faithful frame. -/
theorem Orderly.faithful_of_stopped (stopped : host.isStopped = true) (input : HostInput) : Take.Faithful
    ⟨host, input, [.close], host.found.setRegistry host.found.registry.closeAll⟩ where
  found := (orderly.found lawful).increasing
  after := by
    rw [(orderly.found lawful).ids_closeAll]
    exact .nil
  starts := orderly.starts lawful
  drawn going := nomatch stopped.symm.trans going
  untouched := by
    intro window _ stays
    rw [(orderly.found lawful).ids_closeAll] at stays
    cases stays
  cancels := by simp [stopped]
  stopped _ := ⟨(orderly.found lawful).ids_closeAll, List.mem_singleton_self _⟩

/-- Drawing the windows makes a faithful frame. -/
theorem Orderly.faithful_of_draws (going : host.isStopped = false) {input : HostInput} {after : Host}
    (draws : Draws host.found input after) :
    Take.Faithful ⟨host, input, host.found.rootCommands input ++ after.idleCommands, after⟩ where
  found := (orderly.found lawful).increasing
  after := (draws.orderly (orderly.found lawful)).increasing
  starts := orderly.starts lawful
  drawn _ := draws
  untouched _ member stays quiet unasked := draws.untouched member stays quiet unasked
  cancels := by
    rw [List.mem_append, cancelClose_mem_rootCommands,
      or_iff_left (cancelClose_notMem_idleCommands after), and_iff_right going]
  stopped stopped := nomatch going.symm.trans stopped

end Faithful

/-- A window that a frame drew and that was not there before was opened by the frame's tasks. -/
theorem Take.mem_presented {take : Take} (orderly : take.before.Orderly) (lawful : take.before.Lawful) {id : WindowId}
    (drew : id ∈ take.drew) (absent : id ∉ take.before.ids) : id ∈ take.presented := by
  obtain ⟨_, _, accounts⟩ := orderly.accounts
  obtain ⟨_, _, accountsFound⟩ := (orderly.found lawful).accounts
  have shown : id ∈ take.before.found.ids := by
    rw [Take.drew] at drew
    split_ifs at drew
    · cases drew
    · exact drew
  have opened : id ∈ take.before.found.registry.opened := by
    rw [accountsFound.opened_eq]
    exact ((accountsFound.opened id).mp ((Registry.isOpen_iff ..).mpr shown)).1
  obtain ⟨_, _, grown⟩ := lawful.becomes.performed
  rw [grown, List.mem_append] at opened
  rcases opened with before | new
  · -- A number that was given out before and is not open any more is never open again.
    rw [accounts.opened_eq] at before
    have known : id ≤ take.before.registry.attempts := accounts.attempts ▸ accounts.known before
    rcases lawful.becomes.extends.2 id shown with present | fresh
    · exact absurd present absent
    · exact absurd known (Nat.not_le.mpr fresh)
  · exact List.mem_filter.mpr ⟨new, decide_eq_true drew⟩

theorem Take.drew_of_presented {take : Take} (presented : take.presented ≠ []) : take.drew ≠ [] := by
  obtain ⟨id, member⟩ := List.exists_mem_of_ne_nil _ presented
  exact List.ne_nil_of_mem (of_decide_eq_true (List.mem_filter.mp member).2)

/-- A frame that drew no window leaves none open. -/
theorem Take.Faithful.ids_after {take : Take} (faithful : take.Faithful)
    (unseen : take.drew = []) : take.after.ids = [] := by
  cases stopped : take.before.isStopped with
  | true => exact (faithful.stopped stopped).1
  | false =>
    have found : take.before.found.ids = [] := by rwa [Take.drew, stopped] at unseen
    rw [(faithful.drawn stopped).ids, found, List.filter_nil]

/-! ## What a run keeps -/

/-- Where a run stands that began with some host: the host is in working order, and every frame so far
was faithful and went on from those before it. -/
structure Reel.Consistent (start : Host) (moves : List Move) (reel : Reel) : Prop where
  orderly : reel.host.Orderly
  lawful : reel.host.Lawful
  posted : ∀ crash, .run (.crash crash) ∈ reel.host.queued → .post (.crash crash) ∈ moves
  resumes : Resumes start reel.takes reel.host
  faithful : ∀ take ∈ reel.takes, take.Faithful
  met : ∀ take ∈ reel.takes, take.before.Orderly ∧ take.before.Lawful
  follows : ∀ earlier take, earlier ++ [take] <+: reel.takes → Take.Follows start earlier take

namespace Reel

theorem consistent_fresh (options : HostOptions) (disk : Disk) :
    (fresh options disk).Consistent (.fresh options disk) [] where
  orderly := ⟨⟨[], [], Ledger.accounts_empty⟩, .nil, fun _ key => nomatch key⟩
  lawful := fun _ queued => nomatch queued
  posted := fun _ queued => nomatch queued
  resumes := ⟨rfl, rfl, rfl, rfl⟩
  faithful := fun _ taken => nomatch taken
  met := fun _ taken => nomatch taken
  follows := by
    intro earlier take begins
    cases List.append_eq_nil_iff.mp (List.prefix_nil.mp begins) |>.2

section Step

variable {start : Host} {moves : List Move} {reel : Reel} (consistent : reel.Consistent start moves)
include consistent

/-- Sending something leaves all but the queue as it is. -/
theorem Consistent.setCoordinator {more : List Move} {coordinator : Coordinator}
    (registry : coordinator.workspace.registry = reel.host.registry)
    (sent : ∀ message ∈ coordinator.channel.queued, message ∈ reel.host.queued ∨ message.Lawful ∧
      ∀ crash, message = .run (.crash crash) → .post (.crash crash) ∈ moves ++ more) :
    (reel.setCoordinator coordinator).Consistent start (moves ++ more) where
  orderly := consistent.orderly.goOn (registry ▸ .refl _) rfl
  lawful := fun message queued => (sent message queued).elim (consistent.lawful message) And.left
  posted := by
    intro crash queued
    rcases sent _ queued with earlier | ⟨_, own⟩
    · exact List.mem_append_left _ (consistent.posted crash earlier)
    · exact own crash rfl
  resumes := { consistent.resumes with registry := registry.trans consistent.resumes.registry }
  faithful := consistent.faithful
  met := consistent.met
  follows := consistent.follows

/-- A faithful frame continues a run. -/
theorem Consistent.take {input : HostInput} {commands : List ViewportCommand} {after : Host} (more : List Move)
    (orderly : after.Orderly) (queued : after.queued = reel.host.found.queued)
    (options : after.options = reel.host.options) (seen : after.seenWindow =
      (reel.host.seenWindow || !(Take.mk reel.host input commands after).drew.isEmpty))
    (faithful : (Take.mk reel.host input commands after).Faithful)
    (asked : reel.host.isStopped = false →
      commands = reel.host.found.rootCommands input ++ after.idleCommands) :
    Consistent start (moves ++ more) ⟨after, reel.takes ++ [⟨reel.host, input, commands, after⟩]⟩ where
  orderly := orderly
  lawful := fun message left => consistent.lawful.found message (queued ▸ left)
  posted := by
    intro crash left
    rw [queued] at left
    exact List.mem_append_left _ (consistent.posted crash (consistent.lawful.found_queued left))
  resumes := by
    refine ⟨options.trans consistent.resumes.options, by simp, by simp, ?_⟩
    rw [seen, consistent.resumes.seen, List.any_append]
    simp
  faithful := by
    intro take taken
    rcases List.mem_append.mp taken with earlier | last
    · exact consistent.faithful take earlier
    · exact List.mem_singleton.mp last ▸ faithful
  met := by
    intro take taken
    rcases List.mem_append.mp taken with earlier | last
    · exact consistent.met take earlier
    · exact List.mem_singleton.mp last ▸ ⟨consistent.orderly, consistent.lawful⟩
  follows := by
    intro earlier take begins
    rcases List.prefix_concat_iff.mp begins with whole | shorter
    · obtain ⟨rfl, rfl⟩ := List.append_singleton_inj.mp whole
      exact ⟨consistent.resumes, asked⟩
    · exact consistent.follows earlier take shorter

theorem Consistent.frame (input : HostInput) :
    (∃ crash, reel.step (.frame input) = .error crash ∧ .post (.crash crash) ∈ moves) ∨
    ∃ next, reel.step (.frame input) = .ok next ∧ next.Consistent start (moves ++ [.frame input]) := by
  have orderly := consistent.orderly.found consistent.lawful
  rcases consistent.orderly.frame_cases consistent.lawful input with
    ⟨crash, ran, queued⟩ | ⟨stopped, ran⟩ | ⟨going, after, draws, _, ran⟩
  · refine .inl ⟨crash, ?_, consistent.posted crash queued⟩
    rw [step, ran]
    rfl
  · refine .inr ⟨_, bind_eq_ok_iff.mpr ⟨_, ran, rfl⟩, consistent.take _ ?_ rfl rfl ?_ ?_ ?_⟩
    · exact orderly.goOn (.closeAll _) rfl
    · rw [Take.drew, stopped]
      exact (Bool.or_false _).symm
    · exact consistent.orderly.faithful_of_stopped consistent.lawful stopped input
    · exact fun going => nomatch stopped.symm.trans going
  · refine .inr ⟨_, bind_eq_ok_iff.mpr ⟨_, ran, rfl⟩, consistent.take _ ?_ ?_ draws.options ?_ ?_ ?_⟩
    · exact draws.orderly orderly
    · exact congrArg Channel.queued draws.channel
    · rw [draws.seen, Take.drew, going]
      rfl
    · exact consistent.orderly.faithful_of_draws consistent.lawful going draws
    · exact fun _ => rfl

/-- Whatever happens next, the run goes on, unless a task that was sent is a crash. -/
theorem Consistent.step (move : Move) :
    (∃ crash, reel.step move = .error crash ∧ .post (.crash crash) ∈ moves) ∨
    ∃ next, reel.step move = .ok next ∧ next.Consistent start (moves ++ [move]) := by
  cases move with
  | call session =>
    obtain ⟨registry, sent⟩ := reel.host.coordinator.openWindow_spec session
    refine .inr ⟨_, rfl, consistent.setCoordinator registry fun message queued => ?_⟩
    rcases sent message queued with earlier | ⟨call, rfl⟩
    · exact .inl earlier
    · exact .inr ⟨trivial, fun _ same => nomatch same⟩
  | post errand =>
    obtain ⟨workspace, sent⟩ := reel.host.coordinator.send_spec errand.message
    refine .inr ⟨_, rfl, consistent.setCoordinator (congrArg _ workspace) fun message queued => ?_⟩
    rcases sent message queued with earlier | rfl
    · exact .inl earlier
    · refine .inr ⟨errand.lawful_message, fun crash same => List.mem_append_right _ ?_⟩
      cases errand with
      | crash cause =>
        cases same
        exact List.mem_singleton_self _
      | _ => cases same
  | frame input => exact consistent.frame input

/-- A run goes on as long as no task that was sent is a crash. -/
theorem Consistent.run (more : List Move) :
    (∃ crash, reel.run more = .error crash ∧ .post (.crash crash) ∈ moves ++ more) ∨
    ∃ last, reel.run more = .ok last ∧ last.Consistent start (moves ++ more) := by
  induction more generalizing reel moves with
  | nil => exact .inr ⟨reel, rfl, (List.append_nil moves).symm ▸ consistent⟩
  | cons move more ih =>
    rcases consistent.step move with ⟨crash, crashed, posted⟩ | ⟨next, stepped, consistent⟩
    · refine .inl ⟨crash, ?_, List.mem_append_left _ posted⟩
      rw [Reel.run, List.foldlM_cons, crashed]
      rfl
    · have later := ih consistent
      rw [List.append_assoc, List.singleton_append] at later
      rw [Reel.run, List.foldlM_cons, stepped]
      exact later

end Step

/-- Every run of a host crashes by a task that was sent, or keeps to its course. -/
theorem run_consistent (options : HostOptions) (disk : Disk) (moves : List Move) :
    (∃ crash, (fresh options disk).run moves = .error crash ∧ .post (.crash crash) ∈ moves) ∨
    ∃ reel, (fresh options disk).run moves = .ok reel ∧ reel.Consistent (.fresh options disk) moves :=
  (consistent_fresh options disk).run moves

/-! ## Windows that a frame opened -/

section Opening

variable {start : Host} {moves : List Move} {reel : Reel} (consistent : reel.Consistent start moves)
  (unopened : start.ids = [])
include consistent

/-- The operations of a frame's tasks give handles for the windows that the frame opened. -/
theorem Consistent.performed {take : Take} (taken : take ∈ reel.takes) : ∃ operations,
    Ledger.performAll ⟨take.before.registry, []⟩ operations = .ok ⟨take.before.found.registry, take.opened⟩ := by
  obtain ⟨operations, performed, _⟩ := (consistent.met take taken).2.becomes.performed
  exact ⟨operations, performed⟩

include unopened

/-- As long as no frame drew a window, none is open between the frames. -/
theorem Consistent.ids_before {earlier : List Take} {take : Take} (begins : earlier ++ [take] <+: reel.takes)
    (unseen : ∀ other ∈ earlier, other.drew = []) : take.before.ids = [] := by
  have resumed : take.before.ids = ((earlier.getLast?.map Take.after).getD start).ids :=
    congrArg (fun registry => registry.windows.map Window.id)
      (consistent.follows earlier take begins).resumes.registry
  rw [resumed]
  cases last : earlier.getLast? with
  | none => exact unopened
  | some other =>
    have among : other ∈ earlier := List.mem_of_getLast? last
    have taken : other ∈ reel.takes := begins.subset (List.mem_append_left _ among)
    exact (consistent.faithful other taken).ids_after (unseen other among)

/-- The first frame that draws a window begins without any, so its own tasks opened what it draws. -/
theorem Consistent.exists_presented {takes : List Take} (begins : takes <+: reel.takes)
    (drew : ∃ other ∈ takes, other.drew ≠ []) : ∃ other ∈ takes, other.presented ≠ [] := by
  induction takes using List.reverseRecOn with
  | nil => simp at drew
  | append_singleton earlier take ih =>
    by_cases before : ∃ other ∈ earlier, other.drew ≠ []
    · obtain ⟨other, among, presented⟩ := ih ((List.prefix_append ..).trans begins) before
      exact ⟨other, List.mem_append_left _ among, presented⟩
    · push Not at before
      have last : take ∈ earlier ++ [take] := List.mem_concat_self
      obtain ⟨other, among, drew⟩ := drew
      obtain rfl : other = take := by
        rcases List.mem_append.mp among with early | same
        · exact absurd (before other early) drew
        · exact List.mem_singleton.mp same
      obtain ⟨id, member⟩ := List.exists_mem_of_ne_nil _ drew
      obtain ⟨orderly, lawful⟩ := consistent.met other (begins.subset last)
      have absent : id ∉ other.before.ids := by
        rw [consistent.ids_before unopened begins before]
        exact List.not_mem_nil
      exact ⟨other, last, List.ne_nil_of_mem (Take.mem_presented orderly lawful member absent)⟩

/-- Some frame has drawn a window if and only if some frame has drawn one that its own tasks opened. -/
theorem Consistent.exists_drew_iff {takes : List Take} (begins : takes <+: reel.takes) :
    (∃ other ∈ takes, other.drew ≠ []) ↔ ∃ other ∈ takes, other.presented ≠ [] :=
  ⟨consistent.exists_presented unopened begins,
    fun ⟨other, among, presented⟩ => ⟨other, among, Take.drew_of_presented presented⟩⟩

end Opening

/-! ## When a host asks to be closed

A host that is to leave when it is idle should do so when the last of the windows that were ever opened through
it is gone. But it looks for windows only once in a frame, behind the tasks and only if there was no shutdown
among them. A window that is gone by then, closed by a later task of the same frame, leaves no trace.
-/

section Closing

variable {start : Host} {moves : List Move} {reel : Reel} (consistent : reel.Consistent start moves)
  {earlier : List Take} {take : Take} (begins : earlier ++ [take] <+: reel.takes)
include consistent begins

/-- A frame remembers the windows that it and the frames before it have drawn. -/
theorem Consistent.seenWindow_after (going : take.before.isStopped = false) :
    take.after.seenWindow = true ↔ ∃ other ∈ earlier ++ [take], other.drew ≠ [] := by
  have taken : take ∈ reel.takes := begins.subset List.mem_concat_self
  have draws := (consistent.faithful take taken).drawn going
  have before : take.before.found.seenWindow = earlier.any fun take => !take.drew.isEmpty :=
    (consistent.follows earlier take begins).resumes.seen
  have here : take.drew = take.before.found.ids := by rw [Take.drew, going]; rfl
  have together : take.after.seenWindow = (earlier ++ [take]).any fun take => !take.drew.isEmpty := by
    rw [draws.seen, before, List.any_append, List.any_cons, List.any_nil, Bool.or_false, here]
  rw [together, List.any_eq_true]
  simp

/-- A frame that draws asks for the host to be closed exactly if the host is to leave when it is idle, no
window is left, and some frame so far has drawn a window. -/
theorem Consistent.close_mem_iff (going : take.before.isStopped = false) : .close ∈ take.commands ↔
    start.options.exitWhenIdle = true ∧ take.after.ids = [] ∧ ∃ other ∈ earlier ++ [take], other.drew ≠ [] := by
  have taken : take ∈ reel.takes := begins.subset List.mem_concat_self
  have follows := consistent.follows earlier take begins
  have options : take.after.options = start.options :=
    ((consistent.faithful take taken).drawn going).options.trans follows.resumes.options
  have elsewhere := close_notMem_rootCommands take.before.found take.input
  rw [follows.commands going, List.mem_append, or_iff_right elsewhere, idleCommands, options,
    ← consistent.seenWindow_after begins going]
  split_ifs with idle
  · simpa [and_assoc, and_comm] using idle
  · simpa [and_assoc, and_comm] using idle

end Closing

/-- A frame without a shutdown ends with no window open, though some window was opened so far. -/
structure Idles (earlier : List Take) (take : Take) : Prop where
  going : take.before.isStopped = false
  idle : take.after.ids = []
  opened : ∃ other ∈ earlier ++ [take], other.opened ≠ []

/-- Every such frame asks for the host to be closed. -/
def ClosesIdle (reel : Reel) : Prop :=
  ∀ earlier take, earlier ++ [take] <+: reel.takes → Idles earlier take → .close ∈ take.commands

/-- At every such frame, some window that was opened so far was still open when the frame that opened it came to
draw. -/
def PresentsOpened (reel : Reel) : Prop :=
  ∀ earlier take, earlier ++ [take] <+: reel.takes → Idles earlier take →
    ∃ other ∈ earlier ++ [take], other.presented ≠ []

/-- When a host that is to leave when it is idle asks to be closed. -/
structure Departs (reel : Reel) : Prop where
  /-- The windows that a frame opened are those that its tasks gave handles for. -/
  opened : ∀ take ∈ reel.takes, ∃ operations, Ledger.performAll ⟨take.before.registry, []⟩ operations =
    .ok ⟨take.before.found.registry, take.opened⟩
  /-- Without a shutdown, a frame asks to be closed if it ends with no window open and a window was drawn so
  far by the frame that opened it, and only then. -/
  closes : ∀ earlier take, earlier ++ [take] <+: reel.takes → take.before.isStopped = false →
    (.close ∈ take.commands ↔ take.after.ids = [] ∧ ∃ other ∈ earlier ++ [take], other.presented ≠ [])
  closesIdle_iff : reel.ClosesIdle ↔ reel.PresentsOpened
  /-- As long as no window was opened and there was no shutdown, no frame asks to be closed. -/
  quiet : ∀ earlier take, earlier ++ [take] <+: reel.takes →
    (∀ other ∈ earlier ++ [take], other.before.isStopped = false ∧ other.opened = []) → .close ∉ take.commands

/-- A host that is to leave when it is idle: in every run, unless a task that was sent crashes, a frame without a
shutdown asks for the host to be closed if and only if it ends with no window open and some window so far was
still open when the frame that opened it came to draw. So the host always leaves when the last of the windows
that were opened is gone exactly if every time one of them was there to be drawn. -/
theorem run_closes_idle (disk : Disk) (embedded : Bool) (revealer : Revealer) (moves : List Move) :
    (∃ crash, (fresh ⟨true, embedded, revealer⟩ disk).run moves = .error crash ∧
      .post (.crash crash) ∈ moves) ∨
    ∃ reel, (fresh ⟨true, embedded, revealer⟩ disk).run moves = .ok reel ∧ reel.Departs := by
  refine (run_consistent ⟨true, embedded, revealer⟩ disk moves).imp_right ?_
  rintro ⟨reel, ran, consistent⟩
  have closes (earlier : List Take) (take : Take) (begins : earlier ++ [take] <+: reel.takes)
      (going : take.before.isStopped = false) : .close ∈ take.commands ↔
        take.after.ids = [] ∧ ∃ other ∈ earlier ++ [take], other.presented ≠ [] := by
    rw [consistent.close_mem_iff begins going, consistent.exists_drew_iff rfl begins]
    exact and_iff_right rfl
  refine ⟨reel, ran, fun take taken => consistent.performed taken, closes, ?_, ?_⟩
  · refine forall₄_congr fun earlier take begins idles => ?_
    rw [closes earlier take begins idles.going, and_iff_right idles.idle]
  · intro earlier take begins unopened asked
    have last : take ∈ earlier ++ [take] := List.mem_concat_self
    obtain ⟨_, other, among, presented⟩ := (closes earlier take begins (unopened take last).1).mp asked
    obtain ⟨id, member⟩ := List.exists_mem_of_ne_nil _ presented
    have opened := (List.mem_filter.mp member).1
    rw [(unopened other among).2] at opened
    cases opened

/-- A tree of one leaf. -/
def leaf : Session := { root := .node (.text "leaf") false none [], rules := .empty }

/-- A window is called for and all windows are closed, before a frame is drawn: the window was opened, none is
left, and the host does not ask to be closed, then and in the frame after. -/
theorem unseen_window_never_closes :
    ∃ reel, (fresh ⟨true, false, systemRevealer false⟩ (.empty ["home"])).run
      [.call leaf, .post (.act .closeAll), .frame .none, .frame .none] = .ok reel ∧
    reel.takes.map Take.opened = [[1], []] ∧ reel.takes.map (·.after.ids) = [[], []] ∧
    reel.takes.map Take.commands = [[], []] ∧ ¬reel.ClosesIdle := by
  have evaluated : ((fresh ⟨true, false, systemRevealer false⟩ (.empty ["home"])).run
      [.call leaf, .post (.act .closeAll), .frame .none, .frame .none]).toOption.map (fun reel =>
        (reel.takes.map Take.opened, reel.takes.map (·.after.ids), reel.takes.map Take.commands,
          reel.takes.map (·.before.isStopped))) = some ([[1], []], [[], []], [[], []], [false, false]) := by
    decide +kernel
  simp only [Option.map_eq_some_iff, toOption_eq_some_iff, Prod.mk.injEq] at evaluated
  obtain ⟨reel, ran, opened, left, commands, stopped⟩ := evaluated
  refine ⟨reel, ran, opened, left, commands, fun closes => ?_⟩
  obtain ⟨first, rest, cut, opens, _⟩ := List.map_eq_cons_iff.mp opened
  rw [cut, List.map_cons, List.cons.injEq] at left commands stopped
  have idles : Idles [] first := ⟨stopped.1, left.1, first, List.mem_singleton_self _, by simp [opens]⟩
  have asked := closes [] first ⟨rest, cut.symm⟩ idles
  rw [commands.1] at asked
  cases asked

-- A window that a frame has drawn is missed once its ok button was pressed.
example : ((fresh ⟨true, false, systemRevealer false⟩ (.empty ["home"])).run
    [.call leaf, .frame .none, .post (.act (.handle 1 (.press .ok))), .frame .none]).toOption.map (fun reel =>
      reel.takes.map fun take => (take.presented, take.commands)) = some [([1], []), ([], [.close])] := by
  decide +kernel

end Reel

end Host

end TreeInspector
