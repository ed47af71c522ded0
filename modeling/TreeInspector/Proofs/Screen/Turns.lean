import TreeInspector.Proofs.Screen.Frames
import TreeInspector.Proofs.Screen.Prompts

/-! # One dialog at a time

A run of frames starts without dialogs, and every frame meets its own disk, rasterizer, encoder and desktop.
An export is asked for only while no dialog is open, in the frame that also begins it; the answer of a
prompt closes it before a notice appears. So after every frame at most one dialog is open, no request is
left over, and what is pending goes away only by what the user does to it.
-/

namespace TreeInspector

namespace Dialogs

/-- No dialog is open, or one prompt, or one notice. -/
inductive Single : Dialogs → Prop
  | none : Single .none
  | prompt (prompt : SavePrompt) : Single ⟨some prompt, []⟩
  | notice (notice : Notice) : Single ⟨.none, [notice]⟩

theorem Single.few {dialogs : Dialogs} (single : dialogs.Single) :
    (dialogs.prompt = .none ∨ dialogs.notices = []) ∧ dialogs.notices.length ≤ 1 := by
  cases single with
  | none => exact ⟨.inl rfl, Nat.zero_le 1⟩
  | prompt prompt => exact ⟨.inr rfl, Nat.zero_le 1⟩
  | notice notice => exact ⟨.inl rfl, le_rfl⟩

theorem eq_none_of_not_isModal {dialogs : Dialogs} (idle : dialogs.isModal = false) : dialogs = .none := by
  obtain ⟨prompt, notices⟩ := dialogs
  simp only [isModal, Bool.or_eq_false_iff, Option.isSome_eq_false_iff, Option.isNone_iff_eq_none,
    Bool.not_eq_false', List.isEmpty_iff] at idle
  rw [idle.1, idle.2, Dialogs.none]

/-- An outcome leaves at most one notice. -/
theorem single_notify (notice : Option Notice) : (notify notice .none).Single := by
  cases notice with
  | none => exact .none
  | some notice => exact .notice notice

/-- An export that begins opens its prompt or leaves the notice of its failure. -/
theorem beginExport_cases (view : Renderable) (disk : Disk) :
    (∃ pending, Export.start view disk = .ok pending ∧
      Dialogs.none.beginExport view disk = ⟨some (.ofPending pending), []⟩) ∨
    ∃ error, Export.start view disk = .error error ∧ Dialogs.none.beginExport view disk =
      ⟨.none, (Export.Outcome.failed error).notice?.toList⟩ := by
  unfold beginExport
  cases Export.start view disk with
  | ok pending => exact .inl ⟨pending, rfl, rfl⟩
  | error error => exact .inr ⟨error, rfl, rfl⟩

theorem single_beginExport (view : Renderable) (disk : Disk) :
    (Dialogs.none.beginExport view disk).Single ∧ (Dialogs.none.beginExport view disk).isModal = true := by
  rcases beginExport_cases view disk with ⟨pending, _, opened⟩ | ⟨error, _, told⟩
  · rw [opened]
    exact ⟨.prompt _, rfl⟩
  · rw [told]
    exact ⟨.notice _, rfl⟩

/-- A frame leaves a prompt open with the same picture, or the user has answered it and only the outcome
is left to be told. -/
theorem afterPrompt_cases (prompt : SavePrompt) (frame : PromptFrame) :
    (∃ next, (mk (some prompt) []).afterPrompt frame = ⟨some next, []⟩ ∧ next.pending = prompt.pending) ∨
    (frame.input.cancel = true ∨ frame.input.save = true) ∧ ∃ choice, (mk (some prompt) []).afterPrompt frame =
      ⟨.none, (prompt.pending.finishBy frame.encoder choice frame.revealer frame.disk).outcome.notice?.toList⟩ := by
  cases stepped : prompt.step frame.input frame.disk with
  | stay next =>
    refine .inl ⟨next, ?_, (SavePrompt.fields_of_stay stepped).1⟩
    rw [afterPrompt, promptStep_of_stay stepped]
  | answer shown choice =>
    refine .inr ⟨(SavePrompt.answer_eq stepped).2.1, choice, ?_⟩
    rw [afterPrompt, promptStep_of_answer stepped]
    rfl

theorem single_afterPrompt (prompt : SavePrompt) (frame : PromptFrame) :
    ((mk (some prompt) []).afterPrompt frame).Single := by
  rcases afterPrompt_cases prompt frame with ⟨next, stays, _⟩ | ⟨_, choice, answered⟩
  · rw [stays]
    exact .prompt next
  · rw [answered]
    exact single_notify _

/-- The only notice goes away when it is dismissed. -/
theorem noticeFrame_singleton (dismiss : Bool) (notice : Notice) : (mk .none [notice]).noticeFrame dismiss =
    if dismiss then .none else mk .none [notice] := by
  cases dismiss <;> rfl

end Dialogs

/-- A frame with all it meets: what the user does, the disk, and how scenes are rasterized, pictures encoded
and folders shown. -/
structure Turn where
  input : FrameInput
  disk : Disk
  rasterizer : Rasterizer
  encoder : Encoder
  revealer : Revealer

namespace Turn

/-- What the frame is for an open prompt. -/
def promptFrame (turn : Turn) : PromptFrame :=
  ⟨turn.input.dialogs.toPromptInput, turn.disk, turn.encoder, turn.revealer⟩

end Turn

namespace Screen

/-- Draw a frame as it comes. -/
def turn (screen : Screen) (turn : Turn) : Except Crash Screen :=
  { screen with disk := turn.disk }.frameBy turn.rasterizer turn.encoder turn.revealer turn.input

/-- Draw frames one after the other as they come. -/
def turns (screen : Screen) (turns : List Turn) : Except Crash Screen := turns.foldlM Screen.turn screen

/-- What the user does to a prompt is lost only if there is none. -/
theorem promptFrameBy_dialogInput (encoder : Encoder) (input : DialogInput) (revealer : Revealer) (disk : Disk)
    (dialogs : Dialogs) :
    dialogs.promptFrameBy encoder (dialogInput input dialogs).toPromptInput revealer disk =
      dialogs.promptFrameBy encoder input.toPromptInput revealer disk := by
  obtain ⟨prompt, notices⟩ := dialogs
  cases prompt with
  | none => rfl
  | some prompt => rfl

/-- A frame does to the window what the user does, and takes a request. -/
theorem window_turn {screen next : Screen} {turn : Turn} (ran : screen.turn turn = .ok next) : ∃ reacted,
    ({ screen with disk := turn.disk } : Screen).windowFrame turn.input = .ok reacted ∧
      next.window = { reacted.window with exportRequested := false } := by
  rw [Screen.turn, frameBy_eq] at ran
  obtain ⟨reacted, made, rfl⟩ := map_eq_ok_iff.mp ran
  refine ⟨reacted, made, ?_⟩
  rw [exportFrameBy_eq]
  rfl

section Steps

variable {screen : Screen} (steady : screen.window.Steady) (turn : Turn)
include steady

/-- A frame is always drawn, whatever it meets. -/
theorem exists_turn : ∃ next, screen.turn turn = .ok next ∧ next.window.Steady := by
  have met : ({ screen with disk := turn.disk } : Screen).window.Steady := steady
  obtain ⟨reacted, did, ran⟩ := exists_frameBy turn.rasterizer turn.encoder turn.revealer turn.input met
  rw [exportFrameBy_eq] at ran
  exact ⟨_, ran, did.steady.shows, did.steady.sound⟩

/-- While a dialog is open, a frame changes the dialogs and nothing of the window. -/
theorem turn_of_modal (modal : screen.dialogs.isModal = true) (unasked : screen.window.exportRequested = false) :
    ∃ laidOut, screen.turn turn = .ok { screen with
      dialogs := (screen.dialogs.afterPrompt turn.promptFrame).noticeFrame
        (turn.input.dialogs.dismiss && !screen.dialogs.notices.isEmpty)
      folders := screen.folders ++ (screen.dialogs.promptStep turn.promptFrame).2.1
      disk := (screen.dialogs.promptStep turn.promptFrame).2.2
      laidOut } := by
  have met : ({ screen with disk := turn.disk } : Screen).window.Steady := steady
  obtain ⟨_, reacted, ran⟩ := exists_frameBy turn.rasterizer turn.encoder turn.revealer turn.input met
  have unchanged : { screen.window with exportRequested := false } = screen.window := by rw [← unasked]
  rw [reacted.modal modal, exportFrameBy_eq] at ran
  dsimp only [dialogsFrameBy] at ran
  rw [unchanged, unasked, if_neg Bool.false_ne_true, promptFrameBy_dialogInput] at ran
  exact ⟨_, ran⟩

/-- Without notices, nothing but the prompt changes. -/
theorem turn_of_prompt {prompt : SavePrompt} (isOpen : screen.dialogs = ⟨some prompt, []⟩)
    (unasked : screen.window.exportRequested = false) : ∃ laidOut, screen.turn turn = .ok { screen with
      dialogs := screen.dialogs.afterPrompt turn.promptFrame
      folders := screen.folders ++ (screen.dialogs.promptStep turn.promptFrame).2.1
      disk := (screen.dialogs.promptStep turn.promptFrame).2.2
      laidOut } := by
  have undismissed : (turn.input.dialogs.dismiss && !screen.dialogs.notices.isEmpty) = false := by
    rw [isOpen]
    exact Bool.and_false _
  have modal : screen.dialogs.isModal = true := by
    rw [isOpen]
    rfl
  have ran := turn_of_modal steady turn modal unasked
  rw [undismissed] at ran
  exact ran

/-- Without a dialog, a frame lets the user do something to the window, and an export that was asked for
begins with the view as it is then. -/
theorem turn_of_idle (idle : screen.dialogs = .none) : ∃ next, screen.turn turn = .ok next ∧
    next.window.Steady ∧ next.window.exportRequested = false ∧ next.disk = turn.disk ∧
    next.folders = screen.folders ∧ next.dialogs =
      if turn.input.png || screen.window.exportRequested then
        Dialogs.none.beginExport (next.window.view.renderableBy turn.rasterizer) turn.disk
      else .none := by
  have met : ({ screen with disk := turn.disk } : Screen).window.Steady := steady
  obtain ⟨reacted, did, ran⟩ := exists_frameBy turn.rasterizer turn.encoder turn.revealer turn.input met
  have requested : reacted.window.exportRequested = (turn.input.png || screen.window.exportRequested) := by
    simpa [idle, Dialogs.isModal, Dialogs.none] using did.exportRequested
  -- Dialogs that were not open when the frame began do not react in it.
  have unseen : dialogInput turn.input.dialogs screen.dialogs = ⟨.none, false⟩ := by
    simp [dialogInput, idle, Dialogs.none]
  rw [exportFrameBy_eq] at ran
  dsimp only [dialogsFrameBy] at ran
  rw [did.dialogs.trans idle, requested, unseen, promptFrameBy_none] at ran
  refine ⟨_, ran, ⟨did.steady.shows, did.steady.sound⟩, rfl, did.disk, (List.append_nil _).trans did.folders, ?_⟩
  dsimp only [Dialogs.noticeFrame]
  rw [did.disk]
  rfl

end Steps

/-- What every frame leaves behind: one dialog at most, and no request beside it. -/
structure Settled (screen : Screen) : Prop where
  steady : screen.window.Steady
  single : screen.dialogs.Single
  taken : screen.dialogs.isModal = true → screen.window.exportRequested = false

/-- What one frame of a run does. -/
structure Turned (turn : Turn) (before after : Screen) : Prop where
  /-- A prompt and a notice are never open together, and never two notices. -/
  single : (after.dialogs.prompt = none ∨ after.dialogs.notices = []) ∧ after.dialogs.notices.length ≤ 1
  taken : after.window.exportRequested = false
  /-- An open dialog keeps all of the window as it is, whatever is clicked. -/
  modal : before.dialogs.isModal = true → after.window = before.window ∧ after.expansion = before.expansion
  /-- An open prompt keeps its picture until the user answers it, and the answer exports just that. -/
  prompt : ∀ prompt, before.dialogs.prompt = some prompt →
    (∃ next, after.dialogs = ⟨some next, []⟩ ∧ next.pending = prompt.pending) ∨
    (turn.input.dialogs.cancel = true ∨ turn.input.dialogs.save = true) ∧
      ∃ choice, after.dialogs = ⟨none, (prompt.pending.finishBy turn.encoder choice turn.revealer
        turn.disk).outcome.notice?.toList⟩
  /-- A notice goes away when it is dismissed, and nothing takes its place. -/
  notice : before.dialogs.notices ≠ [] →
    after.dialogs = if turn.input.dialogs.dismiss then .none else before.dialogs
  /-- Without a dialog, an export that was asked for opens its prompt or tells why it failed. -/
  idle : before.dialogs.isModal = false →
    if turn.input.png || before.window.exportRequested then
      after.dialogs = Dialogs.none.beginExport (after.window.view.renderableBy turn.rasterizer) turn.disk ∧
        after.dialogs.isModal = true
    else after.dialogs = .none

/-- One frame keeps the dialogs single, each kind of dialog for its own reason. -/
theorem Settled.turn {before : Screen} (settled : before.Settled) (turn : Turn) :
    ∃ after, before.turn turn = .ok after ∧ after.Settled ∧ Turned turn before after := by
  obtain ⟨window, dialogs, expansion, disk, folders, laidOut⟩ := before
  obtain ⟨steady, single, taken⟩ := settled
  dsimp only at single
  cases single with
  | none =>
    obtain ⟨after, ran, steady, unasked, _, _, dialogs⟩ := turn_of_idle steady turn rfl
    have begun := Dialogs.single_beginExport (after.window.view.renderableBy turn.rasterizer) turn.disk
    have single : after.dialogs.Single := by
      rw [dialogs]
      split_ifs
      · exact begun.1
      · exact .none
    refine ⟨after, ran, ⟨steady, single, fun _ => unasked⟩, single.few, unasked, nofun, nofun,
      fun told => absurd rfl told, fun _ => ?_⟩
    split_ifs with asked
    · rw [dialogs, if_pos asked]
      exact ⟨rfl, begun.2⟩
    · rw [dialogs, if_neg asked]
  | prompt prompt =>
    have unasked : window.exportRequested = false := taken rfl
    obtain ⟨_, ran⟩ := turn_of_prompt steady turn rfl unasked
    have single := Dialogs.single_afterPrompt prompt turn.promptFrame
    refine ⟨_, ran, ⟨steady, single, fun _ => unasked⟩, single.few, unasked, fun _ => ⟨rfl, rfl⟩, ?_,
      fun told => absurd rfl told, nofun⟩
    rintro _ ⟨⟩
    exact Dialogs.afterPrompt_cases prompt turn.promptFrame
  | notice notice =>
    have unasked : window.exportRequested = false := taken rfl
    obtain ⟨_, ran⟩ := turn_of_modal steady turn rfl unasked
    have left := Dialogs.noticeFrame_singleton turn.input.dialogs.dismiss notice
    rw [show (!(Dialogs.mk none [notice]).notices.isEmpty) = true from rfl, Bool.and_true,
      show (Dialogs.mk none [notice]).afterPrompt turn.promptFrame = ⟨none, [notice]⟩ from rfl, left] at ran
    have single : (if turn.input.dialogs.dismiss then .none else Dialogs.mk none [notice]).Single := by
      split_ifs
      · exact .none
      · exact .notice notice
    exact ⟨_, ran, ⟨steady, single, fun _ => unasked⟩, single.few, unasked, fun _ => ⟨rfl, rfl⟩, nofun,
      fun _ => rfl, nofun⟩

/-- Frames drawn one after the other keep the dialogs single. -/
theorem Settled.turns {screen : Screen} (settled : screen.Settled) (turns : List Turn) :
    ∃ after, screen.turns turns = .ok after ∧ after.Settled := by
  induction turns generalizing screen with
  | nil => exact ⟨screen, rfl, settled⟩
  | cons turn turns ih =>
    obtain ⟨next, ran, settled, _⟩ := settled.turn turn
    obtain ⟨after, later, settled⟩ := ih settled
    refine ⟨after, ?_, settled⟩
    rw [Screen.turns, List.foldlM_cons, ran]
    exact later

/-- Every frame of every run, from a window without dialogs that was opened and then used in any way: it is
drawn, and whatever the user tries and however rendering and saving end, at most one dialog is open behind
it and what was pending before it is kept until the user settles it. -/
theorem turns_keep_one_dialog {id : WindowId} {session : Session} {built : Window}
    (constructed : Window.construct id session = .ok built) (events : List Window.Event) (disk : Disk)
    (turns : List Turn) (turn : Turn) : ∃ window before after, built.handleAll events = .ok window ∧
      (ofWindow window disk).turns turns = .ok before ∧ before.turn turn = .ok after ∧
      Turned turn before after := by
  obtain ⟨window, handled, steady, _⟩ := (Window.steady_of_construct constructed).handleAll events
  have opened : (ofWindow window disk).Settled := ⟨steady, .none, nofun⟩
  obtain ⟨before, ran, settled⟩ := opened.turns turns
  obtain ⟨after, drawn, _, turned⟩ := settled.turn turn
  exact ⟨window, before, after, handled, ran, drawn, turned⟩

/-- The user moves the slider and clicks on everything there is. -/
def busy : Turn where
  input := ⟨some 900, true, true, some [], some [], none, ⟨⟨some "a.png", true, true⟩, true⟩⟩
  disk := Disk.empty ["home"]
  rasterizer := View.whitewash
  encoder := Png.encoder
  revealer := systemRevealer false

/-- The first such frame opens a dialog, and the second does nothing to the window. -/
theorem turns_keep_one_dialog_busy : ∃ built before after,
    Window.construct 1 { root := .gapped, rules := .empty, focused := [7], scale := .nan } = .ok built ∧
    (ofWindow built busy.disk).turns [busy] = .ok before ∧ before.turn busy = .ok after ∧
    before.dialogs.isModal = true ∧ after.window = before.window := by
  have outlined : Outline.ofTree .gapped = .ok (.node [] true [.node [1] true []]) := rfl
  obtain ⟨built, constructed⟩ := Window.exists_construct 1
    { root := .gapped, rules := .empty, focused := [7], scale := .nan } (Outline.sound_of_build outlined)
  obtain ⟨_, _, first, ⟨⟩, ⟨⟩, drawn, begins⟩ := turns_keep_one_dialog constructed [] busy.disk [] busy
  obtain ⟨_, before, after, ⟨⟩, ran, again, stays⟩ := turns_keep_one_dialog constructed [] busy.disk [busy] busy
  have same : first = before := Except.ok.inj (drawn.symm.trans (by simpa [turns] using ran))
  have modal : before.dialogs.isModal = true := same ▸ (begins.idle rfl).2
  exact ⟨built, before, after, constructed, ran, again, modal, (stays.modal modal).1⟩

end Screen

end TreeInspector
