import Mathlib.Data.List.Induction
import Mathlib.Data.List.TakeWhile
import TreeInspector.Proofs.Text.Lines
import TreeInspector.Screen.Drawing

/-! # Prompts over frames

A prompt stays open over frames, and the disk may change between them. In a frame the prompt takes an edit
over, then it warns, is answered or stays as it is (`SavePrompt.step_cases`). It is warned only by a click
on something that exists, and every edit takes the warning back; so what is written over something that
exists was asked for twice, with nothing typed in between.
-/

namespace TreeInspector

namespace SavePrompt

theorem pending_applyEdit (prompt : SavePrompt) (edit : Option String) :
    (prompt.applyEdit edit).pending = prompt.pending := by
  cases edit <;> rfl

theorem text_applyEdit (prompt : SavePrompt) (edit : Option String) :
    (prompt.applyEdit edit).text = edit.getD prompt.text := by
  cases edit <;> rfl

/-- There is no path exactly if the text is blank. -/
theorem choice?_eq_none_iff (prompt : SavePrompt) :
    prompt.choice? = none ↔ ∀ c ∈ prompt.text.toList, Blank.isBlank c = true := by
  rw [choice?, ← Blank.trim_eq_nil_iff]
  split
  · next none => simp [none]
  · next first rest some => simp [some]

theorem eq_trim_of_choice? {prompt : SavePrompt} {path : String} (chosen : prompt.choice? = some path) :
    path = String.ofList (Blank.trim prompt.text.toList) := by
  rw [choice?] at chosen
  split at chosen
  · cases chosen
  · next trimmed =>
    cases chosen
    rw [trimmed]

/-- What a frame can do to a prompt, once it has taken over what was typed: it is cancelled, or left alone,
or warns that something exists, or is answered with the path that is typed in. -/
theorem step_cases (prompt : SavePrompt) (input : PromptInput) (disk : Disk) :
    let edited := prompt.applyEdit input.edit
    input.cancel = true ∧ prompt.step input disk = .answer edited none ∨
    input.cancel = false ∧ (input.save = false ∨ edited.choice? = none) ∧
      prompt.step input disk = .stay edited ∨
    input.cancel = false ∧ input.save = true ∧ ∃ path, edited.choice? = some path ∧
      (disk.has path = true ∧ edited.warned = false ∧
          prompt.step input disk = .stay { edited with warned := true } ∨
        (disk.has path = true → edited.warned = true) ∧
          prompt.step input disk = .answer edited (some path)) := by
  intro edited
  have opened : prompt.step input disk =
      if input.cancel then .answer edited none
      else if input.save && edited.choice?.isSome && edited.choice?.any disk.has && !edited.warned then
        .stay { edited with warned := true }
      else if input.save && edited.choice?.isSome then .answer edited edited.choice?
      else .stay edited := rfl
  rw [opened]
  clear_value edited
  cases input.cancel with
  | true => exact .inl ⟨rfl, rfl⟩
  | false =>
    refine .inr ?_
    cases input.save with
    | false => exact .inl ⟨rfl, .inl rfl, rfl⟩
    | true =>
      cases edited.choice? with
      | none => exact .inl ⟨rfl, .inr rfl, rfl⟩
      | some path =>
        refine .inr ⟨rfl, rfl, path, rfl, ?_⟩
        rw [Option.any_some]
        cases disk.has path with
        | false => exact .inr ⟨nofun, rfl⟩
        | true =>
          cases edited.warned with
          | false => exact .inl ⟨rfl, rfl, rfl⟩
          | true => exact .inr ⟨fun _ => rfl, rfl⟩

/-- A prompt that stays open keeps its picture, and its text but for what is typed. -/
theorem fields_of_stay {prompt next : SavePrompt} {input : PromptInput} {disk : Disk}
    (stays : prompt.step input disk = .stay next) :
    next.pending = prompt.pending ∧ next.text = input.edit.getD prompt.text := by
  rcases prompt.step_cases input disk with
    ⟨_, stepped⟩ | ⟨_, _, stepped⟩ | ⟨_, _, path, _, ⟨_, _, stepped⟩ | ⟨_, stepped⟩⟩
  · cases stepped.symm.trans stays
  · cases stepped.symm.trans stays
    exact ⟨prompt.pending_applyEdit input.edit, prompt.text_applyEdit input.edit⟩
  · cases stepped.symm.trans stays
    exact ⟨prompt.pending_applyEdit input.edit, prompt.text_applyEdit input.edit⟩
  · cases stepped.symm.trans stays

/-- A prompt is closed only by a click: cancelling gives no path, and saving gives the path typed in. -/
theorem answer_eq {prompt shown : SavePrompt} {input : PromptInput} {disk : Disk} {choice : Option String}
    (answers : prompt.step input disk = .answer shown choice) :
    shown = prompt.applyEdit input.edit ∧ (input.cancel = true ∨ input.save = true) ∧
      choice = if input.cancel then none else
        some (String.ofList (Blank.trim (input.edit.getD prompt.text).toList)) := by
  rcases prompt.step_cases input disk with
    ⟨cancels, stepped⟩ | ⟨_, _, stepped⟩ | ⟨goesOn, saves, path, chosen, ⟨_, _, stepped⟩ | ⟨_, stepped⟩⟩
  · cases stepped.symm.trans answers
    exact ⟨rfl, .inl cancels, by rw [if_pos cancels]⟩
  · cases stepped.symm.trans answers
  · cases stepped.symm.trans answers
  · cases stepped.symm.trans answers
    refine ⟨rfl, .inr saves, ?_⟩
    have trimmed := eq_trim_of_choice? chosen
    rw [text_applyEdit] at trimmed
    rw [goesOn, if_neg Bool.false_ne_true, trimmed]

/-- The path that a frame of a prompt writes to, if it writes. -/
def written? (prompt : SavePrompt) (input : PromptInput) (disk : Disk) : Option String :=
  match prompt.step input disk with
  | .stay _ => none
  | .answer _ choice => choice

end SavePrompt

/-- A frame of a prompt: what the user does to it, and the disk, the encoder and the desktop as it meets
them. -/
structure PromptFrame where
  input : PromptInput
  disk : Disk
  encoder : Encoder
  revealer : Revealer

/-- The text that a prompt shows after frames: what was typed last, or else what was suggested. -/
def typed (suggested : String) (frames : List PromptFrame) : String :=
  (frames.filterMap (·.input.edit)).getLast?.getD suggested

theorem typed_concat (suggested : String) (frames : List PromptFrame) (frame : PromptFrame) :
    typed suggested (frames ++ [frame]) = frame.input.edit.getD (typed suggested frames) := by
  rw [typed, List.filterMap_append]
  cases edited : frame.input.edit with
  | none => simp [edited, typed]
  | some text => simp [edited]

namespace Dialogs

/-- Let a frame of the prompt happen. Gives the folders that were asked to be shown and the disk as well. -/
def promptStep (dialogs : Dialogs) (frame : PromptFrame) : Dialogs × List String × Disk :=
  dialogs.promptFrameBy frame.encoder frame.input frame.revealer frame.disk

theorem promptStep_of_stay {prompt next : SavePrompt} {frame : PromptFrame}
    (stays : prompt.step frame.input frame.disk = .stay next) (notices : List Notice) :
    (mk (some prompt) notices).promptStep frame = (⟨some next, notices⟩, [], frame.disk) := by
  simp only [promptStep, promptFrameBy, stays]

/-- The answer of a prompt completes its export. -/
theorem promptStep_of_answer {prompt shown : SavePrompt} {choice : Option String} {frame : PromptFrame}
    (answers : prompt.step frame.input frame.disk = .answer shown choice) (notices : List Notice) :
    (mk (some prompt) notices).promptStep frame =
      let answered := prompt.pending.finishBy frame.encoder choice frame.revealer frame.disk
      (⟨.none, notices ++ answered.outcome.notice?.toList⟩, answered.folders, answered.disk) := by
  obtain ⟨rfl, _⟩ := SavePrompt.answer_eq answers
  simp only [promptStep, promptFrameBy, answers, SavePrompt.pending_applyEdit]
  rfl

/-- The dialogs after a frame of the prompt. -/
def afterPrompt (dialogs : Dialogs) (frame : PromptFrame) : Dialogs := (dialogs.promptStep frame).1

/-- The dialogs after frames of the prompt, one after the other. -/
def afterPrompts (dialogs : Dialogs) (frames : List PromptFrame) : Dialogs :=
  frames.foldl afterPrompt dialogs

theorem afterPrompts_concat (dialogs : Dialogs) (frames : List PromptFrame) (frame : PromptFrame) :
    dialogs.afterPrompts (frames ++ [frame]) = (dialogs.afterPrompts frames).afterPrompt frame :=
  List.foldl_append

/-- A prompt is open behind a frame if it was open before and stayed. -/
theorem prompt_afterPrompt_iff {dialogs : Dialogs} {frame : PromptFrame} {next : SavePrompt} :
    (dialogs.afterPrompt frame).prompt = some next ↔
      ∃ prompt, dialogs.prompt = some prompt ∧ prompt.step frame.input frame.disk = .stay next := by
  obtain ⟨prompt, notices⟩ := dialogs
  cases prompt with
  | none => simp [afterPrompt, promptStep, promptFrameBy]
  | some prompt =>
    cases stepped : prompt.step frame.input frame.disk with
    | stay other => simp [afterPrompt, promptStep_of_stay stepped, stepped]
    | answer shown choice => simp [afterPrompt, promptStep_of_answer stepped, stepped]

/-- A prompt that is still open behind frames waits with its picture, and shows what was typed. -/
theorem fields_afterPrompts {start prompt : SavePrompt} {notices : List Notice} {frames : List PromptFrame}
    (isOpen : ((mk (some start) notices).afterPrompts frames).prompt = some prompt) :
    prompt.pending = start.pending ∧ prompt.text = typed start.text frames := by
  induction frames using List.reverseRecOn generalizing prompt with
  | nil =>
    cases isOpen
    exact ⟨rfl, rfl⟩
  | append_singleton frames frame ih =>
    rw [afterPrompts_concat, prompt_afterPrompt_iff] at isOpen
    obtain ⟨shown, wasOpen, stays⟩ := isOpen
    obtain ⟨picture, text⟩ := ih wasOpen
    obtain ⟨kept, edited⟩ := SavePrompt.fields_of_stay stays
    exact ⟨kept.trans picture, by rw [edited, text, typed_concat]⟩

/-- The user was asked about a path: in an earlier frame of the same prompt saving was clicked while
something existed there, the text was the same, and nothing was typed since. -/
def Asked (start : Dialogs) (earlier : List PromptFrame) (prompt : SavePrompt) (path : String) : Prop :=
  ∃ before asking between shown, earlier = before ++ asking :: between ∧
    (start.afterPrompts before).prompt = some shown ∧
    asking.input.save = true ∧ asking.input.cancel = false ∧
    (shown.applyEdit asking.input.edit).text = prompt.text ∧ prompt.choice? = some path ∧
    asking.disk.has path = true ∧ ∀ frame ∈ between, frame.input.edit = .none

/-- A prompt that warns has asked about the path that is typed in. -/
theorem asked_of_warned {start : Dialogs} (unwarned : ∀ first, start.prompt = some first → first.warned = false)
    (earlier : List PromptFrame) {prompt : SavePrompt}
    (isOpen : (start.afterPrompts earlier).prompt = some prompt) (warned : prompt.warned = true) :
    ∃ path, Asked start earlier prompt path := by
  induction earlier using List.reverseRecOn generalizing prompt with
  | nil => exact absurd (unwarned prompt isOpen) (by simp [warned])
  | append_singleton earlier frame ih =>
    rw [afterPrompts_concat, prompt_afterPrompt_iff] at isOpen
    obtain ⟨shown, wasOpen, stays⟩ := isOpen
    rcases shown.step_cases frame.input frame.disk with
      ⟨_, stepped⟩ | ⟨_, _, stepped⟩ | ⟨goesOn, saves, path, chosen, ⟨present, _, stepped⟩ | ⟨_, stepped⟩⟩
    · cases stepped.symm.trans stays
    · -- An edit would have taken the warning back, so the frame before has it as well.
      cases stepped.symm.trans stays
      cases typed : frame.input.edit with
      | some text =>
        rw [typed] at warned
        cases warned
      | none =>
        rw [typed] at warned
        obtain ⟨path, before, asking, between, first, rfl, opened, asked, kept, same, chosen, present, quiet⟩ :=
          ih wasOpen warned
        refine ⟨path, before, asking, between ++ [frame], first, ?_, opened, asked, kept, same, chosen, present, ?_⟩
        · rw [List.append_assoc, List.cons_append]
        · intro other among
          rcases List.mem_append.mp among with earlier | last
          · exact quiet other earlier
          · exact List.mem_singleton.mp last ▸ typed
    · cases stepped.symm.trans stays
      exact ⟨path, earlier, frame, [], shown, rfl, wasOpen, saves, goesOn, rfl, chosen, present,
        fun _ among => nomatch among⟩
    · cases stepped.symm.trans stays

/-- What a frame keeps to whose prompt is open behind earlier frames. -/
structure Guarded (start : Dialogs) (earlier : List PromptFrame) (prompt : SavePrompt) (frame : PromptFrame) :
    Prop where
  /-- The disk changes only by a picture that is saved at the path the frame writes to. -/
  writes : ((start.afterPrompts earlier).promptStep frame).2.2 =
    match prompt.written? frame.input frame.disk with
    | .none => frame.disk
    | some path => (frame.disk.savePictureBy frame.encoder prompt.pending.bitmap path).2
  /-- The frame writes over something that exists only if the user was asked and the button said so. -/
  replaces : ∀ path, prompt.written? frame.input frame.disk = some path → frame.disk.has path = true →
    Asked start earlier prompt path ∧ frame.input.edit = .none ∧ frame.input.save = true ∧
      (prompt.applyEdit frame.input.edit).saveLabel frame.disk = "Overwrite"
  cancels : frame.input.cancel = true → prompt.written? frame.input frame.disk = .none
  /-- A blank text is never an answer: the prompt stays open unless it is cancelled. -/
  blank : (∀ c ∈ (prompt.applyEdit frame.input.edit).text.toList, Blank.isBlank c = true) →
    prompt.written? frame.input frame.disk = .none ∧ (frame.input.cancel = false →
      ((start.afterPrompts earlier).afterPrompt frame).prompt = some (prompt.applyEdit frame.input.edit))

/-- The disk after a frame of an open prompt. -/
theorem disk_promptStep {dialogs : Dialogs} {prompt : SavePrompt} (isOpen : dialogs.prompt = some prompt)
    (frame : PromptFrame) : (dialogs.promptStep frame).2.2 =
      match prompt.written? frame.input frame.disk with
      | .none => frame.disk
      | some path => (frame.disk.savePictureBy frame.encoder prompt.pending.bitmap path).2 := by
  obtain ⟨_, notices⟩ := dialogs
  cases isOpen
  rw [SavePrompt.written?]
  cases stepped : prompt.step frame.input frame.disk with
  | stay next => rw [promptStep_of_stay stepped]
  | answer shown choice =>
    rw [promptStep_of_answer stepped]
    cases choice with
    | none => rfl
    | some path =>
      simp only [Export.Pending.finishBy]
      split
      · next saved => rw [saved]
      · next saved => rw [saved]

/-- A frame that writes over something comes after a frame that asked about just that. -/
theorem asked_of_written {start : Dialogs} (unwarned : ∀ first, start.prompt = some first → first.warned = false)
    {earlier : List PromptFrame} {prompt : SavePrompt} (isOpen : (start.afterPrompts earlier).prompt = some prompt)
    {frame : PromptFrame} {path : String} (written : prompt.written? frame.input frame.disk = some path)
    (present : frame.disk.has path = true) :
    Asked start earlier prompt path ∧ frame.input.edit = .none ∧ frame.input.save = true ∧
      (prompt.applyEdit frame.input.edit).saveLabel frame.disk = "Overwrite" := by
  rw [SavePrompt.written?] at written
  rcases prompt.step_cases frame.input frame.disk with
    ⟨_, stepped⟩ | ⟨_, _, stepped⟩ | ⟨_, saves, other, chosen, ⟨_, _, stepped⟩ | ⟨warns, stepped⟩⟩
  all_goals rw [stepped] at written
  · cases written
  · cases written
  · cases written
  · cases written
    have warned := warns present
    have asks : (prompt.applyEdit frame.input.edit).saveLabel frame.disk = "Overwrite" := by
      simp [SavePrompt.saveLabel, SavePrompt.asksToReplace, SavePrompt.hits, chosen, present, warned]
    cases typed : frame.input.edit with
    | some text =>
      rw [typed] at warned
      cases warned
    | none =>
      rw [typed] at warned chosen asks
      obtain ⟨other, asked⟩ := asked_of_warned unwarned earlier isOpen warned
      have same : prompt.choice? = some other := by
        obtain ⟨_, _, _, _, _, _, _, _, _, same, _⟩ := asked
        exact same
      cases same.symm.trans chosen
      exact ⟨asked, rfl, saves, asks⟩

/-- Every frame of a prompt, whatever frames of the same prompt came before it and whatever happened to the
disk: it writes over something that exists only if the user had asked for it before and was told, never if
it is cancelled, and never to a blank path. -/
theorem afterPrompts_guarded {pending : Export.Pending} {notices : List Notice} {earlier : List PromptFrame}
    {prompt : SavePrompt}
    (isOpen : ((mk (some (.ofPending pending)) notices).afterPrompts earlier).prompt = some prompt)
    (frame : PromptFrame) : Guarded (mk (some (.ofPending pending)) notices) earlier prompt frame := by
  have unwarned : ∀ first, (mk (some (.ofPending pending)) notices).prompt = some first → first.warned = false := by
    rintro _ ⟨⟩
    rfl
  refine ⟨disk_promptStep isOpen frame, fun path written present => asked_of_written unwarned isOpen written present,
    ?_, ?_⟩
  · intro cancelled
    rcases prompt.step_cases frame.input frame.disk with ⟨_, stepped⟩ | ⟨goesOn, _⟩ | ⟨goesOn, _⟩
    · rw [SavePrompt.written?, stepped]
    · cases cancelled.symm.trans goesOn
    · cases cancelled.symm.trans goesOn
  · intro blank
    have missing := (prompt.applyEdit frame.input.edit).choice?_eq_none_iff.mpr blank
    rcases prompt.step_cases frame.input frame.disk with
      ⟨cancelled, stepped⟩ | ⟨_, _, stepped⟩ | ⟨_, _, path, chosen, _⟩
    · refine ⟨by rw [SavePrompt.written?, stepped], fun goesOn => ?_⟩
      cases cancelled.symm.trans goesOn
    · exact ⟨by rw [SavePrompt.written?, stepped], fun _ => prompt_afterPrompt_iff.mpr ⟨prompt, isOpen, stepped⟩⟩
    · cases missing.symm.trans chosen

/-- A frame that saves, with or without something typed in, on a disk where the file exists. -/
def savesOver (edit : Option String) : PromptFrame where
  input := ⟨edit, true, false⟩
  disk := (Disk.empty ["home"]).put ["home", "a.png"] (.file (.bytes []))
  encoder := Png.encoder
  revealer := systemRevealer false

/-- A name is typed in and saved at once, which only warns; saving once more writes over the file. -/
theorem afterPrompts_guarded_twice : ∃ prompt,
    ((mk (some (.ofPending ⟨.blank ⟨3, 2⟩, "/home/parse_tree.png"⟩)) []).afterPrompts
      [savesOver (some " a.png")]).prompt = some prompt ∧
    prompt.written? (savesOver .none).input (savesOver .none).disk = some "a.png" ∧
    Asked (mk (some (.ofPending ⟨.blank ⟨3, 2⟩, "/home/parse_tree.png"⟩)) []) [savesOver (some " a.png")] prompt
      "a.png" := by
  have evaluated : ((mk (some (.ofPending ⟨.blank ⟨3, 2⟩, "/home/parse_tree.png"⟩)) []).afterPrompts
      [savesOver (some " a.png")]).prompt.map (fun prompt =>
        prompt.written? (savesOver .none).input (savesOver .none).disk) = some (some "a.png") := by
    decide +kernel
  obtain ⟨prompt, isOpen, written⟩ := Option.map_eq_some_iff.mp evaluated
  have guarded := afterPrompts_guarded isOpen (savesOver .none)
  exact ⟨prompt, isOpen, written, (guarded.replaces "a.png" written (by decide +kernel)).1⟩

end Dialogs

end TreeInspector
