import TreeInspector.Proofs.Export.Reports
import TreeInspector.Proofs.Screen.Turns
import TreeInspector.Proofs.View.Scene

/-! # Exports over frames

An export of a window is spread over frames: one frame takes the request and rasterizes the view, the
prompt waits in any number of frames, and one frame takes the answer and saves. Meanwhile the window goes on
to change, by tasks between the frames, and so does the disk. All the same the export does what a complete
export does at once, with the view of the first frame, and the answer and the disk of the last.
-/

namespace TreeInspector

/-- A frame, with what happened to the window since the frame before. -/
structure Visit extends Turn where
  tasks : List Window.Event

namespace Visit

/-- No task asks for an export. -/
def Quiet (visit : Visit) : Prop := .press .exportPng ∉ visit.tasks

/-- The picture of the window's view, as an export that the visit asked for takes it. -/
def picture (visit : Visit) (opened : Screen) : Renderable := opened.window.view.renderableBy visit.rasterizer

/-- A complete export at once, with all that the visit meets. -/
def exportAtOnce (visit : Visit) (picture : Renderable) (answer : String → Option String) : Export.Report :=
  Export.runBy visit.encoder picture answer visit.revealer visit.disk

end Visit

/-- What the user answers who is shown a suggested path and ends the prompt with the last visit: nothing by
cancelling, otherwise the text that was typed last, without blanks around it. -/
def answerOf (suggested : String) (waiting : List Visit) (answering : Visit) : Option String :=
  if answering.input.dialogs.cancel then none
  else some (String.ofList (Blank.trim (typed suggested ((waiting ++ [answering]).map (·.promptFrame))).toList))

namespace Window

/-- Without a press of the export button no request appears. -/
theorem foldl_requests_of_quiet {tasks : List Event} (quiet : .press .exportPng ∉ tasks) :
    tasks.foldl (fun pending task => task.requests pending) false = false := by
  induction tasks with
  | nil => rfl
  | cons task tasks ih =>
    rw [List.mem_cons, not_or] at quiet
    have stays : task.requests false = false := by
      rw [← Bool.not_eq_true, requests_iff]
      simp [Ne.symm quiet.1]
    rw [List.foldl_cons, stays]
    exact ih quiet.2

end Window

namespace Export

/-- What was suggested does not matter once there is an answer. -/
theorem finishBy_of_suggested (bitmap : Bitmap) (suggested other : String) (encoder : Encoder)
    (answer : Option String) (revealer : Revealer) (disk : Disk) :
    Pending.finishBy encoder ⟨bitmap, suggested⟩ answer revealer disk =
      Pending.finishBy encoder ⟨bitmap, other⟩ answer revealer disk := rfl

/-- An export that begins has the bitmap that renders its view. -/
theorem rendered_of_start {rasterizer : Rasterizer} {view : View} {disk : Disk} {pending : Pending}
    (begun : start (view.renderableBy rasterizer) disk = .ok pending) : view.Rendered rasterizer pending.bitmap := by
  rw [start] at begun
  split at begun
  · cases begun
  · next bitmap drawn =>
    cases begun
    exact View.rasterize_eq_ok_iff.mp drawn

/-- A picture that can be made at one time can be made at any other. -/
theorem runBy_of_start {view : Renderable} {earlier : Disk} {pending : Pending}
    (begun : start view earlier = .ok pending) (encoder : Encoder) (answer : String → Option String)
    (revealer : Revealer) (disk : Disk) : runBy encoder view answer revealer disk =
      let answered := pending.finishBy encoder (answer (defaultPath disk)) revealer disk
      { answered with asked := [defaultPath disk], notices := answered.outcome.notice?.toList } := by
  rw [start] at begun
  split at begun
  · cases begun
  · next bitmap drawn =>
    cases begun
    simp only [runBy, start, drawn]
    rw [finishBy_of_suggested bitmap (defaultPath disk) (defaultPath earlier)]

end Export

namespace Screen

/-- Let tasks happen to the window, then draw a frame. -/
def visit (screen : Screen) (visit : Visit) : Except Crash Screen :=
  (screen.window.handleAll visit.tasks).bind fun window => { screen with window }.turn visit.toTurn

/-- Draw frames one after the other, with tasks in between. -/
def visits (screen : Screen) (visits : List Visit) : Except Crash Screen := visits.foldlM Screen.visit screen

theorem visits_concat (screen : Screen) (visits : List Visit) (visit : Visit) :
    screen.visits (visits ++ [visit]) = (screen.visits visits).bind fun mid => mid.visit visit := by
  simp only [Screen.visits, List.foldlM_append, List.foldlM_cons, List.foldlM_nil]
  cases visits.foldlM Screen.visit screen with
  | error crash => rfl
  | ok mid => exact bind_pure (mid.visit visit)

/-- A complete export is what a screen went through: the disk is left as the export leaves it, the folders
and the notices are added, and no prompt is open. -/
structure Underwent (report : Export.Report) (before after : Screen) : Prop where
  disk : after.disk = report.disk
  folders : after.folders = before.folders ++ report.folders
  dialogs : after.dialogs = ⟨none, before.dialogs.notices ++ report.notices⟩

/-- A prompt waits over visits: the window undergoes the tasks, the disk stays as it is, and no folder is
shown. -/
structure Waits (opened : Screen) (waiting : List Visit) (prompt : SavePrompt) (waited : Screen) : Prop where
  ran : opened.visits waiting = .ok waited
  window : opened.window.handleAll (waiting.flatMap (·.tasks)) = .ok waited.window
  dialogs : waited.dialogs = ⟨some prompt, []⟩
  folders : waited.folders = opened.folders
  disk : waited.disk = (waiting.getLast?.map (·.disk)).getD opened.disk

section Waiting

variable {opened : Screen} (steady : opened.window.Steady) (unasked : opened.window.exportRequested = false)
include steady unasked

/-- A visit while a prompt waits does to the window what the tasks do, and to the rest what the prompt does. -/
theorem visit_of_prompt {prompt : SavePrompt} (isOpen : opened.dialogs = ⟨some prompt, []⟩) {visit : Visit}
    (quiet : visit.Quiet) : ∃ window laidOut, opened.window.handleAll visit.tasks = .ok window ∧
      window.Steady ∧ window.exportRequested = false ∧ opened.visit visit = .ok { opened with
        window
        dialogs := opened.dialogs.afterPrompt visit.promptFrame
        folders := opened.folders ++ (opened.dialogs.promptStep visit.promptFrame).2.1
        disk := (opened.dialogs.promptStep visit.promptFrame).2.2
        laidOut } := by
  obtain ⟨window, handled, sound, _, _, requests⟩ := steady.handleAll visit.tasks
  rw [unasked, Window.foldl_requests_of_quiet quiet] at requests
  have met : ({ opened with window } : Screen).window.Steady := sound
  obtain ⟨laidOut, ran⟩ := turn_of_prompt met visit.toTurn isOpen requests
  refine ⟨window, laidOut, handled, sound, requests, ?_⟩
  rw [Screen.visit, handled]
  exact ran

/-- As long as the user leaves a prompt open, it waits. -/
theorem exists_waits {first : SavePrompt} (isOpen : opened.dialogs = ⟨some first, []⟩) {waiting : List Visit}
    (quiet : ∀ visit ∈ waiting, visit.Quiet) {prompt : SavePrompt}
    (stillOpen : (opened.dialogs.afterPrompts (waiting.map (·.promptFrame))).prompt = some prompt) :
    ∃ waited, Waits opened waiting prompt waited ∧ waited.window.Steady ∧
      waited.window.exportRequested = false := by
  induction waiting using List.reverseRecOn generalizing prompt with
  | nil =>
    rw [isOpen] at stillOpen
    cases stillOpen
    exact ⟨opened, ⟨rfl, rfl, isOpen, rfl, rfl⟩, steady, unasked⟩
  | append_singleton waiting visit ih =>
    rw [List.map_append, List.map_singleton, Dialogs.afterPrompts_concat, Dialogs.prompt_afterPrompt_iff]
      at stillOpen
    obtain ⟨shown, wasOpen, stays⟩ := stillOpen
    obtain ⟨mid, waits, sound, taken⟩ :=
      ih (fun visit among => quiet visit (List.mem_append_left _ among)) wasOpen
    obtain ⟨window, laidOut, handled, steady, unasked, ran⟩ :=
      visit_of_prompt sound taken waits.dialogs (quiet visit (by simp))
    rw [Dialogs.afterPrompt, waits.dialogs, Dialogs.promptStep_of_stay stays] at ran
    have drawn := visits_concat opened waiting visit
    rw [waits.ran] at drawn
    refine ⟨_, ⟨drawn.trans ran, ?_, rfl, ?_, ?_⟩, steady, unasked⟩
    · rw [List.flatMap_append, Window.handleAll_append, waits.window]
      simpa [Except.bind] using handled
    · exact (List.append_nil _).trans waits.folders
    · simp [Turn.promptFrame]

end Waiting

/-- The frames of an export that a visit asked for, compared with the complete export. -/
structure Exported (asking : Visit) (before opened : Screen) : Prop where
  /-- If the picture cannot be made, that is all there is. -/
  failed : ∀ error, Export.start (asking.picture opened) asking.disk = .error error →
    ∀ answer, Underwent (asking.exportAtOnce (asking.picture opened) answer) before opened
  /-- Otherwise the prompt shows the path that the complete export asks about. -/
  asks : ∀ pending, Export.start (asking.picture opened) asking.disk = .ok pending →
    opened.dialogs = ⟨some (.ofPending pending), []⟩ ∧ opened.folders = before.folders ∧
      opened.disk = asking.disk ∧
      ∀ answer, (asking.exportAtOnce (asking.picture opened) answer).asked = [pending.suggested]
  /-- The prompt keeps the bitmap of the view as the request found it, pixel by pixel. -/
  pictured : ∀ pending, Export.start (asking.picture opened) asking.disk = .ok pending →
    opened.window.view.Rendered asking.rasterizer pending.bitmap
  /-- However long it waits, the prompt ends with what the complete export does on the disk it then meets,
  with the picture of the first frame. -/
  ends : ∀ pending, Export.start (asking.picture opened) asking.disk = .ok pending →
    ∀ waiting : List Visit, (∀ visit ∈ waiting, visit.Quiet) →
    ∀ prompt, (opened.dialogs.afterPrompts (waiting.map (·.promptFrame))).prompt = some prompt →
    ∃ waited, Waits opened waiting prompt waited ∧ ∀ answering : Visit, answering.Quiet →
      (waited.dialogs.afterPrompt answering.promptFrame).prompt = none →
      ∃ after, waited.visit answering = .ok after ∧
        Underwent (answering.exportAtOnce (asking.picture opened)
          fun _ => answerOf pending.suggested waiting answering) before after

theorem exists_visit {screen : Screen} (steady : screen.window.Steady) (visit : Visit) :
    ∃ next, screen.visit visit = .ok next ∧ next.window.Steady := by
  obtain ⟨window, handled, sound, _⟩ := steady.handleAll visit.tasks
  have met : ({ screen with window } : Screen).window.Steady := sound
  rw [Screen.visit, handled]
  exact exists_turn met visit.toTurn

theorem steady_of_visits {screen last : Screen} (steady : screen.window.Steady) {visits : List Visit}
    (ran : screen.visits visits = .ok last) : last.window.Steady := by
  induction visits generalizing screen with
  | nil =>
    cases ran
    exact steady
  | cons visit visits ih =>
    obtain ⟨next, drawn, steady⟩ := exists_visit steady visit
    rw [Screen.visits, List.foldlM_cons, drawn] at ran
    exact ih steady ran

/-- A prompt that waited ends with what a complete export does. -/
theorem underwent_of_answer {before opened waited : Screen} {pending : Export.Pending} {picture : Renderable}
    {earlier : Disk} (begun : Export.start picture earlier = .ok pending)
    (isOpen : opened.dialogs = ⟨some (.ofPending pending), []⟩) (undisturbed : before.dialogs = .none)
    (folders : opened.folders = before.folders) {waiting : List Visit} {prompt : SavePrompt}
    (stillOpen : (opened.dialogs.afterPrompts (waiting.map (·.promptFrame))).prompt = some prompt)
    (waits : Waits opened waiting prompt waited) (steady : waited.window.Steady)
    (unasked : waited.window.exportRequested = false) {answering : Visit} (quiet : answering.Quiet)
    (closes : (waited.dialogs.afterPrompt answering.promptFrame).prompt = none) :
    ∃ after, waited.visit answering = .ok after ∧ Underwent (answering.exportAtOnce picture
      fun _ => answerOf pending.suggested waiting answering) before after := by
  obtain ⟨window, laidOut, _, _, _, ran⟩ := visit_of_prompt steady unasked waits.dialogs quiet
  rw [waits.dialogs] at ran closes
  cases stepped : prompt.step answering.promptFrame.input answering.promptFrame.disk with
  | stay next =>
    rw [Dialogs.afterPrompt, Dialogs.promptStep_of_stay stepped] at closes
    cases closes
  | answer shown choice =>
    rw [isOpen] at stillOpen
    obtain ⟨kept, text⟩ := Dialogs.fields_afterPrompts stillOpen
    have answered : choice = answerOf pending.suggested waiting answering := by
      obtain ⟨_, _, chosen⟩ := SavePrompt.answer_eq stepped
      rw [chosen, text, answerOf, List.map_append, List.map_singleton, typed_concat]
      rfl
    rw [Dialogs.afterPrompt, Dialogs.promptStep_of_answer stepped, kept, answered] at ran
    refine ⟨_, ran, ?_⟩
    rw [Visit.exportAtOnce, Export.runBy_of_start begun]
    refine ⟨rfl, ?_, ?_⟩
    · rw [waits.folders, folders]
      rfl
    · rw [undisturbed]
      rfl

/-- Every export that a visit asks for by a click while no dialog is open, whatever the window went through
before and goes through while the prompt waits, does what a complete export at once does. -/
theorem exported_of_click {id : WindowId} {session : Session} {built : Window}
    (constructed : Window.construct id session = .ok built) {disk : Disk} {earlier : List Visit} {before : Screen}
    (reached : (ofWindow built disk).visits earlier = .ok before) (idle : before.dialogs.isModal = false)
    {asking : Visit} (clicked : asking.input.png = true) :
    ∃ opened, before.visit asking = .ok opened ∧ Exported asking before opened := by
  have undisturbed := Dialogs.eq_none_of_not_isModal idle
  have steady := steady_of_visits (Window.steady_of_construct constructed : (ofWindow built disk).window.Steady) reached
  obtain ⟨window, handled, sound, _⟩ := steady.handleAll asking.tasks
  have met : ({ before with window } : Screen).window.Steady := sound
  obtain ⟨opened, ran, steady, unasked, disks, folders, dialogs⟩ := turn_of_idle met asking.toTurn undisturbed
  rw [clicked, Bool.true_or, if_pos rfl] at dialogs
  have asked : before.visit asking = .ok opened := by
    rw [Screen.visit, handled]
    exact ran
  have opens {pending : Export.Pending} (begun : Export.start (asking.picture opened) asking.disk = .ok pending) :
      opened.dialogs = ⟨some (.ofPending pending), []⟩ := by
    rcases Dialogs.beginExport_cases (asking.picture opened) asking.disk with
      ⟨other, begins, isOpen⟩ | ⟨_, fails, _⟩
    · cases begun.symm.trans begins
      exact dialogs.trans isOpen
    · cases begun.symm.trans fails
  refine ⟨opened, asked, ?_, ?_, fun pending begun => Export.rendered_of_start begun, ?_⟩
  · intro error failed answer
    rcases Dialogs.beginExport_cases (asking.picture opened) asking.disk with
      ⟨_, begins, _⟩ | ⟨other, fails, told⟩
    · cases failed.symm.trans begins
    · cases failed.symm.trans fails
      rw [Visit.exportAtOnce, Export.runBy, failed]
      refine ⟨disks, folders.trans (List.append_nil _).symm, ?_⟩
      rw [undisturbed]
      exact dialogs.trans told
  · intro pending begun
    refine ⟨opens begun, folders, disks, fun answer => ?_⟩
    rw [Visit.exportAtOnce, Export.runBy, begun]
  · intro pending begun waiting quiet prompt stillOpen
    obtain ⟨waited, waits, steady, unasked⟩ := exists_waits steady unasked (opens begun) quiet stillOpen
    exact ⟨waited, waits, fun answering quiet closes => underwent_of_answer begun (opens begun) undisturbed folders
      stillOpen waits steady unasked quiet closes⟩

/-- A rasterizer that paints one scene white and leaves nothing to be seen of any other. -/
def spot (scene : String) : Rasterizer := fun other =>
  .ok fun _ _ _ _ => if other = scene then .white else .transparent

/-- A visit with what is done to its window before it, whether the export button is clicked, and what is done
to a prompt. -/
def visitOf (rasterizer : Rasterizer) (tasks : List Window.Event) (png : Bool) (prompt : PromptInput) : Visit where
  tasks
  input := { FrameInput.none with png, dialogs := ⟨prompt, false⟩ }
  disk := Disk.empty ["home"]
  rasterizer
  encoder := Png.encoder
  revealer := systemRevealer false

/-- Two leaves that look alike but for their letters, the first of which is shown. -/
def twins : Session where
  root := .node (.text "top") false none
    [some (.node (.text "a") false none []), some (.node (.text "b") false none [])]
  rules := .empty
  focused := [0]

/-- A picture of one colour, as large as that of either twin. -/
def plain (color : Color) : Bitmap := ⟨⟨37, 44⟩, fun _ _ => color⟩

/-- What the rasterizer of one scene makes of a twin. -/
theorem rendered_spot (scene : String) {view : View} (size : view.size = ⟨37, 44⟩) :
    view.Rendered (spot scene) (plain (if view.scene = scene then .white else .transparent)) := by
  refine ⟨?_, ?_, ?_, _, rfl, ?_⟩ <;> rw [size]
  · decide
  · decide
  · decide
  · rfl

/-- What the window of the twins goes through while a path is typed in: it is rescaled and back and shows the
other leaf. -/
def meanwhile : List Window.Event := [.adjustScale 0, .adjustScale 500, .select [1]]

/-- The other leaf has a picture of the same size and another scene. -/
theorem exists_twins : ∃ built last, Window.construct 1 twins = .ok built ∧
    ({ built with exportRequested := false } : Window).handleAll meanwhile = .ok last ∧
    built.view.size = ⟨37, 44⟩ ∧ last.view.size = ⟨37, 44⟩ ∧ last.view.scene ≠ built.view.scene := by
  have evaluated : ((Window.construct 1 twins).toOption.any fun built =>
      (({ built with exportRequested := false } : Window).handleAll meanwhile).toOption.any fun last =>
        built.view.size = ⟨37, 44⟩ ∧ last.view.size = ⟨37, 44⟩ ∧ built.view.labels = [("a", false)] ∧
          last.view.labels = [("b", false)]) = true := by
    decide +kernel
  simp only [Option.any_eq_true, toOption_eq_some_iff, decide_eq_true_eq] at evaluated
  obtain ⟨built, constructed, last, changed, size, sizeLast, labels, labelsLast⟩ := evaluated
  have steady := Window.steady_of_construct constructed
  have steadyLast : last.Steady := by
    obtain ⟨_, again, sound, _⟩ := Window.Steady.handleAll (⟨steady.shows, steady.sound⟩ :
      ({ built with exportRequested := false } : Window).Steady) meanwhile
    cases changed.symm.trans again
    exact sound
  refine ⟨built, last, constructed, changed, size, sizeLast, fun same => ?_⟩
  have alike := steadyLast.shows.isCurrent.labels_eq steady.shows.isCurrent same
  rw [labels, labelsLast] at alike
  exact absurd alike (by decide)

/-- The disk of every visit takes a file of a simple name. -/
theorem moveTarget_simple : (Disk.empty ["home"]).moveTarget "b.png" = .ok ["home", "b.png"] :=
  toOption_eq_some_iff.mp (by decide +kernel)

theorem takes_simple : (Disk.empty ["home"]).Takes "b.png" := by
  have created : ((Disk.empty ["home"]).createTemporary ".").toOption.isSome = true := by decide +kernel
  obtain ⟨⟨place, made⟩, done⟩ := Option.isSome_iff_exists.mp created
  exact ⟨⟨place, made, toOption_eq_some_iff.mp done⟩, ⟨rfl, rfl⟩, rfl, _, moveTarget_simple⟩

theorem get?_finishBy_simple (pending : Export.Pending) (revealer : Revealer) :
    (pending.finishBy Png.encoder (some "b.png") revealer (.empty ["home"])).disk.get? ["home", "b.png"] =
      some (.file (.picture pending.bitmap)) := by
  rcases Export.finishBy_cases Png.encoder pending (some "b.png") revealer (.empty ["home"]) with
    ⟨none, _⟩ | ⟨_, _, same, refused, _⟩ | ⟨_, _, _, same, encoded, _, leads, finished⟩
  · cases none
  · cases same
    exact absurd ⟨rfl, takes_simple⟩ refused
  · cases same
    cases encoded
    cases moveTarget_simple.symm.trans leads
    rw [finished]
    exact Disk.get?_put_self (List.cons_ne_nil _ _) _

theorem trim_simple : Blank.trim " b.png".toList = "b.png".toList := by decide +kernel

theorem answer_simple (pending : Export.Pending) :
    (SavePrompt.mk pending " b.png" false).step ⟨none, true, false⟩ (.empty ["home"]) =
      .answer ⟨pending, " b.png", false⟩ (some "b.png") := by
  have chosen : (SavePrompt.mk pending " b.png" false).choice? = some "b.png" := by
    rw [SavePrompt.choice?, trim_simple]
    rfl
  have free : (Disk.empty ["home"]).has "b.png" = false := by decide +kernel
  simp [SavePrompt.step, SavePrompt.applyEdit, SavePrompt.hits, chosen, free]

/-- While a path is typed in, the window is rescaled and back and shows the other leaf, whose picture has the
same size and other pixels; the picture that is saved is the one of the click. -/
theorem exported_of_click_rescaled : ∃ built opened waited after,
    Window.construct 1 twins = .ok built ∧
    (ofWindow built (Disk.empty ["home"])).visit (visitOf (spot built.view.scene) [] true .none) = .ok opened ∧
    opened.visits [visitOf (spot built.view.scene) meanwhile false ⟨some " b.png", false, false⟩] = .ok waited ∧
    waited.window.view.Rendered (spot built.view.scene) (plain .transparent) ∧
    waited.visit (visitOf (spot built.view.scene) [] false ⟨none, true, false⟩) = .ok after ∧
    after.disk.get? ["home", "b.png"] = some (.file (.picture (plain .white))) := by
  obtain ⟨built, last, constructed, changed, size, sizeLast, differs⟩ := exists_twins
  let asking := visitOf (spot built.view.scene) [] true .none
  let typing := visitOf (spot built.view.scene) meanwhile false ⟨some " b.png", false, false⟩
  let saving := visitOf (spot built.view.scene) [] false ⟨none, true, false⟩
  let pending : Export.Pending := ⟨plain .white, Export.defaultPath asking.disk⟩
  have reached : (ofWindow built (Disk.empty ["home"])).visits [] = .ok (ofWindow built (Disk.empty ["home"])) := rfl
  have clicked : asking.input.png = true := rfl
  obtain ⟨opened, asked, exported⟩ := exported_of_click constructed reached rfl clicked
  have window : opened.window = { built with exportRequested := false } := by
    obtain ⟨_, did, window⟩ := window_turn asked
    cases did
    exact window
  have rendered : opened.window.view.Rendered asking.rasterizer (plain .white) := by
    rw [window]
    have same := rendered_spot built.view.scene size
    rw [if_pos rfl] at same
    exact same
  have begun : Export.start (asking.picture opened) asking.disk = .ok pending := by
    rw [Export.start, Visit.picture, View.rasterize_eq_ok_iff.mpr rendered]
  have isOpen := (exported.asks pending begun).1
  have stillOpen : (opened.dialogs.afterPrompts ([typing].map (·.promptFrame))).prompt =
      some ⟨pending, " b.png", false⟩ := by
    rw [isOpen]
    rfl
  have quiet : ∀ visit ∈ [typing], visit.Quiet := by
    simp [typing, visitOf, Visit.Quiet, meanwhile]
  obtain ⟨waited, waits, ends⟩ := exported.ends pending begun [typing] quiet _ stillOpen
  have shows : waited.window = last := by
    have meant := waits.window
    rw [window] at meant
    exact Except.ok.inj (meant.symm.trans changed)
  have closes : (waited.dialogs.afterPrompt saving.promptFrame).prompt = none := by
    have answers := answer_simple pending
    rw [waits.dialogs, Dialogs.afterPrompt, Dialogs.promptStep_of_answer answers]
  obtain ⟨after, saved, underwent⟩ := ends saving List.not_mem_nil closes
  refine ⟨built, opened, waited, after, constructed, asked, waits.ran, ?_, saved, ?_⟩
  · rw [shows]
    have other := rendered_spot built.view.scene sizeLast
    rw [if_neg differs] at other
    exact other
  · have answered : answerOf pending.suggested [typing] saving = some "b.png" :=
      congrArg (fun letters => some (String.ofList letters)) trim_simple
    rw [underwent.disk, Visit.exportAtOnce, Export.runBy_of_start begun, answered]
    exact get?_finishBy_simple pending (systemRevealer false)

end Screen

end TreeInspector
