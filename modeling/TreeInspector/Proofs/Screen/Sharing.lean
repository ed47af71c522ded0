import Mathlib.Data.List.Nodup
import TreeInspector.Proofs.Screen.Runs
import TreeInspector.Proofs.Source.Nodes

/-! # Dialogs in one viewport

Windows that share a viewport may draw dialogs of the same shape at the same spot. Whatever the user does
to a dialog there reaches all windows that draw one of its shape. So what the user does reaches one window
at a time exactly if no two dialogs in one viewport have the same shape, which is so where every window
has its own viewport.
-/

namespace TreeInspector

namespace DialogDrawing

/-- The texts of the buttons. -/
def buttonTexts (dialog : DialogDrawing) : List String := dialog.buttons.map Prod.fst

/-- How the dialogs of a kind look: a prompt asks to save or to replace, with one more text for the
latter, and a notice can only be dismissed. -/
def Looks (dialog : DialogDrawing) : DialogKind → Prop
  | .prompt => ∃ replaces : Bool,
    dialog.buttonTexts = [if replaces then "Overwrite" else "Save", SavePrompt.cancelLabel] ∧
      dialog.labels.length = if replaces then 3 else 2
  | .notice => dialog.buttonTexts = ["OK"] ∧ dialog.labels.length = 1

/-- The first button of a dialog tells its shape among the dialogs of its kind and title. -/
theorem Looks.exists_text {dialog : DialogDrawing} {kind : DialogKind} (looks : dialog.Looks kind) :
    ∃ text, ∀ other : DialogDrawing, other.Looks kind → other.title = dialog.title →
      (text ∈ other.buttonTexts ↔ other.shape = dialog.shape) := by
  cases kind with
  | prompt =>
    obtain ⟨replaces, _, labels⟩ := looks
    refine ⟨if replaces then "Overwrite" else "Save", ?_⟩
    rintro other ⟨otherReplaces, texts, otherLabels⟩ title
    rw [texts, shape, shape, title, otherLabels, labels]
    cases replaces <;> cases otherReplaces <;> simp [SavePrompt.cancelLabel]
  | notice =>
    refine ⟨"OK", ?_⟩
    rintro other ⟨texts, labels⟩ title
    simp [texts, shape, title, labels, looks.2]

theorem click?_isSome_iff (dialog : DialogDrawing) (kind : DialogKind) (text : String) :
    (dialog.click? kind text).isSome = true ↔ text ∈ dialog.buttonTexts := by
  unfold click? buttonTexts
  rw [Option.isSome_map, Option.isSome_iff_ne_none, Ne, List.lookup_eq_none_iff, List.mem_map]
  simp only [bne_iff_ne, ne_eq, not_forall, not_not, exists_prop]
  exact exists_congr fun _ => and_congr_right fun _ => eq_comm

section Uncovered

variable {dialogs : List DialogDrawing} {dialog : DialogDrawing}

theorem mem_of_mem_uncovered (seen : dialog ∈ uncovered dialogs) : dialog ∈ dialogs := by
  obtain ⟨shape, _, found⟩ := List.mem_filterMap.mp seen
  exact List.mem_reverse.mp (List.mem_of_find?_eq_some found)

/-- Of every shape that is drawn, one dialog is seen. -/
theorem exists_mem_uncovered (drawn : dialog ∈ dialogs) :
    ∃ seen ∈ uncovered dialogs, seen.shape = dialog.shape := by
  have known : dialog.shape ∈ (dialogs.map shape).eraseDups := List.mem_eraseDups.mpr (List.mem_map_of_mem drawn)
  cases found : dialogs.reverse.find? fun other => other.shape == dialog.shape with
  | none =>
    have absent := List.find?_eq_none.mp found dialog (List.mem_reverse.mpr drawn)
    exact absurd (beq_self_eq_true dialog.shape) absent
  | some seen =>
    have same : seen.shape = dialog.shape := by simpa using List.find?_some found
    exact ⟨seen, List.mem_filterMap.mpr ⟨dialog.shape, known, found⟩, same⟩

end Uncovered

end DialogDrawing

theorem Screen.looks_of_dialog? {screen : Screen} {kind : DialogKind} {dialog : DialogDrawing}
    (drawn : screen.dialog? kind = some dialog) : dialog.Looks kind := by
  have unchanged (dialog : DialogDrawing) : (drawDialog screen.laidOut dialog).buttonTexts = dialog.buttonTexts ∧
      (drawDialog screen.laidOut dialog).labels = dialog.labels := by
    rw [drawDialog]
    split_ifs
    · exact ⟨rfl, rfl⟩
    · simp [DialogDrawing.buttonTexts]
  obtain ⟨plain, isPlain, rfl⟩ := Option.map_eq_some_iff.mp drawn
  obtain ⟨texts, labels⟩ := unchanged plain
  cases kind with
  | prompt =>
    obtain ⟨prompt, _, rfl⟩ := Option.map_eq_some_iff.mp isPlain
    refine ⟨prompt.asksToReplace screen.disk, ?_, ?_⟩
    · rw [texts]
      rfl
    · rw [labels]
      simp only [SavePrompt.drawing]
      cases prompt.asksToReplace screen.disk <;> rfl
  | notice =>
    obtain ⟨notice, _, rfl⟩ := Option.map_eq_some_iff.mp isPlain
    exact ⟨texts, congrArg List.length labels⟩

namespace Host

/-- The shapes of the dialogs in the viewport of a window. -/
def shapesAround (host : Host) (window : Window) (kind : DialogKind) : List (String × Nat) :=
  (host.dialogsAround window kind).map fun entry => entry.2.shape

/-- No two dialogs in one viewport have the same shape. -/
def DialogsApart (host : Host) : Prop :=
  ∀ window ∈ host.registry.windows, ∀ kind, (host.shapesAround window kind).Nodup

/-- Whatever the user does to the widgets of a window reaches one window. -/
def GesturesReachOne (host : Host) : Prop :=
  ∀ window ∈ host.registry.windows, ∀ gesture use reached,
    host.inputFor? window gesture = some (use, reached) → ∃ id, reached = [id]

/-- Whatever the user does to the widgets of a window reaches this window and no other. -/
def GesturesReachOwn (host : Host) : Prop :=
  ∀ window ∈ host.registry.windows, ∀ gesture use reached,
    host.inputFor? window gesture = some (use, reached) → reached = [window.id]

section Around

variable {host : Host} {window : Window} {kind : DialogKind}

/-- The dialogs in one viewport that count have one title and look like dialogs of their kind. -/
theorem looks_of_mem_dialogsAround {entry : WindowId × DialogDrawing}
    (member : entry ∈ host.dialogsAround window kind) : entry.2.Looks kind := by
  obtain ⟨companion, _, made⟩ := List.mem_filterMap.mp (List.mem_of_mem_filter member)
  obtain ⟨dialog, drawn, rfl⟩ := Option.map_eq_some_iff.mp made
  exact Screen.looks_of_dialog? drawn

theorem title_of_mem_dialogsAround {entry other : WindowId × DialogDrawing}
    (member : entry ∈ host.dialogsAround window kind) (among : other ∈ host.dialogsAround window kind) :
    other.2.title = entry.2.title := by
  have first := (List.mem_filter.mp member).2
  have second := (List.mem_filter.mp among).2
  exact Option.some.inj ((eq_of_beq second).symm.trans (eq_of_beq first))

theorem count_shapesAround (shape : String × Nat) : (host.shapesAround window kind).count shape =
    ((host.dialogsAround window kind).filter fun entry => entry.2.shape == shape).length := by
  rw [shapesAround, List.count_eq_countP, List.countP_map, List.countP_eq_length_filter]
  rfl

/-- A click reaches the windows whose dialogs have the shape of a dialog with the button. -/
theorem clickDialog?_eq_some {text : String} {use : Use} {reached : List WindowId}
    (clicked : host.clickDialog? window kind text = some (use, reached)) :
    ∃ entry ∈ host.dialogsAround window kind, text ∈ entry.2.buttonTexts ∧ reached =
      ((host.dialogsAround window kind).filter fun other => other.2.shape == entry.2.shape).map Prod.fst := by
  obtain ⟨dialog, seen, found⟩ := List.exists_of_findSome?_eq_some clicked
  obtain ⟨_, answered, same⟩ := Option.map_eq_some_iff.mp found
  obtain ⟨rfl, rfl⟩ := Prod.mk.inj same
  obtain ⟨entry, member, rfl⟩ := List.mem_map.mp (DialogDrawing.mem_of_mem_uncovered seen)
  exact ⟨entry, member, (entry.2.click?_isSome_iff kind text).mp (Option.isSome_iff_exists.mpr ⟨_, answered⟩), rfl⟩

/-- A button that is drawn can be clicked. -/
theorem exists_clickDialog? {text : String} {entry : WindowId × DialogDrawing}
    (member : entry ∈ host.dialogsAround window kind)
    (tells : ∀ other ∈ host.dialogsAround window kind, text ∈ other.2.buttonTexts ↔ other.2.shape = entry.2.shape) :
    ∃ use reached, host.clickDialog? window kind text = some (use, reached) := by
  obtain ⟨dialog, seen, shape⟩ := DialogDrawing.exists_mem_uncovered (List.mem_map_of_mem member)
  obtain ⟨other, among, rfl⟩ := List.mem_map.mp (DialogDrawing.mem_of_mem_uncovered seen)
  have answers := (other.2.click?_isSome_iff kind text).mpr ((tells other among).mpr shape)
  have found : (host.clickDialog? window kind text).isSome = true := by
    rw [clickDialog?, List.findSome?_isSome_iff]
    exact ⟨other.2, seen, by rwa [Option.isSome_map]⟩
  obtain ⟨⟨use, reached⟩, clicked⟩ := Option.isSome_iff_exists.mp found
  exact ⟨use, reached, clicked⟩

/-- What is done to the window itself reaches this window. -/
theorem reached_of_widget {gesture : Gesture} (widget : ∀ kind text, gesture ≠ .dialog kind text) {use : Use}
    {reached : List WindowId} (given : host.inputFor? window gesture = some (use, reached)) :
    reached = [window.id] := by
  cases gesture with
  | dialog kind text => exact absurd rfl (widget kind text)
  | _ =>
    simp only [inputFor?, Option.map_eq_some_iff, Prod.mk.injEq] at given
    obtain ⟨_, _, _, same⟩ := given
    exact same.symm

end Around

/-- What the user does reaches one window at a time exactly if no two dialogs in one viewport have the
same shape. -/
theorem gesturesReachOne_iff (host : Host) : host.GesturesReachOne ↔ host.DialogsApart := by
  constructor
  · intro single window member kind
    rw [List.nodup_iff_count_le_one]
    intro shape
    by_cases drawn : shape ∈ host.shapesAround window kind
    · obtain ⟨entry, entered, rfl⟩ := List.mem_map.mp drawn
      obtain ⟨text, tells⟩ := (looks_of_mem_dialogsAround entered).exists_text
      have tellsHere : ∀ other ∈ host.dialogsAround window kind,
          text ∈ other.2.buttonTexts ↔ other.2.shape = entry.2.shape := fun other among =>
        tells other.2 (looks_of_mem_dialogsAround among) (title_of_mem_dialogsAround entered among)
      obtain ⟨use, reached, clicked⟩ := exists_clickDialog? entered tellsHere
      obtain ⟨id, rfl⟩ := single window member (.dialog kind text) use reached clicked
      obtain ⟨other, among, offers, same⟩ := clickDialog?_eq_some clicked
      rw [(tellsHere other among).mp offers] at same
      have once := congrArg List.length same
      rw [List.length_map, ← count_shapesAround] at once
      exact once.ge
    · rw [List.count_eq_zero_of_not_mem drawn]
      exact Nat.zero_le 1
  · intro apart window member gesture use reached given
    cases gesture with
    | dialog kind text =>
      obtain ⟨entry, entered, _, rfl⟩ := clickDialog?_eq_some given
      have once := List.count_eq_one_of_mem (apart window member kind)
        (List.mem_map_of_mem entered : entry.2.shape ∈ host.shapesAround window kind)
      rw [count_shapesAround] at once
      obtain ⟨only, alone⟩ := List.length_eq_one_iff.mp once
      exact ⟨only.1, congrArg (List.map Prod.fst) alone⟩
    | _ => exact ⟨window.id, reached_of_widget (by simp) given⟩

section Detached

variable {host : Host} (detached : host.options.embedded = false)
include detached

theorem companions_of_detached (window : Window) : host.companions window = [window] := by
  rw [companions, detached]
  rfl

theorem dialogsApart_of_detached : host.DialogsApart := by
  intro window _ kind
  have few : (host.shapesAround window kind).length ≤ 1 := by
    rw [shapesAround, List.length_map, dialogsAround, companions_of_detached detached window]
    exact (List.length_filter_le ..).trans (List.length_filterMap_le ..)
  exact List.nodup_iff_count_le_one.mpr fun shape => List.count_le_length.trans few

/-- Where every window has its own viewport, what the user does to a window reaches this window. -/
theorem gesturesReachOwn_of_detached : host.GesturesReachOwn := by
  intro window member gesture use reached given
  obtain ⟨id, rfl⟩ := host.gesturesReachOne_iff.mpr (dialogsApart_of_detached detached) window member _ _ _ given
  cases gesture with
  | dialog kind text =>
    obtain ⟨entry, _, _, same⟩ := clickDialog?_eq_some given
    have among : id ∈ ((host.dialogsAround window kind).filter fun other =>
        other.2.shape == entry.2.shape).map Prod.fst := same ▸ List.mem_singleton_self id
    obtain ⟨other, kept, rfl⟩ := List.mem_map.mp among
    obtain ⟨companion, present, made⟩ :=
      List.mem_filterMap.mp (List.mem_of_mem_filter (List.mem_of_mem_filter kept))
    rw [companions_of_detached detached, List.mem_singleton] at present
    obtain ⟨_, _, rfl⟩ := Option.map_eq_some_iff.mp made
    rw [present]
  | _ => exact reached_of_widget (by simp) given

end Detached

namespace Reel

/-- Every run of a host that no task crashes: each frame is faithful to every window and goes on from the
frames before it. At every point, what the user does reaches one window at a time exactly if no two
dialogs in one viewport have the same shape; where every window has its own viewport, it reaches the
window it is done to. -/
theorem run_faithful (options : HostOptions) (disk : Disk) (moves : List Move) :
    (∃ crash, (fresh options disk).run moves = .error crash ∧ .post (.crash crash) ∈ moves) ∨
    ∃ reel, (fresh options disk).run moves = .ok reel ∧
      (∀ take ∈ reel.takes, take.Faithful) ∧
      (∀ earlier take, earlier ++ [take] <+: reel.takes → take.Follows (.fresh options disk) earlier) ∧
      (reel.host.GesturesReachOne ↔ reel.host.DialogsApart) ∧
      (options.embedded = false → reel.host.GesturesReachOwn) := by
  refine (run_consistent options disk moves).imp_right ?_
  rintro ⟨reel, ran, consistent⟩
  refine ⟨reel, ran, consistent.faithful, consistent.follows, reel.host.gesturesReachOne_iff, fun detached => ?_⟩
  apply gesturesReachOwn_of_detached
  rw [consistent.resumes.options]
  exact detached

/-- The open windows with a prompt. -/
def prompting (reel : Reel) : List WindowId :=
  reel.host.ids.filter fun id => (reel.host.dialogsOf id).prompt.isSome

/-- Two windows are opened, and an export is asked for in each of them. -/
def twoExports : List Move :=
  [.call { root := .gapped, rules := .empty }, .call { root := .gapped, rules := .empty },
    .frame (.ofWindows [1] { FrameInput.none with png := true }),
    .frame (.ofWindows [2] { FrameInput.none with png := true }), .frame .none]

/-- Two windows in one viewport, each with a prompt of its own: a click in the second window that cancels
its prompt reaches the first window as well, and closes the prompts of both. -/
theorem cancel_reaches_both : ∃ reel second use last,
    (fresh ⟨true, true, systemRevealer false⟩ (.empty ["home"])).run twoExports = .ok reel ∧
    reel.host.registry.get? 2 = some second ∧
    reel.host.inputFor? second (.dialog .prompt SavePrompt.cancelLabel) = some (use, [1, 2]) ∧
    reel.step (.frame (.ofWindows [1, 2] use.input)) = .ok last ∧
    reel.prompting = [1, 2] ∧ last.prompting = [] ∧ ¬reel.host.GesturesReachOne := by
  have evaluated : ((fresh ⟨true, true, systemRevealer false⟩ (.empty ["home"])).run twoExports).toOption.bind
      (fun reel => (reel.host.registry.get? 2).bind fun second =>
        (reel.host.inputFor? second (.dialog .prompt SavePrompt.cancelLabel)).bind fun used =>
          (reel.step (.frame (.ofWindows used.2 used.1.input))).toOption.map fun last =>
            (reel.prompting, used.2, last.prompting)) = some ([1, 2], [1, 2], []) := by
    decide +kernel
  obtain ⟨reel, ran, evaluated⟩ := Option.bind_eq_some_iff.mp evaluated
  obtain ⟨second, shown, evaluated⟩ := Option.bind_eq_some_iff.mp evaluated
  obtain ⟨⟨use, reached⟩, used, evaluated⟩ := Option.bind_eq_some_iff.mp evaluated
  obtain ⟨last, stepped, evaluated⟩ := Option.map_eq_some_iff.mp evaluated
  simp only [Prod.mk.injEq] at evaluated
  obtain ⟨before, rfl, after⟩ := evaluated
  refine ⟨reel, second, use, last, toOption_eq_some_iff.mp ran, shown, used, toOption_eq_some_iff.mp stepped,
    before, after, ?_⟩
  intro single
  obtain ⟨id, alone⟩ := single second (Registry.get?_eq_some shown).1 _ use [1, 2] used
  cases alone

end Reel

end Host

end TreeInspector
