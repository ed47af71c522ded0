import TreeInspector.Proofs.Dispatch.Calls
import TreeInspector.Proofs.Dispatch.Departure
import TreeInspector.Proofs.Window.Crashes
import TreeInspector.Proofs.Window.Uses

/-! # Opening windows of trees that crash

A tree may crash at any of its nodes. Whether a window can be opened for it does not depend on what is
open already, on the focus or on the scale, but only on the nodes that can be reached; and if it can, no
use of the window meets a crash later. A caller is told of the crash, on whichever way the window was
asked for, while the windows and the handles to them stay as they are.
-/

namespace TreeInspector

open Channel (perform)
open Registry (Job)

namespace Exchange

/-- Calls for a window of the session whose construction was carried out are told of a crash, as soon as
their threads go on, and of nothing else; the windows stay as they are. -/
def TellsCrash (exchange : Exchange) (session : Session) (crash : Crash) : Prop :=
  ∀ construction ∈ exchange.built, construction.session = session →
    construction.after = { construction.before with attempts := construction.before.attempts + 1 } ∧
    (construction.call, .error (.construction crash.text)) ∈
      (exchange.step (.complete construction.call)).completed ∧
    ∀ result, (construction.call, result) ∈ exchange.completed → result = .error (.construction crash.text)

variable {exchange : Exchange} (sound : exchange.Sound)
include sound

/-- The answer of a construction is passed on in the next step of its thread, or was passed on before. -/
theorem Sound.answer_completed {construction : Construction} (member : construction ∈ exchange.built) :
    (construction.call, construction.answer) ∈ (exchange.step (.complete construction.call)).completed ∧
      ∀ result, (construction.call, result) ∈ exchange.completed → result = construction.answer := by
  obtain ⟨course, stands⟩ := sound.courses construction.call
  have among : construction ∈ (exchange.dossier construction.call).built := by simp [dossier, member]
  rw [stands] at among
  cases course with
  | ran other passed =>
    obtain rfl := List.mem_singleton.mp among
    constructor
    · cases passed with
      | false =>
        rw [completed_complete stands]
        exact List.mem_append_right _ (.head _)
      | true =>
        have told : construction.answer ∈ (exchange.dossier construction.call).results := by
          rw [stands]
          exact .head _
        exact (completed_run exchange [.complete construction.call]).subset (mem_completed_iff.mpr told)
    · intro result told
      rw [mem_completed_iff, stands] at told
      obtain ⟨impossible, _⟩ | ⟨_, same, rfl⟩ := Course.of_results told
      · cases impossible
      · cases same
        rfl
  | _ => cases among

theorem Sound.tellsCrash {session : Session} {crash : Crash}
    (crashes : session.root.firstCrash? = some crash) : exchange.TellsCrash session crash := by
  rintro construction member rfl
  have crashed : (construction.before.openWindow construction.session).1 = .error crash :=
    (Registry.openWindow_eq_error_iff crash).mpr crashes
  have answer : construction.answer = .error (.construction crash.text) := by
    rw [Construction.answer, crashed]
    rfl
  have told := sound.answer_completed member
  rw [answer] at told
  exact ⟨Registry.registry_of_crash crashed, told⟩

end Exchange

namespace Hosting

/-- Whoever asked a thread for a window of the session, by a call for one or by opening it in a task of
their own, is told of a crash once that was carried out. -/
def TellsCrash (hosting : Hosting WindowId) (session : Session) (crash : Crash) : Prop :=
  ∀ before send chore after, hosting.traffic.executed = before ++ (send, chore) :: after →
    chore = .openWindow session ∨ chore = .awaited (.openWindow session) →
      (hosting.conclude send).reply? send = some (.error (.construction crash.text))

theorem Sound.tellsCrash {hosting : Hosting WindowId} (sound : hosting.Sound) {session : Session}
    {crash : Crash} (crashes : session.root.firstCrash? = some crash) : hosting.TellsCrash session crash := by
  intro before send chore after ran asked
  have sent := accepted_of_mem sound (ran ▸ List.mem_append_right _ (.head _))
  rw [reply?_conclude sound sent]
  have crashed : ((perform Workbench.execute before Workbench.empty).ledger.registry.openWindow session).1 =
      .error crash := (Registry.openWindow_eq_error_iff crash).mpr crashes
  rcases asked with rfl | rfl
  all_goals
    rw [outcome?_of_mem sound ran rfl]
    simp only [Job.map, Job.openWindow, crashed]
    rfl

end Hosting

namespace Registry

/-- All that opening a window for a session can come to. -/
structure Opening (registry : Registry) (session : Session) : Prop where
  /-- It crashes exactly if some node that can be reached does. -/
  crashes : (∃ crash, (registry.openWindow session).1 = .error crash) ↔
    ∃ path node, session.root.resolve? path = some node ∧ node.crash ≠ none
  /-- The crash is that of the first such node in pre-order. -/
  first : ∀ crash, (registry.openWindow session).1 = .error crash ↔ ∃ before node after,
    session.root.preorder = before ++ node :: after ∧ node.crash = some crash ∧
      ∀ earlier ∈ before, earlier.crash = none
  /-- After a crash, the windows and all handles are as before, and only a number is used up. -/
  unharmed : ∀ crash, (registry.openWindow session).1 = .error crash →
    (registry.openWindow session).2 = { registry with attempts := registry.attempts + 1 }
  /-- In every run of calls, and on every thread for windows, those who asked are told of the crash. -/
  called : ∀ crash, (registry.openWindow session).1 = .error crash → ∀ moves,
    (Exchange.fresh.run moves).TellsCrash session crash
  waited : ∀ crash, (registry.openWindow session).1 = .error crash → ∀ moves,
    (Hosting.fresh.run moves).TellsCrash session crash
  /-- A window that was opened can be used in any way. -/
  usable : ∀ id, (registry.openWindow session).1 = .ok id → ∃ window, window.id = id ∧
    (registry.openWindow session).2.windows = registry.windows ++ [window] ∧
      ∀ uses, ∃ final, window.useAll uses = .ok final

/-- Opening a window for any tree ends in the first crash of the tree, of which nothing but the caller
notices, or gives a window that never crashes. -/
theorem openWindow_safe (registry : Registry) (session : Session) : registry.Opening session := by
  have error_iff (crash : Crash) : (registry.openWindow session).1 = .error crash ↔
      session.root.firstCrash? = some crash := openWindow_eq_error_iff crash
  constructor
  case crashes => simp only [error_iff, SourceTree.exists_firstCrash?_iff]
  case first => simp only [error_iff, SourceTree.firstCrash?_eq_some_iff, implies_true]
  case unharmed => exact fun _ crashed => registry_of_crash crashed
  case called => exact fun _ crashed moves => (Exchange.sound_run moves).tellsCrash ((error_iff _).mp crashed)
  case waited =>
    exact fun _ crashed moves => (Hosting.sound_fresh.run moves).tellsCrash ((error_iff _).mp crashed)
  case usable =>
    intro id opened
    obtain ⟨window, built, windows⟩ := exists_opened opened
    refine ⟨window, Window.id_of_construct built, windows, fun uses => ?_⟩
    obtain ⟨final, ran, _⟩ := (Window.steady_of_construct built).useAll uses
    exact ⟨final, ran⟩

/-- Of two crashes, the first in pre-order is reported, although the other one is nearer to the root. -/
example : (Registry.empty.openWindow
    { root := .node (.text "top") false none
        [none, some (.node (.text "left") false none
            [some (.node (.text "leaf") false (some (.message "first")) [])]),
          some (.node (.text "right") false (some (.message "second")) [])]
      rules := .empty }).1 = .error (.message "first") := by
  rfl

end Registry

end TreeInspector
