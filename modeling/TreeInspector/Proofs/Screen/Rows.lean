import TreeInspector.Proofs.Screen.Runs

/-! # Outlines on the screen

A frame toggles nodes that have rows, in the windows that it draws, and nothing else that happens to a host
changes the state of an outline. So after every run a node is expanded or not by the number of times that
it was toggled, and every window draws the rows of the nodes with only expanded nodes above them.
-/

namespace TreeInspector

/-- A window still has the outline of its tree. -/
theorem Registry.Traced.mirrors {operations : List Registry.Operation} {window : Window}
    (traced : Registry.Traced operations window) :
    Outline.ofTree window.session.root = .ok window.outline := by
  obtain ⟨session, fresh, _, built, ran⟩ := traced
  obtain ⟨final, again, _, reflects⟩ := (Window.reflects_construct built).handleAll
    (Window.sound_of_construct built) (Registry.eventsOf window.id operations)
  obtain rfl : final = window := Except.ok.inj (again.symm.trans ran)
  have mirrors := Window.outline_of_construct built
  rw [reflects.session, reflects.outline]
  exact mirrors

/-- A screen shows the texts of the rows and which of them are coloured. -/
theorem Screen.drawing_rows (screen : Screen) : screen.drawing.rows =
    (screen.window.drawnRows screen.expansion).map fun row => (row.text, row.color.isSome) := by
  rw [Window.drawnRows, List.map_map]
  apply List.map_congr_left
  intro shown _
  rw [Function.comp_apply, Window.text_row, Window.isSome_color_row]

namespace Host

/-- The nodes that the user expands or collapses in a frame. -/
def Take.toggles (take : Take) : List (WindowId × NodePath) :=
  take.drew.filterMap (take.before.found.toggled? take.input)

theorem Take.mem_drew_of_toggles {take : Take} {key : WindowId × NodePath} (toggled : key ∈ take.toggles) :
    key.1 ∈ take.drew := by
  obtain ⟨id, drew, toggled⟩ := List.mem_filterMap.mp toggled
  rwa [id_of_toggled? toggled]

/-- A frame changes the state of the nodes that it toggles. -/
theorem Orderly.expansion_frame {host after : Host} (orderly : host.Orderly) (lawful : host.Lawful)
    {input : HostInput} {commands : List ViewportCommand} (ran : host.frame input = .ok (commands, after)) :
    after.expansion = host.expansion.toggleAll (Take.mk host input commands after).toggles := by
  rcases orderly.frame_cases lawful input with
    ⟨crash, crashed, _⟩ | ⟨stopped, closed⟩ | ⟨going, drawn, _, expansion, drew⟩
  · cases ran.symm.trans crashed
  · cases ran.symm.trans closed
    rw [Take.toggles, Take.drew, stopped]
    rfl
  · cases ran.symm.trans drew
    rw [Take.toggles, Take.drew, going]
    exact expansion

namespace Reel

/-- The outlines are in the state to which the frames of a run have toggled them. -/
def Tracks (reel : Reel) : Prop :=
  reel.host.expansion = Expansion.initial.toggleAll (reel.takes.flatMap Take.toggles)

section Step

variable {start : Host} {moves : List Move} {reel : Reel} (consistent : reel.Consistent start moves)
include consistent

theorem Consistent.tracks_step (tracks : reel.Tracks) {move : Move} {next : Reel}
    (stepped : reel.step move = .ok next) : next.Tracks := by
  cases move with
  | call session =>
    cases stepped
    exact tracks
  | post errand =>
    cases stepped
    exact tracks
  | frame input =>
    obtain ⟨⟨commands, after⟩, ran, rest⟩ := bind_eq_ok_iff.mp stepped
    cases rest
    have toggled := consistent.orderly.expansion_frame consistent.lawful ran
    rw [Tracks] at tracks ⊢
    rw [toggled, tracks, List.flatMap_append, Expansion.toggleAll_append, List.flatMap_singleton]

theorem Consistent.tracks_run (tracks : reel.Tracks) {more : List Move} {last : Reel}
    (ran : reel.run more = .ok last) : last.Tracks := by
  induction more generalizing reel moves with
  | nil =>
    cases ran
    exact tracks
  | cons move more ih =>
    obtain ⟨next, stepped, later⟩ := bind_eq_ok_iff.mp ran
    rcases consistent.step move with ⟨crash, crashed, _⟩ | ⟨other, again, consistentNext⟩
    · cases crashed.symm.trans stepped
    · cases again.symm.trans stepped
      exact ih consistentNext (consistent.tracks_step tracks stepped) later

end Step

/-- Whatever has happened to a host, the state of a node is its first one if it was toggled an even number
of times, and the other one else; a window that was never drawn has only its root expanded. Toggling a node
changes the state of that node in that window alone. Every window draws its outline by the states of its
own nodes. -/
theorem run_draws_outlines (options : HostOptions) (disk : Disk) (moves : List Move) :
    (∃ crash, (fresh options disk).run moves = .error crash ∧ .post (.crash crash) ∈ moves) ∨
    ∃ reel, (fresh options disk).run moves = .ok reel ∧
      (∀ id path, reel.host.expansion.isExpanded id path =
        (path.isRoot != decide ((reel.takes.flatMap Take.toggles).count (id, path) % 2 = 1))) ∧
      (∀ id, (∀ take ∈ reel.takes, id ∉ take.drew) →
        ∀ path, reel.host.expansion.isExpanded id path = path.isRoot) ∧
      (∀ id path other node, (reel.host.expansion.toggle id path).isExpanded other node =
        if other = id ∧ node = path then !reel.host.expansion.isExpanded other node
        else reel.host.expansion.isExpanded other node) ∧
      ∀ window ∈ reel.host.registry.windows, window.DrawsOutline reel.host.expansion ∧
        (reel.host.screen window).drawing.rows =
          (window.drawnRows reel.host.expansion).map fun row => (row.text, row.color.isSome) := by
  refine (run_consistent options disk moves).imp_right ?_
  rintro ⟨reel, ran, consistent⟩
  have tracks : reel.Tracks := (consistent_fresh options disk).tracks_run rfl ran
  have first (id : WindowId) (path : NodePath) : Expansion.initial.isExpanded id path = path.isRoot :=
    Bool.bne_false _
  refine ⟨reel, ran, fun id path => ?_, fun id undrawn path => ?_, fun id path other node => ?_,
    fun window member => ?_⟩
  · rw [tracks, Expansion.isExpanded_toggleAll, first]
  · rw [tracks, Expansion.isExpanded_toggleAll_of_notMem, first]
    intro toggled
    obtain ⟨take, taken, among⟩ := List.mem_flatMap.mp toggled
    exact undrawn take taken (Take.mem_drew_of_toggles among)
  · exact Expansion.isExpanded_toggle ..
  · obtain ⟨_, operations, accounts⟩ := consistent.orderly.accounts
    exact ⟨Window.drawsOutline (accounts.traced window member).mirrors _, Screen.drawing_rows _⟩

end Reel

end Host

end TreeInspector
