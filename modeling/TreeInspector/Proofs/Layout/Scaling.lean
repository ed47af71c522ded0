import Mathlib.Algebra.BigOperators.Ring.List
import Mathlib.Algebra.Order.Ring.Unbundled.Basic
import TreeInspector.Proofs.Layout.Separation

/-! # Layouts at another scale

Over exact numbers, a layout only knows the proportions of its distances: if the distances are multiplied
by a positive factor and texts grow with the font size, all coordinates are multiplied by the factor.
Measuring, the rows of children, the stack of nodes to place and the size of the drawing each commute with
the multiplication. A point in a box then stays in the box when both are multiplied, so clicks hit the
same nodes.
-/

namespace TreeInspector

open Scalar

/-- Both coordinates times a factor. -/
def Point.magnify (factor : ℚ) (point : Point ℚ) : Point ℚ := ⟨point.x * factor, point.y * factor⟩

/-- Both corners times a factor. -/
def Box.magnify (factor : ℚ) (box : Box ℚ) : Box ℚ := ⟨box.min.magnify factor, box.max.magnify factor⟩

/-- The same node in a box times a factor. -/
def Placed.magnify (factor : ℚ) (placed : Placed ℚ) : Placed ℚ :=
  { placed with box := placed.box.magnify factor }

/-- All coordinates, the size and the font size times a factor. -/
def Layout.magnify (factor : ℚ) (layout : Layout ℚ) : Layout ℚ where
  nodes := layout.nodes.map (Placed.magnify factor)
  size := layout.size.magnify factor
  fontSize := layout.fontSize * factor

/-- All distances times a factor. -/
def Metrics.magnify (factor : ℚ) (metrics : Metrics ℚ) : Metrics ℚ where
  fontSize := metrics.fontSize * factor
  levelGap := metrics.levelGap * factor
  nodeGap := metrics.nodeGap * factor
  padX := metrics.padX * factor
  padY := metrics.padY * factor

theorem Metrics.magnify_scaled (scale : ℚ) : (scaled 1).magnify scale = scaled scale := by
  have unit (distance : ℚ) : distance * 1 * scale = distance * scale := by rw [mul_one]
  exact (mk.injEq ..).mpr ⟨unit _, unit _, unit _, unit _, unit _⟩

/-- Texts grow with the font size. -/
def Measurer.Proportional (measurer : Measurer ℚ) : Prop := ∀ text fontSize factor,
  measurer text (fontSize * factor) =
    ((measurer text fontSize).1 * factor, (measurer text fontSize).2 * factor)

theorem proportional_estimate : Measurer.Proportional estimate := by
  intro text fontSize factor
  apply Prod.ext
  · change ofNat (Nat.max 1 text.length) * (fontSize * factor) * tenths 6 =
      ofNat (Nat.max 1 text.length) * fontSize * tenths 6 * factor
    ring
  · change fontSize * factor * tenths 12 = fontSize * tenths 12 * factor
    ring

section Factor

variable {rules : RuleNames} {measurer : Measurer ℚ} {metrics : Metrics ℚ} {factor : ℚ}

namespace Measured

mutual

/-- All widths times a factor. -/
def magnify (factor : ℚ) : Measured ℚ → Measured ℚ
  | .node text flagged width span children =>
    .node text flagged (width * factor) (span * factor) (magnifyAll factor children)

/-- All widths of a list of measured nodes times a factor. -/
def magnifyAll (factor : ℚ) : List (Measured ℚ) → List (Measured ℚ)
  | [] => []
  | first :: rest => magnify factor first :: magnifyAll factor rest

end

@[simp]
theorem magnifyAll_eq (nodes : List (Measured ℚ)) : magnifyAll factor nodes = nodes.map (magnify factor) := by
  induction nodes with
  | nil => rfl
  | cons first rest ih => rw [magnifyAll, ih, List.map_cons]

@[simp]
theorem text_magnify (node : Measured ℚ) : (node.magnify factor).text = node.text := by cases node; rfl

@[simp]
theorem flagged_magnify (node : Measured ℚ) : (node.magnify factor).flagged = node.flagged := by cases node; rfl

@[simp]
theorem width_magnify (node : Measured ℚ) : (node.magnify factor).width = node.width * factor := by
  cases node; rfl

@[simp]
theorem span_magnify (node : Measured ℚ) : (node.magnify factor).span = node.span * factor := by cases node; rfl

@[simp]
theorem children_magnify (node : Measured ℚ) :
    (node.magnify factor).children = node.children.map (magnify factor) := by
  cases node
  exact magnifyAll_eq _

mutual

@[simp]
theorem size_magnify : (node : Measured ℚ) → (node.magnify factor).size = node.size
  | .node _ _ _ _ children => by rw [magnify, size, size, sizeAll_magnifyAll children]

theorem sizeAll_magnifyAll : (nodes : List (Measured ℚ)) → sizeAll (magnifyAll factor nodes) = sizeAll nodes
  | [] => rfl
  | first :: rest => by rw [magnifyAll, sizeAll, sizeAll, size_magnify first, sizeAll_magnifyAll rest]

end

theorem rowWidth_magnify (nodes : List (Measured ℚ)) :
    rowWidth (metrics.magnify factor) (nodes.map (magnify factor)) = rowWidth metrics nodes * factor := by
  have spans : (nodes.map (magnify factor)).map span = nodes.map fun node => node.span * factor := by
    rw [List.map_map]
    exact List.map_congr_left fun node _ => span_magnify node
  rw [rowWidth_exact, rowWidth_exact, spans, List.sum_map_mul_right, List.length_map, Metrics.magnify]
  ring

theorem textWidth_magnify (proportional : measurer.Proportional) (text : String) :
    (measurer text (metrics.magnify factor).fontSize).1 + ofNat 2 * (metrics.magnify factor).padX =
      ((measurer text metrics.fontSize).1 + ofNat 2 * metrics.padX) * factor := by
  rw [Metrics.magnify, proportional]
  ring

mutual

/-- Measuring with all distances times a factor. -/
theorem measure_magnify (proportional : measurer.Proportional) (nonnegative : 0 ≤ factor) :
    (tree : SourceTree) → measure rules measurer (metrics.magnify factor) tree =
      (measure rules measurer metrics tree).map (magnify factor)
  | .node _ _ (some _) _ => rfl
  | .node label flagged none slots => by
    rw [measure, measure, measureSlots_magnify proportional nonnegative slots]
    cases measureSlots rules measurer metrics slots with
    | error => rfl
    | ok children =>
      -- The larger of two widths stays the larger one only because the factor is not negative.
      have wider (own row : ℚ) : larger (own * factor) (row * factor) = larger own row * factor :=
        (max_mul_of_nonneg _ _ nonnegative).symm
      change Except.ok (Measured.node _ flagged _ (larger _ (rowWidth _ _)) _) = Except.ok (Measured.node ..)
      rw [textWidth_magnify proportional, magnifyAll_eq, rowWidth_magnify, wider]

/-- Measuring children with all distances times a factor. -/
theorem measureSlots_magnify (proportional : measurer.Proportional) (nonnegative : 0 ≤ factor) :
    (slots : List (Option SourceTree)) → measureSlots rules measurer (metrics.magnify factor) slots =
      (measureSlots rules measurer metrics slots).map (magnifyAll factor)
  | [] => rfl
  | none :: rest => by
    rw [measureSlots, measureSlots, measureSlots_magnify proportional nonnegative rest]
  | some child :: rest => by
    rw [measureSlots, measureSlots, measure_magnify proportional nonnegative child,
      measureSlots_magnify proportional nonnegative rest]
    cases measure rules measurer metrics child with
    | error => rfl
    | ok first => cases measureSlots rules measurer metrics rest <;> rfl

end

end Measured

namespace Pending

/-- The same node still to be placed, with all lengths times a factor. -/
def magnify (factor : ℚ) (pending : Pending ℚ) : Pending ℚ :=
  { pending with node := pending.node.magnify factor, left := pending.left * factor }

variable {height : ℚ}

theorem place_magnify (pending : Pending ℚ) :
    (pending.magnify factor).place (metrics.magnify factor) (height * factor) =
      (pending.place metrics height).magnify factor := by
  have text : (pending.node.magnify factor).text = pending.node.text := Measured.text_magnify _
  have flagged : (pending.node.magnify factor).flagged = pending.node.flagged := Measured.flagged_magnify _
  have box : ((pending.magnify factor).place (metrics.magnify factor) (height * factor)).box =
      ((pending.place metrics height).box).magnify factor := by
    simp only [place, magnify, Measured.span_magnify, Measured.width_magnify, Metrics.magnify, Box.magnify,
      Point.magnify, Box.mk.injEq, Point.mk.injEq]
    refine ⟨⟨?_, ?_⟩, ?_, ?_⟩ <;> ring
  exact (Placed.mk.injEq ..).mpr ⟨rfl, text, box, flagged, rfl, rfl⟩

theorem row_magnify (path : NodePath) (depth : Nat) (parent : Option Nat) (position : Nat) (left : ℚ)
    (nodes : List (Measured ℚ)) :
    row (metrics.magnify factor) path depth parent position (left * factor)
        (nodes.map (Measured.magnify factor)) =
      (row metrics path depth parent position left nodes).map (magnify factor) := by
  induction nodes generalizing position left with
  | nil => rfl
  | cons first rest ih =>
    have next : left * factor + ((first.magnify factor).span + (metrics.magnify factor).nodeGap) =
        (left + (first.span + metrics.nodeGap)) * factor := by
      rw [Measured.span_magnify, Metrics.magnify]
      ring
    rw [List.map_cons, row, row, List.map_cons, next, ih]
    rfl

theorem below_magnify (position : Nat) (pending : Pending ℚ) :
    (pending.magnify factor).below (metrics.magnify factor) position =
      (pending.below metrics position).map (magnify factor) := by
  have start : pending.left * factor + (pending.node.span * factor -
        Measured.rowWidth metrics pending.node.children * factor) * tenths 5 =
      (pending.left + (pending.node.span - Measured.rowWidth metrics pending.node.children) * tenths 5) *
        factor := by
    ring
  simp only [below, magnify, Measured.children_magnify, Measured.span_magnify, Measured.rowWidth_magnify]
  rw [start]
  exact row_magnify ..

/-- Placing nodes with all lengths times a factor. -/
theorem placeAll_magnify (fuel position : Nat) (stack : List (Pending ℚ)) :
    placeAll (metrics.magnify factor) (height * factor) fuel position (stack.map (magnify factor)) =
      (placeAll metrics height fuel position stack).map (Placed.magnify factor) := by
  induction fuel generalizing position stack with
  | zero => rfl
  | succ fuel ih =>
    cases stack with
    | nil => rfl
    | cons next stack =>
      rw [List.map_cons, placeAll, placeAll, List.map_cons, place_magnify, below_magnify, ← List.map_append,
        ih]

theorem boxHeight_magnify (proportional : measurer.Proportional) :
    boxHeight measurer (metrics.magnify factor) = boxHeight measurer metrics * factor := by
  rw [boxHeight, boxHeight, Metrics.magnify, proportional]
  ring

end Pending

theorem Box.contains_magnify (positive : 0 < factor) (box : Box ℚ) (point : Point ℚ) :
    (box.magnify factor).contains (point.magnify factor) = box.contains point := by
  rw [Bool.eq_iff_iff, contains_iff, contains_iff]
  simp only [magnify, Point.magnify, mul_le_mul_iff_of_pos_right positive]

namespace Layout

theorem deepest_magnify (nodes : List (Placed ℚ)) :
    deepest (nodes.map (Placed.magnify factor)) = deepest nodes := by
  rw [deepest, deepest, List.foldl_map]
  rfl

theorem ofMeasured_magnify (proportional : measurer.Proportional) (path : NodePath) (tree : Measured ℚ) :
    ofMeasured measurer (metrics.magnify factor) path (tree.magnify factor) =
      (ofMeasured measurer metrics path tree).magnify factor := by
  have start : [(⟨tree.magnify factor, path, (metrics.magnify factor).nodeGap, 0, none⟩ : Pending ℚ)] =
      [(⟨tree, path, metrics.nodeGap, 0, none⟩ : Pending ℚ)].map (Pending.magnify factor) := rfl
  simp only [ofMeasured, Pending.boxHeight_magnify proportional, Measured.size_magnify,
    Measured.span_magnify, start, Pending.placeAll_magnify, deepest_magnify, magnify, Point.magnify, mk.injEq,
    Point.mk.injEq, true_and]
  refine ⟨⟨?_, ?_⟩, rfl⟩ <;> rw [Metrics.magnify] <;> ring

/-- Unless its focus is gone, a layout with all distances times a factor is the layout times the factor. -/
theorem ofTree_magnify (proportional : measurer.Proportional) (nonnegative : 0 ≤ factor)
    {root top : SourceTree} {focus : NodePath} (reached : root.resolve? focus = some top) :
    ofTree root focus rules measurer (metrics.magnify factor) =
      (ofTree root focus rules measurer metrics).map (magnify factor) := by
  rw [ofTree, ofTree, reached]
  simp only [Measured.measure_magnify proportional nonnegative]
  cases Measured.measure rules measurer metrics top with
  | error => rfl
  | ok tree => exact congrArg Except.ok (ofMeasured_magnify proportional focus tree)

section Click

variable (positive : 0 < factor) (layout : Layout ℚ) (point : Point ℚ)
include positive

/-- A click times the factor hits the node that the click hits. -/
theorem nodeAt?_magnify : (layout.magnify factor).nodeAt? (point.magnify factor) =
    (layout.nodeAt? point).map (Placed.magnify factor) := by
  rw [nodeAt?, nodeAt?, magnify, List.find?_map]
  congr 2
  exact funext fun placed => Box.contains_magnify positive placed.box point

/-- The hit is at the same position. -/
theorem findIdx?_magnify :
    ((layout.magnify factor).nodes.findIdx? fun placed => placed.box.contains (point.magnify factor)) =
      layout.nodes.findIdx? fun placed => placed.box.contains point := by
  rw [magnify, List.findIdx?_map]
  congr 1
  exact funext fun placed => Box.contains_magnify positive placed.box point

end Click

variable {scale : ℚ}

/-- At a positive scale, a focus that leads somewhere has the layout of scale one times the scale, and
every click times the scale hits the same node. -/
theorem ofTree_scaled (root : SourceTree) (focus : NodePath) (rules : RuleNames) (positive : 0 < scale) :
    (∀ top, root.resolve? focus = some top → ofTree root focus rules estimate (.scaled scale) =
      (ofTree root focus rules estimate (.scaled 1)).map (magnify scale)) ∧
    ∀ large small, ofTree root focus rules estimate (.scaled scale) = .ok large →
      ofTree root focus rules estimate (.scaled 1) = .ok small → ∀ point : Point ℚ,
        large.nodeAt? (point.magnify scale) = (small.nodeAt? point).map (Placed.magnify scale) ∧
          (large.nodes.findIdx? fun placed => placed.box.contains (point.magnify scale)) =
            small.nodes.findIdx? fun placed => placed.box.contains point := by
  have scaled {top : SourceTree} (reached : root.resolve? focus = some top) :
      ofTree root focus rules estimate (.scaled scale) =
        (ofTree root focus rules estimate (.scaled 1)).map (magnify scale) := by
    rw [← Metrics.magnify_scaled]
    exact ofTree_magnify proportional_estimate positive.le reached
  refine ⟨fun _ => scaled, ?_⟩
  intro large small laidLarge laidSmall point
  cases reached : root.resolve? focus with
  | none =>
    -- The drawing of nothing is not scaled, but there is nothing to hit.
    rw [ofTree, reached] at laidLarge laidSmall
    cases laidLarge
    cases laidSmall
    exact ⟨rfl, rfl⟩
  | some top =>
    rw [scaled reached, laidSmall] at laidLarge
    cases laidLarge
    exact ⟨nodeAt?_magnify positive small point, findIdx?_magnify positive small point⟩

theorem ofTree_scaled_trailing : (0 : ℚ) < 5 / 2 ∧ ∃ large small hit,
    ofTree .trailing [0] .empty estimate (.scaled (5 / 2)) = .ok large ∧
    ofTree .trailing [0] .empty estimate (.scaled 1) = .ok small ∧
    large = small.magnify (5 / 2) ∧
    small.nodeAt? ⟨10, 45⟩ = some hit ∧ hit.text = "leaf" ∧
    large.nodeAt? ⟨25, 225 / 2⟩ = some (hit.magnify (5 / 2)) := by
  have positive : (0 : ℚ) < 5 / 2 := by norm_num
  obtain ⟨scaled, hits⟩ := ofTree_scaled .trailing [0] .empty positive
  obtain ⟨small, laid, leaf⟩ : ∃ small : Layout ℚ,
      ofTree .trailing [0] .empty estimate (.scaled 1) = .ok small ∧
        (small.nodeAt? ⟨10, 45⟩).map Placed.text = some "leaf" := ⟨_, rfl, by decide +kernel⟩
  obtain ⟨hit, found, text⟩ := Option.map_eq_some_iff.mp leaf
  have laidLarge := scaled _ rfl
  rw [laid] at laidLarge
  have click := (hits _ small laidLarge laid ⟨10, 45⟩).1
  have point : (⟨10, 45⟩ : Point ℚ).magnify (5 / 2) = ⟨25, 225 / 2⟩ := by norm_num [Point.magnify]
  rw [point, found] at click
  exact ⟨positive, _, small, hit, laidLarge, laid, rfl, found, text, click⟩

end Layout

end Factor

end TreeInspector
