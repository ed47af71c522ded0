import Mathlib.Data.Rat.Cast.Order
import Mathlib.Tactic.Linarith
import Mathlib.Tactic.Positivity
import Mathlib.Tactic.Ring
import TreeInspector.Proofs.Layout.Preorder

/-! # Boxes that never overlap

Over exact numbers, with gaps between neighbours and between rows, the boxes of a layout are disjoint.
Every node owns a band from its left edge on, as wide as its span. Its box lies in the band, and so do
the bands of its children, one to the right of the other. So of two nodes in one row the earlier one is
to the left, and nodes of different rows are apart anyway.

`apart_placeAll` is the argument for the stack: the bands of the nodes still to place lie side by side,
in order, and replacing a node by its children keeps it so.
-/

namespace TreeInspector

open SourceTree Scalar

/-- Exact arithmetic. -/
instance : Scalar ℚ where
  larger := max
  atMost a b := a ≤ b
  ofNat n := n
  tenths n := n / 10
  emptySum := 0

theorem sum_exact (numbers : List ℚ) : Scalar.sum numbers = numbers.sum := by
  rw [Scalar.sum, List.sum_eq_foldl]
  rfl

theorem half_exact : (tenths 5 : ℚ) = 1 / 2 := by
  change ((5 : ℕ) : ℚ) / 10 = 1 / 2
  norm_num

/-- Texts of a font size have no negative extent. -/
def Measurer.NonNegative (measurer : Measurer ℚ) (fontSize : ℚ) : Prop :=
  ∀ text, 0 ≤ (measurer text fontSize).1 ∧ 0 ≤ (measurer text fontSize).2

/-- Neighbours and rows are kept apart, and no padding is negative. -/
structure Metrics.Spaced (metrics : Metrics ℚ) : Prop where
  nodeGap : 0 < metrics.nodeGap
  levelGap : 0 < metrics.levelGap
  padX : 0 ≤ metrics.padX
  padY : 0 ≤ metrics.padY

namespace Measured

variable {rules : RuleNames} {measurer : Measurer ℚ} {metrics : Metrics ℚ}

theorem rowWidth_exact (nodes : List (Measured ℚ)) :
    rowWidth metrics nodes = (nodes.map span).sum + metrics.nodeGap * ((nodes.length - 1 : ℕ) : ℚ) := by
  rw [rowWidth, sum_exact]
  rfl

theorem rowWidth_singleton (node : Measured ℚ) : rowWidth metrics [node] = node.span := by
  simp [rowWidth_exact]

theorem rowWidth_cons_cons (first second : Measured ℚ) (rest : List (Measured ℚ)) :
    rowWidth metrics (first :: second :: rest) =
      first.span + metrics.nodeGap + rowWidth metrics (second :: rest) := by
  simp only [rowWidth_exact, List.map_cons, List.sum_cons, List.length_cons, Nat.add_sub_cancel,
    Nat.cast_add, Nat.cast_one]
  ring

theorem rowWidth_nonneg (gap : 0 ≤ metrics.nodeGap) {nodes : List (Measured ℚ)}
    (spans : ∀ node ∈ nodes, 0 ≤ node.span) : 0 ≤ rowWidth metrics nodes := by
  rw [rowWidth_exact]
  have total : 0 ≤ (nodes.map span).sum := List.sum_nonneg (List.forall_mem_map.mpr spans)
  positivity

theorem span_le_rowWidth (gap : 0 ≤ metrics.nodeGap) (first : Measured ℚ) {rest : List (Measured ℚ)}
    (spans : ∀ node ∈ rest, 0 ≤ node.span) : first.span ≤ rowWidth metrics (first :: rest) := by
  cases rest with
  | nil => rw [rowWidth_singleton]
  | cons second others =>
    have wide := rowWidth_nonneg gap spans
    rw [rowWidth_cons_cons]
    linarith

/-- A node is no wider than its span, and neither are its children side by side. -/
structure Fits (metrics : Metrics ℚ) (node : Measured ℚ) : Prop where
  nonnegative : 0 ≤ node.width
  box : node.width ≤ node.span
  row : rowWidth metrics node.children ≤ node.span

theorem fits_of_measure (sizes : measurer.NonNegative metrics.fontSize) (spaced : metrics.Spaced)
    {tree : SourceTree} {node : Measured ℚ} (measured : measure rules measurer metrics tree = .ok node) :
    node.Fits metrics := by
  obtain ⟨_, width, children, same, _, rfl⟩ := measure_eq_ok_iff.mp measured
  constructor
  · change 0 ≤ width
    have extent := (sizes (rules.textFor tree.label)).1
    have pad := spaced.padX
    rw [same]
    change 0 ≤ _ + ((2 : ℕ) : ℚ) * metrics.padX
    positivity
  · exact le_max_left _ _
  · exact le_max_right _ _

end Measured

namespace Pending

variable {metrics : Metrics ℚ} {height : ℚ}

/-- The right edge of the band of a node. -/
def right (pending : Pending ℚ) : ℚ := pending.left + pending.node.span

section Box

variable (pending : Pending ℚ)

theorem place_min_x : (pending.place metrics height).box.min.x =
    pending.left + (pending.node.span - pending.node.width) / 2 := by
  change pending.left + pending.node.span * tenths 5 - pending.node.width * tenths 5 = _
  rw [half_exact]
  ring

theorem place_max_x : (pending.place metrics height).box.max.x =
    pending.right - (pending.node.span - pending.node.width) / 2 := by
  change pending.left + pending.node.span * tenths 5 + pending.node.width * tenths 5 = _
  rw [half_exact, right]
  ring

theorem place_min_y : (pending.place metrics height).box.min.y =
    metrics.nodeGap + pending.depth * (height + metrics.levelGap) := rfl

theorem place_max_y : (pending.place metrics height).box.max.y =
    metrics.nodeGap + pending.depth * (height + metrics.levelGap) + height := rfl

variable {pending}

/-- A box lies in the band of its node. -/
theorem box_in_band (height : ℚ) (fits : pending.node.Fits metrics) :
    pending.left ≤ (pending.place metrics height).box.min.x ∧
      (pending.place metrics height).box.min.x ≤ (pending.place metrics height).box.max.x ∧
        (pending.place metrics height).box.max.x ≤ pending.right := by
  have width := fits.nonnegative
  have narrow := fits.box
  rw [place_min_x, place_max_x, right]
  refine ⟨?_, ?_, ?_⟩ <;> linarith

/-- A box ends above the rows below its own. -/
theorem place_above {other : Pending ℚ} (spaced : metrics.Spaced) (tall : 0 ≤ height)
    (deeper : pending.depth < other.depth) :
    (pending.place metrics height).box.max.y < (other.place metrics height).box.min.y := by
  have gap := spaced.levelGap
  have next : (pending.depth : ℚ) + 1 ≤ other.depth := by exact_mod_cast deeper
  rw [place_max_y, place_min_y]
  have rows : ((pending.depth : ℚ) + 1) * (height + metrics.levelGap) ≤
      other.depth * (height + metrics.levelGap) := by gcongr
  linarith

end Box

section Row

variable (gap : 0 < metrics.nodeGap) (path : NodePath) (depth : Nat) (parent : Option Nat)
  {nodes : List (Measured ℚ)} (spans : ∀ node ∈ nodes, 0 ≤ node.span)
include gap spans

/-- The bands of a row start at its left edge and end within its width. -/
theorem band_in_row {position : Nat} {left : ℚ} {pending : Pending ℚ}
    (member : pending ∈ row metrics path depth parent position left nodes) :
    left ≤ pending.left ∧ pending.right ≤ left + Measured.rowWidth metrics nodes := by
  induction nodes generalizing position left with
  | nil => cases member
  | cons first rest ih =>
    obtain ⟨here, later⟩ := List.forall_mem_cons.mp spans
    rw [row] at member
    rcases List.mem_cons.mp member with rfl | among
    · have wide := Measured.span_le_rowWidth gap.le first later
      refine ⟨le_rfl, ?_⟩
      rw [right]
      linarith
    · cases rest with
      | nil => cases among
      | cons second others =>
        obtain ⟨low, high⟩ := ih later among
        rw [Measured.rowWidth_cons_cons]
        constructor <;> linarith

/-- The bands of a row lie side by side, in order. -/
theorem bands_of_row (position : Nat) (left : ℚ) :
    (row metrics path depth parent position left nodes).Pairwise fun first second =>
      first.right < second.left := by
  induction nodes generalizing position left with
  | nil => exact .nil
  | cons first rest ih =>
    obtain ⟨here, later⟩ := List.forall_mem_cons.mp spans
    rw [row]
    refine .cons ?_ (ih later _ _)
    intro second among
    have start := (band_in_row gap path depth parent later among).1
    rw [right]
    linarith

end Row

theorem depth_of_mem_row {path : NodePath} {depth : Nat} {parent : Option Nat} {nodes : List (Measured ℚ)}
    {position : Nat} {left : ℚ} {pending : Pending ℚ}
    (member : pending ∈ row metrics path depth parent position left nodes) : pending.depth = depth := by
  induction nodes generalizing position left with
  | nil => cases member
  | cons first rest ih =>
    rw [row] at member
    rcases List.mem_cons.mp member with rfl | among
    · rfl
    · exact ih among

/-- Children are one row below their parent. -/
theorem depth_of_mem_below {pending child : Pending ℚ} {position : Nat}
    (member : child ∈ pending.below metrics position) : child.depth = pending.depth + 1 :=
  depth_of_mem_row member

section Stack

variable {rules : RuleNames} {measurer : Measurer ℚ} (sizes : measurer.NonNegative metrics.fontSize)
  (spaced : metrics.Spaced)

omit sizes spaced in
theorem standsFor_below {tree : SourceTree} {pending child : Pending ℚ} {position : Nat}
    (stands : pending.StandsFor rules measurer metrics tree)
    (member : child ∈ pending.below metrics position) :
    ∃ source, child.StandsFor rules measurer metrics source := by
  obtain ⟨offset, among, _⟩ := mem_below member
  obtain ⟨entry, _, measured⟩ :=
    (Crash.getElem?_mapM_iff (Measured.children_of_measure stands) offset _).mp among
  exact ⟨entry.2, measured⟩

include sizes spaced

theorem spans_of_standsFor {tree : SourceTree} {pending : Pending ℚ}
    (stands : pending.StandsFor rules measurer metrics tree) :
    ∀ node ∈ pending.node.children, 0 ≤ node.span := by
  intro node member
  obtain ⟨entry, _, measured⟩ := (Crash.mem_mapM_iff (Measured.children_of_measure stands) node).mp member
  have fits := Measured.fits_of_measure sizes spaced measured
  exact fits.nonnegative.trans fits.box

/-- The bands of the children lie in the band of their parent. -/
theorem band_in_parent {tree : SourceTree} {pending child : Pending ℚ} {position : Nat}
    (stands : pending.StandsFor rules measurer metrics tree)
    (member : child ∈ pending.below metrics position) :
    pending.left ≤ child.left ∧ child.right ≤ pending.right := by
  have narrow := (Measured.fits_of_measure sizes spaced stands).row
  have edge : pending.right = pending.left + pending.node.span := rfl
  obtain ⟨low, high⟩ := band_in_row spaced.nodeGap _ _ _ (spans_of_standsFor sizes spaced stands) member
  rw [half_exact] at low high
  constructor <;> linarith

/-- What is placed for a stack lies below a depth or to the right of an edge, if the stack does. -/
theorem beyond_placeAll (height : ℚ) {depth : Nat} {edge : ℚ} {stack : List (Pending ℚ)}
    (start : ∀ pending ∈ stack, (∃ tree, pending.StandsFor rules measurer metrics tree) ∧
      (depth < pending.depth ∨ edge < pending.left)) {fuel position : Nat}
    {placed : Placed ℚ} (member : placed ∈ placeAll metrics height fuel position stack) :
    depth < placed.depth ∨ edge < placed.box.min.x := by
  obtain ⟨pending, ⟨⟨tree, stands⟩, beyond⟩, rfl⟩ : ∃ pending : Pending ℚ,
      ((∃ tree, pending.StandsFor rules measurer metrics tree) ∧
        (depth < pending.depth ∨ edge < pending.left)) ∧
      placed = pending.place metrics height := by
    refine exists_of_mem_placeAll ?_ start member
    rintro position pending ⟨⟨tree, stands⟩, beyond⟩ child below
    refine ⟨standsFor_below stands below, beyond.imp (fun deep => ?_) fun past => ?_⟩
    · rw [depth_of_mem_below below]
      exact Nat.lt_succ_of_lt deep
    · exact past.trans_le (band_in_parent sizes spaced stands below).1
  refine beyond.imp id fun past => ?_
  exact past.trans_le (box_in_band height (Measured.fits_of_measure sizes spaced stands)).1

/-- Of two placed nodes, the later one lies deeper or to the right. -/
theorem apart_placeAll (height : ℚ) {stack : List (Pending ℚ)}
    (stand : ∀ pending ∈ stack, ∃ tree, pending.StandsFor rules measurer metrics tree)
    (bands : stack.Pairwise fun first second => first.right < second.left) (fuel position : Nat) :
    (placeAll metrics height fuel position stack).Pairwise fun first second =>
      first.depth < second.depth ∨ first.box.max.x < second.box.min.x := by
  induction fuel generalizing position stack with
  | zero =>
    rw [placeAll]
    exact .nil
  | succ fuel ih =>
    cases stack with
    | nil => exact .nil
    | cons next stack =>
      obtain ⟨⟨tree, stands⟩, others⟩ := List.forall_mem_cons.mp stand
      obtain ⟨after, bands⟩ := List.pairwise_cons.mp bands
      have standAll : ∀ pending ∈ next.below metrics position ++ stack,
          ∃ tree, pending.StandsFor rules measurer metrics tree := by
        intro pending member
        rcases List.mem_append.mp member with below | waiting
        · exact standsFor_below stands below
        · exact others pending waiting
      rw [placeAll]
      refine .cons ?_ (ih standAll ?_ _)
      · intro placed later
        have narrow := (box_in_band height (Measured.fits_of_measure sizes spaced stands)).2.2
        refine (beyond_placeAll sizes spaced height (fun pending member => ⟨standAll pending member, ?_⟩)
          later).imp id narrow.trans_lt
        rcases List.mem_append.mp member with below | waiting
        · refine .inl ?_
          rw [depth_of_mem_below below]
          exact Nat.lt_succ_self _
        · exact .inr (after pending waiting)
      · refine List.pairwise_append.mpr ⟨?_, bands, ?_⟩
        · exact bands_of_row spaced.nodeGap _ _ _ (spans_of_standsFor sizes spaced stands) _ _
        · intro child below pending waiting
          exact (band_in_parent sizes spaced stands below).2.trans_lt (after pending waiting)

end Stack

end Pending

theorem Box.contains_iff (box : Box ℚ) (point : Point ℚ) : box.contains point = true ↔
    (box.min.x ≤ point.x ∧ point.x ≤ box.max.x) ∧ box.min.y ≤ point.y ∧ point.y ≤ box.max.y := by
  simp only [Box.contains, Bool.and_eq_true, and_assoc]
  exact Iff.and decide_eq_true_iff (Iff.and decide_eq_true_iff (Iff.and decide_eq_true_iff decide_eq_true_iff))

theorem Box.contains_center {box : Box ℚ} (wide : box.min.x ≤ box.max.x) (tall : box.min.y ≤ box.max.y) :
    box.contains box.center = true := by
  have middle (low high : ℚ) (order : low ≤ high) :
      low ≤ (low + high) * tenths 5 ∧ (low + high) * tenths 5 ≤ high := by
    rw [half_exact]
    constructor <;> linarith
  exact (Box.contains_iff box _).mpr ⟨middle _ _ wide, middle _ _ tall⟩

private theorem rel_of_getElem? {β : Type} {related : β → β → Prop} {list : List β}
    (ordered : list.Pairwise related) {position other : Nat} {first second : β}
    (found : list[position]? = some first) (foundSecond : list[other]? = some second)
    (before : position < other) : related first second := by
  obtain ⟨_, rfl⟩ := List.getElem?_eq_some_iff.mp found
  obtain ⟨_, rfl⟩ := List.getElem?_eq_some_iff.mp foundSecond
  exact List.pairwise_iff_getElem.mp ordered _ _ _ _ before

namespace Layout

variable {root top : SourceTree} {focus : NodePath} {rules : RuleNames} {measurer : Measurer ℚ}
  {metrics : Metrics ℚ} {layout : Layout ℚ}

/-- No node is deeper than the deepest. -/
theorem le_deepest {nodes : List (Placed ℚ)} {placed : Placed ℚ} (member : placed ∈ nodes) :
    placed.depth ≤ deepest nodes := by
  suffices ∀ start, placed.depth ≤ nodes.foldl (fun depth node => Nat.max depth node.depth) start from this 0
  have grows (nodes : List (Placed ℚ)) (start : Nat) :
      start ≤ nodes.foldl (fun depth node => Nat.max depth node.depth) start := by
    induction nodes generalizing start with
    | nil => exact Nat.le_refl start
    | cons first rest ih => exact (Nat.le_max_left ..).trans (ih _)
  induction nodes with
  | nil => cases member
  | cons first rest ih =>
    intro start
    rw [List.foldl_cons]
    rcases List.mem_cons.mp member with rfl | later
    · exact (Nat.le_max_right ..).trans (grows rest _)
    · exact ih later _

section Exact

variable (reached : root.resolve? focus = some top)
  (laid : ofTree root focus rules measurer metrics = .ok layout)
  (sizes : measurer.NonNegative metrics.fontSize) (spaced : metrics.Spaced)
include reached laid sizes spaced

/-- Every node was placed in a band within the drawing. -/
theorem exists_band {placed : Placed ℚ} (member : placed ∈ layout.nodes) : ∃ pending : Pending ℚ,
    placed = pending.place metrics (Pending.boxHeight measurer metrics) ∧ pending.node.Fits metrics ∧
      metrics.nodeGap ≤ pending.left ∧ pending.right ≤ layout.size.x - metrics.nodeGap := by
  obtain ⟨measured, success, rfl⟩ := ofTree_eq_ok reached laid
  have width : (ofMeasured measurer metrics focus measured).size.x =
      measured.span + ((2 : ℕ) : ℚ) * metrics.nodeGap := rfl
  have stands : (start metrics focus measured).StandsFor rules measurer metrics top := success
  obtain ⟨pending, ⟨⟨tree, stands⟩, low, high⟩, rfl⟩ : ∃ pending : Pending ℚ,
      ((∃ tree, pending.StandsFor rules measurer metrics tree) ∧ metrics.nodeGap ≤ pending.left ∧
        pending.right ≤ (ofMeasured measurer metrics focus measured).size.x - metrics.nodeGap) ∧
      placed = pending.place metrics (Pending.boxHeight measurer metrics) := by
    refine Pending.exists_of_mem_placeAll ?_ ?_ member
    · rintro position pending ⟨⟨tree, stands⟩, low, high⟩ child below
      obtain ⟨left, right⟩ := Pending.band_in_parent sizes spaced stands below
      exact ⟨Pending.standsFor_below stands below, low.trans left, right.trans high⟩
    · intro pending only
      rw [List.mem_singleton.mp only]
      refine ⟨⟨top, success⟩, le_rfl, ?_⟩
      rw [width, Pending.right]
      push_cast
      linarith
  exact ⟨pending, rfl, Measured.fits_of_measure sizes spaced stands, low, high⟩

theorem apart_nodes : layout.nodes.Pairwise fun first second =>
    first.depth < second.depth ∨ first.box.max.x < second.box.min.x := by
  obtain ⟨measured, success, rfl⟩ := ofTree_eq_ok reached laid
  have stand : ∀ pending ∈ [start metrics focus measured],
      ∃ tree, pending.StandsFor rules measurer metrics tree := by
    intro pending only
    rw [List.mem_singleton.mp only]
    exact ⟨top, success⟩
  exact Pending.apart_placeAll sizes spaced _ stand (List.pairwise_singleton ..) _ _

omit reached laid in
theorem boxHeight_nonneg : 0 ≤ Pending.boxHeight measurer metrics := by
  have text := (sizes "X").2
  have pad := spaced.padY
  change 0 ≤ (measurer "X" metrics.fontSize).2 + ((2 : ℕ) : ℚ) * metrics.padY
  positivity

/-- A node of an earlier row ends above the later row. -/
theorem above_of_depth {first second : Placed ℚ} (member : first ∈ layout.nodes)
    (memberSecond : second ∈ layout.nodes) (deeper : first.depth < second.depth) :
    first.box.max.y < second.box.min.y := by
  obtain ⟨pending, rfl, _⟩ := exists_band reached laid sizes spaced member
  obtain ⟨other, rfl, _⟩ := exists_band reached laid sizes spaced memberSecond
  exact Pending.place_above spaced (boxHeight_nonneg sizes spaced) deeper

/-- A point lies in one box at most. -/
theorem disjoint_nodes : layout.nodes.Pairwise fun first second =>
    ∀ point, first.box.contains point = true → ¬second.box.contains point = true := by
  refine (apart_nodes reached laid sizes spaced).imp_of_mem ?_
  intro first second member memberSecond apart point inside insideSecond
  rw [Box.contains_iff] at inside insideSecond
  rcases apart with deeper | past
  · have above := above_of_depth reached laid sizes spaced member memberSecond deeper
    linarith [inside.2.2, insideSecond.2.1]
  · linarith [inside.1.2, insideSecond.1.1]

theorem contains_center {placed : Placed ℚ} (member : placed ∈ layout.nodes) :
    placed.box.contains placed.box.center = true := by
  obtain ⟨pending, rfl, fits, _⟩ := exists_band reached laid sizes spaced member
  have tall := boxHeight_nonneg sizes spaced
  apply Box.contains_center (Pending.box_in_band _ fits).2.1
  rw [Pending.place_min_y, Pending.place_max_y]
  linarith

/-- A point in a box finds the node of the box. -/
theorem nodeAt?_of_contains {placed : Placed ℚ} (member : placed ∈ layout.nodes) {point : Point ℚ}
    (inside : placed.box.contains point = true) : layout.nodeAt? point = some placed := by
  have disjoint := disjoint_nodes reached laid sizes spaced
  obtain ⟨before, after, nodes⟩ := List.mem_iff_append.mp member
  rw [nodeAt?, List.find?_eq_some_iff_append]
  refine ⟨inside, before, after, nodes, ?_⟩
  intro earlier among
  rw [nodes, List.pairwise_append] at disjoint
  rw [Bool.not_eq_true', Bool.eq_false_iff]
  intro insideEarlier
  exact disjoint.2.2 earlier among placed (.head _) point insideEarlier inside

omit reached sizes spaced in
theorem size_y (reached : root.resolve? focus = some top) : layout.size.y =
    2 * metrics.nodeGap + (deepest layout.nodes + 1) * Pending.boxHeight measurer metrics +
      deepest layout.nodes * metrics.levelGap := by
  obtain ⟨measured, _, rfl⟩ := ofTree_eq_ok reached laid
  generalize nodes : (ofMeasured measurer metrics focus measured).nodes = placed
  have height : (ofMeasured measurer metrics focus measured).size.y =
      ((2 : ℕ) : ℚ) * metrics.nodeGap + ((deepest placed + 1 : ℕ) : ℚ) * Pending.boxHeight measurer metrics +
        (((deepest placed + 1 : ℕ) : ℚ) - ((1 : ℕ) : ℚ)) * metrics.levelGap := by
    rw [← nodes]
    rfl
  rw [height]
  push_cast
  ring

/-- All boxes keep their distance from the border of the drawing. -/
theorem box_in_frame {placed : Placed ℚ} (member : placed ∈ layout.nodes) :
    (metrics.nodeGap ≤ placed.box.min.x ∧ placed.box.max.x ≤ layout.size.x - metrics.nodeGap) ∧
      metrics.nodeGap ≤ placed.box.min.y ∧ placed.box.max.y ≤ layout.size.y - metrics.nodeGap := by
  have deep : (placed.depth : ℚ) ≤ deepest layout.nodes := by exact_mod_cast le_deepest member
  have tall := boxHeight_nonneg sizes spaced
  have gap := spaced.levelGap
  obtain ⟨pending, rfl, fits, low, high⟩ := exists_band reached laid sizes spaced member
  obtain ⟨left, _, right⟩ := Pending.box_in_band (Pending.boxHeight measurer metrics) fits
  have rows : (pending.depth : ℚ) * (Pending.boxHeight measurer metrics + metrics.levelGap) ≤
      deepest layout.nodes * (Pending.boxHeight measurer metrics + metrics.levelGap) :=
    mul_le_mul_of_nonneg_right deep (by linarith)
  refine ⟨⟨low.trans left, right.trans high⟩, ?_, ?_⟩
  · rw [Pending.place_min_y]
    have depth : (0 : ℚ) ≤ pending.depth := Nat.cast_nonneg _
    nlinarith
  · rw [Pending.place_max_y, size_y laid reached]
    linarith

/-- Of two siblings, the one with the smaller index stands to the left. -/
theorem siblings_apart {position other : Nat} {first second : Placed ℚ} {path : NodePath} {index later : Nat}
    (found : layout.nodes[position]? = some first) (foundSecond : layout.nodes[other]? = some second)
    (sibling : ((top.walk focus).map Prod.fst)[position]? = some (path.child index))
    (siblingSecond : ((top.walk focus).map Prod.fst)[other]? = some (path.child later))
    (less : index < later) : first.box.max.x < second.box.min.x := by
  have level : first.depth = second.depth := by
    rw [List.getElem?_map, Option.map_eq_some_iff] at sibling siblingSecond
    obtain ⟨entry, among, same⟩ := sibling
    obtain ⟨entrySecond, amongSecond, sameSecond⟩ := siblingSecond
    have depth := depth_eq reached laid found among
    have depthSecond := depth_eq reached laid foundSecond amongSecond
    rw [same, NodePath.child, List.length_append, List.length_singleton] at depth
    rw [sameSecond, NodePath.child, List.length_append, List.length_singleton] at depthSecond
    omega
  -- Positions follow paths, so the sibling with the smaller index comes first.
  have before : position < other := by
    have ordered := paths_ordered reached laid
    rcases Nat.lt_trichotomy position other with before | same | past
    · exact before
    · rw [same, siblingSecond] at sibling
      have ends := List.append_cancel_left (Option.some.inj sibling)
      cases ends
      exact absurd less (Nat.lt_irrefl _)
    · have greater := rel_of_getElem? ordered siblingSecond sibling past
      rw [NodePath.child, NodePath.child, NodePath.order_append] at greater
      rw [NodePath.order, NodePath.order, Ordering.then_eq, Nat.compare_eq_lt] at greater
      omega
  rcases rel_of_getElem? (apart_nodes reached laid sizes spaced) found foundSecond before with deeper | past
  · exact absurd deeper (level ▸ Nat.lt_irrefl _)
  · exact past

/-- The row of a child lies below the box of its parent. -/
theorem above_child {placed parent : Placed ℚ} {position : Nat} (member : placed ∈ layout.nodes)
    (recorded : placed.parent = some position) (found : layout.nodes[position]? = some parent) :
    parent.box.max.y < placed.box.min.y := by
  have memberParent := List.mem_of_getElem? found
  apply above_of_depth reached laid sizes spaced memberParent member
  obtain ⟨own, foundOwn⟩ := List.mem_iff_getElem?.mp member
  cases own with
  | zero =>
    obtain ⟨first, others, nodes, _, _, alone⟩ := exists_top reached laid
    rw [nodes] at foundOwn
    cases foundOwn
    rw [alone] at recorded
    cases recorded
  | succ own =>
    obtain ⟨above, path, index, same, _, pathParent, pathOwn⟩ := exists_parent reached laid foundOwn
    cases recorded.symm.trans same
    rw [List.getElem?_map, Option.map_eq_some_iff] at pathParent pathOwn
    obtain ⟨entry, among, rfl⟩ := pathParent
    obtain ⟨entryOwn, amongOwn, sameOwn⟩ := pathOwn
    have depth := depth_eq reached laid found among
    have depthOwn := depth_eq reached laid foundOwn amongOwn
    rw [sameOwn, NodePath.child, List.length_append, List.length_singleton] at depthOwn
    omega

end Exact

/-- The boxes of a layout lie apart, in their frame and in order; the paths are those of its nodes. -/
structure Tidy (metrics : Metrics ℚ) (paths : List NodePath) (layout : Layout ℚ) : Prop where
  /-- A point lies in the box of one node at most, and it finds this node. -/
  disjoint : layout.nodes.Pairwise fun first second =>
    ∀ point, first.box.contains point = true → ¬second.box.contains point = true
  hit : ∀ placed ∈ layout.nodes, ∀ point, placed.box.contains point = true →
    layout.nodeAt? point = some placed
  center : ∀ placed ∈ layout.nodes, layout.nodeAt? placed.box.center = some placed
  /-- Boxes keep their distance from the border. -/
  inside : ∀ placed ∈ layout.nodes,
    (metrics.nodeGap ≤ placed.box.min.x ∧ placed.box.max.x ≤ layout.size.x - metrics.nodeGap) ∧
      metrics.nodeGap ≤ placed.box.min.y ∧ placed.box.max.y ≤ layout.size.y - metrics.nodeGap
  /-- Siblings stand in the order of their indices. -/
  siblings : ∀ {position other : Nat} {first second : Placed ℚ} {path : NodePath} {index later : Nat},
    layout.nodes[position]? = some first → layout.nodes[other]? = some second →
    paths[position]? = some (path.child index) → paths[other]? = some (path.child later) →
    index < later → first.box.max.x < second.box.min.x
  /-- The row of a child lies below the box of its parent. -/
  rows : ∀ placed ∈ layout.nodes, ∀ position parent, placed.parent = some position →
    layout.nodes[position]? = some parent → parent.box.max.y < placed.box.min.y

/-- Unless a node below the focus crashes, the subtree is laid out; with exact arithmetic, proper gaps
and texts of no negative extent, its boxes never overlap. -/
theorem ofTree_tidy (root : SourceTree) (focus : NodePath) (rules : RuleNames) (measurer : Measurer ℚ)
    (metrics : Metrics ℚ) {top : SourceTree} (reached : root.resolve? focus = some top)
    (sizes : measurer.NonNegative metrics.fontSize) (spaced : metrics.Spaced) :
    (∃ path node crash, top.resolve? path = some node ∧ node.crash = some crash ∧
      ofTree root focus rules measurer metrics = .error crash) ∨
    ∃ layout, ofTree root focus rules measurer metrics = .ok layout ∧
      layout.Tidy metrics ((top.walk focus).map Prod.fst) := by
  refine (crash_or_layout reached).imp_right ?_
  rintro ⟨layout, laid⟩
  refine ⟨layout, laid, ?_⟩
  constructor
  case disjoint => exact disjoint_nodes reached laid sizes spaced
  case hit => exact fun _ member _ inside => nodeAt?_of_contains reached laid sizes spaced member inside
  case center =>
    intro placed member
    have inside := contains_center reached laid sizes spaced member
    exact nodeAt?_of_contains reached laid sizes spaced member inside
  case inside => exact fun _ member => box_in_frame reached laid sizes spaced member
  case siblings => exact siblings_apart reached laid sizes spaced
  case rows =>
    intro _ member _ _ recorded found
    exact above_child reached laid sizes spaced member recorded found

theorem spaced_standard : (Metrics.standard : Metrics ℚ).Spaced where
  nodeGap := Nat.cast_pos.mpr (by decide : 0 < 7)
  levelGap := Nat.cast_pos.mpr (by decide : 0 < 17)
  padX := Nat.cast_nonneg 2
  padY := Nat.cast_nonneg 1

theorem nonNegative_estimate {fontSize : ℚ} (positive : 0 ≤ fontSize) :
    Measurer.NonNegative estimate fontSize := by
  intro text
  change 0 ≤ ((Nat.max 1 text.length : ℕ) : ℚ) * fontSize * (((6 : ℕ) : ℚ) / 10) ∧
    0 ≤ fontSize * (((12 : ℕ) : ℚ) / 10)
  constructor <;> positivity

/-- The standard distances and the estimate of text sizes give a tidy layout of a tree of four nodes. -/
theorem ofTree_tidy_trailing :
    (trailing.resolve? [] = some trailing ∧
      Measurer.NonNegative estimate (Metrics.standard : Metrics ℚ).fontSize ∧
      (Metrics.standard : Metrics ℚ).Spaced) ∧
    ∃ layout, ofTree trailing [] .empty estimate .standard = .ok layout ∧
      layout.Tidy .standard [[], [0], [0, 0], [1]] := by
  have sizes : Measurer.NonNegative estimate (Metrics.standard : Metrics ℚ).fontSize :=
    nonNegative_estimate (Nat.cast_nonneg 11)
  refine ⟨⟨rfl, sizes, spaced_standard⟩, ?_⟩
  rcases ofTree_tidy trailing [] .empty estimate .standard rfl sizes spaced_standard with crashed | laid
  · obtain ⟨_, _, _, _, _, impossible⟩ := crashed
    cases impossible
  · exact laid

end Layout

end TreeInspector
