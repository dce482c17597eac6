/-
TransitionDiagram.Proofs.Columns: the circles of a map stand in columns.

Places are given out by a cursor, which is moved by a step after every circle and goes to the next
row when the circle there would reach the right margin. Over exact numbers this puts the circle with
the number `i` in column `i % cols` of row `i / cols`, where `cols` is how many circles fit: the
least positive number of steps with which a circle reaches the margin. An edge that is just touched
counts as reached, and a row has a circle even if none fits.

  §1 columns
  §2 the cursor
  §3 circles apart
  §4 maps
-/
import Mathlib.Algebra.Order.Archimedean.Basic
import TransitionDiagram.Proofs.Exact

namespace TransitionDiagram

variable {K : Type} [Field K] [LinearOrder K] [FloorRing K] {turning : Turning K}

namespace Rows

variable {rows : Rows (Exact turning)} {cols : Nat}

/-! ## §1 Columns -/

/-- How far a circle in a column reaches, together with the margin. -/
def reach (rows : Rows (Exact turning)) (column : Nat) : K :=
  rows.start.val + column * rows.step.val + rows.radius.val + rows.margin.val

/-- How many columns a row has: the least number, but for zero, at which a circle would reach the
edge. -/
def HasColumns (rows : Rows (Exact turning)) (cols : Nat) : Prop :=
  IsLeast {k : Nat | 1 ≤ k ∧ rows.edge.val ≤ rows.reach k} cols

/-- The place in the column and the row that belong to a number. -/
def cell (rows : Rows (Exact turning)) (cols i : Nat) : Point (Exact turning) where
  x := ⟨rows.start.val + (i % cols : Nat) * rows.step.val⟩
  y := ⟨rows.start.val + (i / cols : Nat) * rows.step.val⟩

theorem HasColumns.pos (columns : rows.HasColumns cols) : 0 < cols :=
  columns.1.1

/-- A circle in one of the columns, but for the first, does not reach the edge. -/
theorem HasColumns.lt_edge (columns : rows.HasColumns cols) {k : Nat} (pos : 0 < k)
    (few : k < cols) : rows.reach k < rows.edge.val := by
  by_contra far
  have least := columns.2 ⟨pos, not_lt.mp far⟩
  omega

/-- If the steps go to the right, then some circle reaches the edge. -/
theorem exists_hasColumns [IsStrictOrderedRing K] (forward : 0 < rows.step.val) :
    ∃ cols, rows.HasColumns cols := by
  classical
  have far : ∃ k : Nat, 1 ≤ k ∧ rows.edge.val ≤ rows.reach k := by
    obtain ⟨n, enough⟩ := exists_nat_ge
      ((rows.edge.val - rows.start.val - rows.radius.val - rows.margin.val) / rows.step.val)
    have steps := (div_le_iff₀ forward).mp enough
    refine ⟨n + 1, by omega, ?_⟩
    simp only [reach]
    push_cast
    linarith
  exact ⟨Nat.find far, Nat.isLeast_find far⟩

/-! ## §2 The cursor -/

theorem first_eq_cell (rows : Rows (Exact turning)) (cols : Nat) :
    rows.first = rows.cell cols 0 := by
  refine congrArg₂ Point.mk ?_ ?_ <;> ext <;> simp

/-- The cursor goes to the next row after the last column. -/
theorem isFull_cell (columns : rows.HasColumns cols) (i : Nat) :
    rows.isFull ((rows.cell cols i).x + rows.step) = true ↔ i % cols + 1 = cols := by
  have next : (rows.cell cols i).x.val + rows.step.val + rows.radius.val + rows.margin.val =
      rows.reach (i % cols + 1) := by
    simp only [cell, reach]
    push_cast
    ring
  have column := Nat.mod_lt i columns.pos
  rw [isFull, Exact.atMost_iff, Exact.val_add, Exact.val_add, Exact.val_add, next]
  constructor
  · intro far
    have least := columns.2 ⟨Nat.succ_pos _, far⟩
    omega
  · intro last
    rw [last]
    exact columns.1.2

/-- The cursor goes from each place to the one with the next number. -/
theorem after_cell (columns : rows.HasColumns cols) (i : Nat) :
    rows.after (rows.cell cols i) = rows.cell cols (i + 1) := by
  have split := Nat.div_add_mod i cols
  have column := Nat.mod_lt i columns.pos
  by_cases last : i % cols + 1 = cols
  · have next : i + 1 = cols * (i / cols + 1) := by
      rw [Nat.mul_add]
      omega
    have next_column : (i + 1) % cols = 0 := by rw [next, Nat.mul_mod_right]
    have next_row : (i + 1) / cols = i / cols + 1 := by
      rw [next, Nat.mul_div_cancel_left _ columns.pos]
    rw [after, if_pos ((isFull_cell columns i).mpr last)]
    refine congrArg₂ Point.mk ?_ ?_ <;> ext
    · simp [next_column]
    · simp only [cell, Exact.val_add, next_row]
      push_cast
      ring
  · have next : i + 1 = i % cols + 1 + cols * (i / cols) := by omega
    have next_column : (i + 1) % cols = i % cols + 1 := by
      rw [next, Nat.add_mul_mod_self_left, Nat.mod_eq_of_lt (by omega)]
    have next_row : (i + 1) / cols = i / cols := by
      rw [next, Nat.add_mul_div_left _ _ columns.pos, Nat.div_eq_of_lt (by omega), Nat.zero_add]
    rw [after, if_neg (mt (isFull_cell columns i).mp last)]
    refine congrArg₂ Point.mk ?_ ?_ <;> ext
    · simp only [cell, Exact.val_add, next_column]
      push_cast
      ring
    · simp only [cell, next_row]

/-- Nodes are put in the cells one after the other. -/
theorem getElem?_put (columns : rows.HasColumns cols) (entries : List (String × StateNode _))
    (i k : Nat) :
    (rows.put (rows.cell cols i) entries)[k]? = entries[k]?.map fun entry =>
      (entry.1, { entry.2 with position := rows.cell cols (i + k) }) := by
  induction entries generalizing i k with
  | nil => simp [put]
  | cons entry rest ih =>
    rw [put, after_cell columns]
    cases k with
    | zero => rfl
    | succ k => rw [List.getElem?_cons_succ, List.getElem?_cons_succ, ih, Nat.add_right_comm]; rfl

/-! ## §3 Circles apart -/

section

variable [IsStrictOrderedRing K]

omit [FloorRing K] in
/-- Different multiples of a step are a step apart. -/
theorem step_le_abs_sub {step : K} (forward : 0 ≤ step) (start : K) {a b : Nat} (differ : a ≠ b) :
    step ≤ |start + a * step - (start + b * step)| := by
  rcases Nat.lt_or_gt_of_ne differ with less | less
  · have apart : (a : K) + 1 ≤ b := by exact_mod_cast less
    rw [abs_sub_comm]
    exact le_trans (by nlinarith) (le_abs_self _)
  · have apart : (b : K) + 1 ≤ a := by exact_mod_cast less
    exact le_trans (by nlinarith) (le_abs_self _)

/-- The middles of two circles differ by a step at least, to the right or downwards. -/
def Apart (step : K) (p q : Point (Exact turning)) : Prop :=
  step ≤ |p.x.val - q.x.val| ∨ step ≤ |p.y.val - q.y.val|

theorem apart_cell (forward : 0 ≤ rows.step.val) {i j : Nat} (differ : i ≠ j) :
    Apart rows.step.val (rows.cell cols i) (rows.cell cols j) := by
  by_cases same_row : i / cols = j / cols
  · have columns_differ : i % cols ≠ j % cols := fun same_column => differ <| by
      rw [← Nat.div_add_mod i cols, ← Nat.div_add_mod j cols, same_row, same_column]
    exact .inl (step_le_abs_sub forward _ columns_differ)
  · exact .inr (step_le_abs_sub forward _ same_row)

/-- A point within a circle differs from the middle by less than the radius in each direction. -/
theorem abs_lt_of_shorter {dx dy radius : Exact turning}
    (within : Scalar.shorter dx dy radius = true) :
    |dx.val| < radius.val ∧ |dy.val| < radius.val := by
  obtain ⟨pos, near⟩ : 0 < radius.val ∧
    dx.val * dx.val + dy.val * dy.val < radius.val * radius.val := of_decide_eq_true within
  constructor
  · exact abs_lt_of_sq_lt_sq (by nlinarith [mul_self_nonneg dy.val]) pos.le
  · exact abs_lt_of_sq_lt_sq (by nlinarith [mul_self_nonneg dx.val]) pos.le

/-- Circles that stand apart have no inner point in common. -/
theorem Apart.disjoint {step : K} {p q : Point (Exact turning)} (apart : Apart step p q)
    {radius : Exact turning} (wide : 2 * radius.val ≤ step) (s : Point (Exact turning))
    (first : Scalar.shorter (s.x - p.x) (s.y - p.y) radius = true)
    (second : Scalar.shorter (s.x - q.x) (s.y - q.y) radius = true) : False := by
  obtain ⟨px, py⟩ := abs_lt_of_shorter first
  obtain ⟨qx, qy⟩ := abs_lt_of_shorter second
  simp only [Exact.val_sub, abs_lt] at px py qx qy
  rcases apart with right | below
  · rcases le_abs.mp right with far | far <;> linarith
  · rcases le_abs.mp below with far | far <;> linarith

end

end Rows

/-! ## §4 Maps -/

namespace NodeMap

/-- The second map has the nodes of the first in columns. -/
structure InColumns (layout : Layout (Exact turning)) (edge radius : Exact turning) (cols : Nat)
    (m m' : NodeMap (Exact turning)) : Prop where
  /-- Nothing but the places changes. -/
  kept : m'.entries.map (fun (id, node) => (id, node.id, node.handle, node.minSize)) =
    m.entries.map fun (id, node) => (id, node.id, node.handle, node.minSize)
  /-- Row by row, the nodes stand where columns and rows meet. -/
  place : ∀ (i : Nat) node, m'.nodes[i]? = some node →
    node.position = (Rows.ofRadius layout edge radius).cell cols i
  apart : ∀ (i j : Nat) (p q : StateNode (Exact turning)), i ≠ j → m'.nodes[i]? = some p →
    m'.nodes[j]? = some q →
      Rows.Apart (2 * radius.val + layout.spacing.val) p.position q.position
  /-- No two circles overlap. -/
  disjoint : 0 ≤ layout.spacing.val → ∀ (i j : Nat) (p q : StateNode (Exact turning)), i ≠ j →
    m'.nodes[i]? = some p → m'.nodes[j]? = some q → ∀ s : Point (Exact turning),
      ¬ (Scalar.shorter (s.x - p.position.x) (s.y - p.position.y) radius = true ∧
        Scalar.shorter (s.x - q.position.x) (s.y - q.position.y) radius = true)
  /-- But for those in the first column, circles do not reach the right margin. -/
  within : ∀ node ∈ m'.nodes, node.position.x.val ≠ layout.margin.val + radius.val →
    node.position.x.val + radius.val + layout.margin.val < edge.val
  /-- A row ends where the next circle would reach the right margin. -/
  filled : ∀ (i : Nat) (p q : StateNode (Exact turning)), m'.nodes[i]? = some p →
    m'.nodes[i + 1]? = some q → p.position.y ≠ q.position.y →
      edge.val ≤ p.position.x.val + (2 * radius.val + layout.spacing.val) + radius.val +
        layout.margin.val

variable {layout : Layout (Exact turning)} {edge radius : Exact turning} {cols : Nat}
  {m : NodeMap (Exact turning)} {rows : Rows (Exact turning)}

theorem position_put (columns : rows.HasColumns cols) (i : Nat) (node : StateNode (Exact turning))
    (there : (m.put rows).nodes[i]? = some node) : node.position = rows.cell cols i := by
  have entries : (m.put rows).entries = rows.put (rows.cell cols 0) m.entries :=
    congrArg (rows.put · m.entries) (rows.first_eq_cell cols)
  rw [nodes, List.getElem?_map, entries, Rows.getElem?_put columns, Nat.zero_add,
    Option.map_map] at there
  obtain ⟨_, -, rfl⟩ := Option.map_eq_some_iff.mp there
  rfl

theorem step_ofRadius :
    (Rows.ofRadius layout edge radius).step.val = 2 * radius.val + layout.spacing.val := by
  simp [Rows.ofRadius]

theorem isGreatest_foldl_larger (width : Exact turning) (widths : List (Exact turning)) :
    IsGreatest {w : K | ∃ x ∈ width :: widths, x.val = w}
      (widths.foldl Scalar.larger width).val := by
  refine ⟨⟨_, Exact.foldl_larger_mem width widths, rfl⟩, ?_⟩
  rintro _ ⟨x, mem, rfl⟩
  exact Exact.le_foldl_larger width widths x mem

variable [IsStrictOrderedRing K]

theorem inColumns_put (forward : 0 < 2 * radius.val + layout.spacing.val)
    (columns : (Rows.ofRadius layout edge radius).HasColumns cols) :
    InColumns layout edge radius cols m (m.put (.ofRadius layout edge radius)) := by
  have place := position_put (m := m) columns
  have ahead : 0 ≤ (Rows.ofRadius layout edge radius).step.val := by
    rw [step_ofRadius]
    exact forward.le
  have apart : ∀ (i j : Nat) (p q : StateNode (Exact turning)), i ≠ j →
      (m.put (.ofRadius layout edge radius)).nodes[i]? = some p →
      (m.put (.ofRadius layout edge radius)).nodes[j]? = some q →
        Rows.Apart (2 * radius.val + layout.spacing.val) p.position q.position := by
    intro i j p q differ first second
    rw [place i p first, place j q second, ← step_ofRadius]
    exact Rows.apart_cell ahead differ
  refine ⟨Rows.map_put (fun _ _ _ => rfl) _ _ _, place, apart, ?_, ?_, ?_⟩
  · rintro roomy i j p q differ first second s ⟨inside, inside'⟩
    exact (apart i j p q differ first second).disjoint (by linarith) s inside inside'
  · intro node mem beyond
    obtain ⟨i, there⟩ := List.getElem?_of_mem mem
    rw [place i node there] at beyond ⊢
    have pos : 0 < i % cols := Nat.pos_of_ne_zero fun zero => beyond <| by
      simp [Rows.cell, zero, Rows.start, Rows.ofRadius]
    exact columns.lt_edge pos (Nat.mod_lt i columns.pos)
  · intro i p q first second differ
    rw [place i p first, place (i + 1) q second] at differ
    rw [place i p first]
    have last : i % cols + 1 = cols := by
      by_contra more
      refine differ ?_
      rw [← Rows.after_cell columns, Rows.after, if_neg (mt (Rows.isFull_cell columns i).mp more)]
    have full := (Rows.isFull_cell columns i).mpr last
    rw [Rows.isFull, Exact.atMost_iff] at full
    rw [← step_ofRadius]
    exact full

/-- If there are nodes, then all get circles of one radius: half of the largest width of a label and
the padding. If steps go to the right, then the nodes are put in columns, as many as there is room
for. -/
theorem arrange_in_columns (m : NodeMap (Exact turning)) (edge : Exact turning)
    (layout : Layout (Exact turning)) (present : m.entries ≠ []) :
    ∃ widest radius m', IsGreatest {w : K | ∃ node ∈ m.nodes, node.minSize.val = w} widest ∧
      radius.val = widest / 2 + layout.padding.val ∧
      m.arrange? edge layout = some (radius, m') ∧
      (0 < 2 * radius.val + layout.spacing.val →
        ∃ cols, (Rows.ofRadius layout edge radius).HasColumns cols ∧
          InColumns layout edge radius cols m m') := by
  obtain ⟨width, widths, sizes⟩ : ∃ width widths, m.nodes.map (·.minSize) = width :: widths := by
    cases sizes : m.nodes.map (·.minSize) with
    | nil => exact absurd sizes (by simpa [nodes] using present)
    | cons width widths => exact ⟨width, widths, rfl⟩
  have greatest := isGreatest_foldl_larger width widths
  rw [← sizes] at greatest
  let radius := widths.foldl Scalar.larger width / Scalar.ofInt 2 + layout.padding
  refine ⟨_, radius, m.put (.ofRadius layout edge radius), by simpa using greatest, ?_, ?_,
    fun forward => ?_⟩
  · simp [radius]
  · rw [arrange?, radius?, sizes]
    rfl
  · have ahead : 0 < (Rows.ofRadius layout edge radius).step.val := by
      rw [step_ofRadius]
      exact forward
    obtain ⟨cols, columns⟩ := Rows.exists_hasColumns ahead
    exact ⟨cols, columns, inColumns_put forward columns⟩

/-- Three states with labels of one letter, and an edge that a third circle in a row would touch. -/
theorem arrange_in_columns_inclusive_edge :
    let node (id : String) (handle : Nat) : StateNode (Exact Turning.rightmost) :=
      .unplaced id ⟨handle⟩ (Scalar.ofInt 8)
    let m : NodeMap (Exact Turning.rightmost) :=
      { entries := [("A", node "A" 3), ("B", node "B" 5), ("C", node "C" 7)], nodup := by decide }
    m.entries ≠ [] ∧ ∃ radius m', radius.val = 29 ∧
      m.arrange? (Scalar.ofInt 394) .standard = some (radius, m') ∧
      InColumns .standard (Scalar.ofInt 394) radius 2 m m' := by
  intro node m
  have present : m.entries ≠ [] := List.cons_ne_nil _ _
  obtain ⟨widest, radius, m', greatest, half, arranged, columns⟩ :=
    arrange_in_columns m (Scalar.ofInt 394) .standard present
  have widest_eq : widest = 8 := by
    obtain ⟨x, mem, rfl⟩ := greatest.1
    have wide : ∀ x ∈ m.nodes, x.minSize.val = 8 := by simp [m, nodes, node, StateNode.unplaced]
    exact wide x mem
  have radius_eq : radius.val = 29 := by
    rw [half, widest_eq]
    norm_num [Layout.standard]
  obtain ⟨cols, least, placed⟩ := columns (by rw [radius_eq]; norm_num [Layout.standard])
  have two : cols = 2 := by
    have reach : ∀ k : Nat, (Rows.ofRadius .standard (Scalar.ofInt 394) radius).reach k =
        78 + k * 158 := by
      intro k
      simp only [Rows.reach, Rows.start, Rows.ofRadius, Layout.standard, Exact.val_add,
        Exact.val_mul, Exact.val_ofInt, radius_eq]
      push_cast
      ring
    refine IsLeast.unique least ⟨⟨by omega, ?_⟩, ?_⟩
    · rw [reach]
      norm_num [Rows.ofRadius]
    · rintro k ⟨-, far⟩
      rw [reach] at far
      simp only [Rows.ofRadius, Exact.val_ofInt] at far
      have far : 394 ≤ 78 + k * 158 := by exact_mod_cast far
      omega
  exact ⟨present, radius, m', radius_eq, arranged, two ▸ placed⟩

end NodeMap

end TransitionDiagram
