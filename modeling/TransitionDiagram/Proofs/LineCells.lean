/-
TransitionDiagram.Proofs.LineCells: the cells of a line.

A line takes as many steps as there are cells to go along its longer axis. Over exact numbers that
coordinate is an integer after every step, so rounding leaves it alone, and the other one moves by
less than a cell, so that it is rounded to the same integer as before or to the next one. So a line
has no gaps and never turns back, and it is the same line from either end.

  §1 one coordinate
  §2 the marks of a line
  §3 a line from either end
  §4 lines on a canvas
-/
import Mathlib.Data.List.Range
import TransitionDiagram.Picture.Style
import TransitionDiagram.Proofs.Exact
import TransitionDiagram.Proofs.Footprint

namespace TransitionDiagram

/-- The column and the row of a point. -/
def Cell.ofPoint {α : Type} [Scalar α] (p : Point α) : Int × Int :=
  (column p.x, row p.y)

namespace Mark

/-! ## §1 One coordinate -/

/-- A coordinate of a line from one cell to another after some of its steps. -/
def along (α : Type) [Scalar α] (first last : Int) (steps step : Nat) : Int :=
  Scalar.nearest
    (Scalar.ofInt first + Scalar.ofInt (last - first) * (Scalar.ofInt step / Scalar.ofInt steps) : α)

/-- On the way from `first` to `last` the integer `after` is not behind `before`. -/
def Onward (first last before after : Int) : Prop :=
  (first ≤ last → before ≤ after) ∧ (last ≤ first → after ≤ before)

variable {K : Type} [Field K] [LinearOrder K] [FloorRing K] {turning : Turning K}

section

variable {first last : Int} {steps step : Nat}

theorem along_eq : along (Exact turning) first last steps step =
    Exact.nearest ((first : K) + (last - first) * (step / steps)) := by
  simp [along]

/-- From the other end a coordinate is the same after the steps that are left. -/
theorem along_sub (some : steps ≠ 0) (within : step ≤ steps) :
    along (Exact turning) last first steps (steps - step) =
      along (Exact turning) first last steps step := by
  have := Nat.cast_ne_zero (R := K).mpr some
  rw [along_eq, along_eq, Nat.cast_sub within]
  congr 1
  field_simp
  ring

variable [IsStrictOrderedRing K]

@[simp] theorem along_zero : along (Exact turning) first last steps 0 = first := by
  simp [along_eq]

theorem along_steps (some : steps ≠ 0) : along (Exact turning) first last steps steps = last := by
  have whole : (steps : K) / steps = 1 := div_self (Nat.cast_ne_zero.mpr some)
  rw [along_eq, whole, mul_one, add_sub_cancel, Exact.nearest_intCast]

/-- A coordinate never turns back. -/
theorem onward_along (turning : Turning K) (first last : Int) (steps : Nat) {i j : Nat}
    (le : i ≤ j) :
    Onward first last (along (Exact turning) first last steps i)
      (along (Exact turning) first last steps j) := by
  have part : (i : K) / steps ≤ j / steps := by
    have : (i : K) ≤ j := Nat.cast_le.mpr le
    gcongr
  rw [along_eq, along_eq]
  constructor
  · intro rising
    have : (0 : K) ≤ last - first := sub_nonneg.mpr (Int.cast_le.mpr rising)
    exact Exact.nearest_mono (by gcongr)
  · intro falling
    have : (last : K) - first ≤ 0 := sub_nonpos.mpr (Int.cast_le.mpr falling)
    have moved := mul_le_mul_of_nonpos_left part this
    exact Exact.nearest_mono (by gcongr)

/-- A coordinate stays between its ends. -/
theorem along_between (turning : Turning K) (first last : Int) (some : steps ≠ 0)
    (within : step ≤ steps) :
    min first last ≤ along (Exact turning) first last steps step ∧
      along (Exact turning) first last steps step ≤ max first last := by
  have start := onward_along turning first last steps (Nat.zero_le step)
  have stop := onward_along turning first last steps within
  rw [along_zero] at start
  rw [along_steps some] at stop
  obtain ⟨rising, falling⟩ := start
  obtain ⟨rising', falling'⟩ := stop
  omega

/-- Along the longer axis there is nothing to round: each step leads to the next cell. -/
theorem along_of_longer (some : steps ≠ 0) (longer : (last - first).natAbs = steps) :
    along (Exact turning) first last steps step = first + step * (last - first).sign := by
  have length : (last : K) - first = (last - first).sign * steps := by
    have whole := Int.sign_mul_natAbs (last - first)
    rw [longer] at whole
    exact_mod_cast whole.symm
  have exact_value : (first : K) + (last - first) * (step / steps) =
      ((first + step * (last - first).sign : Int) : K) := by
    have := Nat.cast_ne_zero (R := K).mpr some
    rw [length]
    push_cast
    field_simp
  rw [along_eq, exact_value, Exact.nearest_intCast]

theorem along_succ_of_longer (some : steps ≠ 0) (longer : (last - first).natAbs = steps) :
    along (Exact turning) first last steps (step + 1) =
      along (Exact turning) first last steps step + (last - first).sign := by
  rw [along_of_longer some longer, along_of_longer some longer]
  push_cast
  ring

theorem along_injective_of_longer (some : steps ≠ 0) (longer : (last - first).natAbs = steps) :
    Function.Injective (along (Exact turning) first last steps) := by
  intro i j same
  rw [along_of_longer some longer, along_of_longer some longer] at same
  have direction : (last - first).sign ≠ 0 := by
    rw [Ne, Int.sign_eq_zero_iff_zero]
    omega
  exact Int.natCast_inj.mp (mul_right_cancel₀ direction (add_left_cancel same))

/-- Along the other axis a step leads to the same cell or to the next one: the coordinate moves by
less than a cell, and it does not turn back. -/
theorem along_of_shorter (some : steps ≠ 0) (shorter : (last - first).natAbs < steps) :
    along (Exact turning) first last steps (step + 1) =
        along (Exact turning) first last steps step ∨
      along (Exact turning) first last steps (step + 1) =
        along (Exact turning) first last steps step + (last - first).sign := by
  have positive : (0 : K) < steps := Nat.cast_pos.mpr (Nat.pos_of_ne_zero some)
  have moved : (first : K) + (last - first) * ((step + 1 : Nat) / steps) =
      first + (last - first) * (step / steps) + (last - first) / steps := by
    push_cast
    ring
  obtain ⟨rising, falling⟩ := onward_along turning first last steps (Nat.le_add_right step 1)
  rcases lt_trichotomy first last with less | rfl | greater
  · have below : ((last : K) - first) / steps < 1 := by
      rw [div_lt_one positive]
      exact_mod_cast show last - first < steps by omega
    have close : along (Exact turning) first last steps (step + 1) ≤
        along (Exact turning) first last steps step + 1 := by
      rw [along_eq, along_eq, moved]
      exact Exact.nearest_le_add_one (by linarith)
    have next := rising less.le
    rw [Int.sign_eq_one_of_pos (by omega)]
    omega
  · exact .inl (by simp [along_eq])
  · have above : -1 < ((last : K) - first) / steps := by
      rw [lt_div_iff₀ positive]
      exact_mod_cast show -1 * (steps : Int) < last - first by omega
    have close : along (Exact turning) first last steps step ≤
        along (Exact turning) first last steps (step + 1) + 1 := by
      rw [along_eq, along_eq, moved]
      exact Exact.nearest_le_add_one (by linarith)
    have next := falling greater.le
    rw [Int.sign_eq_neg_one_of_neg (by omega)]
    omega

/-- A step leads to the same cell or to the next one. -/
theorem along_succ (some : steps ≠ 0) (bound : (last - first).natAbs ≤ steps) :
    along (Exact turning) first last steps (step + 1) =
        along (Exact turning) first last steps step ∨
      along (Exact turning) first last steps (step + 1) =
        along (Exact turning) first last steps step + (last - first).sign := by
  rcases bound.eq_or_lt with longer | shorter
  · exact .inr (along_succ_of_longer some longer)
  · exact along_of_shorter some shorter

end

/-! ## §2 The marks of a line -/

/-- How many steps a line takes: one for each cell along its longer axis. -/
def lineSteps (first last : Int × Int) : Nat :=
  max (last.1 - first.1).natAbs (last.2 - first.2).natAbs

/-- The character of a line from one cell to another. -/
def glyphBetween (glyphs : Glyphs) (first last : Int × Int) : Char :=
  lineGlyph glyphs (last.1 - first.1) (last.2 - first.2)

/-- The mark of a line after some of its steps. -/
def lineMark (α : Type) [Scalar α] (glyphs : Glyphs) (first last : Int × Int) (step : Nat) :
    Mark where
  column := along α first.1 last.1 (lineSteps first last) step
  row := along α first.2 last.2 (lineSteps first last) step
  glyph := glyphBetween glyphs first last

/-- A line goes on from one mark to the next: along each axis by one cell in its direction or not
at all, and by one cell along an axis that is not the shorter one. -/
structure GoesOn (first last : Int × Int) (m next : Mark) : Prop where
  column : next.column = m.column ∨ next.column = m.column + (last.1 - first.1).sign
  row : next.row = m.row ∨ next.row = m.row + (last.2 - first.2).sign
  longer_column : (last.2 - first.2).natAbs ≤ (last.1 - first.1).natAbs →
    next.column = m.column + (last.1 - first.1).sign
  longer_row : (last.1 - first.1).natAbs ≤ (last.2 - first.2).natAbs →
    next.row = m.row + (last.2 - first.2).sign

/-- Marks that lead from one cell to another, all with the same character, without gaps and without
turning back. -/
structure Traces (glyph : Char) (first last : Int × Int) (marks : List Mark) : Prop where
  length : marks.length = lineSteps first last + 1
  distinct : (marks.map cell).Nodup
  uniform : ∀ m ∈ marks, m.glyph = glyph
  start : (marks.map cell).head? = some first
  stop : (marks.map cell).getLast? = some last
  goesOn : marks.IsChain (GoesOn first last)
  onward : marks.Pairwise fun m later =>
    Onward first.1 last.1 m.column later.column ∧ Onward first.2 last.2 m.row later.row
  box : ∀ m ∈ marks,
    (min first.1 last.1 ≤ m.column ∧ m.column ≤ max first.1 last.1) ∧
      min first.2 last.2 ≤ m.row ∧ m.row ≤ max first.2 last.2

theorem ofLine_eq {α : Type} [Scalar α] (glyphs : Glyphs) (p q : Point α) :
    ofLine glyphs p q =
      if lineSteps (Cell.ofPoint p) (Cell.ofPoint q) = 0 then []
      else (List.range (lineSteps (Cell.ofPoint p) (Cell.ofPoint q) + 1)).map
        (lineMark α glyphs (Cell.ofPoint p) (Cell.ofPoint q)) :=
  rfl

variable {first last : Int × Int} {glyphs : Glyphs}

theorem lineSteps_eq_zero_iff : lineSteps first last = 0 ↔ first = last := by
  rw [Prod.ext_iff, lineSteps]
  omega

theorem lineSteps_ne_zero (apart : first ≠ last) : lineSteps first last ≠ 0 :=
  mt lineSteps_eq_zero_iff.mp apart

theorem lineSteps_comm (first last : Int × Int) : lineSteps last first = lineSteps first last := by
  simp only [lineSteps]
  omega

section

variable [IsStrictOrderedRing K]

theorem goesOn_lineMark (apart : first ≠ last) (step : Nat) :
    GoesOn first last (lineMark (Exact turning) glyphs first last step)
      (lineMark (Exact turning) glyphs first last (step + 1)) where
  column := along_succ (lineSteps_ne_zero apart) (le_max_left _ _)
  row := along_succ (lineSteps_ne_zero apart) (le_max_right _ _)
  longer_column longer :=
    along_succ_of_longer (lineSteps_ne_zero apart) (max_eq_left longer).symm
  longer_row longer :=
    along_succ_of_longer (lineSteps_ne_zero apart) (max_eq_right longer).symm

/-- No two marks of a line are made in the same cell: the longer axis tells them apart. -/
theorem cell_lineMark_injective (apart : first ≠ last) :
    Function.Injective (cell ∘ lineMark (Exact turning) glyphs first last) := by
  intro i j same
  obtain ⟨same_column, same_row⟩ := Prod.mk.inj same
  have some := lineSteps_ne_zero apart
  rcases le_total (last.2 - first.2).natAbs (last.1 - first.1).natAbs with longer | longer
  · exact along_injective_of_longer some (max_eq_left longer).symm same_column
  · exact along_injective_of_longer some (max_eq_right longer).symm same_row

/-- The marks for all steps lead from the one cell to the other. -/
theorem traces_map_lineMark (glyphs : Glyphs) (apart : first ≠ last) :
    Traces (glyphBetween glyphs first last) first last
      ((List.range (lineSteps first last + 1)).map
        (lineMark (Exact turning) glyphs first last)) where
  length := by simp
  distinct := by
    rw [List.map_map]
    exact List.nodup_range.map (cell_lineMark_injective apart)
  uniform := by simp [lineMark]
  start := by simp [cell, lineMark, List.head?_range]
  stop := by
    simp [cell, lineMark, List.getLast?_range, along_steps (lineSteps_ne_zero apart)]
  goesOn := by
    rw [List.isChain_map, List.isChain_range_succ]
    exact fun step _ => goesOn_lineMark apart step
  onward := by
    rw [List.pairwise_map]
    refine List.pairwise_lt_range.imp fun before => ?_
    exact ⟨onward_along _ _ _ _ before.le, onward_along _ _ _ _ before.le⟩
  box := by
    intro m mem
    obtain ⟨step, listed, rfl⟩ := List.mem_map.mp mem
    have some := lineSteps_ne_zero apart
    have within := Nat.lt_succ_iff.mp (List.mem_range.mp listed)
    exact ⟨along_between _ _ _ some within, along_between _ _ _ some within⟩

/-- A line between two points in different cells leads from the one cell to the other. -/
theorem traces_ofLine (glyphs : Glyphs) {p q : Point (Exact turning)}
    (apart : Cell.ofPoint p ≠ Cell.ofPoint q) :
    Traces (glyphBetween glyphs (Cell.ofPoint p) (Cell.ofPoint q)) (Cell.ofPoint p)
      (Cell.ofPoint q) (ofLine glyphs p q) := by
  rw [ofLine_eq, if_neg (lineSteps_ne_zero apart)]
  exact traces_map_lineMark glyphs apart

end

/-! ## §3 A line from either end -/

theorem lineGlyph_neg (glyphs : Glyphs) (dx dy : Int) :
    lineGlyph glyphs (-dx) (-dy) = lineGlyph glyphs dx dy := by
  simp only [lineGlyph, Int.natAbs_neg]
  split_ifs <;> first | rfl | omega

theorem glyphBetween_comm (glyphs : Glyphs) (first last : Int × Int) :
    glyphBetween glyphs last first = glyphBetween glyphs first last := by
  have turned := lineGlyph_neg glyphs (last.1 - first.1) (last.2 - first.2)
  rwa [neg_sub, neg_sub] at turned

theorem lineMark_sub {step : Nat} (apart : first ≠ last) (within : step ≤ lineSteps first last) :
    lineMark (Exact turning) glyphs last first (lineSteps first last - step) =
      lineMark (Exact turning) glyphs first last step := by
  simp only [lineMark, lineSteps_comm first last, along_sub (lineSteps_ne_zero apart) within,
    glyphBetween_comm glyphs first last]

/-- The line back has the same marks in reverse. -/
theorem ofLine_reverse (glyphs : Glyphs) (p q : Point (Exact turning)) :
    ofLine glyphs q p = (ofLine glyphs p q).reverse := by
  rw [ofLine_eq, ofLine_eq, lineSteps_comm]
  split_ifs with none
  · rfl
  · refine List.ext_getElem (by simp) fun i bound _ => ?_
    rw [List.length_map, List.length_range] at bound
    rw [List.getElem_reverse, List.getElem_map, List.getElem_map, List.getElem_range,
      List.getElem_range, List.length_map, List.length_range, Nat.add_sub_cancel]
    have apart : Cell.ofPoint q ≠ Cell.ofPoint p := fun same =>
      none (lineSteps_eq_zero_iff.mpr same.symm)
    have within : i ≤ lineSteps (Cell.ofPoint q) (Cell.ofPoint p) := by
      rw [lineSteps_comm]
      omega
    rw [← lineMark_sub apart within, lineSteps_comm]

end Mark

namespace Canvas

variable {K : Type} [Field K] [LinearOrder K] [FloorRing K] [IsStrictOrderedRing K]
variable {turning : Turning K}

/-! ## §4 Lines on a canvas -/

open Mark (ofLine glyphBetween Traces)

/-- A line between two points in one cell has no marks. Otherwise its marks lead from the cell of
the one to the cell of the other, with one character, without gaps and without turning back, one in
each of its cells and one cell for each step along the longer axis. The line back has the same
marks in reverse. On a canvas these cells hold the character, the others stay as they are, and the
line back makes the same canvas. -/
theorem line_traces (glyphs : Mark.Glyphs) (p q : Point (Exact turning)) :
    (Cell.ofPoint p = Cell.ofPoint q → ofLine glyphs p q = []) ∧
    (Cell.ofPoint p ≠ Cell.ofPoint q →
      Traces (glyphBetween glyphs (Cell.ofPoint p) (Cell.ofPoint q)) (Cell.ofPoint p)
        (Cell.ofPoint q) (ofLine glyphs p q)) ∧
    ofLine glyphs q p = (ofLine glyphs p q).reverse ∧
    ∀ canvas : Canvas,
      canvas.paint (ofLine glyphs q p) = canvas.paint (ofLine glyphs p q) ∧
      (canvas.Shaped → ∀ column row : Nat, canvas.inside column row = true →
        (canvas.paint (ofLine glyphs p q)).get column row =
          if ((column : Int), (row : Int)) ∈ (ofLine glyphs p q).map Mark.cell then
            glyphBetween glyphs (Cell.ofPoint p) (Cell.ofPoint q)
          else canvas.get column row) := by
  have none (same : Cell.ofPoint p = Cell.ofPoint q) : ofLine glyphs p q = [] := by
    rw [Mark.ofLine_eq, if_pos (Mark.lineSteps_eq_zero_iff.mpr same)]
  have distinct : ((ofLine glyphs p q).map Mark.cell).Nodup := by
    by_cases same : Cell.ofPoint p = Cell.ofPoint q
    · rw [none same]
      exact List.nodup_nil
    · exact (Mark.traces_ofLine glyphs same).distinct
  have back := Mark.ofLine_reverse glyphs p q
  refine ⟨none, Mark.traces_ofLine glyphs, back, fun canvas => ⟨?_, ?_⟩⟩
  · rw [back]
    exact (canvas.paint_perm (List.reverse_perm _).symm distinct).symm
  · intro shaped column row inside
    split_ifs with listed
    · obtain ⟨m, mem, here⟩ := List.mem_map.mp listed
      have apart : Cell.ofPoint p ≠ Cell.ofPoint q := fun same => by
        rw [none same] at mem
        exact List.not_mem_nil mem
      rw [shaped.get_paint_of_mem inside distinct mem (Prod.mk.inj here)]
      exact (Mark.traces_ofLine glyphs apart).uniform m mem
    · refine shaped.get_paint_of_elsewhere inside fun m mem here => listed ?_
      exact List.mem_map.mpr ⟨m, mem, Prod.ext here.1 here.2⟩

/-- A line through the middle of the grid, four columns to the right and two rows down. The rows at
its second and fourth cell are minus a half and a half, and both are rounded away from zero. -/
theorem line_traces_through_origin :
    let p : Point (Exact Turning.rightmost) := ⟨⟨-16⟩, ⟨-16⟩⟩
    let q : Point (Exact Turning.rightmost) := ⟨⟨16⟩, ⟨16⟩⟩
    let line := ofLine Style.ascii.glyphs p q
    Traces '\\' (-2, -1) (2, 1) line ∧
      line.map Mark.cell = [(-2, -1), (-1, -1), (0, 0), (1, 1), (2, 1)] ∧
      ((blank 3 2).paint line).get 1 1 = '\\' ∧ ((blank 3 2).paint line).get 1 0 = ' ' := by
  intro p q line
  obtain ⟨-, traces, -, canvases⟩ := line_traces Style.ascii.glyphs p q
  have cells : line.map Mark.cell = [(-2, -1), (-1, -1), (0, 0), (1, 1), (2, 1)] := by
    decide +kernel
  have first : Cell.ofPoint p = (-2, -1) := by decide +kernel
  have last : Cell.ofPoint q = (2, 1) := by decide +kernel
  have get := (canvases (blank 3 2)).2 (shaped_blank 3 2)
  rw [first, last] at traces get
  refine ⟨traces (by decide), cells, ?_, ?_⟩
  · rw [get 1 1 (by decide), if_pos (by rw [cells]; decide)]
    decide +kernel
  · rw [get 1 0 (by decide), if_neg (by rw [cells]; decide)]
    decide +kernel

end Canvas

end TransitionDiagram
