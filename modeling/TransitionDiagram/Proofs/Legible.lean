/-
TransitionDiagram.Proofs.Legible: every label can be read in the picture.

A picture is painted with the lines first, and then state by state with a circle and its label. Two
circles stand a step apart, either in the same row or in rows a step apart, and a step is wider and
higher than two circles with some room in between. A label is narrower than its circle. So what is
painted after a label lies below it or to the right of it, by more than rounding to cells can bring
back, and the characters of the label stay.

  §1 marks of a picture
  §2 cells
  §3 places apart
  §4 the radius
  §5 boxes
  §6 labels
  §7 scenes
-/
import TransitionDiagram.Proofs.Exact
import TransitionDiagram.Proofs.Labels
import TransitionDiagram.Proofs.Portrait

namespace TransitionDiagram

/-! ## §1 Marks of a picture -/

section

variable {α : Type} [Scalar α]

namespace Portrait

/-- The marks of a picture of some states and of lines between them, in order. -/
def marks (config : PictureConfig α) (layout : Layout α) (ids : List String)
    (pairs : List (String × String)) : List Mark :=
  (visits (layout.seats config.size.width ids) pairs).flatMap
    (·.marks config.style.glyphs (surface config layout ids).template)

theorem config_surface (config : PictureConfig α) (layout : Layout α) (ids : List String) :
    (surface config layout ids).config = config := by
  unfold surface
  split <;> rfl

theorem eq_paint (config : PictureConfig α) (layout : Layout α) (ids : List String)
    (pairs : List (String × String)) :
    portrait config layout ids pairs =
      (GridSurface.new config).canvas.paint (marks config layout ids pairs) := by
  rw [portrait, GridSurface.draw_eq_paint, config_surface, marks]

/-- The marks of a state at its place, in a picture with the given states. -/
def stateMarks (config : PictureConfig α) (layout : Layout α) (ids : List String)
    (seat : String × Point α) : List Mark :=
  (circle seat).flatMap (·.marks config.style.glyphs (surface config layout ids).template)

/-- The marks of the states come last, in the order of their places. -/
theorem exists_marks_eq (config : PictureConfig α) (layout : Layout α) (ids : List String)
    (pairs : List (String × String)) :
    ∃ lines, marks config layout ids pairs =
      lines ++ (layout.seats config.size.width ids).flatMap (stateMarks config layout ids) := by
  let drawn := Visit.marks config.style.glyphs (surface config layout ids).template
  let places := layout.seats config.size.width ids
  have assoc : places.flatMap (stateMarks config layout ids) =
      (places.flatMap circle).flatMap drawn := by
    rw [List.flatMap_assoc]
    rfl
  refine ⟨({ content := .group, position := top } ::
    { content := .group, position := top.offset .origin } ::
      pairs.filterMap (line? places)).flatMap drawn, ?_⟩
  rw [assoc, ← List.flatMap_append]
  rfl

end Portrait

end

variable {K : Type} [Field K] [LinearOrder K] [FloorRing K] {turning : Turning K}

/-- The middle of a circle is at the place of its state. -/
theorem Portrait.middle_eq (place : Point (Exact turning)) : middle place = place := by
  cases place
  simp only [middle, top, Point.mk.injEq]
  constructor <;> ext <;> simp

/-- The marks of a state are made around its place. -/
theorem Portrait.stateMarks_eq (config : PictureConfig (Exact turning))
    (layout : Layout (Exact turning)) (ids : List String) (id : String)
    (place : Point (Exact turning)) :
    stateMarks config layout ids (id, place) =
      Mark.ofCircle config.style.glyphs place (surface config layout ids).template.radius ++
        Mark.ofCenteredText (Cell.column place.x) (Cell.row place.y) id := by
  rw [stateMarks, marks_circle, middle_eq]

/-! ## §2 Cells -/

namespace Cell

theorem column_eq (x : Exact turning) : column x = Exact.nearest (x.val / 8) := by
  simp [column, width]

theorem row_eq (y : Exact turning) : row y = Exact.nearest (y.val / 16) := by
  simp [row, height]

variable [IsStrictOrderedRing K]

theorem le_column (x : Exact turning) : x.val / 8 - 1 / 2 ≤ (column x : K) := by
  rw [column_eq]
  exact Exact.le_nearest _

theorem column_le (x : Exact turning) : (column x : K) ≤ x.val / 8 + 1 / 2 := by
  rw [column_eq]
  exact Exact.nearest_le _

theorem le_row (y : Exact turning) : y.val / 16 - 1 / 2 ≤ (row y : K) := by
  rw [row_eq]
  exact Exact.le_nearest _

theorem row_le (y : Exact turning) : (row y : K) ≤ y.val / 16 + 1 / 2 := by
  rw [row_eq]
  exact Exact.nearest_le _

end Cell

/-! ## §3 Places apart -/

namespace Rows

/-- A place in a lower row, or farther right in the same row, by a step at least. -/
def Beyond (rows : Rows (Exact turning)) (p q : Point (Exact turning)) : Prop :=
  p.y.val + rows.step.val ≤ q.y.val ∨ (p.x.val + rows.step.val ≤ q.x.val ∧ q.y.val = p.y.val)

variable {rows : Rows (Exact turning)} {p q s : Point (Exact turning)}

theorem beyond_after (rows : Rows (Exact turning)) (p : Point (Exact turning)) :
    rows.Beyond p (rows.after p) := by
  unfold after
  split
  · exact .inl (by simp)
  · exact .inr (by simp)

variable [IsStrictOrderedRing K]

omit [FloorRing K] in
theorem Beyond.trans (forward : 0 ≤ rows.step.val) (first : rows.Beyond p q)
    (second : rows.Beyond q s) : rows.Beyond p s := by
  rcases first with below | ⟨right, level⟩
  · refine .inl ?_
    rcases second with below' | ⟨-, level'⟩ <;> linarith
  · rcases second with below' | ⟨right', level'⟩
    · exact .inl (by linarith)
    · exact .inr ⟨by linarith, by linarith⟩

/-- No place in the rows comes before the one from which they are filled. -/
theorem beyond_of_mem_seats (forward : 0 ≤ rows.step.val) {ids : List String}
    {seat : String × Point (Exact turning)} (mem : seat ∈ rows.seats p ids) :
    seat.2 = p ∨ rows.Beyond p seat.2 := by
  induction ids generalizing p with
  | nil => simp [seats] at mem
  | cons id rest ih =>
    rcases List.mem_cons.mp mem with rfl | later
    · exact .inl rfl
    · rcases ih later with next | beyond
      · exact .inr (next ▸ rows.beyond_after p)
      · exact .inr ((rows.beyond_after p).trans forward beyond)

/-- Every place in the rows is beyond those before it. -/
theorem pairwise_beyond_seats (forward : 0 ≤ rows.step.val) (p : Point (Exact turning))
    (ids : List String) :
    (rows.seats p ids).Pairwise fun seat seat' => rows.Beyond seat.2 seat'.2 := by
  induction ids generalizing p with
  | nil => exact .nil
  | cons id rest ih =>
    refine List.pairwise_cons.mpr ⟨fun seat later => ?_, ih _⟩
    rcases beyond_of_mem_seats forward later with next | beyond
    · exact next ▸ rows.beyond_after p
    · exact (rows.beyond_after p).trans forward beyond

end Rows

variable [IsStrictOrderedRing K]

/-! ## §4 The radius -/

/-- A circle of the standard layout has room for each label and more on either side. -/
theorem Layout.le_radius {ids : List String} {radius : Exact turning}
    (chosen : Layout.standard.radiusOf? ids = some radius) {id : String} (mem : id ∈ ids) :
    4 * (Text.width id : K) + 25 ≤ radius.val := by
  cases ids with
  | nil => simp at mem
  | cons first others =>
    have widest := Exact.le_foldl_larger (Cell.labelWidth first : Exact turning)
      (others.map Cell.labelWidth) (Cell.labelWidth id) (List.mem_map_of_mem mem)
    have radius_eq : radius.val =
        ((others.map Cell.labelWidth).foldl Scalar.larger (Cell.labelWidth first : Exact turning)).val
          / 2 + 25 := by
      cases chosen
      simp [standard]
    have label : (Cell.labelWidth id : Exact turning).val = Text.width id * 8 := by
      simp [Cell.labelWidth, Cell.width]
    rw [label] at widest
    rw [radius_eq]
    linarith

/-! ## §5 Boxes -/

theorem Mark.le_of_mem_span {first last i : Int} (mem : i ∈ span first last) : first ≤ i := by
  obtain ⟨k, -, rfl⟩ := List.mem_map.mp mem
  omega

/-- Up to rounding, a mark is neither to the left of a point nor above it. -/
structure Mark.From (corner : Point (Exact turning)) (m : Mark) : Prop where
  right : corner.x.val / 8 - 1 / 2 ≤ (m.column : K)
  below : corner.y.val / 16 - 1 / 2 ≤ (m.row : K)

/-- The upper left corner of the box around a circle. -/
def boxCorner (center : Point (Exact turning)) (radius : Exact turning) :
    Point (Exact turning) where
  x := center.x - radius
  y := center.y - radius

variable {center : Point (Exact turning)} {radius : Exact turning} {m : Mark}

theorem Mark.from_of_mem_insideCircle (mem : m ∈ insideCircle center radius) :
    m.From (boxCorner center radius) := by
  obtain ⟨row, row_mem, mem⟩ := List.mem_flatMap.mp mem
  obtain ⟨column, column_mem, made⟩ := List.mem_filterMap.mp mem
  obtain rfl : { column, row, glyph := ' ' } = m := by
    split at made
    · exact Option.some.inj made
    · contradiction
  have right := le_of_mem_span column_mem
  have below := le_of_mem_span row_mem
  exact ⟨(Cell.le_column _).trans (by exact_mod_cast right),
    (Cell.le_row _).trans (by exact_mod_cast below)⟩

/-- A point of the outline is within the radius of the middle, whatever the angle. -/
theorem Mark.from_of_mem_outlineCircle {outline : Char} (nonneg : 0 ≤ radius.val)
    (mem : m ∈ outlineCircle outline center radius) : m.From (boxCorner center radius) := by
  obtain ⟨step, -, rfl⟩ := List.mem_map.mp mem
  generalize (Scalar.turn * Scalar.ofInt step / Scalar.ofInt (outlineSteps radius) :
    Exact turning) = angle
  have left : -radius.val ≤ radius.val * (Scalar.cos angle).val := by
    nlinarith [(abs_le.mp (Exact.abs_cos_le angle)).1]
  have above : -radius.val ≤ radius.val * (Scalar.sin angle).val := by
    nlinarith [(abs_le.mp (Exact.abs_sin_le angle)).1]
  have column := Cell.le_column (center.x + radius * Scalar.cos angle)
  have row := Cell.le_row (center.y + radius * Scalar.sin angle)
  simp only [Exact.val_add, Exact.val_mul] at column row
  refine ⟨?_, ?_⟩ <;> simp only [boxCorner, Exact.val_sub] <;> linarith

theorem Mark.from_of_mem_ofCircle {glyphs : Glyphs} (mem : m ∈ ofCircle glyphs center radius) :
    m.From (boxCorner center radius) := by
  unfold ofCircle at mem
  split at mem
  · contradiction
  · rename_i positive
    have nonneg : 0 ≤ radius.val := by
      rw [Exact.atMost_iff, Exact.val_ofInt, Int.cast_zero] at positive
      exact le_of_lt (not_le.mp positive)
    rcases List.mem_append.mp mem with inside | outline
    · exact from_of_mem_insideCircle inside
    · exact from_of_mem_outlineCircle nonneg outline

/-! ## §6 Labels -/

/-- A label stays within the box around its circle. -/
theorem Mark.from_of_mem_label {id : String} (room : 4 * (Text.width id : K) + 25 ≤ radius.val)
    (mem : m ∈ ofCenteredText (Cell.column center.x) (Cell.row center.y) id) :
    m.From (boxCorner center radius) := by
  obtain ⟨right, level⟩ := mem_ofText mem
  have half : 2 * (Text.width id / 2) ≤ Text.width id := Nat.mul_div_le _ _
  generalize Text.width id / 2 = before at right half
  have right : (Cell.column center.x : K) - before ≤ m.column := by exact_mod_cast right
  have half : 2 * (before : K) ≤ Text.width id := by exact_mod_cast half
  have wide : (0 : K) ≤ Text.width id := Nat.cast_nonneg _
  have column := Cell.le_column center.x
  have row := Cell.le_row center.y
  refine ⟨?_, ?_⟩ <;> simp only [boxCorner, Exact.val_sub]
  · linarith
  · rw [level]
    linarith

/-- What is painted at a place beyond another one is below the label there, or to the right. -/
theorem Rows.Beyond.after_label {edge : Exact turning} {p q : Point (Exact turning)}
    (beyond : (Rows.ofRadius .standard edge radius).Beyond p q) {id : String}
    (room : 4 * (Text.width id : K) + 25 ≤ radius.val) (within : m.From (boxCorner q radius)) :
    Cell.row p.y < m.row ∨
      Cell.column p.x - (Text.width id / 2 : Nat) + Text.width id ≤ m.column := by
  obtain ⟨right, below⟩ := within
  simp only [boxCorner, Exact.val_sub] at right below
  have step : (Rows.ofRadius .standard edge radius).step.val = 2 * radius.val + 100 := by
    simp [Rows.ofRadius, Layout.standard]
  have wide : (0 : K) ≤ Text.width id := Nat.cast_nonneg _
  rcases beyond with lower | ⟨farther, -⟩
  · refine .inl ?_
    have row := Cell.row_le p.y
    have apart : (Cell.row p.y : K) < m.row := by linarith
    exact_mod_cast apart
  · refine .inr ?_
    have column := Cell.column_le p.x
    have half : Text.width id ≤ 2 * (Text.width id / 2) + 1 := by omega
    generalize Text.width id / 2 = before at half
    have half : (Text.width id : K) ≤ 2 * before + 1 := by exact_mod_cast half
    have apart : (Cell.column p.x : K) - before + Text.width id ≤ m.column := by linarith
    exact_mod_cast apart

variable {config : PictureConfig (Exact turning)} {ids : List String} {id : String}
  {place : Point (Exact turning)}

/-- All that is painted for a state is in the box around its circle. -/
theorem Portrait.from_of_mem_stateMarks (chosen : Layout.standard.radiusOf? ids = some radius)
    (listed : id ∈ ids) (mem : m ∈ stateMarks config .standard ids (id, place)) :
    m.From (boxCorner place radius) := by
  have radius_eq : (surface config .standard ids).template.radius = radius := by
    rw [surface, chosen]
    rfl
  rw [stateMarks_eq, radius_eq] at mem
  rcases List.mem_append.mp mem with circle | label
  · exact Mark.from_of_mem_ofCircle circle
  · exact Mark.from_of_mem_label (Layout.le_radius chosen listed) label

/-- The mark that is the character with a number of a label at a place. -/
def labelMark (id : String) (place : Point (Exact turning)) (k : Fin id.toList.length) : Mark where
  column := Cell.column place.x - (id.toList.length / 2 : Nat) + (k : Nat)
  row := Cell.row place.y
  glyph := id.toList.get k

/-- What is painted for the states after one is below its label, or to the right of it. -/
theorem Portrait.after_label {before after : List (String × Point (Exact turning))}
    (seats : Layout.standard.seats config.size.width ids = before ++ (id, place) :: after)
    (mem : m ∈ after.flatMap (stateMarks config .standard ids)) :
    Cell.row place.y < m.row ∨
      Cell.column place.x - (Text.width id / 2 : Nat) + Text.width id ≤ m.column := by
  cases chosen : (Layout.standard : Layout (Exact turning)).radiusOf? ids with
  | none =>
    rw [Layout.seats, chosen] at seats
    simp at seats
  | some radius =>
    have listed : ∀ seat ∈ (id, place) :: after, seat.1 ∈ ids := by
      intro seat mem
      rw [← Layout.map_fst_seats .standard config.size.width ids, seats]
      exact List.mem_map_of_mem (List.mem_append_right _ mem)
    have room := Layout.le_radius chosen (listed _ List.mem_cons_self)
    have forward : 0 ≤ (Rows.ofRadius .standard config.size.width radius).step.val := by
      have wide : (0 : K) ≤ Text.width id := Nat.cast_nonneg _
      simp only [Rows.ofRadius, Layout.standard, Exact.val_add, Exact.val_mul, Exact.val_ofInt]
      push_cast
      linarith
    have apart := Rows.pairwise_beyond_seats forward
      (Rows.ofRadius .standard config.size.width radius).first ids
    simp only [Layout.seats, chosen] at seats
    rw [seats] at apart
    obtain ⟨seat, later, mem⟩ := List.mem_flatMap.mp mem
    have beyond := (List.pairwise_cons.mp (List.pairwise_append.mp apart).2.1).1 seat later
    exact beyond.after_label room
      (from_of_mem_stateMarks chosen (listed seat (List.mem_cons_of_mem _ later)) mem)

/-- After the mark of a character of a label, no mark is made in its cell. -/
theorem Portrait.labelMark_last (pairs : List (String × String))
    (seated : (id, place) ∈ Layout.standard.seats config.size.width ids)
    (printable : Text.Printable id.toList) (k : Fin id.toList.length) :
    ∃ before after, marks config .standard ids pairs = before ++ labelMark id place k :: after ∧
      ∀ m ∈ after,
        ¬ (m.column = (labelMark id place k).column ∧ m.row = (labelMark id place k).row) := by
  obtain ⟨lines, marks_eq⟩ := exists_marks_eq config .standard ids pairs
  obtain ⟨first, last, seats⟩ := List.append_of_mem seated
  have wide := Text.width_of_printable printable
  let circle := Mark.ofCircle config.style.glyphs place
    (surface config .standard ids).template.radius
  obtain ⟨before, after, split, right⟩ := Mark.ofText_split
    (Cell.column place.x - (Text.width id / 2 : Nat)) (Cell.row place.y) printable k.isLt
  refine ⟨lines ++ first.flatMap (stateMarks config .standard ids) ++ circle ++ before,
    after ++ last.flatMap (stateMarks config .standard ids), ?_, ?_⟩
  · rw [marks_eq, seats, List.flatMap_append, List.flatMap_cons, stateMarks_eq,
      Mark.ofCenteredText, split]
    simp [labelMark, wide, circle]
  · rintro m mem ⟨same_column, same_row⟩
    simp only [labelMark] at same_column same_row
    have bound := k.isLt
    rcases List.mem_append.mp mem with own | later
    · have beyond := right m own
      rw [wide] at beyond
      omega
    · rcases after_label seats later with below | beyond
      · omega
      · rw [wide] at beyond
        omega

/-! ## §7 Scenes -/

namespace Scene

/-- If the states of a text have printable names, the picture of the text has each name around the
place of its state: each of its characters has a cell in which no later mark is made, and which
holds the character if it lies on the canvas. A scene that shows the text shows all its states, and
there is one. -/
theorem labels_legible (config : PictureConfig (Exact turning)) (text : String)
    (printable : ∀ id ∈ (Machine.ofText text).states, Text.Printable id.toList) :
    (∃ scene, Shows config .standard (.ofText text) scene) ∧
    ∀ scene, Shows config .standard (.ofText text) scene →
      (∀ id ∈ (Machine.ofText text).states, ∃ place, (id, place) ∈ scene.nodes.places) ∧
      scene.surface.inner.canvas = (GridSurface.new config).canvas.paint
        (Portrait.marks config .standard scene.nodes.ids (Machine.ofText text).pairs) ∧
      ∀ id place, (id, place) ∈ scene.nodes.places → ∀ k : Fin id.toList.length,
        (∃ before after,
          Portrait.marks config .standard scene.nodes.ids (Machine.ofText text).pairs =
            before ++ labelMark id place k :: after ∧
          ∀ m ∈ after, ¬ (m.column = (labelMark id place k).column ∧
            m.row = (labelMark id place k).row)) ∧
        ∀ column row : Nat, column = (labelMark id place k).column →
          row = (labelMark id place k).row → scene.surface.inner.canvas.inside column row = true →
          scene.surface.inner.canvas.get column row = id.toList.get k := by
  refine ⟨?_, fun scene shows => ?_⟩
  · have wf : ∀ m ∈ [Machine.ofText text], m.WellFormed :=
      List.forall_mem_singleton.mpr (Machine.Built.ofText text).wellFormed
    obtain ⟨scene, shows, -⟩ := exists_shows config .standard wf
    exact ⟨scene, shows⟩
  have places := shows.places
  obtain ⟨-, same, canvas⟩ := shows.steady
  rw [Portrait.eq_paint] at canvas
  have ids_eq : scene.nodes.places.map Prod.fst = scene.nodes.ids := by
    rw [places, Layout.map_fst_seats]
  refine ⟨fun id mem => ?_, canvas, fun id place seated k => ?_⟩
  · rw [← same, ← ids_eq] at mem
    obtain ⟨⟨_, place⟩, there, rfl⟩ := List.mem_map.mp mem
    exact ⟨place, there⟩
  · have listed : id ∈ (Machine.ofText text).states := by
      rw [← same, ← ids_eq]
      exact List.mem_map_of_mem (f := Prod.fst) seated
    rw [places] at seated
    obtain ⟨before, after, split, last⟩ :=
      Portrait.labelMark_last (Machine.ofText text).pairs seated (printable id listed) k
    refine ⟨⟨before, after, split, last⟩, fun column row same_column same_row inside => ?_⟩
    have shaped : (GridSurface.new config).canvas.Shaped := Canvas.shaped_blank _ _
    rw [canvas, split] at inside ⊢
    rw [Canvas.inside_paint] at inside
    exact shaped.get_paint_of_last inside ⟨same_column.symm, same_row.symm⟩
      (by rw [same_column, same_row]; exact last)

/-- The names of two states on a canvas of the standard size, measured by rational numbers. -/
theorem labels_legible_two_states :
    let config : PictureConfig (Exact Turning.rightmost) := .standard
    let machine := Machine.ofText "Idle->Busy: go / start"
    (∀ id ∈ machine.states, Text.Printable id.toList) ∧
      ∃ scene place, Shows config .standard machine scene ∧
        ("Idle", place) ∈ scene.nodes.places ∧
        ∀ k : Fin "Idle".toList.length, ∀ column row : Nat,
          column = (labelMark "Idle" place k).column → row = (labelMark "Idle" place k).row →
          scene.surface.inner.canvas.inside column row = true →
          scene.surface.inner.canvas.get column row = "Idle".toList.get k := by
  intro config machine
  have printable : ∀ id ∈ machine.states, Text.Printable id.toList := by decide +kernel
  have idle : "Idle" ∈ machine.states := by decide +kernel
  obtain ⟨⟨scene, shows⟩, legible⟩ := labels_legible config _ printable
  obtain ⟨placed, -, labels⟩ := legible scene shows
  obtain ⟨place, seated⟩ := placed "Idle" idle
  exact ⟨printable, scene, place, shows, seated, fun k => (labels "Idle" place seated k).2⟩

end Scene

end TransitionDiagram
