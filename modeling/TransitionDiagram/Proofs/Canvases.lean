/-
TransitionDiagram.Proofs.Canvases: which character a cell of a canvas holds.

A mark changes the cell it is made in, if that lies on the canvas, and no other. So after some marks
a cell holds the character of the last mark that was made in it. This holds of every canvas, for the
cells that its rows have. A canvas that was blank never loses its shape: it has a row for each unit
of its height and a cell for each unit of its width, and one of each if there are none; then every
cell that lies on the canvas is there.

  §1 the shape of a canvas
  §2 one mark
  §3 many marks
-/
import TransitionDiagram.Picture.Canvas

namespace TransitionDiagram

/-- Some of the marks are made in a cell. -/
def Mark.Hits (marks : List Mark) (column row : Nat) : Prop :=
  ∃ m ∈ marks, m.column = column ∧ m.row = row

/-- The character of the last of some marks that is made in a cell. -/
def Mark.last? (marks : List Mark) (column row : Nat) : Option Char :=
  (marks.reverse.find? fun m : Mark => m.column = column ∧ m.row = row).map (·.glyph)

namespace Mark

variable {column row : Nat}

/-- Of two lists of marks the second one counts, unless it has no mark in the cell. -/
theorem last?_append (lower upper : List Mark) :
    last? (lower ++ upper) column row = (last? upper column row).or (last? lower column row) := by
  simp only [last?, List.reverse_append, List.find?_append, Option.map_or]

theorem last?_cons (mark : Mark) (rest : List Mark) :
    last? (mark :: rest) column row = (last? rest column row).or
      (if mark.column = column ∧ mark.row = row then some mark.glyph else none) := by
  rw [← List.singleton_append, last?_append]
  by_cases here : mark.column = column ∧ mark.row = row <;> simp [last?, here]

theorem last?_eq_none_iff {marks : List Mark} :
    last? marks column row = none ↔ ¬ Hits marks column row := by
  simp [last?, Hits]

theorem Hits.exists_last? {marks : List Mark} (hit : Hits marks column row) :
    ∃ c, last? marks column row = some c :=
  Option.ne_none_iff_exists'.mp fun none => last?_eq_none_iff.mp none hit

end Mark

namespace Canvas

/-! ## §1 The shape of a canvas -/

/-- There is a row for each unit of height and a cell for each unit of width, at least one. -/
structure Shaped (canvas : Canvas) : Prop where
  rows : canvas.rows.size = max 1 canvas.height
  cells : ∀ row ∈ canvas.rows, row.size = max 1 canvas.width

theorem shaped_blank (width height : Nat) : (blank width height).Shaped := by
  refine ⟨by simp [blank], fun row mem => ?_⟩
  obtain ⟨-, rfl⟩ := Array.mem_replicate.mp mem
  simp [blank]

variable {canvas : Canvas} {mark : Mark} {marks : List Mark}

@[simp] theorem width_set : (canvas.set mark).width = canvas.width := by
  unfold set
  split <;> rfl

@[simp] theorem height_set : (canvas.set mark).height = canvas.height := by
  unfold set
  split <;> rfl

theorem Shaped.set (shaped : canvas.Shaped) (mark : Mark) : (canvas.set mark).Shaped := by
  unfold Canvas.set
  split
  · refine ⟨by simp [shaped.rows], fun row mem => ?_⟩
    obtain ⟨i, bound, rfl⟩ := Array.mem_iff_getElem.mp mem
    have there : i < canvas.rows.size := by simpa using bound
    have size := shaped.cells canvas.rows[i] (Array.getElem_mem there)
    simp only [Array.getElem_modify]
    split
    · simpa using size
    · exact size
  · exact shaped

theorem Shaped.paint (shaped : canvas.Shaped) (marks : List Mark) : (canvas.paint marks).Shaped := by
  induction marks generalizing canvas with
  | nil => exact shaped
  | cons mark rest ih => exact ih (shaped.set mark)

theorem width_paint : (canvas.paint marks).width = canvas.width := by
  induction marks generalizing canvas with
  | nil => rfl
  | cons mark rest ih => exact ih.trans width_set

theorem height_paint : (canvas.paint marks).height = canvas.height := by
  induction marks generalizing canvas with
  | nil => rfl
  | cons mark rest ih => exact ih.trans height_set

@[simp] theorem inside_set (column row : Int) :
    (canvas.set mark).inside column row = canvas.inside column row := by
  simp [inside]

theorem inside_paint (column row : Int) :
    (canvas.paint marks).inside column row = canvas.inside column row := by
  simp only [inside, width_paint, height_paint]

/-! ## §2 One mark -/

theorem inside_iff {column row : Int} :
    canvas.inside column row = true ↔
      (0 ≤ column ∧ column < canvas.width) ∧ 0 ≤ row ∧ row < canvas.height := by
  simp [inside, and_assoc]

/-- A cell that lies on the canvas can be read. -/
theorem Shaped.exists_cell (shaped : canvas.Shaped) {column row : Nat}
    (inside : canvas.inside column row = true) :
    ∃ cells, canvas.rows[row]? = some cells ∧ column < cells.size := by
  obtain ⟨⟨-, left⟩, -, above⟩ := inside_iff.mp inside
  have bound : row < canvas.rows.size := by
    rw [shaped.rows]
    omega
  refine ⟨canvas.rows[row], Array.getElem?_eq_getElem bound, ?_⟩
  rw [shaped.cells _ (Array.getElem_mem bound)]
  omega

theorem get_eq {column row : Nat} {cells : Array Char} (inside : canvas.inside column row = true)
    (there : canvas.rows[row]? = some cells) :
    canvas.get column row = cells[column]?.getD ' ' := by
  rw [get, if_pos inside, there]
  rfl

/-- The character in a cell, if the rows have that cell. -/
def cell? (canvas : Canvas) (column row : Nat) : Option Char :=
  (canvas.rows[row]?).bind (·[column]?)

/-- A cell that lies on the canvas and that the rows have. -/
structure Has (canvas : Canvas) (column row : Nat) : Prop where
  inside : canvas.inside column row = true
  there : ∃ c, canvas.cell? column row = some c

theorem get_of_cell? {column row : Nat} {c : Char} (inside : canvas.inside column row = true)
    (there : canvas.cell? column row = some c) : canvas.get column row = c := by
  rw [get, if_pos inside]
  exact congrArg (·.getD ' ') there

theorem Shaped.has (shaped : canvas.Shaped) {column row : Nat}
    (inside : canvas.inside column row = true) : canvas.Has column row := by
  obtain ⟨cells, there, bound⟩ := shaped.exists_cell inside
  exact ⟨inside, cells[column], by simp [cell?, there, bound]⟩

/-- A mark is seen in the cell it is made in, if that lies on the canvas, and nowhere else. -/
theorem cell?_set (canvas : Canvas) (mark : Mark) (column row : Nat) :
    (canvas.set mark).cell? column row =
      if (mark.column = column ∧ mark.row = row) ∧ canvas.inside column row = true then
        (canvas.cell? column row).map fun _ => mark.glyph
      else canvas.cell? column row := by
  by_cases on : canvas.inside mark.column mark.row = true
  · obtain ⟨⟨left, -⟩, above, -⟩ := inside_iff.mp on
    simp only [set, if_pos on, cell?, Array.getElem?_modify]
    by_cases same_row : mark.row = row
    · by_cases same_column : mark.column = column
      · rw [same_row, same_column] at on ⊢
        cases there : canvas.rows[row]? with
        | none => simp
        | some cells => by_cases bound : column < cells.size <;> simp [on, bound]
      · have other : mark.column.toNat ≠ column := by omega
        rw [if_pos (by omega), if_neg fun both => same_column both.1.1]
        cases canvas.rows[row]? with
        | none => rfl
        | some cells => exact Array.getElem?_setIfInBounds_ne other
    · have other : mark.row.toNat ≠ row := by omega
      rw [if_neg other, if_neg fun both => same_row both.1.2]
  · have elsewhere : ¬ ((mark.column = column ∧ mark.row = row) ∧
        canvas.inside column row = true) := by
      rintro ⟨⟨same_column, same_row⟩, inside⟩
      rw [same_column, same_row] at on
      exact on inside
    rw [if_neg elsewhere, Canvas.set, if_neg on]

/-- A mark changes the cell it is made in, and no other. -/
theorem Shaped.get_set (shaped : canvas.Shaped) {column row : Nat}
    (inside : canvas.inside column row = true) :
    (canvas.set mark).get column row =
      if mark.column = column ∧ mark.row = row then mark.glyph else canvas.get column row := by
  obtain ⟨c, there⟩ := (shaped.has inside).there
  have marked := canvas.cell?_set mark column row
  simp only [inside, and_true, there, Option.map_some] at marked
  rw [get_of_cell? inside there]
  split at marked
  · rename_i here
    rw [if_pos here]
    exact get_of_cell? (by rwa [inside_set]) marked
  · rename_i elsewhere
    rw [if_neg elsewhere]
    exact get_of_cell? (by rwa [inside_set]) marked

/-! ## §3 Many marks -/

theorem paint_append (canvas : Canvas) (marks later : List Mark) :
    canvas.paint (marks ++ later) = (canvas.paint marks).paint later := by
  simp [paint]

theorem Has.set {column row : Nat} (has : canvas.Has column row) (mark : Mark) :
    (canvas.set mark).Has column row := by
  obtain ⟨c, there⟩ := has.there
  refine ⟨by rw [inside_set]; exact has.inside, ?_⟩
  rw [cell?_set, there]
  split
  · exact ⟨_, rfl⟩
  · exact ⟨_, rfl⟩

theorem Has.paint {column row : Nat} (has : canvas.Has column row) (marks : List Mark) :
    (canvas.paint marks).Has column row := by
  induction marks generalizing canvas with
  | nil => exact has
  | cons mark rest ih => exact ih (has.set mark)

/-- Marks elsewhere leave a cell as it is, and so do all marks if it is not on the canvas. -/
theorem cell?_paint_of_elsewhere {column row : Nat}
    (elsewhere : canvas.inside column row = true →
      ∀ m ∈ marks, ¬ (m.column = column ∧ m.row = row)) :
    (canvas.paint marks).cell? column row = canvas.cell? column row := by
  induction marks generalizing canvas with
  | nil => rfl
  | cons mark rest ih =>
    have kept : ((canvas.set mark).paint rest).cell? column row =
        (canvas.set mark).cell? column row := ih fun inside m later =>
      elsewhere (by rwa [inside_set] at inside) m (List.mem_cons_of_mem mark later)
    rw [cell?_set, if_neg fun here => elsewhere here.2 mark List.mem_cons_self here.1] at kept
    exact kept

/-- A cell holds the character of the last mark made in it. -/
theorem Has.cell?_paint_of_last {column row : Nat} (has : canvas.Has column row)
    {before after : List Mark} (here : mark.column = column ∧ mark.row = row)
    (last : ∀ m ∈ after, ¬ (m.column = column ∧ m.row = row)) :
    (canvas.paint (before ++ mark :: after)).cell? column row = some mark.glyph := by
  obtain ⟨inside, c, there⟩ := has.paint before
  rw [paint_append]
  change (((canvas.paint before).set mark).paint after).cell? column row = _
  rw [cell?_paint_of_elsewhere fun _ => last, cell?_set, if_pos ⟨here, inside⟩, there]
  rfl

theorem Shaped.get_paint_of_elsewhere (shaped : canvas.Shaped) {column row : Nat}
    (inside : canvas.inside column row = true)
    (elsewhere : ∀ m ∈ marks, ¬ (m.column = column ∧ m.row = row)) :
    (canvas.paint marks).get column row = canvas.get column row := by
  obtain ⟨c, there⟩ := (shaped.has inside).there
  rw [get_of_cell? inside there]
  refine get_of_cell? (by rwa [inside_paint]) ?_
  rw [cell?_paint_of_elsewhere fun _ => elsewhere, there]

theorem Shaped.get_paint_of_last (shaped : canvas.Shaped) {column row : Nat}
    (inside : canvas.inside column row = true) {before after : List Mark}
    (here : mark.column = column ∧ mark.row = row)
    (last : ∀ m ∈ after, ¬ (m.column = column ∧ m.row = row)) :
    (canvas.paint (before ++ mark :: after)).get column row = mark.glyph :=
  get_of_cell? (by rwa [inside_paint]) ((shaped.has inside).cell?_paint_of_last here last)

/-- After some marks a cell holds the character of the last one made in it, and if there is none,
the character that it held before. -/
theorem Shaped.get_paint (shaped : canvas.Shaped) {column row : Nat}
    (inside : canvas.inside column row = true) :
    (canvas.paint marks).get column row =
      (Mark.last? marks column row).getD (canvas.get column row) := by
  induction marks generalizing canvas with
  | nil => rfl
  | cons mark rest ih =>
    have painted := ih (shaped.set mark) (by rwa [inside_set])
    rw [shaped.get_set inside] at painted
    refine painted.trans ?_
    rw [Mark.last?_cons]
    cases Mark.last? rest column row with
    | some later => rfl
    | none => split <;> rfl

/-- Two canvases have the same character in a cell after the same marks if they had the same before
or one of the marks is made in the cell. -/
theorem Shaped.get_paint_congr {canvas' : Canvas} (shaped : canvas.Shaped)
    (shaped' : canvas'.Shaped) {column row : Nat} (inside : canvas.inside column row = true)
    (inside' : canvas'.inside column row = true)
    (same : canvas.get column row = canvas'.get column row ∨ Mark.Hits marks column row) :
    (canvas.paint marks).get column row = (canvas'.paint marks).get column row := by
  rw [shaped.get_paint inside, shaped'.get_paint inside']
  rcases same with same | hit
  · rw [same]
  · obtain ⟨c, last⟩ := hit.exists_last?
    rw [last]
    rfl

end Canvas

end TransitionDiagram
