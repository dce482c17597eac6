/-
TransitionDiagram.Proofs.Footprint: the cells that a text is written into.

A text that is written takes as many columns as its characters have, each on its own. A character
stands in the first of its columns and a filler in each of the others; a character without columns
is not written. So every column of the text has one mark, and what the cells of a canvas hold
afterwards can be read off the text: nothing that is written is written over by the same text.

  §1 the columns of a text
  §2 the marks of a text
  §3 cells with one mark
  §4 cells after a text
  §5 the footprint of a text
-/
import Mathlib.Data.List.Nodup
import TransitionDiagram.Proofs.Canvases

namespace TransitionDiagram

namespace Text

/-! ## §1 The columns of a text -/

/-- The columns that the characters of a text have, each on its own. -/
def advance : List Char → Nat
  | [] => 0
  | c :: rest => charWidth c + advance rest

@[simp] theorem advance_nil : advance [] = 0 := rfl

@[simp] theorem advance_cons (c : Char) (rest : List Char) :
    advance (c :: rest) = charWidth c + advance rest := rfl

@[simp] theorem advance_append (first second : List Char) :
    advance (first ++ second) = advance first + advance second := by
  induction first with
  | nil => simp
  | cons c rest ih => simp [ih, Nat.add_assoc]

/-- The columns of a character are columns of the text. -/
theorem add_lt_advance {text before after : List Char} {c : Char} {k : Nat}
    (split : text = before ++ c :: after) (within : k < charWidth c) :
    advance before + k < advance text := by
  rw [split, advance_append, advance_cons]
  omega

/-- Every column of a text belongs to one of its characters. -/
theorem exists_of_lt_advance {text : List Char} {i : Nat} (bound : i < advance text) :
    ∃ before c after k, text = before ++ c :: after ∧ k < charWidth c ∧ i = advance before + k := by
  induction text generalizing i with
  | nil => simp at bound
  | cons c rest ih =>
    rw [advance_cons] at bound
    by_cases here : i < charWidth c
    · exact ⟨[], c, rest, i, rfl, here, by simp⟩
    · obtain ⟨before, c', after, k, rfl, within, place⟩ :=
        ih (show i - charWidth c < advance rest by omega)
      refine ⟨c :: before, c', after, k, rfl, within, ?_⟩
      rw [advance_cons]
      omega

end Text

open Text (advance charWidth)

namespace Mark

/-! ## §2 The marks of a text -/

/-- What is written into a column of a character: the character itself into the first one. -/
def columnGlyph (c : Char) : Nat → Char
  | 0 => c
  | _ + 1 => wideTail

theorem ofChar_eq_map (column row : Int) (c : Char) (width : Nat) :
    ofChar column row c width =
      (List.range width).map fun (k : Nat) =>
        { column := column + k, row, glyph := columnGlyph c k } := by
  cases width with
  | zero => rfl
  | succ more => simp [ofChar, List.range_succ_eq_map, columnGlyph, Int.add_assoc]

theorem ofText_append (column row : Int) (first second : List Char) :
    ofText column row (first ++ second) =
      ofText column row first ++ ofText (column + advance first) row second := by
  induction first generalizing column with
  | nil => simp [ofText]
  | cons c rest ih => simp [ofText, ih, Int.add_assoc]

theorem mem_ofText_iff {column row : Int} {text : List Char} {m : Mark} :
    m ∈ ofText column row text ↔
      ∃ before c after k, text = before ++ c :: after ∧ k < charWidth c ∧
        m = { column := column + advance before + k, row, glyph := columnGlyph c k } := by
  constructor
  · intro mem
    induction text generalizing column with
    | nil => contradiction
    | cons c rest ih =>
      rw [ofText, List.mem_append, ofChar_eq_map, List.mem_map] at mem
      rcases mem with ⟨k, listed, rfl⟩ | later
      · exact ⟨[], c, rest, k, rfl, List.mem_range.mp listed, by simp⟩
      · obtain ⟨before, c', after, k, rfl, within, rfl⟩ := ih later
        exact ⟨c :: before, c', after, k, rfl, within, by simp [Int.add_assoc]⟩
  · rintro ⟨before, c, after, k, rfl, within, rfl⟩
    rw [ofText_append, ofText, ofChar_eq_map]
    refine List.mem_append_right _ (List.mem_append_left _ (List.mem_map.mpr ?_))
    exact ⟨k, List.mem_range.mpr within, rfl⟩

/-- The columns of a text are written once each, from the left to the right. -/
theorem map_column_ofText (column row : Int) (text : List Char) :
    (ofText column row text).map (·.column) =
      (List.range (advance text)).map fun (i : Nat) => column + i := by
  induction text generalizing column with
  | nil => rfl
  | cons c rest ih =>
    rw [ofText, List.map_append, ih, ofChar_eq_map, Text.advance_cons, List.range_add]
    simp [Int.add_assoc, Function.comp_def]

theorem le_of_mem_ofText {column row : Int} {text : List Char} {m : Mark}
    (mem : m ∈ ofText column row text) :
    m.row = row ∧ column ≤ m.column ∧ m.column < column + advance text := by
  obtain ⟨before, c, after, k, split, within, rfl⟩ := mem_ofText_iff.mp mem
  have bound := Text.add_lt_advance split within
  refine ⟨rfl, ?_, ?_⟩
  · simp only
    omega
  · simp only
    omega

/-! ## §3 Cells with one mark -/

/-- The cell in which a mark is made. -/
def cell (m : Mark) : Int × Int :=
  (m.column, m.row)

end Mark

namespace Canvas

variable {canvas : Canvas} {marks : List Mark}

/-- A cell in which just one mark is made holds its character. -/
theorem Has.cell?_paint_of_mem {column row : Nat} (has : canvas.Has column row)
    (once : (marks.map Mark.cell).Nodup) {mark : Mark} (mem : mark ∈ marks)
    (here : mark.column = column ∧ mark.row = row) :
    (canvas.paint marks).cell? column row = some mark.glyph := by
  obtain ⟨before, after, rfl⟩ := List.append_of_mem mem
  refine has.cell?_paint_of_last here fun m later there => ?_
  simp only [List.map_append, List.map_cons, List.nodup_append, List.nodup_cons] at once
  refine once.2.1.1 (List.mem_map.mpr ⟨m, later, ?_⟩)
  rw [Mark.cell, Mark.cell, there.1, there.2, here.1, here.2]

theorem Shaped.get_paint_of_mem (shaped : canvas.Shaped) {column row : Nat}
    (inside : canvas.inside column row = true)
    (once : (marks.map Mark.cell).Nodup) {mark : Mark} (mem : mark ∈ marks)
    (here : mark.column = column ∧ mark.row = row) :
    (canvas.paint marks).get column row = mark.glyph :=
  get_of_cell? (by rwa [inside_paint]) ((shaped.has inside).cell?_paint_of_mem once mem here)

/-- Marks in different cells can be made in either order. -/
theorem set_comm (canvas : Canvas) {m m' : Mark} (apart : m.cell ≠ m'.cell) :
    (canvas.set m).set m' = (canvas.set m').set m := by
  have outside (canvas : Canvas) {m : Mark} (off : ¬ canvas.inside m.column m.row = true) :
      canvas.set m = canvas := if_neg off
  by_cases on : canvas.inside m.column m.row = true
  · by_cases on' : canvas.inside m'.column m'.row = true
    · obtain ⟨⟨left, -⟩, above, -⟩ := inside_iff.mp on
      obtain ⟨⟨left', -⟩, above', -⟩ := inside_iff.mp on'
      have elsewhere : m.column.toNat ≠ m'.column.toNat ∨ m.row.toNat ≠ m'.row.toNat := by
        by_contra same
        refine apart (Prod.ext ?_ ?_)
        · change m.column = m'.column
          omega
        · change m.row = m'.row
          omega
      rw [set, if_pos (by rwa [inside_set]), set, if_pos on, set, if_pos (by rwa [inside_set]),
        set, if_pos on']
      simp only [mk.injEq, true_and]
      grind
    · rw [outside canvas on', outside (canvas.set m) (by rwa [inside_set])]
  · rw [outside canvas on, outside (canvas.set m') (by rwa [inside_set])]

/-- Marks in different cells can be made in any order. -/
theorem paint_perm (canvas : Canvas) {later : List Mark} (perm : marks.Perm later)
    (once : (marks.map Mark.cell).Nodup) :
    canvas.paint marks = canvas.paint later := by
  refine perm.foldl_eq' (fun m mem m' mem' canvas => ?_) canvas
  by_cases same : m = m'
  · rw [same]
  · exact canvas.set_comm fun cell => same (List.inj_on_of_nodup_map once mem mem' cell)

/-! ## §4 Cells after a text -/

variable {x y : Int} {text : String} {column row : Nat}

/-- A column of a character holds the character or a filler after it. -/
theorem Has.cell?_drawText_of_split (has : canvas.Has column row) {before after : List Char}
    {c : Char} {k : Nat} (split : text.toList = before ++ c :: after) (within : k < charWidth c)
    (here : (column : Int) = x + advance before + k) :
    (canvas.drawText x row text).cell? column row = some (Mark.columnGlyph c k) := by
  have once : ((Mark.ofText x row text.toList).map Mark.cell).Nodup := by
    refine List.Nodup.of_map Prod.fst ?_
    rw [List.map_map]
    change ((Mark.ofText x row text.toList).map (·.column)).Nodup
    rw [Mark.map_column_ofText]
    refine List.Nodup.map (fun i j same => ?_) List.nodup_range
    omega
  exact has.cell?_paint_of_mem once
    (Mark.mem_ofText_iff.mpr ⟨before, c, after, k, split, within, rfl⟩) ⟨here.symm, rfl⟩

theorem Shaped.get_drawText_of_split (shaped : canvas.Shaped)
    (inside : canvas.inside column row = true) {before after : List Char} {c : Char} {k : Nat}
    (split : text.toList = before ++ c :: after) (within : k < charWidth c)
    (here : (column : Int) = x + advance before + k) :
    (canvas.drawText x row text).get column row = Mark.columnGlyph c k := by
  have there := (shaped.has inside).cell?_drawText_of_split split within here
  exact get_of_cell? (by rwa [drawText, inside_paint]) there

/-- Cells beside the columns of a text stay as they are. -/
theorem Shaped.get_drawText_of_beside (shaped : canvas.Shaped)
    (inside : canvas.inside column row = true)
    (beside : ¬ (y = row ∧ x ≤ column ∧ column < x + advance text.toList)) :
    (canvas.drawText x y text).get column row = canvas.get column row := by
  refine shaped.get_paint_of_elsewhere inside fun m mem here => beside ?_
  obtain ⟨same_row, first, last⟩ := Mark.le_of_mem_ofText mem
  exact ⟨same_row.symm.trans here.2, here.1 ▸ first, here.1 ▸ last⟩

/-! ## §5 The footprint of a text -/

/-- What a canvas holds after a text was written into it from a cell on. Only the cells that it has
are written into. -/
structure Writes (canvas : Canvas) (x y : Int) (text : List Char) (written : Canvas) : Prop where
  width : written.width = canvas.width
  height : written.height = canvas.height
  /-- A character with columns stands behind the columns of those before it. -/
  character : ∀ {before c after}, text = before ++ c :: after → 0 < charWidth c →
    ∀ {column row : Nat}, canvas.Has column row →
      (column : Int) = x + advance before → (row : Int) = y →
      written.cell? column row = some c
  /-- Its other columns hold fillers. -/
  filler : ∀ {before c after k}, text = before ++ c :: after → 0 < k → k < charWidth c →
    ∀ {column row : Nat}, canvas.Has column row →
      (column : Int) = x + advance before + k → (row : Int) = y →
      written.cell? column row = some Mark.wideTail
  /-- Every other cell is as it was before. -/
  beside : ∀ {column row : Nat},
    (canvas.inside column row = true → (row : Int) = y →
      ∀ before c after k, text = before ++ c :: after → k < charWidth c →
        (column : Int) ≠ x + advance before + k) →
    written.cell? column row = canvas.cell? column row

theorem writes_drawText (canvas : Canvas) (x y : Int) (text : String) :
    Writes canvas x y text.toList (canvas.drawText x y text) where
  width := width_paint
  height := height_paint
  character := by
    intro before c after split some_columns column row has place same_row
    subst same_row
    exact has.cell?_drawText_of_split (k := 0) split some_columns (by simpa using place)
  filler := by
    intro before c after k split later within column row has place same_row
    subst same_row
    obtain ⟨k, rfl⟩ := Nat.exists_eq_add_of_lt later
    exact has.cell?_drawText_of_split split within place
  beside := by
    intro column row beside
    refine cell?_paint_of_elsewhere fun inside m mem here => ?_
    obtain ⟨before, c, after, k, split, within, rfl⟩ := Mark.mem_ofText_iff.mp mem
    exact beside inside here.2.symm before c after k split within here.1.symm

theorem drawText_append (canvas : Canvas) (x y : Int) (first second : String) :
    canvas.drawText x y (first ++ second) =
      (canvas.drawText x y first).drawText (x + advance first.toList) y second := by
  simp only [drawText, String.toList_append, Mark.ofText_append, paint_append]

/-- Whatever the canvas and wherever a text is written, on the canvas, beside it or over its edges:
every character with columns stands in the cell behind the columns of those before it, fillers stand
in its other cells, and all other cells stay as they are. A text can be written in two parts, the
second one behind the columns of the first one. -/
theorem drawText_footprint (canvas : Canvas) (x y : Int) (text : String) :
    Writes canvas x y text.toList (canvas.drawText x y text) ∧
    ∀ later : String, canvas.drawText x y (text ++ later) =
      (canvas.drawText x y text).drawText (x + advance text.toList) y later :=
  ⟨writes_drawText canvas x y text, drawText_append canvas x y text⟩

/-- A text over both edges: of the first character only the filler is on the canvas, and of the last
one only the character. The accent on the second one has no column. -/
theorem drawText_footprint_over_edges :
    let written := (blank 3 1).drawText (-1) 0 "日a\u0301本"
    written.cell? 0 0 = some Mark.wideTail ∧ written.cell? 1 0 = some 'a' ∧
      written.cell? 2 0 = some '本' ∧
      written = ((blank 3 1).drawText (-1) 0 "日a").drawText 2 0 "\u0301本" := by
  intro written
  have letters : "日a\u0301本".toList = ['日', 'a', '\u0301', '本'] := by decide +kernel
  have has (column : Nat) (left : column < 3) : (blank 3 1).Has column 0 :=
    (shaped_blank 3 1).has (inside_iff.mpr ⟨⟨by omega, Int.ofNat_lt.mpr left⟩, by decide⟩)
  have writes := (drawText_footprint (blank 3 1) (-1) 0 "日a\u0301本").1
  rw [letters] at writes
  refine ⟨?_, ?_, ?_, ?_⟩
  · exact writes.filler (k := 1) (show _ = [] ++ '日' :: ['a', '\u0301', '本'] from rfl)
      (by decide) (by decide +kernel) (has 0 (by decide)) (by decide +kernel) rfl
  · exact writes.character (show _ = ['日'] ++ 'a' :: ['\u0301', '本'] from rfl)
      (by decide +kernel) (has 1 (by decide)) (by decide +kernel) rfl
  · exact writes.character (show _ = ['日', 'a', '\u0301'] ++ '本' :: [] from rfl)
      (by decide +kernel) (has 2 (by decide)) (by decide +kernel) rfl
  · have parts := (drawText_footprint (blank 3 1) (-1) 0 "日a").2 "\u0301本"
    have columns : (-1 : Int) + advance "日a".toList = 2 := by decide +kernel
    have joined : "日a" ++ "\u0301本" = "日a\u0301本" := by decide +kernel
    rw [columns, joined] at parts
    exact parts

end Canvas

end TransitionDiagram
