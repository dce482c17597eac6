/-
TransitionDiagram.Proofs.WidePairs: wide characters and the fillers behind them.

A character of two columns takes two cells, and the second one holds a filler, which is not printed.
While every such character has its filler and every filler its character, the characters of a
printed row stand in the columns of their cells. A text that is written can separate them: it can
begin in the second cell of a wide character or end in the first one, and one of its own characters
can lie on the left edge of the canvas, or be wider than two columns. `Spares` lists these cases. A
text keeps the pairs of a canvas exactly if it is none of them, so by induction a run keeps them
throughout exactly if none of its texts is.

  §1 pairs
  §2 one text
  §3 runs
  §4 printed rows
  §5 a wide character on the left edge
-/
import TransitionDiagram.Proofs.Footprint

namespace TransitionDiagram

open Text (advance charWidth)

namespace Mark

variable {c : Char} {k : Nat}

/-! ## §1 Pairs -/

theorem charWidth_wideTail : charWidth wideTail = 0 := by decide

/-- What is written into a column of a character is a filler from the second one on. -/
theorem columnGlyph_eq_wideTail_iff (within : k < charWidth c) :
    columnGlyph c k = wideTail ↔ 0 < k := by
  cases k with
  | zero =>
    refine iff_of_false (fun same => ?_) (Nat.lt_irrefl 0)
    rw [show c = wideTail from same, charWidth_wideTail] at within
    exact Nat.lt_irrefl 0 within
  | succ k => exact iff_of_true rfl (Nat.succ_pos k)

theorem charWidth_columnGlyph (c : Char) (k : Nat) :
    charWidth (columnGlyph c k) = if k = 0 then charWidth c else 0 := by
  cases k with
  | zero => rfl
  | succ k => exact charWidth_wideTail

end Mark

namespace Canvas

variable {canvas : Canvas}

/-- Every filler is behind a character of two columns, and behind every such character that is not
in the last column there is a filler. -/
structure Paired (canvas : Canvas) : Prop where
  filler : ∀ column row : Nat, canvas.inside column row = true →
    canvas.get column row = Mark.wideTail →
    ∃ before : Nat, column = before + 1 ∧ charWidth (canvas.get before row) = 2
  wide : ∀ column row : Nat, canvas.inside (column + 1 : Nat) row = true →
    charWidth (canvas.get column row) = 2 → canvas.get (column + 1) row = Mark.wideTail

theorem get_blank (width height column row : Nat) : (blank width height).get column row = ' ' := by
  simp only [get, blank, Array.getElem?_replicate]
  split_ifs <;> simp [Array.getElem?_replicate]
  split_ifs <;> rfl

theorem paired_blank (width height : Nat) : (blank width height).Paired where
  filler column row _ filler := by
    rw [get_blank] at filler
    exact absurd filler (by decide)
  wide column row _ wide := by
    rw [get_blank] at wide
    exact absurd wide (by decide)

/-- The cell lies on the canvas and holds a filler. -/
def FillerAt (canvas : Canvas) (column row : Int) : Prop :=
  canvas.inside column row = true ∧ canvas.get column.toNat row.toNat = Mark.wideTail

/-- A text spares all pairs if it does not begin in the second cell of a wide character, does not
end in the first one, and has a filler on the canvas only behind a character of two columns that is
on the canvas as well. -/
structure Spares (canvas : Canvas) (column row : Int) (text : List Char) : Prop where
  first : 0 < advance text → ¬ canvas.FillerAt column row
  last : 0 < advance text → ¬ canvas.FillerAt (column + advance text) row
  whole : ∀ before c after k, text = before ++ c :: after → 0 < k → k < charWidth c →
    canvas.inside (column + advance before + k) row = true →
    charWidth c = 2 ∧ 0 ≤ column + advance before

/-! ## §2 One text -/

section

variable {x y : Int} {text : String}

theorem FillerAt.exists_cell (filler : canvas.FillerAt x y) :
    ∃ column row : Nat, x = column ∧ y = row ∧ canvas.inside column row = true ∧
      canvas.get column row = Mark.wideTail := by
  obtain ⟨inside, glyph⟩ := filler
  obtain ⟨⟨left, -⟩, above, -⟩ := inside_iff.mp inside
  refine ⟨x.toNat, y.toNat, ?_, ?_, ?_, glyph⟩
  · rw [Int.toNat_of_nonneg left]
  · rw [Int.toNat_of_nonneg above]
  · rwa [Int.toNat_of_nonneg left, Int.toNat_of_nonneg above]

/-- The cell to the left of one on the canvas is on the canvas, too. -/
theorem inside_of_succ {column row : Nat} (inside : canvas.inside (column + 1 : Nat) row = true) :
    canvas.inside column row = true := by
  rw [inside_iff] at inside ⊢
  omega

/-- After a text was written, a cell on the canvas is in a column of one of its characters and holds
what this has there, or it is as it was. -/
theorem Shaped.drawText_cases (shaped : canvas.Shaped) (x y : Int) (text : String)
    {column row : Nat} (inside : canvas.inside column row = true) :
    (y = row ∧ ∃ before c after k, text.toList = before ++ c :: after ∧ k < charWidth c ∧
      (column : Int) = x + advance before + k ∧
      (canvas.drawText x y text).get column row = Mark.columnGlyph c k) ∨
    (¬ (y = row ∧ x ≤ column ∧ column < x + advance text.toList) ∧
      (canvas.drawText x y text).get column row = canvas.get column row) := by
  by_cases within : y = row ∧ x ≤ column ∧ column < x + advance text.toList
  · obtain ⟨same_row, from_first, to_last⟩ := within
    obtain ⟨before, c, after, k, split, within, place⟩ :=
      Text.exists_of_lt_advance (show (column - x).toNat < advance text.toList by omega)
    have here : (column : Int) = x + advance before + k := by omega
    refine .inl ⟨same_row, before, c, after, k, split, within, here, ?_⟩
    rw [same_row]
    exact shaped.get_drawText_of_split inside split within here
  · exact .inr ⟨within, shaped.get_drawText_of_beside inside within⟩

theorem inside_drawText (column row : Int) :
    (canvas.drawText x y text).inside column row = canvas.inside column row :=
  inside_paint column row

/-- A text that spares the pairs of a canvas keeps them. -/
theorem Paired.drawText (paired : canvas.Paired) (shaped : canvas.Shaped)
    (spares : canvas.Spares x y text.toList) : (canvas.drawText x y text).Paired := by
  constructor
  · intro column row inside filler
    rw [inside_drawText] at inside
    rcases shaped.drawText_cases x y text inside with
      ⟨rfl, before, c, after, k, split, within, here, glyph⟩ | ⟨beside, same⟩
    · -- the character of the filler has two columns, and the first is on the canvas
      rw [glyph, Mark.columnGlyph_eq_wideTail_iff within] at filler
      obtain ⟨two, left⟩ := spares.whole before c after k split filler within (here ▸ inside)
      obtain ⟨b, first⟩ := Int.eq_ofNat_of_zero_le left
      obtain rfl : column = b + 1 := by omega
      refine ⟨b, rfl, ?_⟩
      rw [shaped.get_drawText_of_split (k := 0) (inside_of_succ inside) split (by omega) (by omega)]
      exact two
    · rw [same] at filler
      obtain ⟨b, rfl, two⟩ := paired.filler column row inside filler
      refine ⟨b, rfl, ?_⟩
      rcases shaped.drawText_cases x y text (inside_of_succ inside) with
        ⟨rfl, before, c, after, k, split, within, here, -⟩ | ⟨-, same'⟩
      · -- the text would end in the first cell of this pair
        have bound := Text.add_lt_advance split within
        have last : x + advance text.toList = (b + 1 : Nat) := by omega
        refine absurd ?_ (spares.last (by omega))
        rw [last]
        exact ⟨inside, filler⟩
      · rw [same']
        exact two
  · intro column row inside two
    rw [inside_drawText] at inside
    rcases shaped.drawText_cases x y text (inside_of_succ inside) with
      ⟨rfl, before, c, after, k, split, within, here, glyph⟩ | ⟨beside, same⟩
    · obtain ⟨rfl, two⟩ : k = 0 ∧ charWidth c = 2 := by
        rw [glyph, Mark.charWidth_columnGlyph] at two
        split_ifs at two with first
        exact ⟨first, two⟩
      rw [shaped.get_drawText_of_split (k := 1) inside split (by omega) (by omega)]
      rfl
    · rw [same] at two
      have filler := paired.wide column row inside two
      rcases shaped.drawText_cases x y text inside with
        ⟨rfl, before, c, after, k, split, within, here, -⟩ | ⟨-, same'⟩
      · -- the text would begin in the second cell of this pair
        have bound := Text.add_lt_advance split within
        have first : x = (column + 1 : Nat) := by omega
        refine absurd ?_ (spares.first (by omega))
        rw [first]
        exact ⟨inside, filler⟩
      · rw [same']
        exact filler

/-- A text that keeps the pairs of a canvas spares them. -/
theorem Paired.spares (paired : canvas.Paired) (shaped : canvas.Shaped)
    (paired' : (canvas.drawText x y text).Paired) : canvas.Spares x y text.toList := by
  constructor
  · intro some_columns begins
    obtain ⟨column, row, rfl, rfl, inside, filler⟩ := begins.exists_cell
    obtain ⟨b, rfl, two⟩ := paired.filler column row inside filler
    have same : (canvas.drawText (b + 1 : Nat) row text).get b row = canvas.get b row :=
      shaped.get_drawText_of_beside (inside_of_succ inside) (by omega)
    have filler' := paired'.wide b row (by rwa [inside_drawText]) (by rw [same]; exact two)
    -- what stands there is the first character of the text that has columns
    rcases shaped.drawText_cases (b + 1 : Nat) row text inside with
      ⟨-, before, c, after, k, split, within, here, glyph⟩ | ⟨beside, -⟩
    · rw [glyph, Mark.columnGlyph_eq_wideTail_iff within] at filler'
      omega
    · omega
  · intro some_columns ends_at
    obtain ⟨column, row, last, rfl, inside, filler⟩ := ends_at.exists_cell
    have same : (canvas.drawText x row text).get column row = canvas.get column row :=
      shaped.get_drawText_of_beside inside (by omega)
    obtain ⟨b, rfl, two⟩ :=
      paired'.filler column row (by rwa [inside_drawText]) (same.trans filler)
    -- what stands before it belongs to the last character of the text, which ends there
    rcases shaped.drawText_cases x row text (inside_of_succ inside) with
      ⟨-, before, c, after, k, split, within, here, glyph⟩ | ⟨beside, -⟩
    · rw [glyph, Mark.charWidth_columnGlyph] at two
      split_ifs at two with first
      have bound := Text.add_lt_advance split (show 1 < charWidth c by omega)
      omega
    · omega
  · intro before c after k split behind within inside
    obtain ⟨⟨left, -⟩, above, -⟩ := inside_iff.mp inside
    obtain ⟨column, here⟩ := Int.eq_ofNat_of_zero_le left
    obtain ⟨row, rfl⟩ := Int.eq_ofNat_of_zero_le above
    rw [here] at inside
    have filler := shaped.get_drawText_of_split inside split within here.symm
    rw [(Mark.columnGlyph_eq_wideTail_iff within).mpr behind] at filler
    obtain ⟨b, rfl, two⟩ := paired'.filler column row (by rwa [inside_drawText]) filler
    -- what stands before the filler is in the column before, of the same character
    obtain ⟨k, rfl⟩ : ∃ j, k = j + 1 := ⟨k - 1, by omega⟩
    have place : (b : Int) = x + advance before + k := by omega
    rw [shaped.get_drawText_of_split (inside_of_succ inside) split (by omega) place,
      Mark.charWidth_columnGlyph] at two
    split_ifs at two with first
    exact ⟨two, by omega⟩

theorem paired_drawText_iff (paired : canvas.Paired) (shaped : canvas.Shaped) :
    (canvas.drawText x y text).Paired ↔ canvas.Spares x y text.toList :=
  ⟨paired.spares shaped, paired.drawText shaped⟩

end

/-! ## §3 Runs -/

/-- A text to be written, from a cell on to the right or around a cell. -/
inductive Writing where
  | onward (column row : Int) (text : String)
  | around (center row : Int) (text : String)
  deriving DecidableEq, Repr

namespace Writing

/-- The column in which a text begins. -/
def column : Writing → Int
  | .onward column _ _ => column
  | .around center _ text => center - (Text.width text / 2 : Nat)

/-- The row of a text. -/
def row : Writing → Int
  | .onward _ row _ => row
  | .around _ row _ => row

/-- The text itself. -/
def text : Writing → String
  | .onward _ _ text => text
  | .around _ _ text => text

end Writing

/-- The canvas after a text was written on it. -/
def write (canvas : Canvas) : Writing → Canvas
  | .onward column row text => canvas.drawText column row text
  | .around center row text => canvas.drawTextCentered center row text

/-- The canvas after some texts. -/
def writeAll (canvas : Canvas) (writings : List Writing) : Canvas :=
  writings.foldl write canvas

/-- Each of some texts spares the pairs of the canvas that it is written on. -/
def AllSpare (canvas : Canvas) : List Writing → Prop
  | [] => True
  | w :: rest => canvas.Spares w.column w.row w.text.toList ∧ (canvas.write w).AllSpare rest

theorem write_eq_drawText (canvas : Canvas) (w : Writing) :
    canvas.write w = canvas.drawText w.column w.row w.text := by
  cases w <;> rfl

/-- The pairs are whole throughout a run exactly if each text spares them. -/
theorem Paired.allSpare_iff (paired : canvas.Paired) (shaped : canvas.Shaped)
    (writings : List Writing) :
    canvas.AllSpare writings ↔
      ∀ before, before <+: writings → (canvas.writeAll before).Paired := by
  induction writings generalizing canvas with
  | nil =>
    refine iff_of_true trivial fun before none => ?_
    rw [List.prefix_nil.mp none]
    exact paired
  | cons w rest ih =>
    have one : (canvas.write w).Paired ↔ canvas.Spares w.column w.row w.text.toList := by
      rw [write_eq_drawText]
      exact paired_drawText_iff paired shaped
    have shaped' : (canvas.write w).Shaped := by
      rw [write_eq_drawText]
      exact shaped.paint _
    constructor
    · rintro ⟨first, others⟩ before is_before
      cases before with
      | nil => exact paired
      | cons w' before =>
        obtain ⟨rfl, is_before'⟩ := List.cons_prefix_cons.mp is_before
        exact (ih (one.mpr first) shaped').mp others before is_before'
    · intro all
      have paired' : (canvas.write w).Paired :=
        all [w] (List.cons_prefix_cons.mpr ⟨rfl, List.nil_prefix⟩)
      refine ⟨one.mp paired', (ih paired' shaped').mpr fun before is_before => ?_⟩
      exact all (w :: before) (List.cons_prefix_cons.mpr ⟨rfl, is_before⟩)

/-! ## §4 Printed rows -/

/-- A character that is not in the last column has one column or two, or it is a filler. -/
def Narrow (canvas : Canvas) : Prop :=
  ∀ column row : Nat, canvas.inside (column + 1 : Nat) row = true →
    canvas.get column row = Mark.wideTail ∨ charWidth (canvas.get column row) = 1 ∨
      charWidth (canvas.get column row) = 2

/-- What is printed of some cells. -/
def printed (cells : List Char) : List Char :=
  cells.filter (· ≠ Mark.wideTail)

/-- What is printed before a character has as many columns as there are cells before it. -/
def Aligned (canvas : Canvas) : Prop :=
  ∀ column row : Nat, canvas.inside column row = true →
    canvas.get column row ≠ Mark.wideTail → ∀ cells, canvas.rows[row]? = some cells →
    advance (printed (cells.toList.take column)) = column

theorem narrow_blank (width height : Nat) : (blank width height).Narrow := by
  intro column row _
  rw [get_blank]
  exact .inr (.inl (by decide))

theorem Narrow.drawText {x y : Int} {text : String} (narrow : canvas.Narrow)
    (shaped : canvas.Shaped) (spares : canvas.Spares x y text.toList) :
    (canvas.drawText x y text).Narrow := by
  intro column row inside
  rw [inside_drawText] at inside
  rcases shaped.drawText_cases x y text (inside_of_succ inside) with
    ⟨rfl, before, c, after, k, split, within, here, glyph⟩ | ⟨-, same⟩
  · rw [glyph]
    cases k with
    | zero =>
      -- a third column would have a filler on the canvas
      refine .inr ?_
      by_contra wider
      simp only [Mark.columnGlyph, not_or] at wider
      have next : x + advance before + (1 : Nat) = (column + 1 : Nat) := by omega
      have two := (spares.whole before c after 1 split (by omega) (by omega)
        (by rw [next]; exact inside)).1
      exact wider.2 two
    | succ k => exact .inl rfl
  · rw [same]
    exact narrow column row inside

/-- What is printed of the cells before one ends where this cell begins, or behind it if it holds
the filler of the last character. -/
theorem Paired.advance_printed (paired : canvas.Paired) (shaped : canvas.Shaped)
    (narrow : canvas.Narrow) {column row : Nat} (inside : canvas.inside column row = true)
    {cells : Array Char} (there : canvas.rows[row]? = some cells) :
    advance (printed (cells.toList.take column)) =
      if canvas.get column row = Mark.wideTail then column + 1 else column := by
  induction column with
  | zero =>
    have visible : canvas.get 0 row ≠ Mark.wideTail := by
      intro filler
      obtain ⟨b, absurd, -⟩ := paired.filler 0 row inside filler
      omega
    rw [if_neg visible]
    rfl
  | succ column ih =>
    have inside' := inside_of_succ inside
    obtain ⟨cells', there', bound⟩ := shaped.exists_cell inside'
    obtain rfl : cells' = cells := by
      rw [there] at there'
      exact (Option.some.inj there').symm
    have cell : cells'.toList[column]? = some (canvas.get column row) := by
      rw [get_eq inside' there]
      simp [bound]
    have filler_iff : canvas.get (column + 1) row = Mark.wideTail ↔
        charWidth (canvas.get column row) = 2 := by
      refine ⟨fun filler => ?_, paired.wide column row inside⟩
      obtain ⟨b, same, two⟩ := paired.filler _ row inside filler
      obtain rfl : column = b := by omega
      exact two
    rw [List.take_add_one, cell, printed, List.filter_append, Text.advance_append, ← printed,
      ih inside']
    have visible : charWidth (canvas.get column row) ≠ 0 →
        canvas.get column row ≠ Mark.wideTail := by
      intro some_columns filler
      rw [filler] at some_columns
      exact some_columns Mark.charWidth_wideTail
    rcases narrow column row inside with filler | one | two
    · simp [filler_iff, filler, Mark.charWidth_wideTail]
    · simp [filler_iff, one, visible]
    · simp [filler_iff, two, visible]

theorem Paired.aligned (paired : canvas.Paired) (shaped : canvas.Shaped) (narrow : canvas.Narrow) :
    canvas.Aligned := by
  intro column row inside visible cells there
  rw [paired.advance_printed shaped narrow inside there, if_neg visible]

theorem AllSpare.aligned {writings : List Writing} (all : canvas.AllSpare writings)
    (paired : canvas.Paired) (shaped : canvas.Shaped) (narrow : canvas.Narrow) :
    (canvas.writeAll writings).Aligned := by
  induction writings generalizing canvas with
  | nil => exact paired.aligned shaped narrow
  | cons w rest ih =>
    obtain ⟨spares, others⟩ := all
    rw [write_eq_drawText] at others
    have kept := ih others (paired.drawText shaped spares) (shaped.paint _)
      (narrow.drawText shaped spares)
    rwa [← write_eq_drawText] at kept

/-- On a canvas that was blank, whatever is written and wherever it is clipped or written over: the
wide characters and their fillers stay together throughout exactly if each text spares those that
are there. Then what is printed of a row stands in the columns of its cells. -/
theorem pairs_stay_whole_iff (width height : Nat) (writings : List Writing) :
    ((∀ before, before <+: writings → ((blank width height).writeAll before).Paired) ↔
      (blank width height).AllSpare writings) ∧
    ((blank width height).AllSpare writings →
      ((blank width height).writeAll writings).Paired ∧
      ((blank width height).writeAll writings).Aligned) := by
  have paired := paired_blank width height
  have shaped := shaped_blank width height
  have iff := paired.allSpare_iff shaped writings
  refine ⟨iff.symm, fun all => ⟨iff.mp all writings (List.prefix_refl _), ?_⟩⟩
  exact all.aligned paired shaped (narrow_blank width height)

/-- One wide character, as large as the canvas. -/
theorem pairs_stay_whole_iff_one_pair :
    ((blank 2 1).writeAll [.onward 0 0 "日"]).Paired ∧
      ((blank 2 1).writeAll [.onward 0 0 "日"]).Aligned := by
  refine (pairs_stay_whole_iff 2 1 _).2 ⟨⟨fun _ filler => ?_, fun _ filler => ?_, ?_⟩, trivial⟩
  · exact absurd filler.2 (by decide +kernel)
  · exact absurd filler.1 (by decide +kernel)
  · intro before c after k split behind within _
    obtain ⟨rfl, rfl, -⟩ : before = [] ∧ c = '日' ∧ after = [] := by
      simpa [Writing.text, List.singleton_eq_append_iff, and_assoc] using split
    exact ⟨by decide +kernel, by decide +kernel⟩

/-! ## §5 A wide character on the left edge -/

/-- The first half of the first character is beside the canvas. -/
def overLeftEdge : List Writing :=
  [.onward (-1) 0 "日b"]

/-- The filler stands alone, and the next character is printed one column too far to the left. -/
theorem not_paired_over_left_edge :
    ¬ ((blank 3 1).writeAll overLeftEdge).Paired ∧
      ¬ ((blank 3 1).writeAll overLeftEdge).Aligned := by
  have filler : ((blank 3 1).writeAll overLeftEdge).get 0 0 = Mark.wideTail := by decide +kernel
  constructor
  · intro paired
    obtain ⟨b, absurd, -⟩ := paired.filler 0 0 (by decide +kernel) filler
    omega
  · intro aligned
    have row : ((blank 3 1).writeAll overLeftEdge).rows[0]? = some #['\x00', 'b', ' '] := by
      decide +kernel
    have place := aligned 1 0 (by decide +kernel) (by decide +kernel) _ row
    exact absurd place (by decide +kernel)

end Canvas

end TransitionDiagram
