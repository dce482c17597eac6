/-
TransitionDiagram.Picture.Mark: drawing as writing characters into cells.

Whatever is drawn is a list of marks in the order in which they are made; a later mark replaces an
earlier one in the same cell. Cells are numbered by integers, so that marks can lie beside every
grid, and where they are made never depends on a grid.

  §1 marks and the filler for wide characters
  §2 text: every character takes as many cells as it has columns
  §3 lines: one mark per step along the longer axis
  §4 circles: blank inside, outlined at the edge
-/
import TransitionDiagram.Geometry.Cell

namespace TransitionDiagram

/-! ## §1 Marks -/

/-- One character in one cell. -/
structure Mark where
  column : Int
  row : Int
  glyph : Char
  deriving DecidableEq, Repr

namespace Mark

/-- What stands in a cell that the character to the left reaches into. -/
def wideTail : Char := '\x00'

/-- The integers from `first` to `last`, in rising order. -/
def span (first last : Int) : List Int :=
  (List.range (last - first + 1).toNat).map fun (i : Nat) => first + i

/-! ## §2 Text -/

/-- The marks of a character of the given width: itself and a filler for each further column. -/
def ofChar (column row : Int) (c : Char) : Nat → List Mark
  | 0 => []
  | more + 1 =>
    { column, row, glyph := c } ::
      (List.range more).map fun (i : Nat) => { column := column + i + 1, row, glyph := wideTail }

/-- The marks of a text that begins in the given cell. -/
def ofText (column row : Int) : List Char → List Mark
  | [] => []
  | c :: rest =>
    ofChar column row c (Text.charWidth c) ++ ofText (column + Text.charWidth c) row rest

/-- The marks of a text with its middle column, the right one of two, at the given cell. -/
def ofCenteredText (center row : Int) (text : String) : List Mark :=
  ofText (center - (Text.width text / 2 : Nat)) row text.toList

/-! ## §3 Lines -/

/-- The characters of which shapes are drawn. -/
structure Glyphs where
  outline : Char
  horizontal : Char
  vertical : Char
  rising : Char
  falling : Char
  deriving DecidableEq, Repr

/-- The character of a line: the direction is horizontal or vertical if one component is more than
twice the other. -/
def lineGlyph (glyphs : Glyphs) (dx dy : Int) : Char :=
  if 2 * dy.natAbs < dx.natAbs then glyphs.horizontal
  else if 2 * dx.natAbs < dy.natAbs then glyphs.vertical
  else if 0 < dx ↔ 0 < dy then glyphs.falling
  else glyphs.rising

variable {α : Type} [Scalar α]

/-- The marks of a line between two cells, none if they are the same. -/
def ofCells (α : Type) [Scalar α] (glyphs : Glyphs) (x₀ y₀ x₁ y₁ : Int) : List Mark :=
  let dx := x₁ - x₀
  let dy := y₁ - y₀
  let steps := max dx.natAbs dy.natAbs
  if steps = 0 then []
  else
    (List.range (steps + 1)).map fun (step : Nat) =>
      let part : α := Scalar.ofInt step / Scalar.ofInt steps
      { column := Scalar.nearest (Scalar.ofInt x₀ + Scalar.ofInt dx * part)
        row := Scalar.nearest (Scalar.ofInt y₀ + Scalar.ofInt dy * part)
        glyph := lineGlyph glyphs dx dy }

/-- The marks of a line between two points. -/
def ofLine (glyphs : Glyphs) (p q : Point α) : List Mark :=
  ofCells α glyphs (Cell.column p.x) (Cell.row p.y) (Cell.column q.x) (Cell.row q.y)

/-! ## §4 Circles -/

/-- The blank marks inside a circle: one for each cell whose middle is nearer than the radius. -/
def insideCircle (center : Point α) (radius : α) : List Mark :=
  (span (Cell.row (center.y - radius)) (Cell.row (center.y + radius))).flatMap fun row =>
    (span (Cell.column (center.x - radius)) (Cell.column (center.x + radius))).filterMap
      fun column =>
        if Scalar.shorter (Cell.columnMiddle column - center.x) (Cell.rowMiddle row - center.y)
            radius then
          some { column, row, glyph := ' ' }
        else none

/-- How many points of the outline are marked: one for each half width of a cell along the
outline, and at least sixteen. -/
def outlineSteps (radius : α) : Nat :=
  Scalar.ceilAtLeast 16 (Scalar.turn * radius / (Cell.width / Scalar.ofInt 2))

/-- The marks of the outline, from the rightmost point on, over the bottom and the left. -/
def outlineCircle (outline : Char) (center : Point α) (radius : α) : List Mark :=
  let steps := outlineSteps radius
  (List.range steps).map fun (step : Nat) =>
    let angle : α := Scalar.turn * Scalar.ofInt step / Scalar.ofInt steps
    { column := Cell.column (center.x + radius * Scalar.cos angle)
      row := Cell.row (center.y + radius * Scalar.sin angle)
      glyph := outline }

/-- The marks of a circle, which hides what lies beneath it. A circle without a radius has none. -/
def ofCircle (glyphs : Glyphs) (center : Point α) (radius : α) : List Mark :=
  if Scalar.atMost radius (Scalar.ofInt 0) then []
  else insideCircle center radius ++ outlineCircle glyphs.outline center radius

end Mark

end TransitionDiagram
