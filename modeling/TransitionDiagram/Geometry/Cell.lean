/-
TransitionDiagram.Geometry.Cell: the grid of character cells under a picture.

A cell is eight units wide and sixteen high. The cell of a point is found by rounding, so the
cell in column `c` and row `r` is the one around the point (8 c, 16 r).

  §1 the cell of a point
  §2 how many cells a size needs
  §3 how wide a label is
-/
import TransitionDiagram.Geometry.Point
import TransitionDiagram.Text.DisplayWidth

namespace TransitionDiagram.Cell

variable {α : Type} [Scalar α]

/-! ## §1 The cell of a point -/

/-- The width of a cell. -/
def width : α := Scalar.ofInt 8

/-- The height of a cell. -/
def height : α := Scalar.ofInt 16

/-- The column of a horizontal coordinate. -/
def column (x : α) : Int :=
  Scalar.nearest (x / width)

/-- The row of a vertical coordinate. -/
def row (y : α) : Int :=
  Scalar.nearest (y / height)

/-- The horizontal coordinate at the middle of a column. -/
def columnMiddle (column : Int) : α :=
  Scalar.ofInt column * width

/-- The vertical coordinate at the middle of a row. -/
def rowMiddle (row : Int) : α :=
  Scalar.ofInt row * height

/-! ## §2 Cells of a size -/

/-- The number of columns that cover a width, at least one. -/
def columns (size : Size α) : Nat :=
  Scalar.ceilAtLeast 1 (size.width / width)

/-- The number of rows that cover a height, at least one. -/
def rows (size : Size α) : Nat :=
  Scalar.ceilAtLeast 1 (size.height / height)

/-! ## §3 Labels -/

/-- The width of a label: its columns times the width of a cell. -/
def labelWidth (label : String) : α :=
  Scalar.ofInt (Text.width label) * width

end TransitionDiagram.Cell
