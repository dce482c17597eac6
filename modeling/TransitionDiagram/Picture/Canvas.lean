/-
TransitionDiagram.Picture.Canvas: a grid of characters.

A canvas has a width and a height in cells. Marks outside of it are lost. Even a canvas without
cells keeps one row with one character, which no mark reaches.

The frame of a canvas is its text: the rows from the top, without the fillers after wide
characters, without the blanks at their ends, and without the empty rows at the bottom.

  §1 the grid, one character of it, one mark
  §2 drawing
  §3 the frame
-/
import TransitionDiagram.Picture.Mark
import TransitionDiagram.Text.Blank
import TransitionDiagram.Text.Lines

namespace TransitionDiagram

/-! ## §1 The grid -/

/-- A grid of characters, row by row. -/
structure Canvas where
  width : Nat
  height : Nat
  rows : Array (Array Char)
  deriving DecidableEq, Repr

namespace Canvas

/-- A canvas of blanks. -/
def blank (width height : Nat) : Canvas where
  width := width
  height := height
  rows := Array.replicate (max 1 height) (Array.replicate (max 1 width) ' ')

/-- Whether a cell lies on the canvas. -/
def inside (canvas : Canvas) (column row : Int) : Bool :=
  0 ≤ column && column < canvas.width && 0 ≤ row && row < canvas.height

/-- The character in a cell, a blank outside the canvas. -/
def get (canvas : Canvas) (column row : Nat) : Char :=
  if canvas.inside column row then ((canvas.rows[row]?).bind (·[column]?)).getD ' ' else ' '

/-- The canvas with one more mark. -/
def set (canvas : Canvas) (mark : Mark) : Canvas :=
  if canvas.inside mark.column mark.row then
    { canvas with
      rows := canvas.rows.modify mark.row.toNat (·.setIfInBounds mark.column.toNat mark.glyph) }
  else canvas

/-! ## §2 Drawing -/

/-- The canvas after some marks. -/
def paint (canvas : Canvas) (marks : List Mark) : Canvas :=
  marks.foldl set canvas

/-- Writes a character into a cell. -/
def setChar (canvas : Canvas) (column row : Int) (c : Char) : Canvas :=
  canvas.set { column, row, glyph := c }

/-- Writes a text from a cell on to the right. -/
def drawText (canvas : Canvas) (column row : Int) (text : String) : Canvas :=
  canvas.paint (Mark.ofText column row text.toList)

/-- Writes a text around a cell. -/
def drawTextCentered (canvas : Canvas) (center row : Int) (text : String) : Canvas :=
  canvas.paint (Mark.ofCenteredText center row text)

/-- Makes every cell blank. -/
def wipe (canvas : Canvas) : Canvas :=
  { canvas with rows := canvas.rows.map fun row => Array.replicate row.size ' ' }

/-! ## §3 The frame -/

/-- The text of a row. -/
def rowText (row : Array Char) : List Char :=
  Text.trimEnd (row.toList.filter (· ≠ Mark.wideTail))

/-- The texts of the rows down to the last one that is not empty. -/
def frameLines (canvas : Canvas) : List (List Char) :=
  ((canvas.rows.toList.map rowText).reverse.dropWhile List.isEmpty).reverse

/-- The picture as a text. -/
def frame (canvas : Canvas) : String :=
  String.ofList (Text.joinLines canvas.frameLines)

end Canvas

end TransitionDiagram
