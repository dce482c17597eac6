/-
TransitionDiagram.Text.Lines: the lines of a text, and texts made of lines.

A line ends at a line feed. One carriage return before that line feed belongs to the line end, so
both styles of line end give the same lines. A carriage return elsewhere is an ordinary character,
also as the very last character of the text. What follows the last line feed is a line only if it
is not empty.

  §1 from a text to its lines
  §2 from lines to a text
-/

namespace TransitionDiagram.Text

/-! ## §1 The lines of a text -/

/-- A line read up to its line feed, given back to front: one carriage return at its end goes. -/
def endLine : List Char → List Char
  | '\r' :: before => before.reverse
  | before => before.reverse

/-- The lines of a text whose current line has begun with `before`, given back to front. -/
def linesFrom : List Char → List Char → List (List Char)
  | [], [] => []
  | before, [] => [before.reverse]
  | before, '\n' :: rest => endLine before :: linesFrom [] rest
  | before, c :: rest => linesFrom (c :: before) rest

/-- The lines of a text. -/
def lines (text : List Char) : List (List Char) :=
  linesFrom [] text

/-! ## §2 Lines put together -/

/-- The lines with a line feed between neighbours. -/
def joinLines (lines : List (List Char)) : List Char :=
  ['\n'].intercalate lines

end TransitionDiagram.Text
