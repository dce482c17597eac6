/-
TransitionDiagram.Picture.Style: the two sets of characters in which pictures are drawn, and the
settings of a picture.
-/
import TransitionDiagram.Picture.Mark

namespace TransitionDiagram

/-- The characters that shapes may be drawn with. -/
inductive Style where
  /-- Only characters that every terminal has. -/
  | ascii
  /-- Characters made for drawing. -/
  | unicode
  deriving DecidableEq, Repr, Inhabited

namespace Style

/-- The name of a style. -/
def name : Style → String
  | ascii => "ascii"
  | unicode => "unicode"

/-- The style of that name. -/
def ofName? (name : String) : Option Style :=
  [ascii, unicode].find? (·.name == name)

/-- Whether all characters of the style are ASCII. -/
def isAscii : Style → Bool
  | ascii => true
  | unicode => false

/-- The characters of a style. -/
def glyphs : Style → Mark.Glyphs
  | ascii =>
    { outline := 'o', horizontal := '-', vertical := '|', rising := '/', falling := '\\' }
  | unicode =>
    { outline := '○', horizontal := '─', vertical := '│', rising := '╱', falling := '╲' }

end Style

/-- The settings of a picture. -/
structure PictureConfig (α : Type) where
  style : Style
  size : Size α
  deriving DecidableEq, Repr

/-- The settings of a picture of which nothing else is said. -/
def PictureConfig.standard {α : Type} [Scalar α] : PictureConfig α where
  style := .unicode
  size := { width := Scalar.ofInt 800, height := Scalar.ofInt 600 }

end TransitionDiagram
