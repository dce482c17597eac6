/-
TransitionDiagram.Picture.Shape: what pictures are drawn of, and with what.

There are two shapes, circles and straight lines. All circles of a picture share one template, so
that they grow and shrink together; a line has a stroke of its own. Colours, strokes and fonts
matter to surfaces that can show them; a grid of characters cannot.

  §1 colours, fonts, strokes
  §2 the circle template
  §3 shapes
  §4 full descriptions, for messages
-/
import TransitionDiagram.Geometry.Point
import TransitionDiagram.Decimal.Shortest

namespace TransitionDiagram

/-! ## §1 Colours, fonts, strokes -/

/-- A colour by its parts of red, green and blue. -/
structure Color where
  red : UInt8
  green : UInt8
  blue : UInt8
  deriving DecidableEq, Repr

namespace Color

/-- No light. -/
def black : Color where
  red := 0
  green := 0
  blue := 0

/-- All light. -/
def white : Color where
  red := 255
  green := 255
  blue := 255

/-- Two hexadecimal digits. -/
def hexByte (n : UInt8) : List Char :=
  [Nat.digitChar (n.toNat / 16), Nat.digitChar (n.toNat % 16)]

/-- A number sign and two hexadecimal digits for each part. -/
def toText (c : Color) : String :=
  String.ofList ('#' :: (hexByte c.red ++ hexByte c.green ++ hexByte c.blue))

end Color

/-- A font by its size in pixels and its family. -/
structure Font where
  size : Float
  family : String

namespace Font

/-- The font of the labels of states. -/
def label : Font where
  size := 15.0
  family := "sans-serif"

/-- Size and family. -/
def toText (f : Font) : String :=
  Decimal.plain.text f.size ++ "px " ++ f.family

end Font

/-- A solid stroke. -/
structure Stroke (α : Type) where
  width : α
  color : Color
  deriving DecidableEq, Repr

/-! ## §2 The circle template -/

/-- How every circle of a picture is drawn. -/
structure CircleTemplate (α : Type) where
  radius : α
  stroke : Stroke α
  fill : Color
  deriving DecidableEq, Repr

namespace CircleTemplate

variable {α : Type} [Scalar α]

/-- A white circle with a black outline. -/
def ofRadius (radius : α) : CircleTemplate α where
  radius := radius
  stroke := { width := Scalar.ofInt 3, color := .black }
  fill := .white

/-- The template before any other is set: it draws nothing. -/
def initial : CircleTemplate α :=
  ofRadius (Scalar.ofInt 0)

end CircleTemplate

/-! ## §3 Shapes -/

/-- A shape, drawn at the position of its node. -/
inductive Shape (α : Type) where
  /-- A circle around the position, as the template says. -/
  | circle
  /-- A line from the position along a vector. -/
  | line (vector : Point α) (stroke : Stroke α)
  deriving DecidableEq, Repr

/-- The name of a shape. -/
def Shape.name {α : Type} : Shape α → String
  | circle => "circle"
  | line _ _ => "line"

/-- What a node of a picture shows. -/
inductive Content (α : Type) where
  /-- Nothing of its own. -/
  | group
  /-- A shape. -/
  | shape (s : Shape α)
  /-- A label of the given width. -/
  | text (label : String) (width : α)
  deriving DecidableEq, Repr

/-! ## §4 Descriptions -/

/-- The name of a record and its fields, each with its value. -/
def describeRecord (name : String) (fields : List (String × String)) : String :=
  name ++ " \x7b " ++ ", ".intercalate (fields.map fun (field, value) => field ++ ": " ++ value) ++
    " \x7d"

/-- The three parts of a colour. -/
def Color.describe (c : Color) : String :=
  describeRecord "Color" [("r", toString c.red.toNat), ("g", toString c.green.toNat),
    ("b", toString c.blue.toNat)]

/-- The width and the colour of a stroke. -/
def Stroke.describe (s : Stroke Float) : String :=
  describeRecord "Stroke" [("width", Decimal.marked.text s.width), ("color", s.color.describe)]

/-- The coordinates of a point. -/
def Point.describe (p : Point Float) : String :=
  describeRecord "Point" [("x", Decimal.marked.text p.x), ("y", Decimal.marked.text p.y)]

/-- A shape with all that is known of it. -/
def Shape.describe : Shape Float → String
  | circle => "Circle"
  | line vector stroke =>
    describeRecord "Line" [("to", vector.describe), ("stroke", stroke.describe)]

/-- What a node shows, with all that is known of it. -/
def Content.describe : Content Float → String
  | group => "Group"
  | shape s => "Shape(" ++ s.describe ++ ")"
  | text label width =>
    describeRecord "Text" [("label", label), ("width", Decimal.marked.text width)]

end TransitionDiagram
