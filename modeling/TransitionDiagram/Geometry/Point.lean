/-
TransitionDiagram.Geometry.Point: points, vectors between them, and sizes.

A vector is given as the point to which it leads from the origin.
-/
import TransitionDiagram.Geometry.Scalar

namespace TransitionDiagram

/-- A point; `x` grows to the right and `y` downwards. -/
structure Point (α : Type) where
  x : α
  y : α
  deriving DecidableEq, Repr

namespace Point

variable {α : Type} [Scalar α]

/-- The point with both coordinates zero. -/
def origin : Point α where
  x := Scalar.ofInt 0
  y := Scalar.ofInt 0

/-- The vector from one point to another. -/
def deltaTo (p q : Point α) : Point α where
  x := q.x - p.x
  y := q.y - p.y

/-- The point moved by a vector. -/
def offset (p v : Point α) : Point α where
  x := p.x + v.x
  y := p.y + v.y

end Point

/-- The size of a rectangle. -/
structure Size (α : Type) where
  width : α
  height : α
  deriving DecidableEq, Repr

end TransitionDiagram
