/-
TransitionDiagram.Geometry.Scalar: the numbers that measure a picture.

Layout and drawing need a few operations on coordinates and nothing else about them: arithmetic,
one comparison, rounding to whole cells, and the points of a circle. `Scalar` names these
operations, so the same definitions run on floating-point numbers and can be read over exact ones.

Rounding ends in a 64-bit integer. A floating-point number beyond that range becomes its nearest
end, and what is not a number becomes zero. What is not a number is in no comparison true.
-/

namespace TransitionDiagram

/-- A kind of numbers in which a picture can be measured. -/
class Scalar (α : Type) extends Add α, Sub α, Mul α, Div α where
  /-- The number that stands for an integer. -/
  ofInt : Int → α
  /-- Whether the first number is not above the second. -/
  atMost : α → α → Bool
  /-- The larger of two numbers, the first if neither is larger. What is not a number loses. -/
  larger : α → α → α
  /-- The nearest integer; of two equally near ones the one farther from zero. -/
  nearest : α → Int
  /-- The least integer that is neither below the number nor below the given one. -/
  ceilAtLeast : Nat → α → Nat
  /-- Whether the vector with the first two numbers as components is shorter than the third. -/
  shorter : α → α → α → Bool
  /-- The angle of a full turn. -/
  turn : α
  /-- The cosine of an angle. -/
  cos : α → α
  /-- The sine of an angle. -/
  sin : α → α

/-- Pictures are drawn with floating-point numbers. -/
instance : Scalar Float where
  ofInt := Float.ofInt
  atMost x y := x ≤ y
  larger x y := if x.isNaN then y else if x < y then y else x
  nearest x := x.round.toInt64.toInt
  ceilAtLeast least x := if Float.ofNat least < x.ceil then x.ceil.toUInt64.toNat else least
  shorter x y length := (x * x + y * y).sqrt < length
  turn := 6.283185307179586
  cos := Float.cos
  sin := Float.sin

end TransitionDiagram
