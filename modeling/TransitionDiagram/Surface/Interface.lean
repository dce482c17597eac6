/-
TransitionDiagram.Surface.Interface: what a surface must be able to do to be drawn on.

A surface holds a tree of nodes below a root and redraws it on demand. A node shows nothing, a
shape or a text, at a position relative to its parent; children are drawn in the order in which
they were attached, so later ones cover earlier ones. The surface names nodes by handles, and never
gives the same handle twice.

A call that can fail is an action that ends with a fault or a result, and with a surface in either
case. A call that cannot fail is a plain function.
-/
import TransitionDiagram.Fault

namespace TransitionDiagram

/-- An action on a state that may end with a fault. The state is kept in either case. -/
abbrev Action (α σ β : Type) : Type := EStateM (Fault α) σ β

/-- What can be drawn on. -/
class DrawingSurface (α : outParam Type) (σ : Type) where
  /-- The node at the top of the tree. -/
  root : σ → Handle
  /-- The size of what can be seen. -/
  size : σ → Size α
  /-- A new node that shows nothing. -/
  createGroup : σ → Handle × σ
  /-- A new node that shows a shape. -/
  createNode : Shape α → σ → Handle × σ
  /-- A new node that shows a text around its position. -/
  createText : String → Font → Color → Action α σ Handle
  /-- The width of a text node. -/
  measure : Handle → Action α σ α
  /-- Attaches the second node as the last child of the first. -/
  addChild : Handle → Handle → Action α σ Unit
  /-- Detaches the second node from the first and drops it with all below it. -/
  removeChild : Handle → Handle → Action α σ Unit
  /-- Moves a node relative to its parent. -/
  setPosition : Handle → Point α → Action α σ Unit
  /-- Replaces the template of all circles. -/
  setCircleTemplate : CircleTemplate α → σ → σ
  /-- Blanks the picture but keeps the nodes. -/
  clear : σ → σ
  /-- Draws the picture anew. -/
  update : Action α σ Unit

end TransitionDiagram
