/-
TransitionDiagram.Scene.Layout: where the circles of a diagram are put.

All circles have one radius, which leaves some room around the widest label. They are put in rows
from the left to the right, in the order of the map. A row ends where the next circle would reach
the right margin; it holds at least one circle.

  §1 the constants of a layout
  §2 the radius
  §3 the places in rows
-/
import TransitionDiagram.Scene.NodeMap

namespace TransitionDiagram

variable {α : Type} [Scalar α]

/-! ## §1 Constants -/

/-- The constants of a layout. -/
structure Layout (α : Type) where
  /-- Room between a label and its circle. -/
  padding : α
  /-- Room between the edge and the circles next to it. -/
  margin : α
  /-- Room between neighbouring circles. -/
  spacing : α
  deriving DecidableEq, Repr

/-- The constants of a layout of which nothing else is said. -/
def Layout.standard : Layout α where
  padding := Scalar.ofInt 25
  margin := Scalar.ofInt 10
  spacing := Scalar.ofInt 100

/-! ## §2 The radius -/

/-- The radius of all circles: half of the widest label and the padding. None without labels. -/
def Layout.radius? (layout : Layout α) : List α → Option α
  | [] => none
  | width :: widths =>
    some (widths.foldl Scalar.larger width / Scalar.ofInt 2 + layout.padding)

/-- The radius that the nodes of a map ask for. -/
def NodeMap.radius? (m : NodeMap α) (layout : Layout α) : Option α :=
  layout.radius? (m.nodes.map (·.minSize))

/-! ## §3 Places -/

/-- The rows in which circles are put. -/
structure Rows (α : Type) where
  radius : α
  margin : α
  /-- From the middle of a circle to the middle of the next. -/
  step : α
  /-- The right edge. -/
  edge : α
  deriving DecidableEq, Repr

namespace Rows

/-- The rows of circles of the given radius. -/
def ofRadius (layout : Layout α) (edge radius : α) : Rows α where
  radius := radius
  margin := layout.margin
  step := Scalar.ofInt 2 * radius + layout.spacing
  edge := edge

/-- Where the first circle of a row stands, and in the first row how far down. -/
def start (rows : Rows α) : α :=
  rows.margin + rows.radius

/-- Whether a circle at this place in a row would reach the right margin. -/
def isFull (rows : Rows α) (x : α) : Bool :=
  Scalar.atMost rows.edge (x + rows.radius + rows.margin)

/-- The first place. -/
def first (rows : Rows α) : Point α where
  x := rows.start
  y := rows.start

/-- The place after a place: in the same row, or at the start of the next. -/
def after (rows : Rows α) (place : Point α) : Point α :=
  if rows.isFull (place.x + rows.step) then { x := rows.start, y := place.y + rows.step }
  else { place with x := place.x + rows.step }

/-- The nodes at the given place and those after it. -/
def put (rows : Rows α) (place : Point α) :
    List (String × StateNode α) → List (String × StateNode α)
  | [] => []
  | (id, node) :: rest =>
    (id, { node with position := place }) :: put rows (rows.after place) rest

/-- Putting nodes somewhere changes nothing else of them. -/
theorem map_put {β : Type} {f : String × StateNode α → β}
    (blind : ∀ id node p, f (id, { node with position := p }) = f (id, node))
    (rows : Rows α) (entries : List (String × StateNode α)) (place : Point α) :
    (rows.put place entries).map f = entries.map f := by
  induction entries generalizing place with
  | nil => rfl
  | cons entry rest ih => rw [put, List.map_cons, List.map_cons, blind, ih]

/-- Putting nodes somewhere keeps their states. -/
theorem map_fst_put (rows : Rows α) (entries : List (String × StateNode α)) (place : Point α) :
    (rows.put place entries).map Prod.fst = entries.map Prod.fst :=
  map_put (fun _ _ _ => rfl) rows entries place

end Rows

/-- The map with every node at its place. -/
def NodeMap.put (m : NodeMap α) (rows : Rows α) : NodeMap α where
  entries := rows.put rows.first m.entries
  nodup := by rw [Rows.map_fst_put]; exact m.nodup

/-- The radius of the circles and the map with every node at its place, if there are nodes. -/
def NodeMap.arrange? (m : NodeMap α) (edge : α) (layout : Layout α) : Option (α × NodeMap α) :=
  (m.radius? layout).map fun radius => (radius, m.put (.ofRadius layout edge radius))

end TransitionDiagram
