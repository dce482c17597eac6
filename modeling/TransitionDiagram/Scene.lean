/-
TransitionDiagram.Scene: a machine shown on a surface.

A scene owns a surface, the nodes of the states that are shown, and the arrows of the transitions.
Arrows are attached to a layer of their own, which is the first child of the root, so circles are
drawn over them. A pass brings a scene in line with a machine: it matches the nodes with the
states, puts the circles in their places, and builds all arrows anew. Nodes of states that stay
keep their handles.

A fault of the surface ends a pass. What was done before remains: nodes that were made stay in the
map, and a node that left the map is gone from it even if the surface refuses to remove it.

  §1 scenes
  §2 circles
  §3 states
  §4 places
  §5 arrows
  §6 passes
-/
import TransitionDiagram.Machine
import TransitionDiagram.Scene.Layout
import TransitionDiagram.Scene.Reconcile
import TransitionDiagram.Surface.Interface

namespace TransitionDiagram

/-! ## §1 Scenes -/

/-- The arrow of a transition, which is given by its number. -/
structure Arrow where
  handle : Handle
  transition : Nat
  deriving DecidableEq, Repr

/-- What is shown on a surface. -/
structure Scene (α σ : Type) where
  surface : σ
  layout : Layout α
  arrowLayer : Handle
  nodes : NodeMap α
  arrows : List Arrow

/-- What a pass did. -/
structure PassStats (α : Type) where
  created : Nat
  destroyed : Nat
  arrows : Nat
  /-- The radius of the circles, none if there are no states. -/
  radius : Option α
  deriving DecidableEq, Repr

variable {α σ : Type}

namespace Scene

/-- A scene on a surface that shows nothing yet, with its layer of arrows. -/
def new [DrawingSurface α σ] (surface : σ) (layout : Layout α) : Except (Fault α) (Scene α σ) :=
  let (arrowLayer, surface) := DrawingSurface.createGroup surface
  match DrawingSurface.addChild (DrawingSurface.root surface) arrowLayer surface with
  | .ok _ surface => .ok { surface, layout, arrowLayer, nodes := .empty, arrows := [] }
  | .error fault _ => .error fault

/-- Runs an action on the surface of a scene. -/
def onSurface {β : Type} (action : Action α σ β) : Action α (Scene α σ) β := fun scene =>
  match action scene.surface with
  | .ok b surface => .ok b { scene with surface }
  | .error fault surface => .error fault { scene with surface }

/-- Runs an action on the nodes and the surface of a scene. -/
def onNodes {β : Type} (action : Action α (NodeMap α × σ) β) : Action α (Scene α σ) β :=
  fun scene =>
    match action (scene.nodes, scene.surface) with
    | .ok b (nodes, surface) => .ok b { scene with nodes, surface }
    | .error fault (nodes, surface) => .error fault { scene with nodes, surface }

/-- Runs an action for every item, whatever became of the earlier ones. The first fault is the
outcome. -/
def forEach {β : Type} (action : β → Action α σ Unit) : List β → Action α σ Unit
  | [] => pure ()
  | b :: rest => fun s =>
    match action b s with
    | .ok _ s => forEach action rest s
    | .error fault s =>
      match forEach action rest s with
      | .ok _ s => .error fault s
      | .error _ s => .error fault s

/-! ## §2 Circles -/

/-- Draws a new circle around the name of a state. -/
def createCircle [Scalar α] [DrawingSurface α σ] (id : String) : Action α σ (StateNode α) := do
  let group ← modifyGet DrawingSurface.createGroup
  let circle ← modifyGet (DrawingSurface.createNode .circle)
  DrawingSurface.addChild group circle
  let text ← DrawingSurface.createText id .label .black
  DrawingSurface.addChild group text
  let minSize ← DrawingSurface.measure text
  DrawingSurface.addChild (DrawingSurface.root (← get)) group
  return .unplaced id group minSize

/-- Removes the circle of a state from the surface. -/
def destroyCircle [DrawingSurface α σ] (node : StateNode α) : Action α σ Unit := do
  DrawingSurface.removeChild (DrawingSurface.root (← get)) node.handle

/-! ## §3 States -/

/-- Matches the nodes with the states of a machine and counts the nodes made and removed. Every
node without a state is removed, even after the removal of another was refused. -/
def updateStates [Scalar α] [DrawingSurface α σ] (machine : Machine) :
    Action α (Scene α σ) (Nat × Nat) := do
  let outcome ← onNodes (NodeMap.reconcile createCircle machine.states)
  onSurface (forEach destroyCircle outcome.destroyed)
  return (outcome.created, outcome.destroyed.length)

/-! ## §4 Places -/

/-- Puts all circles in their places and gives them their radius, none if there are no circles. -/
def arrange [Scalar α] [DrawingSurface α σ] : Action α (Scene α σ) (Option α) := do
  let scene ← get
  match scene.nodes.arrange? (DrawingSurface.size scene.surface).width scene.layout with
  | none => return none
  | some (radius, nodes) =>
    set { scene with
      nodes
      surface := DrawingSurface.setCircleTemplate (.ofRadius radius) scene.surface }
    nodes.nodes.forM fun node => onSurface (DrawingSurface.setPosition node.handle node.position)
    return some radius

/-! ## §5 Arrows -/

/-- Where the circle of a state is. -/
def positionOf (id : String) : Action α (Scene α σ) (Point α) := do
  match (← get).nodes.get? id with
  | some node => return node.position
  | none => throw (.missingState id)

/-- The stroke of arrows. -/
def arrowStroke [Scalar α] : Stroke α where
  width := Scalar.ofInt 5
  color := .black

/-- Draws the arrow of a transition between the circles of its states. -/
def addArrow [Scalar α] [DrawingSurface α σ] (t : Transition) (number : Nat) :
    Action α (Scene α σ) Unit := do
  let source ← positionOf t.source
  let target ← positionOf t.target
  let layer := (← get).arrowLayer
  let handle ← onSurface (modifyGet
    (DrawingSurface.createNode (.line (source.deltaTo target) arrowStroke)))
  onSurface (DrawingSurface.setPosition handle source)
  onSurface (DrawingSurface.addChild layer handle)
  modify fun scene => { scene with arrows := scene.arrows ++ [{ handle, transition := number }] }

/-- Removes all arrows. The scene forgets them first, so one that the surface refuses to remove is
never asked for again. -/
def removeArrows [DrawingSurface α σ] : Action α (Scene α σ) Unit := do
  let scene ← get
  set { scene with arrows := [] }
  scene.arrows.forM fun arrow =>
    onSurface (DrawingSurface.removeChild scene.arrowLayer arrow.handle)

/-- Builds the arrows of a machine anew and counts them. -/
def rebuildArrows [Scalar α] [DrawingSurface α σ] (machine : Machine) :
    Action α (Scene α σ) Nat := do
  removeArrows
  machine.transitions.zipIdx.forM fun (t, number) => addArrow t number
  return (← get).arrows.length

/-! ## §6 Passes -/

/-- Brings the scene in line with a machine and draws it. -/
def render [Scalar α] [DrawingSurface α σ] (machine : Machine) :
    Action α (Scene α σ) (PassStats α) := do
  let (created, destroyed) ← updateStates machine
  modify fun scene => { scene with surface := DrawingSurface.clear scene.surface }
  let radius ← arrange
  let arrows ← rebuildArrows machine
  onSurface DrawingSurface.update
  return { created, destroyed, arrows, radius }

end Scene

end TransitionDiagram
