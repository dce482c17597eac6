/-
TransitionDiagram.Surface.Grid: a surface that draws with characters.

The surface keeps a tree of nodes and a canvas. An update walks the tree from the root, parents
before children and children in order, and adds up positions on the way; every node met is drawn
over what is on the canvas so far. The walk stops at the first child that is not there, with what
was drawn before left on the canvas. Handles and canvas alone decide what a call does, so the size
of the canvas never changes the outcome of one.

  §1 the walk over a tree
  §2 the surface
  §3 creating, attaching, moving and dropping nodes
  §4 drawing
-/
import TransitionDiagram.Picture.Canvas
import TransitionDiagram.Picture.Style
import TransitionDiagram.Surface.Interface
import TransitionDiagram.Surface.NodeStore

namespace TransitionDiagram

variable {α : Type} [Scalar α]

/-! ## §1 The walk -/

/-- What is met on a walk: the content of a node and where it is. -/
structure Visit (α : Type) where
  content : Content α
  position : Point α
  deriving DecidableEq, Repr

/-- The marks that draw what is met. -/
def Visit.marks (glyphs : Mark.Glyphs) (template : CircleTemplate α) (v : Visit α) : List Mark :=
  match v.content with
  | .group => []
  | .shape .circle => Mark.ofCircle glyphs v.position template.radius
  | .shape (.line vector _) => Mark.ofLine glyphs v.position (v.position.offset vector)
  | .text label _ =>
    Mark.ofCenteredText (Cell.column v.position.x) (Cell.row v.position.y) label

/-- A walk: what is met, and why the walk stops early if it does. -/
structure Walk (α : Type) where
  visits : List (Visit α)
  fault : Option (Fault α)
  deriving DecidableEq, Repr

namespace Walk

/-- Walks one after the other, up to the first that stops early. -/
def concat : List (Walk α) → Walk α
  | [] => { visits := [], fault := none }
  | w :: rest =>
    match w.fault with
    | some _ => w
    | none =>
      let others := concat rest
      { others with visits := w.visits ++ others.visits }

end Walk

/-- The walk over a node and all below it, `depth` levels at most, from a parent at `origin`. -/
def NodeStore.walk (store : NodeStore α) : Nat → Point α → Handle → Walk α
  | 0, _, h => { visits := [], fault := some (.endless h) }
  | depth + 1, origin, h =>
    match store.get? h with
    | none => { visits := [], fault := some (.unknownNode h) }
    | some node =>
      let position := origin.offset node.position
      let below := Walk.concat (node.children.map (walk store depth position))
      { below with visits := { content := node.content, position } :: below.visits }

/-! ## §2 The surface -/

/-- A surface of characters. -/
structure GridSurface (α : Type) where
  config : PictureConfig α
  nodes : NodeStore α
  template : CircleTemplate α
  canvas : Canvas
  redraws : Nat

namespace GridSurface

/-- The handle of the root. -/
def root : Handle where
  index := 0

/-- A node without children at the position of its parent. -/
def freshNode (content : Content α) : SceneNode α where
  content := content
  position := .origin
  children := []

/-- A surface with nothing but a root. -/
def new (config : PictureConfig α) : GridSurface α where
  config := config
  nodes := NodeStore.empty.push (freshNode .group)
  template := .initial
  canvas := .blank (Cell.columns config.size) (Cell.rows config.size)
  redraws := 0

/-- The picture of the last update. -/
def frame (s : GridSurface α) : String :=
  s.canvas.frame

/-- The number of nodes, the root being one. -/
def nodeCount (s : GridSurface α) : Nat :=
  s.nodes.size

/-- The children of a node, in the order in which they are drawn. -/
def children? (s : GridSurface α) (h : Handle) : Option (List Handle) :=
  (s.nodes.get? h).map (·.children)

/-- Where a node is relative to its parent. -/
def position? (s : GridSurface α) (h : Handle) : Option (Point α) :=
  (s.nodes.get? h).map (·.position)

/-! ## §3 Nodes -/

/-- Adds a node that is not attached yet. -/
def create (content : Content α) (s : GridSurface α) : Handle × GridSurface α :=
  (s.nodes.next, { s with nodes := s.nodes.push (freshNode content) })

/-- The node with a handle. -/
def find (h : Handle) : Action α (GridSurface α) (SceneNode α) := do
  match (← get).nodes.get? h with
  | some node => pure node
  | none => throw (.unknownNode h)

/-- Changes the nodes. -/
def modifyNodes (f : NodeStore α → NodeStore α) : Action α (GridSurface α) Unit :=
  modify fun s => { s with nodes := f s.nodes }

/-- The width of a text node. -/
def measure (h : Handle) : Action α (GridSurface α) α := do
  match (← find h).content with
  | .text _ width => pure width
  | content => throw (.notText h content)

/-- Attaches a child. -/
def addChild (parent child : Handle) : Action α (GridSurface α) Unit := do
  let _ ← find child
  let _ ← find parent
  modifyNodes (·.modify parent fun node => { node with children := node.children ++ [child] })

/-- Detaches a child where it is listed first, and drops it with all below it. -/
def removeChild (parent child : Handle) : Action α (GridSurface α) Unit := do
  if child ∈ (← find parent).children then
    modifyNodes fun nodes =>
      (nodes.modify parent fun node => { node with children := node.children.erase child }).dropAll
        [child]
  else throw (.unknownNode child)

/-- Moves a node. -/
def setPosition (h : Handle) (position : Point α) : Action α (GridSurface α) Unit := do
  let _ ← find h
  modifyNodes (·.modify h fun node => { node with position })

/-! ## §4 Drawing -/

/-- The walk over the whole tree. No way down the tree is longer than there are slots. -/
def walk (s : GridSurface α) : Walk α :=
  s.nodes.walk s.nodes.slots.size .origin root

/-- A canvas with some visits drawn on it. -/
def draw (s : GridSurface α) (canvas : Canvas) (visits : List (Visit α)) : Canvas :=
  visits.foldl (fun canvas v => canvas.paint (v.marks s.config.style.glyphs s.template)) canvas

/-- Draws the picture anew. The redraw counts only if the whole tree was drawn. -/
def update : Action α (GridSurface α) Unit := do
  let s ← get
  let w := s.walk
  set { s with canvas := s.draw s.canvas.wipe w.visits }
  match w.fault with
  | some fault => throw fault
  | none => modify fun s => { s with redraws := s.redraws + 1 }

instance : DrawingSurface α (GridSurface α) where
  root _ := root
  size s := s.config.size
  createGroup := create .group
  createNode shape := create (.shape shape)
  createText label _ _ := modifyGet (create (.text label (Cell.labelWidth label)))
  measure := measure
  addChild := addChild
  removeChild := removeChild
  setPosition := setPosition
  setCircleTemplate template s := { s with template }
  clear s := { s with canvas := s.canvas.wipe }
  update := update

end GridSurface

end TransitionDiagram
