/-
TransitionDiagram.Proofs.SurfaceCalls: what the calls on a surface do to the nodes beneath.

A scene is drawn on a grid of characters, directly or through a surface that refuses some calls.
`OnGrid` names what both have in common: a grid beneath, and for each call either a refusal, which
the surface must be able to give and which leaves the grid as it is, or the outcome that the call
has on the grid. A surface that is a grid itself refuses nothing.

Each call has one statement here. It names the nodes that the call needs and says how the store is
changed, or that the call was refused.

  §1 calls on a grid
  §2 surfaces over a grid
  §3 the two kinds of such surfaces
  §4 the outcome of each call
-/
import TransitionDiagram.Proofs.NodeStore
import TransitionDiagram.Proofs.Outcome
import TransitionDiagram.Surface.Grid
import TransitionDiagram.Surface.Unreliable

namespace TransitionDiagram

variable {α σ β : Type}

/-! ## §1 Calls on a grid -/

namespace GridSurface

variable {s : GridSurface α} {h child : Handle} {node childNode : SceneNode α}

theorem find_ok (there : s.nodes.get? h = some node) : find h s = .ok node s := by
  simp [find, Action.bind_apply, there]

theorem measure_ok {label : String} {width : α} (there : s.nodes.get? h = some node)
    (isText : node.content = .text label width) : measure h s = .ok width s := by
  simp [measure, Action.bind_apply, find_ok there, isText]

theorem addChild_ok (childThere : s.nodes.get? child = some childNode)
    (there : s.nodes.get? h = some node) :
    addChild h child s = .ok () { s with
      nodes := s.nodes.modify h fun node =>
        { node with children := node.children ++ [child] } } := by
  simp [addChild, Action.bind_apply, find_ok childThere, find_ok there, modifyNodes]

theorem removeChild_ok (there : s.nodes.get? h = some node) (listed : child ∈ node.children) :
    removeChild h child s = .ok () { s with
      nodes := (s.nodes.modify h fun node =>
        { node with children := node.children.erase child }).dropAll [child] } := by
  simp [removeChild, Action.bind_apply, find_ok there, listed, modifyNodes]

theorem setPosition_ok {position : Point α} (there : s.nodes.get? h = some node) :
    setPosition h position s = .ok () { s with
      nodes := s.nodes.modify h fun node => { node with position } } := by
  simp [setPosition, Action.bind_apply, find_ok there, modifyNodes]

theorem children?_of_mem {cells : List (Handle × SceneNode α)} {spare : Nat}
    (holds : s.nodes.Holds cells spare) {cell : Handle × SceneNode α} (listed : cell ∈ cells) :
    s.children? cell.1 = some cell.2.children := by
  rw [children?, holds.get cell listed]; rfl

variable [Scalar α]

/-- The surface after an update that drew the whole tree. -/
def redrawn (s : GridSurface α) (visits : List (Visit α)) : GridSurface α :=
  { s with canvas := s.draw s.canvas.wipe visits, redraws := s.redraws + 1 }

theorem update_ok {visits : List (Visit α)} (whole : s.walk = { visits, fault := none }) :
    update s = .ok () (s.redrawn visits) := by
  simp [update, Action.bind_apply, whole, redrawn]

end GridSurface

/-- A call is counted, and then it is refused or passed on. -/
theorem Unreliable.attempt_apply (call : SurfaceCall) (action : Action α σ β) (s : Unreliable σ) :
    attempt call action s =
      if s.refuses call (s.made.get call) then
        .error (.unavailable call) { s with made := s.made.increment call }
      else onInner action { s with made := s.made.increment call } := by
  by_cases refused : s.refuses call (s.made.get call) <;>
    simp [attempt, Action.bind_apply, refused]

/-! ## §2 Surfaces over a grid -/

/-- How a surface is seen: the grid beneath it, and which calls it may refuse at some time. -/
structure GridView (α σ : Type) where
  grid : σ → GridSurface α
  mayRefuse : σ → SurfaceCall → Prop

namespace GridView

/-- The surface has the given grid beneath it, and may refuse what it might before. -/
structure Becomes (view : GridView α σ) (s s' : σ) (grid : GridSurface α) : Prop where
  grid : view.grid s' = grid
  mayRefuse : view.mayRefuse s' = view.mayRefuse s

/-- A call is refused, or ends as the call on the grid does. -/
def Passes (view : GridView α σ) (call : SurfaceCall) (outer : Action α σ β)
    (inner : Action α (GridSurface α) β) : Prop :=
  ∀ s : σ,
    (∃ fault s', outer s = .error fault s' ∧ view.mayRefuse s call ∧
      view.Becomes s s' (view.grid s)) ∨
    (∃ b s' grid, outer s = .ok b s' ∧ inner (view.grid s) = .ok b grid ∧ view.Becomes s s' grid) ∨
    (∃ fault s' grid, outer s = .error fault s' ∧ inner (view.grid s) = .error fault grid ∧
      view.Becomes s s' grid)

end GridView

/-- A surface whose calls are those of a grid, but for calls that it refuses. -/
class OnGrid (α : outParam Type) (σ : Type) [Scalar α] [DrawingSurface α σ] where
  view : GridView α σ
  root (s : σ) : DrawingSurface.root s = GridSurface.root
  size (s : σ) : DrawingSurface.size s = (view.grid s).config.size
  createGroup (s : σ) : (DrawingSurface.createGroup s).1 = (view.grid s).nodes.next ∧
    view.Becomes s (DrawingSurface.createGroup s).2 (GridSurface.create .group (view.grid s)).2
  createNode (shape : Shape α) (s : σ) :
    (DrawingSurface.createNode shape s).1 = (view.grid s).nodes.next ∧
    view.Becomes s (DrawingSurface.createNode shape s).2
      (GridSurface.create (.shape shape) (view.grid s)).2
  createText (label : String) (font : Font) (color : Color) :
    view.Passes .createText (DrawingSurface.createText label font color)
      (DrawingSurface.createText label font color)
  measure (h : Handle) : view.Passes .measure (DrawingSurface.measure h) (GridSurface.measure h)
  addChild (parent child : Handle) :
    view.Passes .addChild (DrawingSurface.addChild parent child) (GridSurface.addChild parent child)
  removeChild (parent child : Handle) :
    view.Passes .removeChild (DrawingSurface.removeChild parent child)
      (GridSurface.removeChild parent child)
  setPosition (h : Handle) (position : Point α) :
    view.Passes .setPosition (DrawingSurface.setPosition h position)
      (GridSurface.setPosition h position)
  setCircleTemplate (template : CircleTemplate α) (s : σ) :
    view.Becomes s (DrawingSurface.setCircleTemplate template s) { view.grid s with template }
  clear (s : σ) :
    view.Becomes s (DrawingSurface.clear s)
      { view.grid s with canvas := (view.grid s).canvas.wipe }
  update : view.Passes .update DrawingSurface.update GridSurface.update

/-! ## §3 The two kinds -/

namespace GridView

/-- A grid seen as itself refuses nothing. -/
def itself : GridView α (GridSurface α) where
  grid s := s
  mayRefuse _ _ := False

theorem passes_itself (call : SurfaceCall) (action : Action α (GridSurface α) β) :
    itself.Passes call action action := by
  intro s
  cases h : action s with
  | ok b s' => exact .inr (.inl ⟨b, s', s', rfl, h, rfl, rfl⟩)
  | error fault s' => exact .inr (.inr ⟨fault, s', s', rfl, h, rfl, rfl⟩)

/-- A surface with a schedule may refuse what the schedule refuses at some time. -/
def beneath : GridView α (Unreliable (GridSurface α)) where
  grid s := s.inner
  mayRefuse s call := ∃ made, s.refuses call made = true

theorem passes_attempt (call : SurfaceCall) (action : Action α (GridSurface α) β) :
    beneath.Passes call (Unreliable.attempt call action) action := by
  intro s
  rw [Unreliable.attempt_apply]
  by_cases refused : s.refuses call (s.made.get call) = true
  · rw [if_pos refused]
    exact .inl ⟨_, _, rfl, ⟨_, refused⟩, rfl, rfl⟩
  · rw [if_neg refused]
    simp only [Unreliable.onInner, beneath]
    cases h : action s.inner with
    | ok b inner => exact .inr (.inl ⟨b, _, inner, rfl, rfl, rfl, rfl⟩)
    | error fault inner => exact .inr (.inr ⟨fault, _, inner, rfl, rfl, rfl, rfl⟩)

end GridView

instance [Scalar α] : OnGrid α (GridSurface α) where
  view := .itself
  root _ := rfl
  size _ := rfl
  createGroup _ := ⟨rfl, rfl, rfl⟩
  createNode _ _ := ⟨rfl, rfl, rfl⟩
  createText _ _ _ := GridView.passes_itself _ _
  measure _ := GridView.passes_itself _ _
  addChild _ _ := GridView.passes_itself _ _
  removeChild _ _ := GridView.passes_itself _ _
  setPosition _ _ := GridView.passes_itself _ _
  setCircleTemplate _ _ := ⟨rfl, rfl⟩
  clear _ := ⟨rfl, rfl⟩
  update := GridView.passes_itself _ _

instance [Scalar α] : OnGrid α (Unreliable (GridSurface α)) where
  view := .beneath
  root _ := rfl
  size _ := rfl
  createGroup _ := ⟨rfl, rfl, rfl⟩
  createNode _ _ := ⟨rfl, rfl, rfl⟩
  createText _ _ _ := GridView.passes_attempt _ _
  measure _ := GridView.passes_attempt _ _
  addChild _ _ := GridView.passes_attempt _ _
  removeChild _ _ := GridView.passes_attempt _ _
  setPosition _ _ := GridView.passes_attempt _ _
  setCircleTemplate _ _ := ⟨rfl, rfl⟩
  clear _ := ⟨rfl, rfl⟩
  update := GridView.passes_attempt _ _

/-! ## §4 The outcome of each call -/

theorem GridView.Passes.ends {view : GridView α σ} {call : SurfaceCall} {outer : Action α σ β}
    {inner : Action α (GridSurface α) β} (passes : view.Passes call outer inner) {s : σ} {b : β}
    {grid : GridSurface α} (result : inner (view.grid s) = .ok b grid) :
    Ends (outer s) (fun b' s' => b' = b ∧ view.Becomes s s' grid)
      (fun s' => view.mayRefuse s call ∧ view.Becomes s s' (view.grid s)) := by
  rcases passes s with ⟨fault, s', h, refused⟩ | ⟨b', s', grid', h, same, becomes⟩ |
      ⟨fault, s', grid', -, failed, -⟩
  · rw [h]; exact refused
  · rw [result] at same
    cases same
    rw [h]; exact ⟨rfl, becomes⟩
  · rw [result] at failed
    cases failed

namespace OnGrid

variable [Scalar α] [DrawingSurface α σ] [OnGrid α σ]

/-- The grid beneath a surface. -/
def grid (s : σ) : GridSurface α := view.grid s

/-- Whether a surface may refuse a call of some kind at some time. -/
def mayRefuse (s : σ) : SurfaceCall → Prop := view.mayRefuse s

theorem not_mayRefuse_of_never {surface : Unreliable (GridSurface α)} {call : SurfaceCall}
    (never : ∀ made, surface.refuses call made = false) : ¬ mayRefuse surface call := by
  intro refusable
  obtain ⟨turn, refused⟩ := refusable
  rw [never turn] at refused
  contradiction

/-- Nothing but the nodes beneath differs. -/
structure OnlyNodes (s s' : σ) : Prop where
  grid : grid s' = { grid s with nodes := (grid s').nodes }
  mayRefuse : mayRefuse s' = mayRefuse s

/-- A call was refused, and nothing is changed. -/
structure Refused (call : SurfaceCall) (s s' : σ) : Prop where
  only : OnlyNodes s s'
  nodes : (grid s').nodes = (grid s).nodes
  allowed : mayRefuse s call

theorem OnlyNodes.refl (s : σ) : OnlyNodes s s := ⟨rfl, rfl⟩

theorem OnlyNodes.trans {s s' s'' : σ} (first : OnlyNodes s s') (second : OnlyNodes s' s'') :
    OnlyNodes s s'' := by
  refine ⟨?_, second.mayRefuse.trans first.mayRefuse⟩
  rw [second.grid, first.grid]

theorem onlyNodes_of_becomes {s s' : σ} {nodes : NodeStore α}
    (becomes : view.Becomes s s' { grid s with nodes }) :
    OnlyNodes s s' ∧ (grid s').nodes = nodes := by
  have nodes_eq : (grid s').nodes = nodes := by rw [grid, becomes.grid]
  refine ⟨⟨?_, becomes.mayRefuse⟩, nodes_eq⟩
  rw [nodes_eq]; exact becomes.grid

theorem refused_of_becomes {call : SurfaceCall} {s s' : σ}
    (refused : view.mayRefuse s call ∧ view.Becomes s s' (view.grid s)) : Refused call s s' := by
  have unchanged : OnlyNodes s s' ∧ (grid s').nodes = (grid s).nodes :=
    onlyNodes_of_becomes refused.2
  exact ⟨unchanged.1, unchanged.2, refused.1⟩

variable {s : σ} {h child : Handle} {node childNode : SceneNode α}
  {cells : List (Handle × SceneNode α)} {spare : Nat}

theorem createGroup_holds (holds : (grid s).nodes.Holds cells spare) :
    OnlyNodes s (DrawingSurface.createGroup s).2 ∧
    (grid (DrawingSurface.createGroup s).2).nodes.Holds
      (((DrawingSurface.createGroup s).1, GridSurface.freshNode .group) :: cells) spare := by
  obtain ⟨handle, becomes⟩ := createGroup s
  obtain ⟨only, nodes⟩ := onlyNodes_of_becomes becomes
  refine ⟨only, ?_⟩
  rw [nodes, handle]
  exact holds.push

theorem createNode_holds (shape : Shape α) (holds : (grid s).nodes.Holds cells spare) :
    OnlyNodes s (DrawingSurface.createNode shape s).2 ∧
    (grid (DrawingSurface.createNode shape s).2).nodes.Holds
      (((DrawingSurface.createNode shape s).1, GridSurface.freshNode (.shape shape)) :: cells)
      spare := by
  obtain ⟨handle, becomes⟩ := createNode shape s
  obtain ⟨only, nodes⟩ := onlyNodes_of_becomes becomes
  refine ⟨only, ?_⟩
  rw [nodes, handle]
  exact holds.push

theorem createText_ends (label : String) (font : Font) (color : Color)
    (holds : (grid s).nodes.Holds cells spare) :
    Ends (DrawingSurface.createText label font color s)
      (fun text s' => OnlyNodes s s' ∧ (grid s').nodes.Holds
        ((text, GridSurface.freshNode (.text label (Cell.labelWidth label))) :: cells) spare)
      (Refused .createText s) := by
  refine ((createText label font color).ends rfl).imp ?_ (fun _ => refused_of_becomes)
  intro _ s' good
  obtain ⟨rfl, becomes⟩ := good
  obtain ⟨only, nodes⟩ := onlyNodes_of_becomes becomes
  refine ⟨only, ?_⟩
  rw [nodes]
  exact holds.push

theorem measure_ends {label : String} {width : α} (there : (grid s).nodes.get? h = some node)
    (isText : node.content = .text label width) :
    Ends (DrawingSurface.measure h s)
      (fun measured s' => measured = width ∧ OnlyNodes s s' ∧ (grid s').nodes = (grid s).nodes)
      (Refused .measure s) := by
  refine ((measure h).ends (GridSurface.measure_ok there isText)).imp ?_
    (fun _ => refused_of_becomes)
  intro _ s' good
  obtain ⟨rfl, becomes⟩ := good
  exact ⟨rfl, onlyNodes_of_becomes becomes⟩

theorem addChild_ends (childThere : (grid s).nodes.get? child = some childNode)
    (holds : (grid s).nodes.Holds ((h, node) :: cells) spare) :
    Ends (DrawingSurface.addChild h child s)
      (fun _ s' => OnlyNodes s s' ∧ (grid s').nodes.Holds
        ((h, { node with children := node.children ++ [child] }) :: cells) spare)
      (Refused .addChild s) := by
  refine ((addChild h child).ends (GridSurface.addChild_ok childThere holds.get_head)).imp ?_
    (fun _ => refused_of_becomes)
  intro _ s' good
  obtain ⟨-, becomes⟩ := good
  obtain ⟨only, nodes⟩ := onlyNodes_of_becomes becomes
  refine ⟨only, ?_⟩
  rw [nodes]
  exact holds.modify _

theorem setPosition_ends (position : Point α)
    (holds : (grid s).nodes.Holds ((h, node) :: cells) spare) :
    Ends (DrawingSurface.setPosition h position s)
      (fun _ s' => OnlyNodes s s' ∧
        (grid s').nodes.Holds ((h, { node with position }) :: cells) spare)
      (Refused .setPosition s) := by
  refine ((setPosition h position).ends (GridSurface.setPosition_ok holds.get_head)).imp ?_
    (fun _ => refused_of_becomes)
  intro _ s' good
  obtain ⟨-, becomes⟩ := good
  obtain ⟨only, nodes⟩ := onlyNodes_of_becomes becomes
  refine ⟨only, ?_⟩
  rw [nodes]
  exact holds.modify _

/-- Removing a child whose own children have no children. -/
theorem removeChild_ends {leaves : List (Handle × SceneNode α)}
    (listed : child ∈ node.children) (children : childNode.children = leaves.map Prod.fst)
    (bare : ∀ leaf ∈ leaves, leaf.2.children = [])
    (holds : (grid s).nodes.Holds ((h, node) :: (child, childNode) :: (leaves ++ cells)) spare) :
    Ends (DrawingSurface.removeChild h child s)
      (fun _ s' => OnlyNodes s s' ∧ (grid s').nodes.Holds
        ((h, { node with children := node.children.erase child }) :: cells) spare)
      (Refused .removeChild s) := by
  refine ((removeChild h child).ends (GridSurface.removeChild_ok holds.get_head listed)).imp ?_
    (fun _ => refused_of_becomes)
  intro _ s' good
  obtain ⟨-, becomes⟩ := good
  obtain ⟨only, nodes⟩ := onlyNodes_of_becomes becomes
  refine ⟨only, ?_⟩
  rw [nodes]
  -- the child is behind its parent in the list, and is dropped from the front
  have changed := holds.modify fun node => { node with children := node.children.erase child }
  refine ((changed.perm ?_).dropBranch children bare)
  exact (List.Perm.swap _ _ _).trans (.cons _ List.perm_middle.symm)

end OnGrid

end TransitionDiagram
