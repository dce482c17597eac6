/-
TransitionDiagram.Proofs.Respecting: what no call can change for the worse.

Some things are told by comparing the state before an action with the state after it: a number only
grows, a field stays as it is. An action respects such a comparison if it holds in whatever way the
action ends. Whatever every call on a surface respects, the actions on a scene respect, as they
touch a surface by calls alone. Removing and drawing are kept apart from the other calls, since
either may be what changes the thing in question.

Beside the surface a scene has its nodes. Apart from matching them with states, arranging them is
all that changes any of them, and it changes no more than their places, so their tags stay.

  §1 comparisons and actions
  §2 comparisons of surfaces
  §3 comparisons of grids
  §4 actions on scenes
-/
import TransitionDiagram.Proofs.NodeMap
import TransitionDiagram.Proofs.SurfaceCalls
import TransitionDiagram.Scene

namespace TransitionDiagram

/-! ## §1 Comparisons -/

section Comparisons

variable {ε σ β γ : Type}

/-- A comparison of a state with a later one. -/
structure Lasting (R : σ → σ → Prop) : Prop where
  refl : ∀ s, R s s
  trans : ∀ {s s' s''}, R s s' → R s' s'' → R s s''

theorem Lasting.of_le (f : σ → Nat) : Lasting fun s s' => f s ≤ f s' :=
  ⟨fun _ => Nat.le_refl _, Nat.le_trans⟩

theorem Lasting.of_eq (f : σ → γ) : Lasting fun s s' => f s' = f s :=
  ⟨fun _ => rfl, fun first second => second.trans first⟩

/-- The comparison holds between what the action is given and what it leaves behind. -/
def Respects (action : EStateM ε σ β) (R : σ → σ → Prop) : Prop :=
  ∀ s, Ends (action s) (fun _ s' => R s s') (fun s' => R s s')

namespace Respects

variable {R : σ → σ → Prop} {x : EStateM ε σ β} {f : β → EStateM ε σ γ}

theorem pure (lasting : Lasting R) (b : β) : Respects (Pure.pure b : EStateM ε σ β) R :=
  lasting.refl

theorem throw (lasting : Lasting R) (e : ε) :
    Respects (MonadExcept.throw e : EStateM ε σ β) R :=
  lasting.refl

theorem get (lasting : Lasting R) : Respects (MonadState.get : EStateM ε σ σ) R :=
  lasting.refl

theorem modifyGet {g : σ → β × σ} (each : ∀ s, R s (g s).2) :
    Respects (MonadState.modifyGet g : EStateM ε σ β) R :=
  each

/-- What the second action changes is added to what the first one has changed. -/
theorem append {S : σ → σ → Prop} (first : Respects x R) (next : ∀ b, Respects (f b) S)
    (joins : ∀ {s s' s''}, R s s' → S s' s'' → R s s'') : Respects (x >>= f) R := by
  intro s
  refine (first s).andThen ?_ (fun _ h => h)
  intro b s' h
  exact (next b s').imp (fun _ _ h' => joins h h') (fun _ h' => joins h h')

theorem bind (first : Respects x R) (lasting : Lasting R) (next : ∀ b, Respects (f b) R) :
    Respects (x >>= f) R :=
  first.append next lasting.trans

/-- One more step after some steps, of which the last one is `s`. -/
theorem andThen (first : Respects x R) (lasting : Lasting R) {start s : σ} {good : γ → σ → Prop}
    {bad : σ → Prop} (before : R start s) (failed : ∀ s', R start s' → bad s')
    (next : ∀ b s', R start s' → Ends (f b s') good bad) : Ends ((x >>= f) s) good bad :=
  (first s).andThen (fun b s' h => next b s' (lasting.trans before h))
    (fun s' h => failed s' (lasting.trans before h))

theorem forM (lasting : Lasting R) {g : γ → EStateM ε σ PUnit} (each : ∀ c, Respects (g c) R)
    (items : List γ) : Respects (items.forM g) R := by
  intro s
  let inv := fun (_ : List γ) (s' : σ) => R s s'
  have round : ∀ c rest s', inv (c :: rest) s' →
      Ends (g c s') (fun _ s'' => inv rest s'') (fun s'' => R s s'') := fun c _ s' h =>
    (each c s').imp (fun _ _ h' => lasting.trans h h') (fun _ h' => lasting.trans h h')
  exact Ends.forM round items s (lasting.refl s)

/-- The comparison holds in whatever way the action ends. -/
theorem stateOf (h : Respects x R) (s : σ) : R s (stateOf (x s)) :=
  (h s).state (fun _ _ h' => h') (fun _ h' => h')

theorem of_stateOf (h : ∀ s, R s (TransitionDiagram.stateOf (x s))) : Respects x R := fun s =>
  Ends.of_state (h s)

theorem imp {S : σ → σ → Prop} (h : Respects x R) (weaker : ∀ {s s'}, R s s' → S s s') :
    Respects x S := fun s =>
  (h s).imp (fun _ _ h' => weaker h') (fun _ h' => weaker h')

end Respects

end Comparisons

/-! ## §2 Surfaces -/

variable {α σ β : Type}

/-- A comparison of surfaces that all calls respect but those that remove nodes or draw. -/
structure LastingOnSurface [DrawingSurface α σ] (R : σ → σ → Prop) : Prop where
  lasting : Lasting R
  createGroup : ∀ s, R s (DrawingSurface.createGroup s).2
  createNode : ∀ shape s, R s (DrawingSurface.createNode shape s).2
  createText : ∀ label font color, Respects (DrawingSurface.createText label font color) R
  measure : ∀ h, Respects (DrawingSurface.measure h) R
  addChild : ∀ parent child, Respects (DrawingSurface.addChild parent child) R
  setPosition : ∀ h position, Respects (DrawingSurface.setPosition h position) R
  setCircleTemplate : ∀ template s, R s (DrawingSurface.setCircleTemplate template s)
  clear : ∀ s, R s (DrawingSurface.clear s)

/-- A call that is refused or passed on respects what the call on the grid respects. -/
theorem GridView.Passes.respects {view : GridView α σ} {call : SurfaceCall}
    {outer : Action α σ β} {inner : Action α (GridSurface α) β}
    {R : GridSurface α → GridSurface α → Prop} (passes : view.Passes call outer inner)
    (lasting : Lasting R) (h : Respects inner R) :
    Respects outer fun s s' => R (view.grid s) (view.grid s') := by
  intro s
  have beneath := h (view.grid s)
  rcases passes s with ⟨fault, s', ended, -, becomes⟩ | ⟨b, s', grid, ended, result, becomes⟩ |
      ⟨fault, s', grid, ended, result, becomes⟩
  · have unchanged : R (view.grid s) (view.grid s') := becomes.grid ▸ lasting.refl _
    rw [ended]
    exact unchanged
  · rw [result] at beneath
    have passed : R (view.grid s) (view.grid s') := becomes.grid ▸ beneath
    rw [ended]
    exact passed
  · rw [result] at beneath
    have passed : R (view.grid s) (view.grid s') := becomes.grid ▸ beneath
    rw [ended]
    exact passed

/-! ## §3 Grids -/

/-- A comparison of grids that holds however nodes are added, changed and dropped. -/
structure LastingOnGrid [Scalar α] (R : GridSurface α → GridSurface α → Prop) : Prop where
  lasting : Lasting R
  create : ∀ content s, R s (s.create content).2
  modify : ∀ h f s, R s { s with nodes := s.nodes.modify h f }
  dropAll : ∀ pending s, R s { s with nodes := s.nodes.dropAll pending }
  setCircleTemplate : ∀ template s, R s { s with template }
  clear : ∀ s, R s { s with canvas := s.canvas.wipe }

namespace LastingOnGrid

variable [Scalar α] {R : GridSurface α → GridSurface α → Prop} (grids : LastingOnGrid R)

include grids

theorem find (h : Handle) : Respects (GridSurface.find h) R := by
  refine (Respects.get grids.lasting).bind grids.lasting fun s => ?_
  cases s.nodes.get? h with
  | none => exact .throw grids.lasting _
  | some node => exact .pure grids.lasting _

theorem measure (h : Handle) : Respects (GridSurface.measure h) R := by
  refine (grids.find h).bind grids.lasting fun node => ?_
  cases node.content with
  | text label width => exact .pure grids.lasting _
  | group => exact .throw grids.lasting _
  | shape shape => exact .throw grids.lasting _

theorem addChild (parent child : Handle) : Respects (GridSurface.addChild parent child) R :=
  (grids.find child).bind grids.lasting fun _ =>
    (grids.find parent).bind grids.lasting fun _ => .modifyGet (grids.modify _ _)

theorem setPosition (h : Handle) (position : Point α) :
    Respects (GridSurface.setPosition h position) R :=
  (grids.find h).bind grids.lasting fun _ => .modifyGet (grids.modify _ _)

theorem removeChild (parent child : Handle) : Respects (GridSurface.removeChild parent child) R := by
  refine (grids.find parent).bind grids.lasting fun node => ?_
  by_cases listed : child ∈ node.children
  · rw [if_pos listed]
    exact .modifyGet fun s => grids.lasting.trans (grids.modify _ _ s) (grids.dropAll _ _)
  · rw [if_neg listed]
    exact .throw grids.lasting _

/-- All calls on a grid respect the comparison, drawing apart. -/
theorem calls : LastingOnSurface R where
  lasting := grids.lasting
  createGroup := grids.create .group
  createNode shape := grids.create (.shape shape)
  createText label _ _ := .modifyGet (grids.create (.text label (Cell.labelWidth label)))
  measure := grids.measure
  addChild := grids.addChild
  setPosition := grids.setPosition
  setCircleTemplate := grids.setCircleTemplate
  clear := grids.clear

end LastingOnGrid

namespace OnGrid

variable [Scalar α] [DrawingSurface α σ] [OnGrid α σ]

/-- What the calls on a grid respect, the calls on a surface over a grid respect. -/
theorem lastingOnSurface {R : GridSurface α → GridSurface α → Prop} (h : LastingOnSurface R) :
    LastingOnSurface fun s s' : σ => R (grid s) (grid s') where
  lasting := ⟨fun s => h.lasting.refl (grid s), h.lasting.trans⟩
  createGroup s := by
    have becomes := (createGroup s).2
    rw [show grid _ = _ from becomes.grid]
    exact h.createGroup (grid s)
  createNode shape s := by
    have becomes := (createNode shape s).2
    rw [show grid _ = _ from becomes.grid]
    exact h.createNode shape (grid s)
  createText label font color :=
    (createText label font color).respects h.lasting (h.createText label font color)
  measure node := (measure node).respects h.lasting (h.measure node)
  addChild parent child := (addChild parent child).respects h.lasting (h.addChild parent child)
  setPosition node position :=
    (setPosition node position).respects h.lasting (h.setPosition node position)
  setCircleTemplate template s := by
    rw [show grid _ = _ from (setCircleTemplate template s).grid]
    exact h.setCircleTemplate template (grid s)
  clear s := by
    rw [show grid _ = _ from (clear s).grid]
    exact h.clear (grid s)

end OnGrid

/-! ## §4 Scenes -/

/-- What stays of a node while its place changes: its state, its handle and the width of its label.
-/
def NodeMap.tags (m : NodeMap α) : List (String × Handle × α) :=
  m.entries.map fun entry => (entry.1, entry.2.handle, entry.2.minSize)

theorem NodeMap.map_fst_tags (m : NodeMap α) : m.tags.map Prod.fst = m.ids := by
  rw [tags, List.map_map]; rfl

theorem NodeMap.tags_filter {m : NodeMap α} (keep : String → Bool) :
    (m.filter keep).tags = m.tags.filter (keep ·.1) := by
  rw [tags, entries_filter, tags, List.filter_map]; rfl

theorem NodeMap.tags_put [Scalar α] (m : NodeMap α) (rows : Rows α) :
    (m.put rows).tags = m.tags :=
  Rows.map_put (fun _ _ _ => rfl) rows m.entries rows.first

/-- The map with every node at its place, if there are nodes. -/
def NodeMap.arranged [Scalar α] (m : NodeMap α) (edge : α) (layout : Layout α) : NodeMap α :=
  ((m.arrange? edge layout).map Prod.snd).getD m

theorem NodeMap.arranged_of_radius [Scalar α] {m : NodeMap α} {edge radius : α}
    {layout : Layout α} (chosen : m.radius? layout = some radius) :
    m.arranged edge layout = m.put (.ofRadius layout edge radius) := by
  rw [arranged, arrange?, chosen]
  rfl

theorem NodeMap.arranged_of_none [Scalar α] {m : NodeMap α} {edge : α} {layout : Layout α}
    (none : m.radius? layout = none) : m.arranged edge layout = m := by
  rw [arranged, arrange?, none]
  rfl

theorem NodeMap.tags_arranged [Scalar α] (m : NodeMap α) (edge : α) (layout : Layout α) :
    (m.arranged edge layout).tags = m.tags := by
  cases chosen : m.radius? layout with
  | none => rw [arranged_of_none chosen]
  | some radius => rw [arranged_of_radius chosen, tags_put]

section Matching

variable {ε : Type} {R : σ → σ → Prop}

/-- What is beside the maps compares. -/
def Beside (R : σ → σ → Prop) (p p' : NodeMap α × σ) : Prop :=
  R p.2 p'.2

theorem Beside.lasting (lasting : Lasting R) : Lasting (Beside (α := α) R) :=
  ⟨fun p => lasting.refl p.2, lasting.trans⟩

variable {create : String → EStateM ε σ (StateNode α)} (lasting : Lasting R)
  (each : ∀ id, Respects (create id) R)

include each

theorem NodeMap.createNode_respects (id : String) :
    Respects (createNode create id) (Beside R) := by
  intro (m, s)
  have made := each id s
  cases ended : create id s with
  | ok node s' => rw [ended] at made; simp only [createNode, ended]; exact made
  | error e s' => rw [ended] at made; simp only [createNode, ended]; exact made

include lasting

theorem NodeMap.createMissing_respects (states : List String) :
    Respects (createMissing create states) (Beside R) := by
  have lasting' : Lasting (Beside (α := α) R) := Beside.lasting lasting
  induction states with
  | nil => exact .pure lasting' 0
  | cons id rest ih =>
    refine (Respects.get lasting').bind lasting' fun p => ?_
    by_cases there : p.1.contains id = true
    · rw [if_pos there]
      exact ih
    · rw [if_neg there]
      refine (createNode_respects each id).bind lasting' fun _ => ?_
      exact ih.bind lasting' fun _ => .pure lasting' _

/-- Matching a map touches a surface only where it makes nodes. -/
theorem NodeMap.reconcile_respects (states : List String) :
    Respects (reconcile create states) (Beside R) := by
  refine (createMissing_respects lasting each states).bind (Beside.lasting lasting) fun _ => ?_
  intro p
  refine (Ends.get ?_).bind
  exact (Ends.set (lasting.refl p.2)).bind

end Matching

namespace Scene

/-- The surfaces compare, and neither the nodes nor the layout is different. -/
structure Aside (R : σ → σ → Prop) (scene scene' : Scene α σ) : Prop where
  surface : R scene.surface scene'.surface
  layout : scene'.layout = scene.layout
  nodes : scene'.nodes = scene.nodes

/-- The surfaces compare, and the tags of the nodes are the same. -/
structure Retouched (R : σ → σ → Prop) (scene scene' : Scene α σ) : Prop where
  surface : R scene.surface scene'.surface
  tags : scene'.nodes.tags = scene.nodes.tags

variable {R : σ → σ → Prop}

theorem Aside.lasting (lasting : Lasting R) : Lasting (Aside R (α := α)) where
  refl _ := ⟨lasting.refl _, rfl, rfl⟩
  trans first second :=
    ⟨lasting.trans first.surface second.surface, second.layout.trans first.layout,
      second.nodes.trans first.nodes⟩

theorem Retouched.lasting (lasting : Lasting R) : Lasting (Retouched R (α := α)) where
  refl _ := ⟨lasting.refl _, rfl⟩
  trans first second :=
    ⟨lasting.trans first.surface second.surface, second.tags.trans first.tags⟩

theorem Aside.retouched {scene scene' : Scene α σ} (aside : Aside R scene scene') :
    Retouched R scene scene' :=
  ⟨aside.surface, by rw [aside.nodes]⟩

theorem stateOf_onSurface (action : Action α σ β) (scene : Scene α σ) :
    stateOf (onSurface action scene) =
      { scene with surface := stateOf (action scene.surface) } := by
  unfold onSurface
  cases action scene.surface <;> rfl

theorem stateOf_onNodes (action : Action α (NodeMap α × σ) β) (scene : Scene α σ) :
    stateOf (onNodes action scene) =
      { scene with
        nodes := (stateOf (action (scene.nodes, scene.surface))).1
        surface := (stateOf (action (scene.nodes, scene.surface))).2 } := by
  unfold onNodes
  cases action (scene.nodes, scene.surface) <;> rfl

theorem stateOf_forEach_cons (action : β → Action α σ Unit) (b : β) (rest : List β) (s : σ) :
    stateOf (forEach action (b :: rest) s) =
      stateOf (forEach action rest (stateOf (action b s))) := by
  simp only [forEach]
  cases action b s with
  | ok _ s' => rfl
  | error fault s' =>
    simp only [stateOf]
    cases forEach action rest s' <;> rfl

/-- An action on the surface of a scene leaves its nodes alone. -/
theorem onSurface_aside {action : Action α σ β} (h : Respects action R) :
    Respects (onSurface action) (Aside R) := by
  refine .of_stateOf fun scene => ?_
  rw [stateOf_onSurface]
  exact ⟨h.stateOf scene.surface, rfl, rfl⟩

theorem onSurface_respects {action : Action α σ β} (h : Respects action R) :
    Respects (onSurface action) (Retouched R) :=
  (onSurface_aside h).imp Aside.retouched

theorem onNodes_respects {action : Action α (NodeMap α × σ) β}
    (h : Respects action (Beside R)) :
    Respects (onNodes action) fun scene scene' : Scene α σ => R scene.surface scene'.surface := by
  refine .of_stateOf fun scene => ?_
  rw [stateOf_onNodes]
  exact h.stateOf (scene.nodes, scene.surface)

theorem forEach_respects (lasting : Lasting R) {action : β → Action α σ Unit}
    (each : ∀ b, Respects (action b) R) (items : List β) : Respects (forEach action items) R := by
  refine .of_stateOf fun s => ?_
  induction items generalizing s with
  | nil => exact lasting.refl s
  | cons b rest ih =>
    rw [stateOf_forEach_cons]
    exact lasting.trans ((each b).stateOf s) (ih _)

theorem positionOf_aside (lasting : Lasting R) (id : String) :
    Respects (positionOf id : Action α (Scene α σ) (Point α)) (Aside R) := by
  refine (Respects.get (Aside.lasting lasting)).bind (Aside.lasting lasting) ?_
  intro scene
  cases scene.nodes.get? id with
  | none => exact .throw (Aside.lasting lasting) _
  | some node => exact .pure (Aside.lasting lasting) _

variable [DrawingSurface α σ]

theorem clear_aside (h : LastingOnSurface R) :
    Respects (modify fun scene => { scene with surface := DrawingSurface.clear scene.surface } :
      Action α (Scene α σ) PUnit) (Aside R) :=
  fun scene => ⟨h.clear scene.surface, rfl, rfl⟩

theorem clear_respects (h : LastingOnSurface R) :
    Respects (modify fun scene => { scene with surface := DrawingSurface.clear scene.surface } :
      Action α (Scene α σ) PUnit) (Retouched R) :=
  (clear_aside h).imp Aside.retouched

section Removing

variable (removing : ∀ parent child : Handle,
  Respects (DrawingSurface.removeChild parent child : Action α σ Unit) R)

include removing

theorem destroyCircles_respects (lasting : Lasting R) (nodes : List (StateNode α)) :
    Respects (forEach destroyCircle nodes : Action α σ Unit) R :=
  forEach_respects lasting (fun _ => (Respects.get lasting).bind lasting fun _ => removing _ _)
    nodes

theorem removeArrows_aside (lasting : Lasting R) :
    Respects (removeArrows : Action α (Scene α σ) Unit) (Aside R) := by
  have lasting' : Lasting (Aside R (α := α)) := Aside.lasting lasting
  intro scene
  refine (Ends.get ?_).bind
  refine (Ends.set ?_).bind
  have forgotten : Aside R scene { scene with arrows := [] } := ⟨lasting.refl _, rfl, rfl⟩
  have removed := Respects.forM lasting' (fun arrow : Arrow =>
    onSurface_aside (removing scene.arrowLayer arrow.handle)) scene.arrows
  exact (removed _).imp (fun _ _ later => lasting'.trans forgotten later)
    (fun _ later => lasting'.trans forgotten later)

end Removing

variable [Scalar α]

/-- A new circle is known by the handle of its group, which is made first. -/
theorem createCircle_keeps (h : LastingOnSurface R) (id : String) (s : σ) :
    Ends (createCircle id s)
      (fun node s' => node.handle = (DrawingSurface.createGroup s).1 ∧
        R (DrawingSurface.createGroup s).2 s')
      (fun s' => R s s') := by
  unfold createCircle
  refine (Ends.modifyGet ?_).bind
  have made := h.createGroup s
  generalize DrawingSurface.createGroup s = outcome at made
  obtain ⟨group, s₁⟩ := outcome
  have failed : ∀ s', R s₁ s' → R s s' := fun _ later => h.lasting.trans made later
  have so_far : R s₁ s₁ := h.lasting.refl s₁
  refine (Respects.modifyGet (h.createNode .circle)).andThen h.lasting so_far failed ?_
  intro circle s₂ so_far
  refine (h.addChild group circle).andThen h.lasting so_far failed ?_
  intro _ s₃ so_far
  refine (h.createText id .label .black).andThen h.lasting so_far failed ?_
  intro text s₄ so_far
  refine (h.addChild group text).andThen h.lasting so_far failed ?_
  intro _ s₅ so_far
  refine (h.measure text).andThen h.lasting so_far failed ?_
  intro width s₆ so_far
  refine (Ends.get ?_).bind
  refine (h.addChild (DrawingSurface.root s₆) group).andThen h.lasting so_far failed ?_
  exact fun _ s₇ so_far => ⟨rfl, so_far⟩

theorem createCircle_respects (h : LastingOnSurface R) (id : String) :
    Respects (createCircle id : Action α σ (StateNode α)) R := fun s =>
  (createCircle_keeps h id s).imp (fun _ _ made => h.lasting.trans (h.createGroup s) made.2)
    (fun _ failed => failed)

/-- The surfaces compare, and all nodes are in their places. -/
structure Arranged (R : σ → σ → Prop) (scene scene' : Scene α σ) : Prop where
  surface : R scene.surface scene'.surface
  layout : scene'.layout = scene.layout
  nodes : scene'.nodes =
    scene.nodes.arranged (DrawingSurface.size scene.surface).width scene.layout

/-- The map has the nodes in their places even if the surface refuses to move some circle. -/
theorem arrange_arranged (h : LastingOnSurface R) :
    Respects (arrange : Action α (Scene α σ) (Option α)) (Arranged R) := by
  have lasting : Lasting (Aside R (α := α)) := Aside.lasting h.lasting
  intro scene
  refine (Ends.get ?_).bind
  rw [NodeMap.arrange?]
  cases chosen : scene.nodes.radius? scene.layout with
  | none => exact ⟨h.lasting.refl _, rfl, (NodeMap.arranged_of_none chosen).symm⟩
  | some radius =>
    refine (Ends.set ?_).bind
    let edge := (DrawingSurface.size scene.surface).width
    let placed : Scene α σ := { scene with
      nodes := scene.nodes.put (.ofRadius scene.layout edge radius)
      surface := DrawingSurface.setCircleTemplate (.ofRadius radius) scene.surface }
    have moved : ∀ scene', Aside R placed scene' → Arranged R scene scene' := fun scene' aside =>
      ⟨h.lasting.trans (h.setCircleTemplate _ _) aside.surface, aside.layout,
        aside.nodes.trans (NodeMap.arranged_of_radius chosen).symm⟩
    refine (Respects.forM lasting (fun node : StateNode α =>
      onSurface_aside (h.setPosition node.handle node.position)) _).andThen lasting
        (lasting.refl placed) moved ?_
    exact fun _ => moved

/-- Circles change their places, and nothing else about their nodes does. -/
theorem arrange_respects (h : LastingOnSurface R) :
    Respects (arrange : Action α (Scene α σ) (Option α)) (Retouched R) :=
  (arrange_arranged h).imp fun arranged =>
    ⟨arranged.surface, by rw [arranged.nodes, NodeMap.tags_arranged]⟩

theorem addArrow_aside (h : LastingOnSurface R) (t : Transition) (number : Nat) :
    Respects (addArrow t number : Action α (Scene α σ) Unit) (Aside R) := by
  have lasting : Lasting (Aside R (α := α)) := Aside.lasting h.lasting
  refine (positionOf_aside h.lasting _).bind lasting fun source => ?_
  refine (positionOf_aside h.lasting _).bind lasting fun target => ?_
  refine (Respects.get lasting).bind lasting fun scene => ?_
  refine (onSurface_aside (.modifyGet (h.createNode _))).bind lasting fun handle => ?_
  refine (onSurface_aside (h.setPosition _ _)).bind lasting fun _ => ?_
  refine (onSurface_aside (h.addChild _ _)).bind lasting fun _ => ?_
  exact .modifyGet fun scene => ⟨h.lasting.refl _, rfl, rfl⟩

theorem addArrows_aside (h : LastingOnSurface R) (items : List (Transition × Nat)) :
    Respects (items.forM fun (t, number) => addArrow t number : Action α (Scene α σ) PUnit)
      (Aside R) :=
  .forM (Aside.lasting h.lasting) (fun item => addArrow_aside h item.1 item.2) items

theorem addArrows_respects (h : LastingOnSurface R) (items : List (Transition × Nat)) :
    Respects (items.forM fun (t, number) => addArrow t number : Action α (Scene α σ) PUnit)
      (Retouched R) :=
  (addArrows_aside h items).imp Aside.retouched

theorem rebuildArrows_aside (h : LastingOnSurface R)
    (removing : ∀ parent child : Handle,
      Respects (DrawingSurface.removeChild parent child : Action α σ Unit) R)
    (machine : Machine) :
    Respects (rebuildArrows machine : Action α (Scene α σ) Nat) (Aside R) := by
  have lasting : Lasting (Aside R (α := α)) := Aside.lasting h.lasting
  refine (removeArrows_aside removing h.lasting).bind lasting fun _ => ?_
  refine (addArrows_aside h _).bind lasting fun _ => ?_
  exact (Respects.get lasting).bind lasting fun _ => .pure lasting _

theorem rebuildArrows_respects (h : LastingOnSurface R)
    (removing : ∀ parent child : Handle,
      Respects (DrawingSurface.removeChild parent child : Action α σ Unit) R)
    (machine : Machine) :
    Respects (rebuildArrows machine : Action α (Scene α σ) Nat) (Retouched R) :=
  (rebuildArrows_aside h removing machine).imp Aside.retouched

end Scene

end TransitionDiagram
