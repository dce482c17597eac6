/-
TransitionDiagram.Proofs.Arrows: building the arrows of a machine anew.

The scene forgets all arrows and removes them one by one, then draws one arrow for each transition,
in order. Where an arrow starts and where it leads is read off the places of the nodes in the map;
`drawing?` says what is to be drawn if both ends have a node. A refused call, or an end without a
node, leaves the arrows drawn so far, with one spare node at most.

  §1 what is to be drawn
  §2 removing the arrows
  §3 drawing the arrows
-/
import TransitionDiagram.Proofs.SceneFit

namespace TransitionDiagram

open OnGrid

variable {α σ : Type}

/-! ## §1 What is to be drawn -/

/-- The states with the places that the map gives them. -/
def NodeMap.places (m : NodeMap α) : List (String × Point α) :=
  m.entries.map fun entry => (entry.1, entry.2.position)

theorem NodeMap.lookup_places (m : NodeMap α) (id : String) :
    m.places.lookup id = (m.get? id).map (·.position) :=
  lookup_map (·.position) m.entries

theorem NodeMap.map_fst_places (m : NodeMap α) : m.places.map Prod.fst = m.ids := by
  rw [places, List.map_map]; rfl

theorem Sketch.Lists.places [Scalar α] {k : Sketch α} {m : NodeMap α} (lists : k.Lists m) :
    m.places = k.states.map fun x => (x.node.id, x.node.position) := by
  rw [NodeMap.places, lists.entries, List.map_map]; rfl

/-- An arrow as it is drawn: the number of its transition, its start, and the way from there. -/
structure Drawing (α : Type) where
  number : Nat
  start : Point α
  way : Point α

/-- How an arrow of a sketch is drawn. -/
def ShownArrow.drawing (x : ShownArrow α) : Drawing α where
  number := x.arrow.transition
  start := x.place
  way := x.vector

/-- A transition has an end that has no node. -/
def Machine.Dangles (machine : Machine) (ids : List String) : Prop :=
  ∃ t ∈ machine.transitions, ∃ id ∈ t.endpoints, id ∉ ids

/-- An end of a transition is where its node is, if it has one. -/
theorem Scene.positionOf_ends {β : Type} {scene : Scene α σ} {id : String}
    {f : Point α → Action α (Scene α σ) β} {good : β → Scene α σ → Prop} {bad : Scene α σ → Prop}
    (found : ∀ p, scene.nodes.places.lookup id = some p → Ends (f p scene) good bad)
    (absent : id ∉ scene.nodes.ids → bad scene) :
    Ends ((Scene.positionOf id >>= f) scene) good bad := by
  refine Ends.bind ?_
  unfold Scene.positionOf
  refine Ends.bind (Ends.get ?_)
  cases there : scene.nodes.get? id with
  | none =>
    refine absent fun mem => ?_
    have listed := NodeMap.lookup_isSome_iff.mpr mem
    rw [NodeMap.get?] at there
    rw [there] at listed
    contradiction
  | some node =>
    refine found node.position ?_
    rw [NodeMap.lookup_places, there]; rfl

variable [Scalar α]

/-- What is to be drawn for a transition, if both its ends have places. -/
def Transition.drawing? (t : Transition) (places : List (String × Point α)) (number : Nat) :
    Option (Drawing α) := do
  let source ← places.lookup t.source
  let target ← places.lookup t.target
  return { number, start := source, way := { x := target.x - source.x, y := target.y - source.y } }

theorem Transition.drawing?_eq_some_iff {t : Transition} {places : List (String × Point α)}
    {number : Nat} {d : Drawing α} :
    t.drawing? places number = some d ↔ ∃ source target, places.lookup t.source = some source ∧
      places.lookup t.target = some target ∧
      d = {
        number
        start := source
        way := { x := target.x - source.x, y := target.y - source.y } } := by
  unfold drawing?
  cases places.lookup t.source with
  | none => simp
  | some source =>
    cases places.lookup t.target with
    | none => simp
    | some target => simp [eq_comm]

/-- What is drawn for a transition is a line between the circles of its ends. -/
theorem ShownArrow.cell_of_drawing {x : ShownArrow α} {t : Transition} {m : NodeMap α}
    {number : Nat} (drawing : some x.drawing = t.drawing? m.places number) :
    x.arrow.transition = number ∧ ∃ source target, m.get? t.source = some source ∧
      m.get? t.target = some target ∧ x.cell = (x.arrow.handle,
        { content := .shape (.line
            { x := target.position.x - source.position.x
              y := target.position.y - source.position.y } Scene.arrowStroke)
          position := source.position
          children := [] }) := by
  obtain ⟨start, finish, source_place, target_place, drawn⟩ :=
    Transition.drawing?_eq_some_iff.mp drawing.symm
  rw [NodeMap.lookup_places] at source_place target_place
  obtain ⟨source, source_there, rfl⟩ := Option.map_eq_some_iff.mp source_place
  obtain ⟨target, target_there, rfl⟩ := Option.map_eq_some_iff.mp target_place
  rw [ShownArrow.drawing, Drawing.mk.injEq] at drawn
  obtain ⟨number_eq, place_eq, vector_eq⟩ := drawn
  refine ⟨number_eq, source, target, source_there, target_there, ?_⟩
  rw [cell, vector_eq, place_eq]

/-- What is to be drawn for the transitions of a machine. -/
def Machine.drawings (machine : Machine) (places : List (String × Point α)) :
    List (Option (Drawing α)) :=
  machine.transitions.zipIdx.map fun (t, number) => t.drawing? places number

theorem Machine.length_drawings {machine : Machine} {places : List (String × Point α)} :
    (machine.drawings places).length = machine.transitions.length := by
  rw [drawings, List.length_map, List.length_zipIdx]

theorem Machine.getElem?_drawings {machine : Machine} {places : List (String × Point α)}
    {number : Nat} {t : Transition} (there : machine.transitions[number]? = some t) :
    (machine.drawings places)[number]? = some (t.drawing? places number) := by
  simp [drawings, there]

namespace Scene

/-! ## §2 Removing -/

variable [DrawingSurface α σ] [OnGrid α σ] {scene : Scene α σ} {k : Sketch α} {spare : Nat}

/-- Only arrows differ, and nodes beneath. -/
structure SameStates (scene scene' : Scene α σ) : Prop where
  layout : scene'.layout = scene.layout
  layer : scene'.arrowLayer = scene.arrowLayer
  nodes : scene'.nodes = scene.nodes
  only : OnlyNodes scene.surface scene'.surface

namespace SameStates

variable {scene' scene'' : Scene α σ}

theorem trans (first : scene.SameStates scene') (second : scene'.SameStates scene'') :
    scene.SameStates scene'' where
  layout := second.layout.trans first.layout
  layer := second.layer.trans first.layer
  nodes := second.nodes.trans first.nodes
  only := first.only.trans second.only

theorem keeps (same : scene.SameStates scene') : scene.Keeps scene' :=
  .of_onlyNodes same.layout same.only

end SameStates

/-- Removing one line takes its arrow out of the sketch, wherever in the layer it is. -/
theorem removeArrow_ends {s : σ} {before after : List (ShownArrow α)} {x : ShownArrow α}
    (holds : (grid s).nodes.Holds { k with arrows := before ++ x :: after }.cells spare) :
    Ends (DrawingSurface.removeChild k.layer x.arrow.handle s)
      (fun _ s' => OnlyNodes s s' ∧
        (grid s').nodes.Holds { k with arrows := before ++ after }.cells spare)
      (Refused .removeChild s) := by
  have order := Sketch.cells_perm_arrow k before after x
  have listed : x.arrow.handle ∈ { k with arrows := before ++ x :: after }.layerNode.children := by
    simp [Sketch.layerNode]
  have bare : x.cell.2.children = ([] : List (Handle × SceneNode α)).map Prod.fst := rfl
  refine (removeChild_ends listed bare (by simp) (holds.perm order)).imp ?_
    (fun _ refused => refused)
  intro _ s' good
  obtain ⟨only, holds'⟩ := good
  rw [Sketch.erase_layerNode holds] at holds'
  exact ⟨only, holds'.perm (.swap _ _ _)⟩

theorem removeArrows_ends (certain : ¬ mayRefuse scene.surface .removeChild)
    (fits : scene.Fits k spare) :
    Ends (removeArrows scene)
      (fun _ scene' => scene.SameStates scene' ∧ scene'.Fits { k with arrows := [] } spare)
      (fun _ => False) := by
  unfold removeArrows
  refine Ends.bind (Ends.get (Ends.bind (Ends.set ?_)))
  -- the surface still has the arrows that remain to be removed, and the scene has none
  let inv := fun (items : List Arrow) (scene' : Scene α σ) =>
    ∃ rest : List (ShownArrow α), items = rest.map (·.arrow) ∧ scene.SameStates scene' ∧
      scene'.arrows = [] ∧
      (grid scene'.surface).nodes.Holds { k with arrows := rest }.cells spare
  have round : ∀ arrow rest scene', inv (arrow :: rest) scene' →
      Ends (onSurface (DrawingSurface.removeChild scene.arrowLayer arrow.handle) scene')
        (fun _ scene'' => inv rest scene'') (fun _ => False) := by
    intro arrow items scene' kept
    obtain ⟨drawn, listed, same, none_left, holds⟩ := kept
    obtain ⟨x, rest, rfl, rfl, rfl⟩ := List.map_eq_cons_iff.mp listed.symm
    have certain' : ¬ mayRefuse scene'.surface .removeChild := by
      rw [same.only.mayRefuse]; exact certain
    rw [fits.layer]
    rw [← List.nil_append (x :: rest)] at holds
    refine onSurface_ends ((removeArrow_ends holds).imp ?_ ?_)
    · intro _ s good
      obtain ⟨only, holds'⟩ := good
      exact ⟨rest, rfl, same.trans ⟨rfl, rfl, rfl, only⟩, none_left, holds'⟩
    · exact fun _ refused => certain' refused.allowed
  have start : inv scene.arrows { scene with arrows := [] } :=
    ⟨k.arrows, fits.arrows, ⟨rfl, rfl, rfl, .refl _⟩, rfl, fits.holds⟩
  refine (Ends.forM round _ _ start).imp ?_ (fun _ => False.elim)
  intro _ scene' good
  obtain ⟨rest, listed, same, none_left, holds⟩ := good
  rw [List.map_eq_nil_iff.mp listed.symm] at holds
  refine ⟨same, same.layer.trans fits.layer, ?_, none_left, holds⟩
  rw [same.nodes]; exact ⟨fits.lists.entries, fits.lists.widths⟩

/-! ## §3 Drawing -/

/-- Why drawing arrows may end with a fault. -/
def DrawingFails (scene : Scene α σ) (machine : Machine) : Prop :=
  scene.MayFail ∨ machine.Dangles scene.nodes.ids

/-- A scene after an arrow was not drawn. What there is of its line is spare. -/
structure Undrawn (k : Sketch α) (t : Transition) (scene scene' : Scene α σ) : Prop where
  same : scene.SameStates scene'
  arrows : scene'.arrows = scene.arrows
  holds : ∃ spare, (grid scene'.surface).nodes.Holds k.cells spare
  cause : scene.MayFail ∨ ∃ id ∈ t.endpoints, id ∉ scene.nodes.ids

/-- A line that is not an arrow yet is spare. -/
theorem undrawn_of_refused {t : Transition} {call : SurfaceCall} {line : Handle × SceneNode α}
    {s s' : σ} (only : OnlyNodes scene.surface s)
    (holds : (grid s).nodes.Holds (line :: k.cells) spare) (refused : Refused call s s') :
    Undrawn k t scene { scene with surface := s' } := by
  have allowed : mayRefuse scene.surface call := by
    rw [← only.mayRefuse]; exact refused.allowed
  refine ⟨⟨rfl, rfl, rfl, only.trans refused.only⟩, rfl, ⟨spare + 1, ?_⟩, .inl ⟨call, allowed⟩⟩
  rw [refused.nodes]; exact holds.forget

/-- The arrow of a transition is drawn behind those that are drawn already. The layer may have
lines that the scene does not list. -/
theorem addArrow_draws (t : Transition) (number : Nat) (at_layer : scene.arrowLayer = k.layer)
    (holds : (grid scene.surface).nodes.Holds k.cells spare) :
    Ends (addArrow t number scene)
      (fun _ scene' => ∃ x : ShownArrow α,
        some x.drawing = t.drawing? scene.nodes.places number ∧ scene.SameStates scene' ∧
        scene'.arrows = scene.arrows ++ [x.arrow] ∧
        (grid scene'.surface).nodes.Holds { k with arrows := k.arrows ++ [x] }.cells spare)
      (Undrawn k t scene) := by
  have unchanged : ∀ id ∈ t.endpoints, id ∉ scene.nodes.ids → Undrawn k t scene scene :=
    fun id mem absent => ⟨⟨rfl, rfl, rfl, .refl _⟩, rfl, ⟨spare, holds⟩, .inr ⟨id, mem, absent⟩⟩
  unfold addArrow
  refine positionOf_ends ?_ (unchanged _ (Transition.mem_endpoints.mpr (.inl rfl)))
  intro source source_place
  refine positionOf_ends ?_ (unchanged _ (Transition.mem_endpoints.mpr (.inr rfl)))
  intro target target_place
  refine Ends.bind (Ends.get (Ends.bind (onSurface_ends (Ends.modifyGet ?_))))
  let line : Shape α := .line (source.deltaTo target) arrowStroke
  obtain ⟨only₁, holds₁⟩ := createNode_holds line holds
  generalize (DrawingSurface.createNode line scene.surface).1 = handle at *
  generalize (DrawingSurface.createNode line scene.surface).2 = s₁ at *
  refine Ends.bind (onSurface_ends ((setPosition_ends source holds₁).imp ?_
    (fun _ => undrawn_of_refused only₁ holds₁)))
  intro _ s₂ good
  obtain ⟨only₂, holds₂⟩ := good
  have only := only₁.trans only₂
  let x : ShownArrow α :=
    { arrow := { handle, transition := number }, place := source, vector := source.deltaTo target }
  -- the layer is needed first to attach the line, which is the last child then
  have order : (x.cell :: k.cells).Perm
      ((scene.arrowLayer, k.layerNode) :: x.cell :: (GridSurface.root, k.top) :: k.parts) := by
    rw [at_layer]
    exact (List.Perm.cons _ (.swap _ _ _)).trans (.swap _ _ _)
  refine Ends.bind (onSurface_ends ((addChild_ends holds₂.get_head (holds₂.perm order)).imp ?_
    (fun _ => undrawn_of_refused only holds₂)))
  intro _ s₃ good
  obtain ⟨only₃, holds₃⟩ := good
  rw [at_layer] at holds₃
  refine Ends.modifyGet ⟨x, ?_, ⟨rfl, rfl, rfl, only.trans only₃⟩, rfl,
    Sketch.holds_addArrow holds₃⟩
  rw [Transition.drawing?, source_place, target_place]; rfl

/-- The arrows of all transitions are drawn, or those of some of the first ones. -/
theorem addArrows_draw (machine : Machine) (at_layer : scene.arrowLayer = k.layer)
    (holds : (grid scene.surface).nodes.Holds k.cells spare) :
    Ends ((machine.transitions.zipIdx.forM fun (t, number) => addArrow t number :
        Action α (Scene α σ) PUnit) scene)
      (fun _ scene' => ∃ drawn : List (ShownArrow α),
        drawn.map (some ·.drawing) = machine.drawings scene.nodes.places ∧
        scene.SameStates scene' ∧ scene'.arrows = scene.arrows ++ drawn.map (·.arrow) ∧
        (grid scene'.surface).nodes.Holds { k with arrows := k.arrows ++ drawn }.cells spare)
      (fun scene' => ∃ (drawn : List (ShownArrow α)) (spare' : Nat),
        scene.SameStates scene' ∧ scene'.arrows = scene.arrows ++ drawn.map (·.arrow) ∧
        (grid scene'.surface).nodes.Holds { k with arrows := k.arrows ++ drawn }.cells spare' ∧
        scene.DrawingFails machine) := by
  -- the arrows drawn so far are those of the transitions that are done
  let inv := fun (items : List (Transition × Nat)) (scene' : Scene α σ) =>
    ∃ (done : List (Transition × Nat)) (drawn : List (ShownArrow α)),
      done ++ items = machine.transitions.zipIdx ∧
      drawn.map (some ·.drawing) = done.map (fun (t, n) => t.drawing? scene.nodes.places n) ∧
      scene.SameStates scene' ∧ scene'.arrows = scene.arrows ++ drawn.map (·.arrow) ∧
      (grid scene'.surface).nodes.Holds { k with arrows := k.arrows ++ drawn }.cells spare
  have round : ∀ item rest scene', inv (item :: rest) scene' →
      Ends (addArrow item.1 item.2 scene') (fun _ scene'' => inv rest scene'')
        (fun scene'' => ∃ (drawn : List (ShownArrow α)) (spare' : Nat),
          scene.SameStates scene'' ∧ scene''.arrows = scene.arrows ++ drawn.map (·.arrow) ∧
          (grid scene''.surface).nodes.Holds { k with arrows := k.arrows ++ drawn }.cells spare' ∧
          scene.DrawingFails machine) := by
    intro item rest scene' kept
    obtain ⟨t, number⟩ := item
    obtain ⟨done, drawn, split, drawings, same, arrows, holds'⟩ := kept
    refine (addArrow_draws (k := { k with arrows := k.arrows ++ drawn }) t number
      (same.layer.trans at_layer) holds').imp ?_ ?_
    · intro _ scene'' good
      obtain ⟨x, drawing, same', arrows', holds''⟩ := good
      refine ⟨done ++ [(t, number)], drawn ++ [x], by simp [split], ?_, same.trans same', ?_, ?_⟩
      · rw [List.map_append, List.map_append, drawings, List.map_singleton, List.map_singleton,
          drawing, same.nodes]
      · simp [arrows', arrows]
      · simpa using holds''
    · intro scene'' undrawn
      obtain ⟨same', arrows', ⟨spare', holds''⟩, cause⟩ := undrawn
      refine ⟨drawn, spare', same.trans same', arrows'.trans arrows, holds'', ?_⟩
      rcases cause with fails | ⟨id, mem, absent⟩
      · exact .inl (same.keeps.mayFail fails)
      · have listed : (t, number) ∈ machine.transitions.zipIdx := by simp [← split]
        exact .inr ⟨t, List.fst_mem_of_mem_zipIdx listed, id, mem, same.nodes ▸ absent⟩
  have start : inv machine.transitions.zipIdx scene :=
    ⟨[], [], rfl, rfl, ⟨rfl, rfl, rfl, .refl _⟩, by simp, by simpa using holds⟩
  refine (Ends.forM round _ _ start).imp ?_ (fun _ failed => failed)
  intro _ scene' good
  obtain ⟨done, drawn, split, drawings, same, arrows, holds'⟩ := good
  rw [List.append_nil] at split
  exact ⟨drawn, by rw [drawings, split, Machine.drawings], same, arrows, holds'⟩

/-- The arrows are those of the transitions of the machine, in order. -/
theorem rebuildArrows_ends (machine : Machine) (certain : ¬ mayRefuse scene.surface .removeChild)
    (fits : scene.Fits k spare) :
    Ends (rebuildArrows machine scene)
      (fun count scene' => ∃ drawn : List (ShownArrow α),
        drawn.map (some ·.drawing) = machine.drawings scene.nodes.places ∧
        count = machine.transitions.length ∧ scene.SameStates scene' ∧
        scene'.Fits { k with arrows := drawn } spare)
      (Broken k (scene.DrawingFails machine) scene) := by
  unfold rebuildArrows
  refine (removeArrows_ends certain fits).andThen ?_ (fun _ => False.elim)
  intro _ scene₁ good
  obtain ⟨same₁, fits₁⟩ := good
  have fits_of : ∀ {scene' drawn spare'}, scene.SameStates scene' →
      scene'.arrows = scene₁.arrows ++ drawn.map (·.arrow) →
      (grid scene'.surface).nodes.Holds { k with arrows := [] ++ drawn }.cells spare' →
      scene'.Fits { k with arrows := drawn } spare' := fun same arrows holds =>
    ⟨same.layer.trans fits.layer, ⟨same.nodes ▸ fits.lists.entries, fits.lists.widths⟩,
      by simp [arrows, fits₁.arrows], holds⟩
  refine (addArrows_draw machine fits₁.layer fits₁.holds).andThen ?_ ?_
  · intro _ scene' good
    obtain ⟨drawn, drawings, same', arrows, holds⟩ := good
    rw [same₁.nodes] at drawings
    have same := same₁.trans same'
    refine Ends.bind (Ends.get ⟨drawn, drawings, ?_, same, fits_of same arrows holds⟩)
    have lengths := congrArg List.length drawings
    rw [List.length_map, Machine.length_drawings] at lengths
    rw [(fits_of same arrows holds).arrows, List.length_map, lengths]
  · intro scene' bad
    obtain ⟨drawn, spare', same', arrows, holds, cause⟩ := bad
    have same := same₁.trans same'
    refine .of_onlyNodes same.layout same.only (fits_of same arrows holds) rfl ?_
    rcases cause with fails | dangles
    · exact .inl (same₁.keeps.mayFail fails)
    · exact .inr (same₁.nodes ▸ dangles)

end Scene

end TransitionDiagram
