/-
TransitionDiagram.Proofs.Portrait: the picture as a function of what is shown.

What a pass leaves on the canvas depends on the settings of the picture and of the layout, on the
names of the states in their order, and on the ends of the transitions in theirs. `portrait` draws
it from nothing else. So neither handles nor spare nodes, neither old places nor an old template,
and nothing that was on the canvas before shows in the picture of a pass that went through.

  §1 portraits
  §2 what a pass draws
  §3 pictures forget their history
-/
import TransitionDiagram.Proofs.FaultFree
import TransitionDiagram.Render

namespace TransitionDiagram

open OnGrid

variable {α σ : Type}

/-- The ends of the transitions of a machine, in order. -/
def Machine.pairs (machine : Machine) : List (String × String) :=
  machine.transitions.map fun t => (t.source, t.target)

variable [Scalar α]

namespace Portrait

/-! ## §1 Portraits -/

/-- Where the root of a fresh surface is. -/
def top : Point α where
  x := Scalar.ofInt 0 + Scalar.ofInt 0
  y := Scalar.ofInt 0 + Scalar.ofInt 0

/-- The line between two states, if both have places. -/
def line? (places : List (String × Point α)) (pair : String × String) : Option (Visit α) := do
  let source ← places.lookup pair.1
  let target ← places.lookup pair.2
  return {
    content := .shape (.line { x := target.x - source.x, y := target.y - source.y }
      Scene.arrowStroke)
    position := {
      x := top.x + Scalar.ofInt 0 + source.x
      y := top.y + Scalar.ofInt 0 + source.y } }

/-- The group, the circle and the label of a state at its place. -/
def circle (place : String × Point α) : List (Visit α) :=
  let middle := top.offset place.2
  [{ content := .group, position := middle },
    { content := .shape .circle, position := middle.offset .origin },
    { content := .text place.1 (Cell.labelWidth place.1), position := middle.offset .origin }]

/-- Where the circle and the label of a state are, if its group is at the given place. -/
def middle (place : Point α) : Point α where
  x := top.x + place.x + Scalar.ofInt 0
  y := top.y + place.y + Scalar.ofInt 0

/-- A state has the marks of its circle, and then those of its label. -/
theorem marks_circle (glyphs : Mark.Glyphs) (template : CircleTemplate α)
    (place : String × Point α) :
    (circle place).flatMap (·.marks glyphs template) =
      Mark.ofCircle glyphs (middle place.2) template.radius ++
        Mark.ofCenteredText (Cell.column (middle place.2).x) (Cell.row (middle place.2).y)
          place.1 := by
  simp only [circle, List.flatMap_cons, List.flatMap_nil, Visit.marks, List.nil_append,
    List.append_nil]
  rfl

/-- What a picture consists of: lines between places beneath circles at all places. -/
def visits (places : List (String × Point α)) (pairs : List (String × String)) :
    List (Visit α) :=
  { content := .group, position := top } ::
    ({ content := .group, position := top.offset .origin } :: pairs.filterMap (line? places) ++
      places.flatMap circle)

/-- The surface on which a picture with the given states is drawn. -/
def surface (config : PictureConfig α) (layout : Layout α) (ids : List String) : GridSurface α :=
  match layout.radiusOf? ids with
  | none => .new config
  | some radius => { GridSurface.new config with template := .ofRadius radius }

end Portrait

/-- The picture of some states and of lines between them. -/
def portrait (config : PictureConfig α) (layout : Layout α) (ids : List String)
    (pairs : List (String × String)) : Canvas :=
  (Portrait.surface config layout ids).draw (GridSurface.new config).canvas
    (Portrait.visits (layout.seats config.size.width ids) pairs)

/-! ## §2 What a pass draws -/

/-- Drawing takes from a surface only its characters and its template. -/
theorem GridSurface.draw_congr {s s' : GridSurface α} (config : s.config = s'.config)
    (template : s.template = s'.template) (canvas : Canvas) (visits : List (Visit α)) :
    s.draw canvas visits = s'.draw canvas visits := by
  unfold draw
  rw [config, template]

theorem Portrait.draw_no_places (s : GridSurface α) (canvas : Canvas)
    (pairs : List (String × String)) : s.draw canvas (visits [] pairs) = canvas := by
  have no_lines : pairs.filterMap (line? ([] : List (String × Point α))) = [] := by
    rw [List.filterMap_eq_nil_iff]
    intro pair _
    rfl
  rw [visits, no_lines]
  rfl

namespace Scene

variable [DrawingSurface α σ] [OnGrid α σ] {scene scene' : Scene α σ} {k k' : Sketch α}
  {machine : Machine} {stats : PassStats α}

theorem Passed.lines_eq (passed : Passed k machine scene scene' stats k') :
    k'.arrows.map (ShownArrow.visit (Portrait.top.offset .origin)) =
      machine.pairs.filterMap (Portrait.line? scene'.nodes.places) := by
  let line := fun d : Drawing α => ({
    content := .shape (.line d.way arrowStroke)
    position := (Portrait.top.offset .origin).offset d.start } : Visit α)
  let places := scene'.nodes.places
  have each : ∀ item : Transition × Nat, (item.1.drawing? places item.2).map line =
      Portrait.line? places (item.1.source, item.1.target) := by
    intro item
    unfold Transition.drawing? Portrait.line?
    cases places.lookup item.1.source with
    | none => rfl
    | some source => cases places.lookup item.1.target <;> rfl
  calc k'.arrows.map (ShownArrow.visit (Portrait.top.offset .origin))
    _ = (k'.arrows.map (some ·.drawing)).filterMap (Option.map line) := by
      rw [List.filterMap_map, ← List.filterMap_eq_map]; rfl
    _ = (machine.drawings places).filterMap (Option.map line) := by rw [passed.drawings]
    _ = machine.transitions.zipIdx.filterMap fun item =>
        Portrait.line? places (item.1.source, item.1.target) := by
      rw [Machine.drawings, List.filterMap_map]
      exact List.filterMap_congr fun item _ => each item
    _ = (machine.transitions.zipIdx.map Prod.fst).filterMap fun t =>
        Portrait.line? places (t.source, t.target) := by rw [List.filterMap_map]; rfl
    _ = machine.pairs.filterMap (Portrait.line? places) := by
      rw [List.zipIdx_map_fst, Machine.pairs, List.filterMap_map]; rfl

/-- What shows the states of a sketch consists of the circles at their places. -/
theorem Passed.circles_eq (passed : Passed k machine scene scene' stats k')
    (lists : k'.Lists scene'.nodes) : k'.states.flatMap (ShownState.visits Portrait.top) =
      scene'.nodes.places.flatMap Portrait.circle := by
  rw [lists.places, List.flatMap_map]
  refine List.flatMap_congr fun x listed => ?_
  rw [ShownState.visits, passed.settled x listed, lists.widths x listed]
  rfl

/-- A pass below a fresh root meets what the portrait of its states and transitions consists of. -/
theorem Passed.visits_eq (passed : Passed k machine scene scene' stats k')
    (lists : k'.Lists scene'.nodes) (base : k.base = GridSurface.freshNode .group) :
    k'.visits = Portrait.visits scene'.nodes.places machine.pairs := by
  rw [Portrait.visits, ← passed.lines_eq, ← passed.circles_eq lists, Sketch.visits, passed.base,
    base]
  rfl

/-- The canvas after a pass is the portrait of its states and transitions. -/
theorem Passed.canvas_eq {config : PictureConfig α} {layout : Layout α}
    (passed : Passed k machine scene scene' stats k') (lists : k'.Lists scene'.nodes)
    (base : k.base = GridSurface.freshNode .group) (keeps : scene.Keeps scene')
    (layout_eq : scene.layout = layout) (config_eq : (grid scene.surface).config = config)
    (wiped : (grid scene.surface).canvas.wipe = (GridSurface.new config).canvas) :
    (grid scene'.surface).canvas =
      portrait config layout scene'.nodes.ids machine.pairs := by
  have places : scene'.nodes.places = layout.seats config.size.width scene'.nodes.ids := by
    rw [passed.places, passed.ids, layout_eq, edge, config_eq]
  have radius : stats.radius = layout.radiusOf? scene'.nodes.ids := by
    rw [passed.radius, passed.ids, layout_eq]
  rw [passed.canvas, wiped, passed.visits_eq lists base, places, portrait, Portrait.surface]
  cases h : layout.radiusOf? scene'.nodes.ids with
  | none =>
    have no_places : layout.seats config.size.width scene'.nodes.ids = [] := by
      rw [Layout.seats, h]
    rw [no_places, Portrait.draw_no_places, Portrait.draw_no_places]
  | some r =>
    refine GridSurface.draw_congr ?_ ?_ _ _
    · rw [keeps.config, config_eq]; rfl
    · exact passed.template r (radius.trans h)

/-! ## §3 Pictures forget their history -/

/-- What a run on a surface that was fresh keeps, apart from the states and arrows shown. -/
structure Steady (config : PictureConfig α) (layout : Layout α) (scene : Scene α σ) : Prop where
  hasLayout : scene.layout = layout
  hasConfig : (grid scene.surface).config = config
  wiped : (grid scene.surface).canvas.wipe = (GridSurface.new config).canvas
  certain : ¬ mayRefuse scene.surface .removeChild
  inStep : scene.InStep (GridSurface.freshNode .group)

namespace Steady

variable {config : PictureConfig α} {layout : Layout α}

theorem of_keeps (steady : scene.Steady config layout) (keeps : scene.Keeps scene')
    (inStep : scene'.InStep (GridSurface.freshNode .group)) : scene'.Steady config layout where
  hasLayout := keeps.layout.trans steady.hasLayout
  hasConfig := keeps.config.trans steady.hasConfig
  wiped := keeps.wiped.trans steady.wiped
  certain := by rw [keeps.mayRefuse]; exact steady.certain
  inStep := inStep

theorem run (steady : scene.Steady config layout) (calls : List Call) :
    (scene.run calls).Steady config layout := by
  obtain ⟨keeps, inStep⟩ := run_inStep steady.certain steady.inStep calls
  exact steady.of_keeps keeps inStep

theorem of_new {surface : σ} (fresh : grid surface = GridSurface.new config)
    (certain : ¬ mayRefuse surface .removeChild) (made : Scene.new surface layout = .ok scene) :
    scene.Steady config layout ∧ scene.nodes.ids = [] := by
  have holds : (grid surface).nodes.Holds [(GridSurface.root, GridSurface.freshNode .group)] 0 := by
    rw [fresh]; exact new_holds config
  obtain ⟨layout_eq, only, layer, fits⟩ := isNew_of_new rfl holds made
  have keeps_grid := only.grid
  rw [fresh] at keeps_grid
  refine ⟨⟨layout_eq, ?_, ?_, ?_, _, 0, rfl, fits⟩, fits.lists.ids⟩
  · rw [keeps_grid]; rfl
  · rw [keeps_grid]; exact Canvas.wipe_blank _ _
  · rw [only.mayRefuse]; exact certain

/-- The sketches before and after a pass that went through. -/
theorem exists_sketches (steady : scene.Steady config layout)
    (ended : render machine scene = .ok stats scene') :
    ∃ k k' spare, k.base = GridSurface.freshNode .group ∧ scene.Fits k spare ∧
      Passed k machine scene scene' stats k' ∧ scene.Keeps scene' ∧ scene'.Fits k' spare := by
  obtain ⟨k, spare, base, fits⟩ := steady.inStep
  obtain ⟨k', passed, keeps, fits'⟩ := (render_ends machine steady.certain fits).of_ok ended
  exact ⟨k, k', spare, base, fits, passed, keeps, fits'⟩

/-- After a pass that went through, the canvas is the portrait of what is shown. -/
theorem rendered (steady : scene.Steady config layout)
    (ended : render machine scene = .ok stats scene') :
    scene'.Steady config layout ∧
      scene'.nodes.ids = machine.shown scene.nodes.ids ∧
      scene'.arrows.length = machine.transitions.length ∧
      (grid scene'.surface).canvas = portrait config layout scene'.nodes.ids machine.pairs := by
  obtain ⟨k, k', spare, base, -, passed, keeps, fits'⟩ := steady.exists_sketches ended
  refine ⟨steady.of_keeps keeps ⟨k', spare, passed.base.trans base, fits'⟩, passed.ids, ?_, ?_⟩
  · rw [fits'.arrows, List.length_map, passed.length_arrows]
  · exact passed.canvas_eq fits'.lists base keeps steady.hasLayout steady.hasConfig steady.wiped

/-- After a pass that went through, the states of the machine are shown, each of them once. -/
theorem rendered_perm (steady : scene.Steady config layout)
    (ended : render machine scene = .ok stats scene') (nodup : machine.states.Nodup) :
    scene'.nodes.ids.Perm machine.states := by
  obtain ⟨-, ids, -, -⟩ := steady.rendered ended
  refine NodeMap.perm_of_mem_iff nodup fun id => ?_
  rw [ids, Machine.mem_shown]

/-- After a pass that went through, the map has the states where the layout puts them. -/
theorem rendered_places (steady : scene.Steady config layout)
    (ended : render machine scene = .ok stats scene') :
    scene'.nodes.places = layout.seats config.size.width scene'.nodes.ids := by
  obtain ⟨k, k', spare, -, -, passed, -⟩ := steady.exists_sketches ended
  rw [passed.places, passed.ids, steady.hasLayout, edge, steady.hasConfig]

/-- After a pass that failed, the canvas is blank, or only circles were added. -/
theorem failed {fault : Fault α} (steady : scene.Steady config layout)
    (ended : render machine scene = .error fault scene') :
    scene'.Steady config layout ∧ scene.Drifts scene' := by
  obtain ⟨k, spare, base, fits⟩ := steady.inStep
  have failed := (render_ends machine steady.certain fits).of_error ended
  obtain ⟨k', spare', base', fits'⟩ := failed.fits
  exact ⟨steady.of_keeps failed.keeps ⟨k', spare', base'.trans base, fits'⟩, failed.drifts⟩

theorem rendered_same (steady : scene.Steady config layout)
    (ended : render machine scene = .ok stats scene')
    (same : ∀ id, id ∈ scene.nodes.ids ↔ id ∈ machine.states) :
    scene'.nodes.nodes.map (fun node => (node.id, node.handle)) =
      scene.nodes.nodes.map fun node => (node.id, node.handle) := by
  obtain ⟨k, k', spare, -, fits, passed, -, fits'⟩ := steady.exists_sketches ended
  exact passed.same_handles fits.lists fits'.lists same

theorem exists_rendered (steady : scene.Steady config layout) (never : ¬ scene.MayFail)
    (wf : machine.WellFormed) : ∃ stats scene', render machine scene = .ok stats scene' ∧
      scene'.Steady config layout ∧ ¬ scene'.MayFail ∧
      scene'.nodes.ids = machine.shown scene.nodes.ids := by
  obtain ⟨k, spare, base, fits⟩ := steady.inStep
  obtain ⟨stats, scene', k', ended, -, -⟩ := exists_passed never wf fits
  obtain ⟨-, -, -, -, -, -, keeps, -⟩ := steady.exists_sketches ended
  obtain ⟨steady', ids, -, -⟩ := steady.rendered ended
  exact ⟨stats, scene', ended, steady', fun fails => never (keeps.mayFail fails), ids⟩

/-- If no call is refused, a run of passes shows the states in the order in which they came. -/
theorem run_renders (steady : scene.Steady config layout) (never : ¬ scene.MayFail)
    {machines : List Machine} (wf : ∀ m ∈ machines, m.WellFormed) :
    ¬ (scene.run (machines.map .render)).MayFail ∧
      (scene.run (machines.map .render)).nodes.ids =
        machines.foldl (fun ids m => m.shown ids) scene.nodes.ids := by
  induction machines generalizing scene with
  | nil => exact ⟨never, rfl⟩
  | cons m rest ih =>
    obtain ⟨wf_first, wf_rest⟩ := List.forall_mem_cons.mp wf
    obtain ⟨stats, scene', ended, steady', never', ids⟩ := steady.exists_rendered never wf_first
    have first : scene.after (.render m) = scene' := by rw [after, ended]; rfl
    rw [List.map_cons, Scene.run, List.foldl_cons, first, List.foldl_cons, ← ids]
    exact ih steady' never' wf_rest

end Steady

/-- On a fresh surface the picture of a machine is the portrait of its states in their order. -/
theorem picture_eq_portrait (config : PictureConfig α) (layout : Layout α)
    (wf : machine.WellFormed) :
    machine.picture config layout =
      .ok (portrait config layout (machine.shown []) machine.pairs).frame := by
  have fresh : (grid (GridSurface.new config)).nodes.Holds _ 0 := new_holds config
  rcases new_cases layout rfl fresh with ⟨start, made, isNew⟩ | ⟨-, -, refused⟩
  · obtain ⟨layer, fits⟩ := isNew.fits
    obtain ⟨stats, scene', ended, -, -⟩ := render_correct wf fits
    have beneath : grid (GridSurface.new config) = GridSurface.new config := rfl
    obtain ⟨steady, no_states⟩ := Steady.of_new beneath id made
    obtain ⟨-, ids, -, canvas⟩ := steady.rendered ended
    rw [no_states] at ids
    rw [ids] at canvas
    have drawn : scene'.surface.canvas = _ := canvas
    simp only [Machine.picture, made, bind, Except.bind, ended, GridSurface.frame, drawn]
  · exact refused.elim

/-- The scene is the outcome of a pass that went through, after any run of calls on a surface that
was fresh and refuses no removal. -/
def Shows (config : PictureConfig α) (layout : Layout α) (machine : Machine)
    (scene : Scene α (Unreliable (GridSurface α))) : Prop :=
  ∃ surface start calls stats, surface.inner = GridSurface.new config ∧
    (∀ made, surface.refuses .removeChild made = false) ∧
    Scene.new surface layout = .ok start ∧ render machine (start.run calls) = .ok stats scene

/-- A scene that shows a machine was left by a pass from a scene in step with its surface. -/
theorem Shows.exists_pass {config : PictureConfig α} {layout : Layout α}
    {scene : Scene α (Unreliable (GridSurface α))} (shows : scene.Shows config layout machine) :
    ∃ before stats, before.Steady config layout ∧ render machine before = .ok stats scene := by
  obtain ⟨surface, start, calls, stats, fresh, certain, made, ended⟩ := shows
  have beneath : grid surface = GridSurface.new config := fresh
  obtain ⟨steady, -⟩ := Steady.of_new beneath (not_mayRefuse_of_never certain) made
  exact ⟨start.run calls, stats, steady.run calls, ended⟩

/-- A scene that shows a machine has the portrait of its states and transitions on its canvas. -/
theorem Shows.steady {config : PictureConfig α} {layout : Layout α}
    {scene : Scene α (Unreliable (GridSurface α))} (shows : scene.Shows config layout machine) :
    scene.Steady config layout ∧ (∀ id, id ∈ scene.nodes.ids ↔ id ∈ machine.states) ∧
      scene.surface.inner.canvas = portrait config layout scene.nodes.ids machine.pairs := by
  obtain ⟨before, stats, steady, ended⟩ := shows.exists_pass
  obtain ⟨steady', ids, -, canvas⟩ := steady.rendered ended
  exact ⟨steady', fun id => by rw [ids, Machine.mem_shown], canvas⟩

/-- A scene that shows a machine has the states where the layout puts them. -/
theorem Shows.places {config : PictureConfig α} {layout : Layout α}
    {scene : Scene α (Unreliable (GridSurface α))} (shows : scene.Shows config layout machine) :
    scene.nodes.places = layout.seats config.size.width scene.nodes.ids := by
  obtain ⟨before, stats, steady, ended⟩ := shows.exists_pass
  exact steady.rendered_places ended

/-- The scene on the same surface, with another schedule of refusals from now on. -/
def refusing (scene : Scene α (Unreliable (GridSurface α))) (schedule : Schedule) :
    Scene α (Unreliable (GridSurface α)) :=
  { scene with surface := { scene.surface with refuses := schedule } }

theorem Steady.refusing {config : PictureConfig α} {layout : Layout α}
    {scene : Scene α (Unreliable (GridSurface α))} (steady : scene.Steady config layout)
    {schedule : Schedule} (certain : ∀ made, schedule .removeChild made = false) :
    (scene.refusing schedule).Steady config layout where
  hasLayout := steady.hasLayout
  hasConfig := steady.hasConfig
  wiped := steady.wiped
  certain := not_mayRefuse_of_never certain
  inStep := by
    obtain ⟨k, spare, base, fits⟩ := steady.inStep
    exact ⟨k, spare, base, fits.layer, fits.lists, fits.arrows, fits.holds⟩

/-- If no call is refused from now on, a pass for a well-formed machine goes through. -/
theorem Steady.exists_rendered_reliable {config : PictureConfig α} {layout : Layout α}
    {scene : Scene α (Unreliable (GridSurface α))} (steady : scene.Steady config layout)
    (wf : machine.WellFormed) :
    ∃ stats scene', render machine (scene.refusing fun _ _ => false) = .ok stats scene' := by
  have never : ¬ (scene.refusing fun _ _ => false).MayFail := by
    intro fails
    obtain ⟨call, refused⟩ := fails
    exact not_mayRefuse_of_never (fun _ => rfl) refused
  have steady' : (scene.refusing fun _ _ => false).Steady config layout :=
    steady.refusing fun _ => rfl
  obtain ⟨stats, scene', ended, -⟩ := steady'.exists_rendered never wf
  exact ⟨stats, scene', ended⟩

/-- Which picture a scene shows does not depend on how it came to show it. A pass for the same
machine changes neither the picture nor the nodes of the states, and a pass for a text after one
for no transitions shows what the text shows on a fresh surface. Both go through if no call is
refused. -/
theorem pictures_forget_history {config : PictureConfig α} {layout : Layout α}
    {machine₁ machine₂ : Machine} {scene₁ scene₂ : Scene α (Unreliable (GridSurface α))}
    (shows₁ : scene₁.Shows config layout machine₁)
    (shows₂ : scene₂.Shows config layout machine₂) :
    (machine₁.pairs = machine₂.pairs → scene₁.nodes.ids = scene₂.nodes.ids →
      scene₁.surface.inner.canvas = scene₂.surface.inner.canvas) ∧
    (∀ schedule, (∀ made, schedule .removeChild made = false) →
      (∀ stats scene, render machine₁ (scene₁.refusing schedule) = .ok stats scene →
        scene.surface.inner.canvas = scene₁.surface.inner.canvas ∧
        scene.nodes.nodes.map (fun node => (node.id, node.handle)) =
          scene₁.nodes.nodes.map fun node => (node.id, node.handle)) ∧
      (layout = .standard → machine₁.Built → machine₁.transitions = [] →
        ∀ text stats scene, render (.ofText text) (scene₁.refusing schedule) = .ok stats scene →
          TransitionDiagram.render config text = .ok scene.surface.inner.frame)) ∧
    (∀ machine : Machine, machine.Built →
      ∃ stats scene, render machine (scene₁.refusing fun _ _ => false) = .ok stats scene) := by
  obtain ⟨steady₁, same₁, canvas₁⟩ := shows₁.steady
  obtain ⟨-, -, canvas₂⟩ := shows₂.steady
  refine ⟨?_, ?_, ?_⟩
  · intro pairs ids
    rw [canvas₁, canvas₂, pairs, ids]
  · intro schedule certain
    have steady := steady₁.refusing certain
    refine ⟨?_, ?_⟩
    · intro stats scene ended
      obtain ⟨-, ids, -, canvas⟩ := steady.rendered ended
      replace ids : scene.nodes.ids = scene₁.nodes.ids :=
        ids.trans (Machine.shown_eq_self same₁)
      refine ⟨?_, steady.rendered_same ended same₁⟩
      rw [canvas₁, ← ids]; exact canvas
    · intro standard built no_transitions text stats scene ended
      subst standard
      obtain ⟨-, ids, -, canvas⟩ := steady.rendered ended
      have no_ids : scene₁.nodes.ids = [] := by
        rw [List.eq_nil_iff_forall_not_mem]
        intro id mem
        rw [same₁, built.wellFormed.states_eq_nil no_transitions] at mem
        exact List.not_mem_nil mem
      replace ids : scene.nodes.ids = (Machine.ofText text).shown [] := by
        rw [ids, ← no_ids]; rfl
      have wf : (Machine.ofText text).WellFormed := (Machine.Built.ofText text).wellFormed
      rw [ids] at canvas
      rw [TransitionDiagram.render, picture_eq_portrait config .standard wf, ← canvas]
      rfl
  · exact fun machine built => steady₁.exists_rendered_reliable built.wellFormed

/-- There is a scene on a fresh surface that refuses nothing. -/
theorem exists_unrefused (config : PictureConfig α) (layout : Layout α) :
    ∃ (surface : Unreliable (GridSurface α)) (start : Scene α (Unreliable (GridSurface α))),
      surface.inner = GridSurface.new config ∧
      (∀ made, surface.refuses .removeChild made = false) ∧
      Scene.new surface layout = .ok start ∧ start.Steady config layout ∧ ¬ start.MayFail ∧
      start.nodes.ids = [] := by
  let surface := Unreliable.ofSurface (GridSurface.new config)
  have never : ∀ call, ¬ mayRefuse surface call := fun call =>
    not_mayRefuse_of_never fun _ => rfl
  have beneath : grid surface = GridSurface.new config := rfl
  have holds : (grid surface).nodes.Holds [(GridSurface.root, GridSurface.freshNode .group)] 0 :=
    new_holds config
  rcases new_cases layout rfl holds with ⟨start, made, isNew⟩ | ⟨-, -, refused⟩
  · obtain ⟨steady, no_states⟩ := Steady.of_new beneath (never _) made
    refine ⟨surface, start, rfl, fun _ => rfl, made, steady, fun fails => ?_, no_states⟩
    obtain ⟨call, refused⟩ := fails
    rw [isNew.only.mayRefuse] at refused
    exact never call refused
  · exact absurd refused (never _)

/-- A scene that has shown other machines before, if no call was refused. -/
theorem exists_shows (config : PictureConfig α) (layout : Layout α) {before : List Machine}
    {machine : Machine} (wf : ∀ m ∈ machine :: before, m.WellFormed) :
    ∃ scene : Scene α (Unreliable (GridSurface α)), scene.Shows config layout machine ∧
      scene.nodes.ids = machine.shown (before.foldl (fun ids m => m.shown ids) []) := by
  obtain ⟨surface, start, fresh, certain, made, steady, never, no_states⟩ :=
    exists_unrefused config layout
  obtain ⟨wf_last, wf_before⟩ := List.forall_mem_cons.mp wf
  obtain ⟨never_run, ids⟩ := steady.run_renders never wf_before
  obtain ⟨stats, scene, ended, -, -, ids'⟩ := (steady.run _).exists_rendered never_run wf_last
  rw [ids, no_states] at ids'
  exact ⟨scene, ⟨surface, start, _, stats, fresh, certain, made, ended⟩, ids'⟩

/-- One scene shows two states at once, the other one after it has shown three others. -/
theorem pictures_forget_three_states :
    let config : PictureConfig Float := .standard
    let machine₁ := Machine.ofText "A->B: go"
    let machine₂ := Machine.ofText "A->B: go / halt"
    ∃ scene₁ scene₂ : Scene Float (Unreliable (GridSurface Float)),
      scene₁.Shows config .standard machine₁ ∧ scene₂.Shows config .standard machine₂ ∧
      machine₁.pairs = machine₂.pairs ∧ scene₁.nodes.ids = scene₂.nodes.ids ∧
      scene₁.surface.inner.canvas = scene₂.surface.inner.canvas := by
  intro config machine₁ machine₂
  have wf : ∀ text, (Machine.ofText text).WellFormed := fun text =>
    (Machine.Built.ofText text).wellFormed
  have wf₁ : ∀ m ∈ [machine₁], m.WellFormed := by simp [machine₁, wf]
  have wf₂ : ∀ m ∈ [machine₂, .ofText "C->D\nD->E"], m.WellFormed := by simp [machine₂, wf]
  obtain ⟨scene₁, shows₁, ids₁⟩ := exists_shows config .standard wf₁
  obtain ⟨scene₂, shows₂, ids₂⟩ := exists_shows config .standard wf₂
  have pairs : machine₁.pairs = machine₂.pairs := by decide +kernel
  have ids : scene₁.nodes.ids = scene₂.nodes.ids := by
    rw [ids₁, ids₂]
    decide +kernel
  exact ⟨scene₁, scene₂, shows₁, shows₂, pairs, ids,
    (pictures_forget_history shows₁ shows₂).1 pairs ids⟩

end Scene

end TransitionDiagram
