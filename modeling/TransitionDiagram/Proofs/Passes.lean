/-
TransitionDiagram.Proofs.Passes: what a pass does to a scene.

A pass matches the circles, blanks the canvas, puts the circles in their places, builds the arrows
anew, and draws the tree. If it goes through, the sketch of the scene is known: its states, where
they are, and its arrows; and the canvas is the blank one with the visits of the sketch drawn on
it. `Passed` says so, and what the pass reports. If it does not go through, some sketch still fits;
either the canvas is blank then, or new circles are all that was added.

  §1 blank canvases and drawing
  §2 the second half of a pass
  §3 passes that go through
  §4 every pass
-/
import TransitionDiagram.Proofs.Arrows
import TransitionDiagram.Proofs.Canvases
import TransitionDiagram.Proofs.Machines
import TransitionDiagram.Proofs.Places
import TransitionDiagram.Proofs.States

namespace TransitionDiagram

open OnGrid

/-! ## §1 Blank canvases and drawing -/

namespace Canvas

theorem wipe_set (canvas : Canvas) (mark : Mark) : (canvas.set mark).wipe = canvas.wipe := by
  unfold set
  split
  · simp only [wipe, mk.injEq, true_and]
    refine Array.ext (by simp) fun i hi hj => ?_
    simp only [Array.getElem_map, Array.getElem_modify]
    split <;> simp
  · rfl

theorem wipe_paint (canvas : Canvas) (marks : List Mark) :
    (canvas.paint marks).wipe = canvas.wipe := by
  unfold paint
  induction marks generalizing canvas with
  | nil => rfl
  | cons mark rest ih => rw [List.foldl_cons, ih, wipe_set]

theorem wipe_wipe (canvas : Canvas) : canvas.wipe.wipe = canvas.wipe := by
  simp [wipe]

theorem wipe_blank (width height : Nat) : (blank width height).wipe = blank width height := by
  simp [wipe, blank]

/-- Nothing but blanks is no picture. -/
theorem frame_blank (width height : Nat) : (blank width height).frame = "" := by
  have is_blank : Text.isBlank ' ' = true := by decide
  have visible : ' ' ≠ Mark.wideTail := by decide
  have row : rowText (Array.replicate (max 1 width) ' ') = [] := by
    simp [rowText, Text.trimEnd, visible, is_blank]
  have no_lines : (blank width height).frameLines = [] := by
    simp [frameLines, blank, row]
  rw [frame, no_lines]; rfl

end Canvas

variable {α σ : Type} [Scalar α]

/-- What is drawn for a node that shows something at a place: nothing for a group, a circle around
the place, a line from the place on, and a text with its middle there. -/
def Content.marksAt (glyphs : Mark.Glyphs) (radius : α) (place : Point α) :
    Content α → List Mark
  | .group => []
  | .shape .circle => Mark.ofCircle glyphs place radius
  | .shape (.line vector _) =>
    Mark.ofLine glyphs place { x := place.x + vector.x, y := place.y + vector.y }
  | .text label _ => Mark.ofCenteredText (Cell.column place.x) (Cell.row place.y) label

theorem Visit.marks_eq (glyphs : Mark.Glyphs) (template : CircleTemplate α) (v : Visit α) :
    v.marks glyphs template = v.content.marksAt glyphs template.radius v.position := by
  obtain ⟨content, place⟩ := v
  cases content with
  | group => rfl
  | shape s => cases s <;> rfl
  | text label width => rfl

namespace GridSurface

/-- Drawing is painting the marks of all that is met. -/
theorem draw_eq_paint (s : GridSurface α) (canvas : Canvas) (visits : List (Visit α)) :
    s.draw canvas visits =
      canvas.paint (visits.flatMap (·.marks s.config.style.glyphs s.template)) := by
  induction visits generalizing canvas with
  | nil => rfl
  | cons v rest ih =>
    rw [List.flatMap_cons, Canvas.paint_append, ← ih]
    rfl

theorem wipe_draw (s : GridSurface α) (canvas : Canvas) (visits : List (Visit α)) :
    (s.draw canvas visits).wipe = canvas.wipe := by
  rw [draw_eq_paint, Canvas.wipe_paint]

end GridSurface

/-! ## §2 The second half of a pass -/

namespace Scene

variable [DrawingSurface α σ] [OnGrid α σ] {scene scene' : Scene α σ} {k k' : Sketch α}
  {machine : Machine} {spare : Nat}

theorem clear_ends {bad : Scene α σ → Prop} (fits : scene.Fits k spare) :
    Ends ((modify fun scene => { scene with surface := DrawingSurface.clear scene.surface } :
        Action α (Scene α σ) PUnit) scene)
      (fun _ scene' => scene.Keeps scene' ∧ scene'.Fits k spare ∧
        scene'.nodes = scene.nodes ∧
        (grid scene'.surface).canvas = (grid scene.surface).canvas.wipe) bad := by
  have becomes := OnGrid.clear scene.surface
  have beneath : grid (DrawingSurface.clear scene.surface) =
      { grid scene.surface with canvas := (grid scene.surface).canvas.wipe } := becomes.grid
  refine Ends.modifyGet ⟨⟨rfl, ?_, ?_, becomes.mayRefuse⟩,
    ⟨fits.layer, fits.lists, fits.arrows, ?_⟩, rfl, by rw [beneath]⟩
  · rw [beneath]
  · rw [beneath]; exact Canvas.wipe_wipe _
  · rw [beneath]; exact fits.holds

/-- The whole tree is drawn on a blank canvas, or the call is refused. -/
theorem update_ends (fits : scene.Fits k spare) :
    Ends (onSurface DrawingSurface.update scene)
      (fun _ scene' => scene.Keeps scene' ∧ scene'.Fits k spare ∧ scene'.nodes = scene.nodes ∧
        grid scene'.surface = (grid scene.surface).redrawn k.visits)
      (Broken k scene.MayFail scene) := by
  have whole : (grid scene.surface).walk = { visits := k.visits, fault := none } :=
    Sketch.walk_eq fits.holds
  refine onSurface_ends ((OnGrid.update.ends (GridSurface.update_ok whole)).imp ?_ ?_)
  · intro _ s good
    obtain ⟨-, becomes⟩ := good
    have beneath : grid s = (grid scene.surface).redrawn k.visits := becomes.grid
    refine ⟨⟨rfl, ?_, ?_, becomes.mayRefuse⟩, ⟨fits.layer, fits.lists, fits.arrows, ?_⟩, rfl,
      beneath⟩
    · rw [beneath]; rfl
    · rw [beneath]; exact (GridSurface.wipe_draw _ _ _).trans (Canvas.wipe_wipe _)
    · rw [beneath]; exact fits.holds
  · intro s refused
    have unchanged := refused_of_becomes refused
    have fits' : Fits { scene with surface := s } k spare := by
      refine ⟨fits.layer, fits.lists, fits.arrows, ?_⟩
      rw [unchanged.nodes]; exact fits.holds
    exact .of_onlyNodes rfl unchanged.only fits' rfl ⟨_, unchanged.allowed⟩

/-- The sketch after its circles were put in their places, its arrows built and all drawn. -/
structure Finished (k : Sketch α) (machine : Machine) (scene scene' : Scene α σ)
    (k' : Sketch α) : Prop where
  base : k'.base = k.base
  handles : k'.states.map (fun x => (x.node.id, x.node.handle)) =
    k.states.map fun x => (x.node.id, x.node.handle)
  settled : ∀ x ∈ k'.states, x.place = x.node.position
  places : scene'.nodes.places = scene.layout.seats scene.edge scene.nodes.ids
  drawings : k'.arrows.map (some ·.drawing) = machine.drawings scene'.nodes.places
  template : ∀ r, scene.layout.radiusOf? scene.nodes.ids = some r →
    (grid scene'.surface).template = .ofRadius r
  canvas : (grid scene'.surface).canvas =
    (grid scene'.surface).draw (grid scene.surface).canvas.wipe k'.visits

/-- The circles that are there are put in their places, and arrows are drawn between them. -/
theorem finish_ends {report : Option α → Nat → PassStats α}
    (certain : ¬ mayRefuse scene.surface .removeChild) (fits : scene.Fits k spare) :
    Ends ((do
        let radius ← arrange
        let arrows ← rebuildArrows machine
        onSurface DrawingSurface.update
        return report radius arrows : Action α (Scene α σ) (PassStats α)) scene)
      (fun stats scene' =>
        stats = report (scene.layout.radiusOf? scene.nodes.ids) machine.transitions.length ∧
        ∃ k', Finished k machine scene scene' k' ∧ scene.Keeps scene' ∧ scene'.Fits k' spare)
      (Broken k (scene.DrawingFails machine) scene) := by
  refine (arrange_ends fits).andThen ?_
    (fun _ broken => broken.of_keeps rfl (.refl _) rfl .inl)
  intro radius scene₁ good
  obtain ⟨rfl, keeps₁, canvas₁, template, fits₁⟩ := good
  -- what is known of the new sketch, so that no later goal has the whole of it
  obtain ⟨k₁, base₁, states₁, fits₁⟩ : ∃ k₁ : Sketch α, k₁.base = k.base ∧
      k₁.states = k.arranged scene.layout scene.edge ∧ scene₁.Fits k₁ spare :=
    ⟨{ k with states := k.arranged scene.layout scene.edge }, rfl, rfl, fits₁⟩
  have ids₁ : scene₁.nodes.ids = scene.nodes.ids := by
    rw [fits₁.lists.ids, states₁, Sketch.map_arranged _ _ fun _ _ => rfl, fits.lists.ids]
  have certain₁ : ¬ mayRefuse scene₁.surface .removeChild := by
    rw [keeps₁.mayRefuse]; exact certain
  refine (rebuildArrows_ends machine certain₁ fits₁).andThen ?_ ?_
  · intro count scene₂ good
    obtain ⟨drawn, drawings, rfl, same₂, fits₂⟩ := good
    have keeps₂ := keeps₁.trans same₂.keeps
    have canvas₂ : (grid scene₂.surface).canvas = (grid scene.surface).canvas := by
      rw [← canvas₁, same₂.only.grid]
    refine (update_ends fits₂).andThen ?_ (fun _ broken => broken.of_keeps base₁ keeps₂ canvas₂
      fun fails => .inl (keeps₂.mayFail fails))
    intro _ scene₃ good
    obtain ⟨keeps₃, fits₃, nodes₃, grid₃⟩ := good
    replace nodes₃ : scene₃.nodes = scene₁.nodes := nodes₃.trans same₂.nodes
    refine ⟨rfl, { k₁ with arrows := drawn }, ?_, keeps₂.trans keeps₃, fits₃⟩
    constructor
    case base => exact base₁
    case handles =>
      change k₁.states.map _ = _
      rw [states₁, Sketch.map_arranged _ _ fun _ _ => rfl]
    case settled =>
      change ∀ x ∈ k₁.states, _
      rw [states₁]; exact Sketch.place_arranged
    case places =>
      rw [nodes₃, fits₁.lists.places, states₁, Sketch.map_position_arranged, fits.lists.ids]
    case drawings => rw [nodes₃]; exact drawings
    case template =>
      intro r radius_some
      rw [grid₃, ← template r radius_some]
      change (grid scene₂.surface).template = _
      rw [same₂.only.grid]
    case canvas => rw [grid₃, ← canvas₂]; rfl
  · intro _ broken
    refine broken.of_keeps base₁ keeps₁ canvas₁ ?_
    intro cause
    rcases cause with fails | dangles
    · exact .inl (keeps₁.mayFail fails)
    · exact .inr (ids₁ ▸ dangles)

end Scene

/-! ## §3 Passes that go through -/

/-- The states that are shown after a pass, old ones before new ones. -/
def Machine.shown (machine : Machine) (ids : List String) : List String :=
  (ids ++ NodeMap.missing ids machine.states).filter (machine.states.contains ·)

/-- A pass shows the states of the machine and no others. -/
theorem Machine.mem_shown {machine : Machine} {ids : List String} {id : String} :
    id ∈ machine.shown ids ↔ id ∈ machine.states := by
  simp only [shown, List.mem_filter, List.mem_append, NodeMap.mem_missing, List.contains_iff_mem]
  constructor
  · exact fun h => h.2
  · exact fun h => ⟨by by_cases old : id ∈ ids <;> simp [old, h], h⟩

/-- If just the states of the machine are shown, a pass shows them in the same order. -/
theorem Machine.shown_eq_self {machine : Machine} {ids : List String}
    (same : ∀ id, id ∈ ids ↔ id ∈ machine.states) : machine.shown ids = ids := by
  rw [shown, NodeMap.missing_eq_nil fun id mem => (same id).mpr mem, List.append_nil,
    List.filter_eq_self]
  exact fun id mem => List.contains_iff_mem.mpr ((same id).mp mem)

theorem Sketch.Lists.map_id_filter {k : Sketch α} {m : NodeMap α} (lists : k.Lists m)
    {machine : Machine} {new : List (ShownState α)}
    (named : new.map (·.node.id) = NodeMap.missing m.ids machine.states) :
    ((k.states ++ new).filter (machine.states.contains ·.node.id)).map (·.node.id) =
      machine.shown m.ids := by
  rw [Machine.shown, ← named, lists.ids, ← List.map_append, List.filter_map]
  rfl

/-- New states are never removed at once. -/
theorem Sketch.Lists.length_filter_not {k : Sketch α} {m : NodeMap α} (lists : k.Lists m)
    {machine : Machine} {new : List (ShownState α)}
    (named : new.map (·.node.id) = NodeMap.missing m.ids machine.states) :
    ((k.states ++ new).filter (!machine.states.contains ·.node.id)).length =
      (m.ids.filter (!machine.states.contains ·)).length := by
  have stay : new.filter (!machine.states.contains ·.node.id) = [] := by
    rw [List.filter_eq_nil_iff]
    intro x mem
    have listed := (NodeMap.mem_missing.mp (named ▸ List.mem_map.mpr ⟨x, mem, rfl⟩)).1
    simpa using listed
  rw [List.filter_append, stay, List.append_nil, lists.ids, List.filter_map, List.length_map]
  rfl

namespace Scene

variable [DrawingSurface α σ] [OnGrid α σ] {scene scene' : Scene α σ} {k k' : Sketch α}
  {machine : Machine} {stats : PassStats α} {spare : Nat}

/-- The sketch after a pass that went through, and what the pass reported. -/
structure Passed (k : Sketch α) (machine : Machine) (scene scene' : Scene α σ)
    (stats : PassStats α) (k' : Sketch α) : Prop where
  base : k'.base = k.base
  kept : ∃ new : List (ShownState α),
    new.map (·.node.id) = NodeMap.missing scene.nodes.ids machine.states ∧
    k'.states.map (fun x => (x.node.id, x.node.handle)) =
      ((k.states ++ new).filter (machine.states.contains ·.node.id)).map
        fun x => (x.node.id, x.node.handle)
  settled : ∀ x ∈ k'.states, x.place = x.node.position
  places : scene'.nodes.places = scene.layout.seats scene.edge (machine.shown scene.nodes.ids)
  drawings : k'.arrows.map (some ·.drawing) = machine.drawings scene'.nodes.places
  template : ∀ r, stats.radius = some r → (grid scene'.surface).template = .ofRadius r
  canvas : (grid scene'.surface).canvas =
    (grid scene'.surface).draw (grid scene.surface).canvas.wipe k'.visits
  created : stats.created = (NodeMap.missing scene.nodes.ids machine.states).length
  destroyed : stats.destroyed = (scene.nodes.ids.filter (!machine.states.contains ·)).length
  arrows : stats.arrows = machine.transitions.length
  radius : stats.radius = scene.layout.radiusOf? (machine.shown scene.nodes.ids)

namespace Passed

theorem ids (passed : Passed k machine scene scene' stats k') :
    scene'.nodes.ids = machine.shown scene.nodes.ids := by
  rw [← NodeMap.map_fst_places, passed.places, Layout.map_fst_seats]

theorem perm (passed : Passed k machine scene scene' stats k') (nodup : machine.states.Nodup) :
    scene'.nodes.ids.Perm machine.states :=
  NodeMap.perm_of_mem_iff nodup fun id => by rw [passed.ids, Machine.mem_shown]

theorem length_arrows (passed : Passed k machine scene scene' stats k') :
    k'.arrows.length = machine.transitions.length := by
  have lengths := congrArg List.length passed.drawings
  rwa [List.length_map, Machine.length_drawings] at lengths

/-- If just the states of the machine are shown, a pass makes no nodes and removes none. -/
theorem same_handles (passed : Passed k machine scene scene' stats k')
    (lists : k.Lists scene.nodes) (lists' : k'.Lists scene'.nodes)
    (same : ∀ id, id ∈ scene.nodes.ids ↔ id ∈ machine.states) :
    scene'.nodes.nodes.map (fun node => (node.id, node.handle)) =
      scene.nodes.nodes.map fun node => (node.id, node.handle) := by
  obtain ⟨new, named, handles⟩ := passed.kept
  rw [NodeMap.missing_eq_nil fun id mem => (same id).mpr mem, List.map_eq_nil_iff] at named
  have all_kept : k.states.filter (machine.states.contains ·.node.id) = k.states := by
    rw [List.filter_eq_self]
    intro x listed
    refine List.contains_iff_mem.mpr ((same x.node.id).mp ?_)
    rw [lists.ids]; exact List.mem_map.mpr ⟨x, listed, rfl⟩
  rw [named, List.append_nil, all_kept] at handles
  rw [lists'.nodes, lists.nodes, List.map_map, List.map_map]
  exact handles

end Passed

/-! ## §4 Every pass -/

/-- The canvas was wiped; or it is as it was, and so are the arrows and all nodes that were
there. -/
def Drifts (scene scene' : Scene α σ) : Prop :=
  (grid scene'.surface).canvas = (grid scene.surface).canvas.wipe ∨
  ((grid scene'.surface).canvas = (grid scene.surface).canvas ∧ scene'.arrows = scene.arrows ∧
    ∃ new, scene'.nodes.ids = scene.nodes.ids ++ new ∧ ∀ id ∈ new, id ∉ scene.nodes.ids)

/-- A scene after a pass that failed. -/
structure Failed (k : Sketch α) (cause : Prop) (scene scene' : Scene α σ) : Prop where
  keeps : scene.Keeps scene'
  drifts : scene.Drifts scene'
  fits : ∃ k' spare, k'.base = k.base ∧ scene'.Fits k' spare
  cause : cause

/-- A pass goes through, or a call was refused, or a transition has an end that is no state. -/
theorem render_ends (machine : Machine) (certain : ¬ mayRefuse scene.surface .removeChild)
    (fits : scene.Fits k spare) :
    Ends (render machine scene)
      (fun stats scene' => ∃ k', Passed k machine scene scene' stats k' ∧ scene.Keeps scene' ∧
        scene'.Fits k' spare)
      (Failed k (scene.MayFail ∨ machine.Dangles machine.states) scene) := by
  unfold render
  refine (updateStates_ends machine certain fits).andThen ?_ ?_
  · intro numbers scene₁ good
    obtain ⟨created, destroyed⟩ := numbers
    obtain ⟨new, named, counts, keeps₁, fits₁⟩ := good
    obtain ⟨rfl, rfl⟩ := Prod.mk.inj counts
    have shown := fits.lists.map_id_filter named
    obtain ⟨k₁, base₁, states₁, fits₁⟩ : ∃ k₁ : Sketch α, k₁.base = k.base ∧
        k₁.states = (k.states ++ new).filter (machine.states.contains ·.node.id) ∧
        scene₁.Fits k₁ spare :=
      ⟨{ k with states := (k.states ++ new).filter (machine.states.contains ·.node.id) },
        rfl, rfl, fits₁⟩
    -- from here on the canvas is blank until everything is drawn
    refine (clear_ends fits₁).andThen ?_ (fun _ failed => failed)
    intro _ scene₂ good
    obtain ⟨keeps₂, fits₂, nodes₂, canvas₂⟩ := good
    replace keeps₂ := keeps₁.trans keeps₂
    rw [keeps₁.wiped] at canvas₂
    have ids₂ : scene₂.nodes.ids = machine.shown scene.nodes.ids := by
      rw [nodes₂, fits₁.lists.ids, states₁, shown]
    have certain₂ : ¬ mayRefuse scene₂.surface .removeChild := by
      rw [keeps₂.mayRefuse]; exact certain
    refine (finish_ends certain₂ fits₂).imp ?_ ?_
    · intro _ scene₃ good
      obtain ⟨rfl, k₃, finished, keeps₃, fits₃⟩ := good
      have radius_eq : scene₂.layout.radiusOf? scene₂.nodes.ids =
          scene.layout.radiusOf? (machine.shown scene.nodes.ids) := by rw [ids₂, keeps₂.layout]
      refine ⟨k₃, ?_, keeps₂.trans keeps₃, fits₃⟩
      constructor
      case base => exact finished.base.trans base₁
      case kept => exact ⟨new, named, by rw [finished.handles, states₁]⟩
      case settled => exact finished.settled
      case places => rw [finished.places, ids₂, keeps₂.layout, keeps₂.edge]
      case drawings => exact finished.drawings
      case template => exact finished.template
      case canvas => rw [finished.canvas, canvas₂, Canvas.wipe_wipe]
      case created => rw [← named, List.length_map]
      case destroyed => exact fits.lists.length_filter_not named
      case arrows => rfl
      case radius => exact radius_eq
    · intro scene₃ broken
      obtain ⟨k₃, spare₃, base₃, fits₃⟩ := broken.fits
      refine ⟨keeps₂.trans broken.keeps, .inl (broken.canvas.trans canvas₂),
        ⟨k₃, spare₃, base₃.trans base₁, fits₃⟩, ?_⟩
      rcases broken.cause with fails | ⟨t, listed, id, mem, absent⟩
      · exact .inl (keeps₂.mayFail fails)
      · rw [ids₂, Machine.mem_shown] at absent
        exact .inr ⟨t, listed, id, mem, absent⟩
  · intro scene₁ bad
    obtain ⟨broken, arrows, grown⟩ := bad
    exact ⟨broken.keeps, .inr ⟨broken.canvas, arrows, grown⟩, broken.fits, .inl broken.cause⟩

/-- A pass for a well-formed machine goes through if no call is refused. -/
theorem exists_passed (never : ¬ scene.MayFail) (wf : machine.WellFormed)
    (fits : scene.Fits k spare) :
    ∃ stats scene' k', render machine scene = .ok stats scene' ∧
      Passed k machine scene scene' stats k' ∧ scene'.Fits k' spare := by
  have certain : ¬ mayRefuse scene.surface .removeChild := fun refused => never ⟨_, refused⟩
  have no_fault : ∀ scene',
      ¬ Failed k (scene.MayFail ∨ machine.Dangles machine.states) scene scene' := by
    intro scene' failed
    rcases failed.cause with fails | ⟨t, listed, id, mem, absent⟩
    · exact never fails
    · exact absent (wf.ends listed mem)
  obtain ⟨stats, scene', ended, k', passed, -, fits'⟩ :=
    ((render_ends machine certain fits).imp (fun _ _ good => good) no_fault).exists_ok
  exact ⟨stats, scene', k', ended, passed, fits'⟩

end Scene

end TransitionDiagram
