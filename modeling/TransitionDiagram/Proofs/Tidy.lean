/-
TransitionDiagram.Proofs.Tidy: when a surface shows a machine and nothing else.

A pass that goes through shows all of a machine: a circle for each state and a line for each
transition. It does not look for what earlier passes have left behind. So the surface is tidy after
it if and only if no removal was refused, from the time when the scene was put on the surface; one
removal that was refused once leaves a stray for good.

  §1 tidy surfaces
  §2 surfaces with strays
  §3 passes on a surface that refuses calls
  §4 nodes that are left behind
-/
import TransitionDiagram.Proofs.Strays

open scoped List

namespace TransitionDiagram

open OnGrid

variable {α : Type} [Scalar α]

/-! ## §1 Tidy surfaces -/

/-- The node is a group with a circle and then a label with the name of a state. -/
def GridSurface.ShowsState (s : GridSurface α) (h : Handle) (id : String) : Prop :=
  ∃ circle label width, s.children? h = some [circle, label] ∧
    (s.nodes.get? circle).map (·.content) = some (.shape .circle) ∧
    (s.nodes.get? label).map (·.content) = some (.text id width)

namespace Scene

/-- The node is a line from the circle of the source of a transition to that of its target. -/
def ShowsLine (scene : Scene α (Refusing α)) (h : Handle) (t : Transition) : Prop :=
  ∃ source target, scene.nodes.get? t.source = some source ∧
    scene.nodes.get? t.target = some target ∧
    scene.surface.inner.nodes.get? h = some
      { content := .shape (.line
          { x := target.position.x - source.position.x
            y := target.position.y - source.position.y } arrowStroke)
        position := source.position
        children := [] }

/-- Below the root there are the layer, a group for each state, and stray circles. The layer has
stray lines, and then a line for each transition. -/
structure Displays (machine : Machine) (strayCircles strayLines : List Handle)
    (scene : Scene α (Refusing α)) : Prop where
  circles : ∃ children groups ids,
    scene.surface.inner.children? GridSurface.root = some (scene.arrowLayer :: children) ∧
    children ~ strayCircles ++ groups ∧ ids ~ machine.states ∧
    List.Forall₂ scene.surface.inner.ShowsState groups ids
  lines : ∃ lines, scene.surface.inner.children? scene.arrowLayer = some (strayLines ++ lines) ∧
    List.Forall₂ scene.ShowsLine lines machine.transitions

/-- Beside the layer there is one group for each state below the root, and the layer has one line
for each transition. -/
def Tidy (machine : Machine) (scene : Scene α (Refusing α)) : Prop :=
  scene.Displays machine [] []

variable {machine : Machine} {scene : Scene α (Refusing α)} {strayCircles strayLines : List Handle}

/-- How many children the root and the layer have. -/
theorem Displays.counts (displays : scene.Displays machine strayCircles strayLines) :
    (scene.surface.inner.children? GridSurface.root).map List.length =
      some (strayCircles.length + machine.states.length + 1) ∧
    (scene.surface.inner.children? scene.arrowLayer).map List.length =
      some (strayLines.length + machine.transitions.length) := by
  obtain ⟨⟨children, groups, ids, below, perm, named, shown⟩, lines, listed, drawn⟩ := displays
  constructor
  · simp [below, perm.length_eq, shown.length_eq, named.length_eq]
  · simp [listed, drawn.length_eq]

/-- A surface on which there are strays is not tidy, as there are too many nodes. -/
theorem Displays.tidy_iff (displays : scene.Displays machine strayCircles strayLines) :
    scene.Tidy machine ↔ strayCircles = [] ∧ strayLines = [] := by
  constructor
  · intro tidy
    obtain ⟨circles, lines⟩ := displays.counts
    obtain ⟨circles', lines'⟩ := Displays.counts tidy
    simp only [circles, lines, Option.some.injEq, List.length_nil] at circles' lines'
    exact ⟨List.eq_nil_of_length_eq_zero (by omega), List.eq_nil_of_length_eq_zero (by omega)⟩
  · rintro ⟨rfl, rfl⟩
    exact displays

/-! ## §2 Strays -/

variable {k : Sketch α} {spare : Nat} {lost : List (String × Handle × α)}
  {stale drawn : List (ShownArrow α)}

theorem Strewn.showsState (strewn : scene.Strewn lost stale drawn k spare) {x : ShownState α}
    (listed : x ∈ k.states) : scene.surface.inner.ShowsState x.node.handle x.node.id := by
  have there : ∀ cell ∈ x.cells, cell ∈ k.cells := fun _ => Sketch.mem_cells_of_state listed
  simp only [ShownState.cells, ShownState.leaves, List.forall_mem_cons] at there
  obtain ⟨group_there, circle_there, label_there, -⟩ := there
  have group := GridSurface.children?_of_mem strewn.holds group_there
  have circle := congrArg (Option.map SceneNode.content) (strewn.holds.get _ circle_there)
  have label := congrArg (Option.map SceneNode.content) (strewn.holds.get _ label_there)
  exact ⟨x.circle, x.label, x.node.minSize, group, circle, label⟩

theorem Strewn.showsLine (strewn : scene.Strewn lost stale drawn k spare) {x : ShownArrow α}
    {t : Transition} {number : Nat} (listed : x ∈ drawn)
    (drawing : some x.drawing = t.drawing? scene.nodes.places number) :
    scene.ShowsLine x.arrow.handle t := by
  obtain ⟨-, source, target, source_there, target_there, cell⟩ :=
    ShownArrow.cell_of_drawing drawing
  have drawn_on : x ∈ k.arrows := by simp [strewn.lines, listed]
  have line := strewn.holds.get _ (Sketch.mem_cells_of_arrow drawn_on)
  rw [cell] at line
  exact ⟨source, target, source_there, target_there, line⟩

/-- A scene that lists the states and the arrows of a machine displays it. -/
theorem Littered.displays (littered : scene.Littered lost stale drawn)
    (states : scene.nodes.ids ~ machine.states)
    (drawings : drawn.map (some ·.drawing) = machine.drawings scene.nodes.places) :
    scene.Displays machine (lost.map (·.2.1)) (stale.map (·.arrow.handle)) := by
  obtain ⟨k, spare, strewn⟩ := littered
  constructor
  case circles =>
    refine ⟨k.states.map (·.node.handle), scene.nodes.tags.map (·.2.1), scene.nodes.ids, ?_, ?_,
      states, ?_⟩
    · rw [strewn.layer]
      exact GridSurface.children?_of_mem strewn.holds (List.mem_cons_self : (_, k.top) ∈ k.cells)
    · simpa [ShownState.tag, Function.comp_def] using strewn.states.map (·.2.1)
    · rw [← NodeMap.map_fst_tags, List.forall₂_map_left_iff, List.forall₂_map_right_iff,
        List.forall₂_same]
      intro tag mem
      obtain ⟨x, listed, rfl⟩ : ∃ x ∈ k.states, x.tag = tag :=
        List.mem_map.mp (strewn.states.mem_iff.mpr (List.mem_append_right _ mem))
      exact strewn.showsState listed
  case lines =>
    refine ⟨drawn.map (·.arrow.handle), ?_, ?_⟩
    · have layer : (k.layer, k.layerNode) ∈ k.cells := List.mem_cons_of_mem _ List.mem_cons_self
      rw [strewn.layer]
      refine (GridSurface.children?_of_mem strewn.holds layer).trans ?_
      simp [Sketch.layerNode, strewn.lines]
    · rw [Machine.drawings, ← List.forall₂_eq_eq_eq, List.forall₂_map_left_iff,
        List.forall₂_map_right_iff] at drawings
      have each := (List.forall₂_and_left (p := (· ∈ drawn)) _ _).mpr ⟨fun _ mem => mem, drawings⟩
      rw [← List.zipIdx_map_fst 0 machine.transitions, List.forall₂_map_left_iff,
        List.forall₂_map_right_iff]
      exact each.imp fun x item h => strewn.showsLine h.1 h.2

/-! ## §3 Passes -/

theorem sameRemovals_of_new {surface : Refusing α} {layout : Layout α}
    (made : Scene.new surface layout = .ok scene) :
    Unreliable.SameRemovals surface scene.surface := by
  have calls := Unreliable.lastingOnSurface_sameRemovals (α := α) (σ := GridSurface α)
  have group := calls.createGroup surface
  have attached := calls.addChild (DrawingSurface.root (DrawingSurface.createGroup surface).2)
    (DrawingSurface.createGroup surface).1 (DrawingSurface.createGroup surface).2
  unfold Scene.new at made
  simp only at made
  split at made
  · rename_i ended
    cases made
    exact calls.lasting.trans group (attached.of_ok ended)
  · contradiction

/-- After a pass that went through, whatever calls were refused before, the surface displays the
machine. It is tidy if and only if no removal was ever refused. -/
theorem tidy_iff_noRemovalRefused {surface : Refusing α} {layout : Layout α}
    {start scene' : Scene α (Refusing α)} {before : List Call} {stats : PassStats α}
    (bare : surface.inner.children? GridSurface.root = some [])
    (made : Scene.new surface layout = .ok start) (built : machine.Built)
    (ended : render machine (start.run before) = .ok stats scene') :
    (scene'.Tidy machine ↔ surface.NoRemovalRefused scene'.surface) ∧
    ∃ strayCircles strayLines, scene'.Displays machine strayCircles strayLines := by
  obtain ⟨lost₁, stale₁, drawn₁, littered₁, booked₁⟩ :=
    run_accounts (littered_of_new bare made) before
  obtain ⟨ids, lost, stale, drawn, drawings, littered₂, booked₂⟩ :=
    (render_accounts machine littered₁).of_ok ended
  have states : scene'.nodes.ids ~ machine.states :=
    NodeMap.perm_of_mem_iff built.wellFormed.nodup fun id => by rw [ids, Machine.mem_shown]
  have displays := littered₂.displays states drawings
  refine ⟨?_, _, _, displays⟩
  have booked := Unreliable.Booked.of_same (n := 0) (sameRemovals_of_new made)
  have clean := ((booked.trans booked₁).trans booked₂).clean
  rw [displays.tidy_iff, List.map_eq_nil_iff, List.map_eq_nil_iff]
  simpa using clean

/-! ## §4 Nodes that are left behind -/

/-- A grid that refuses the first two removals. -/
def refusingTwoRemovals : Unreliable (GridSurface Float) :=
  { Unreliable.ofSurface (GridSurface.new .standard) with
    refuses := fun call turn => call = .removeChild && turn < 2 }

/-- The first arrow of two is not removed, and then the circle of a state that has gone. -/
def leavingNodes : List Call :=
  [.render (.ofText "A->B\nB->A"), .render (.ofText "A->B\nB->A"), .render (.ofText "A->A")]

/-- The next pass goes through beside a circle and two lines that are not of its machine. -/
theorem leavingNodes_ends :
    ∃ start stats scene', Scene.new refusingTwoRemovals .standard = .ok start ∧
      render (.ofText "A->A") (start.run leavingNodes) = .ok stats scene' ∧
      (scene'.surface.inner.children? GridSurface.root).map List.length = some 3 ∧
      (scene'.surface.inner.children? scene'.arrowLayer).map List.length = some 3 := by
  have ran : (match Scene.new refusingTwoRemovals .standard with
      | .error _ => false
      | .ok start => match render (.ofText "A->A") (start.run leavingNodes) with
        | .error _ _ => false
        | .ok _ scene =>
          (scene.surface.inner.children? GridSurface.root).map List.length == some 3 &&
          (scene.surface.inner.children? scene.arrowLayer).map List.length == some 3) = true := by
    decide +kernel
  cases made : Scene.new refusingTwoRemovals .standard with
  | error fault =>
    rw [made] at ran
    contradiction
  | ok start =>
    rw [made] at ran
    cases ended : render (.ofText "A->A") (start.run leavingNodes) with
    | error fault scene' =>
      simp only [ended] at ran
      contradiction
    | ok stats scene' =>
      simp only [ended, Bool.and_eq_true, beq_iff_eq] at ran
      exact ⟨start, stats, scene', rfl, ended, ran⟩

/-- What is said of passes that go through, where two removals were refused before. -/
theorem tidy_iff_two_removals_refused :
    ∃ start stats scene', Scene.new refusingTwoRemovals .standard = .ok start ∧
      render (.ofText "A->A") (start.run leavingNodes) = .ok stats scene' ∧
      (scene'.Tidy (.ofText "A->A") ↔ refusingTwoRemovals.NoRemovalRefused scene'.surface) := by
  obtain ⟨start, stats, scene', made, ended, -, -⟩ := leavingNodes_ends
  have iff := tidy_iff_noRemovalRefused rfl made (.ofText _) ended
  exact ⟨start, stats, scene', made, ended, iff.1⟩

/-- A pass that goes through may leave a circle and lines of earlier passes on the surface. -/
theorem not_tidy_two_removals_refused :
    ∃ start stats scene', Scene.new refusingTwoRemovals .standard = .ok start ∧
      render (.ofText "A->A") (start.run leavingNodes) = .ok stats scene' ∧
      ¬ scene'.Tidy (.ofText "A->A") := by
  obtain ⟨start, stats, scene', made, ended, circles, -⟩ := leavingNodes_ends
  refine ⟨start, stats, scene', made, ended, fun tidy => ?_⟩
  have count := (Displays.counts tidy).1
  have one_state : (Machine.ofText "A->A").states.length = 1 := by decide +kernel
  simp [circles, one_state] at count

end Scene

end TransitionDiagram
