/-
TransitionDiagram.Proofs.FaultFree: whole runs of passes on a surface that refuses nothing.

A grid refuses no call, and a machine that can be built has no transition with an end that is not
one of its states. So every pass goes through, and no node is ever spare: the sketch lists all
nodes of the surface, two and one for each arrow and three for each state.

  §1 what a correct pass shows and reports
  §2 one pass
  §3 runs of passes
-/
import TransitionDiagram.Proofs.Machines
import TransitionDiagram.Proofs.Runs

namespace TransitionDiagram

open OnGrid

variable {α σ : Type} [Scalar α]

namespace Scene

/-! ## §1 Correct passes -/

/-- The arrow with the number of a transition starts at its source and leads to its target. -/
def ShowsTransition (scene : Scene α (GridSurface α)) (t : Transition) (number : Nat) : Prop :=
  ∃ arrow source target, scene.arrows[number]? = some arrow ∧ arrow.transition = number ∧
    scene.nodes.get? t.source = some source ∧ scene.nodes.get? t.target = some target ∧
    scene.surface.nodes.get? arrow.handle = some
      { content := .shape (.line
          { x := target.position.x - source.position.x
            y := target.position.y - source.position.y } arrowStroke)
        position := source.position
        children := [] }

/-- What a pass for a machine shows and reports. -/
structure Correct (machine : Machine) (scene scene' : Scene α (GridSurface α))
    (stats : PassStats α) : Prop where
  states : scene'.nodes.ids.Perm machine.states
  arrows : scene'.arrows.length = machine.transitions.length
  transitions : ∀ number t, machine.transitions[number]? = some t →
    scene'.ShowsTransition t number
  positions : ∀ node ∈ scene'.nodes.nodes,
    scene'.surface.position? node.handle = some node.position
  radius : stats.radius =
    if machine.states = [] then none else some scene'.surface.template.radius
  created : stats.created = (machine.states.filter (· ∉ scene.nodes.ids)).length
  destroyed : stats.destroyed = (scene.nodes.ids.filter (· ∉ machine.states)).length
  drawn : stats.arrows = machine.transitions.length
  nodeCount : scene'.surface.nodeCount =
    2 + 3 * machine.states.length + machine.transitions.length

/-! ## §2 One pass -/

variable {scene scene' : Scene α (GridSurface α)} {k k' : Sketch α} {machine : Machine}
  {stats : PassStats α}

theorem Passed.showsTransition (passed : Passed k machine scene scene' stats k')
    (fits : scene'.Fits k' 0) {number : Nat} {t : Transition}
    (there : machine.transitions[number]? = some t) : scene'.ShowsTransition t number := by
  have numbered : (k'.arrows.map (some ·.drawing))[number]? =
      some (t.drawing? scene'.nodes.places number) := by
    rw [passed.drawings, Machine.getElem?_drawings there]
  rw [List.getElem?_map] at numbered
  obtain ⟨x, at_number, drawing⟩ := Option.map_eq_some_iff.mp numbered
  obtain ⟨number_eq, source, target, source_there, target_there, cell⟩ :=
    ShownArrow.cell_of_drawing drawing
  have line := fits.holds.get _ (Sketch.mem_cells_of_arrow (List.mem_of_getElem? at_number))
  rw [cell] at line
  refine ⟨x.arrow, source, target, ?_, number_eq, source_there, target_there, line⟩
  rw [fits.arrows, List.getElem?_map, at_number]; rfl

/-- A pass that goes through without spare nodes is correct. -/
theorem Passed.correct (passed : Passed k machine scene scene' stats k')
    (wf : machine.WellFormed) (fits : scene'.Fits k' 0) : Correct machine scene scene' stats := by
  have perm := passed.perm wf.nodup
  constructor
  case states => exact perm
  case arrows => rw [fits.arrows, List.length_map, passed.length_arrows]
  case transitions => exact fun number t there => passed.showsTransition fits there
  case positions =>
    rw [fits.lists.nodes]
    intro node mem
    obtain ⟨x, listed, rfl⟩ := List.mem_map.mp mem
    have group := fits.holds.get _ (Sketch.mem_cells_of_state listed List.mem_cons_self)
    rw [GridSurface.position?, ← passed.settled x listed]
    change Option.map _ ((grid scene'.surface).nodes.get? x.node.handle) = _
    rw [group]; rfl
  case radius =>
    have same_states : machine.shown scene.nodes.ids = [] ↔ machine.states = [] := by
      rw [List.eq_nil_iff_forall_not_mem, List.eq_nil_iff_forall_not_mem]
      simp only [Machine.mem_shown]
    cases h : stats.radius with
    | none =>
      rw [passed.radius, Layout.radiusOf?_eq_none_iff, same_states] at h
      rw [if_pos h]
    | some r =>
      have some_state : machine.states ≠ [] := by
        intro no_state
        have radius := passed.radius
        rw [h, same_states.mpr no_state, Layout.radiusOf?_eq_none_iff.mpr rfl] at radius
        contradiction
      have template : scene'.surface.template = .ofRadius r := passed.template r h
      rw [if_neg some_state, template]; rfl
  case created =>
    rw [passed.created, NodeMap.missing_of_nodup wf.nodup]
  case destroyed =>
    rw [passed.destroyed]
    simp
  case drawn => exact passed.arrows
  case nodeCount =>
    have size := fits.holds.size
    have count := congrArg List.length fits.lists.ids
    rw [perm.length_eq, List.length_map] at count
    rw [Sketch.length_cells, ← count, passed.length_arrows] at size
    exact size

/-! ## §3 Runs -/

/-- A pass for a well-formed machine goes through, is correct, and leaves no node spare. -/
theorem render_correct (wf : machine.WellFormed) (fits : scene.Fits k 0) :
    ∃ stats scene', render machine scene = .ok stats scene' ∧
      Correct machine scene scene' stats ∧ ∃ k', scene'.Fits k' 0 := by
  have never : ¬ scene.MayFail := fun ⟨_, refused⟩ => refused
  obtain ⟨stats, scene', k', ended, passed, fits'⟩ := exists_passed never wf fits
  exact ⟨stats, scene', ended, passed.correct wf fits', k', fits'⟩

theorem run_renders_fits {machines : List Machine} (wf : ∀ m ∈ machines, m.WellFormed)
    (fits : scene.Fits k 0) : ∃ k', (scene.run (machines.map .render)).Fits k' 0 := by
  induction machines generalizing scene k with
  | nil => exact ⟨k, fits⟩
  | cons m rest ih =>
    obtain ⟨stats, scene', ended, -, k', fits'⟩ := render_correct (wf m List.mem_cons_self) fits
    have first : scene.after (.render m) = scene' := by rw [after, ended]; rfl
    rw [List.map_cons, run, List.foldl_cons, first]
    exact ih (fun m' mem => wf m' (List.mem_cons_of_mem _ mem)) fits'

/-- On a fresh grid every pass of every run goes through and is correct. -/
theorem renders_correct (config : PictureConfig α) (layout : Layout α) (before : List Machine)
    (machine : Machine) (built : ∀ m ∈ machine :: before, m.Built) :
    ∃ start stats scene', Scene.new (GridSurface.new config) layout = .ok start ∧
      render machine (start.run (before.map .render)) = .ok stats scene' ∧
      Correct machine (start.run (before.map .render)) scene' stats := by
  have fresh : (grid (GridSurface.new config)).nodes.Holds _ 0 := new_holds config
  rcases new_cases layout rfl fresh with ⟨start, made, isNew⟩ | ⟨-, -, refused⟩
  · obtain ⟨layer, fits⟩ := isNew.fits
    have wf : ∀ m ∈ machine :: before, m.WellFormed := fun m mem => (built m mem).wellFormed
    obtain ⟨wf_last, wf_before⟩ := List.forall_mem_cons.mp wf
    obtain ⟨k', fits'⟩ := run_renders_fits wf_before fits
    obtain ⟨stats, scene', ended, correct, -⟩ := render_correct wf_last fits'
    exact ⟨start, stats, scene', made, ended, correct⟩
  · exact refused.elim

/-- Two states are shown, then none, then two others that exchange their transitions. -/
theorem renders_correct_three_texts :
    let config : PictureConfig Float := .standard
    let before := [Machine.ofText "A->B", .empty]
    let machine := (Machine.ofText "B->C").addTransition { source := "C", target := "B" }
    (∀ m ∈ machine :: before, m.Built) ∧
      ∃ start stats scene', Scene.new (GridSurface.new config) .standard = .ok start ∧
        render machine (start.run (before.map .render)) = .ok stats scene' ∧
        Correct machine (start.run (before.map .render)) scene' stats := by
  intro config before machine
  have built : ∀ m ∈ machine :: before, m.Built :=
    List.forall_mem_cons.mpr ⟨.addTransition _ (.ofText _),
      List.forall_mem_cons.mpr ⟨.ofText _, List.forall_mem_singleton.mpr .empty⟩⟩
  exact ⟨built, renders_correct config .standard before machine built⟩

end Scene

end TransitionDiagram
