/-
TransitionDiagram.Proofs.Runs: scenes after any run of calls.

Four calls bring a scene in line with a machine, wholly or in part, and each may end with a fault.
Whatever they are called with, and in whatever order, the scene stays in step with its surface: one
call keeps some sketch fitting, so every run does. What this means for the surface is spelled out
by `InOrder`, without sketches.

  §1 calls and runs
  §2 new scenes
  §3 what every run keeps
  §4 the tree of a scene in order
  §5 runs on a surface that refuses calls
-/
import TransitionDiagram.Proofs.Passes
import TransitionDiagram.Proofs.Paths

namespace TransitionDiagram

open OnGrid

variable {α : Type} [Scalar α]

namespace Scene

/-! ## §1 Calls -/

variable {σ : Type} [DrawingSurface α σ]

/-- The calls that change what a scene shows. -/
inductive Call where
  | render (machine : Machine)
  | updateStates (machine : Machine)
  | arrange
  | rebuildArrows (machine : Machine)
  deriving DecidableEq, Repr

/-- The scene after a call, whether or not it ended with a fault. -/
def after (scene : Scene α σ) : Call → Scene α σ
  | .render machine => stateOf (render machine scene)
  | .updateStates machine => stateOf (updateStates machine scene)
  | .arrange => stateOf (arrange scene)
  | .rebuildArrows machine => stateOf (rebuildArrows machine scene)

/-- The scene after some calls, one after the other. -/
def run (scene : Scene α σ) (calls : List Call) : Scene α σ :=
  calls.foldl after scene

/-! ## §2 New scenes -/

variable [OnGrid α σ] {scene : Scene α σ} {base : SceneNode α} {spare : Nat}

/-- Some sketch below the given root fits. -/
def InStep (base : SceneNode α) (scene : Scene α σ) : Prop :=
  ∃ k spare, k.base = base ∧ scene.Fits k spare

/-- A new scene shows nothing, and all that its surface has gained is the layer of arrows. -/
structure IsNew (surface : σ) (layout : Layout α) (base : SceneNode α) (spare : Nat)
    (scene : Scene α σ) : Prop where
  layout : scene.layout = layout
  only : OnlyNodes surface scene.surface
  fits : ∃ layer, scene.Fits { base, layer, arrows := [], states := [] } spare

/-- There is a new scene on a surface with a bare root, unless attaching a node was refused. -/
theorem new_cases {surface : σ} (layout : Layout α) (bare : base.children = [])
    (holds : (grid surface).nodes.Holds [(GridSurface.root, base)] spare) :
    (∃ scene, Scene.new surface layout = .ok scene ∧ scene.IsNew surface layout base spare) ∨
    (∃ fault, Scene.new surface layout = .error fault ∧ mayRefuse surface .addChild) := by
  obtain ⟨only, grown⟩ := createGroup_holds holds
  have attached := addChild_ends grown.get_head (grown.perm (.swap _ _ _))
  unfold Scene.new
  simp only [OnGrid.root]
  cases ended : DrawingSurface.addChild GridSurface.root (DrawingSurface.createGroup surface).1
      (DrawingSurface.createGroup surface).2 with
  | error fault s =>
    rw [ended] at attached
    exact .inr ⟨fault, rfl, only.mayRefuse ▸ attached.allowed⟩
  | ok _ s =>
    rw [ended] at attached
    obtain ⟨only', holds'⟩ := attached
    rw [bare, List.nil_append] at holds'
    refine .inl ⟨_, rfl, rfl, only.trans only', (DrawingSurface.createGroup surface).1, ?_⟩
    exact ⟨rfl, ⟨rfl, by simp⟩, rfl, holds'⟩

theorem isNew_of_new {surface : σ} {layout : Layout α} (bare : base.children = [])
    (holds : (grid surface).nodes.Holds [(GridSurface.root, base)] spare)
    (made : Scene.new surface layout = .ok scene) : scene.IsNew surface layout base spare := by
  rcases new_cases layout bare holds with ⟨scene', made', isNew⟩ | ⟨fault, failed, -⟩
  · rw [made] at made'
    cases made'
    exact isNew
  · rw [made] at failed
    contradiction

/-- A grid that was never used has a bare root and no other node. -/
theorem new_holds (config : PictureConfig α) :
    (GridSurface.new config).nodes.Holds
      [(GridSurface.root, GridSurface.freshNode .group)] 0 := by
  refine ⟨List.nodup_singleton _, ?_, rfl⟩
  intro cell mem
  rw [List.mem_singleton.mp mem]; rfl

/-! ## §3 What every run keeps -/

/-- A call keeps the scene in step, whether or not it ends with a fault. -/
theorem after_inStep (certain : ¬ mayRefuse scene.surface .removeChild)
    (inStep : scene.InStep base) (call : Call) :
    scene.Keeps (scene.after call) ∧ (scene.after call).InStep base := by
  obtain ⟨k, spare, rfl, fits⟩ := inStep
  let kept := fun scene' : Scene α σ => scene.Keeps scene' ∧ scene'.InStep k.base
  have of_broken : ∀ cause scene', Broken k cause scene scene' → kept scene' := by
    intro cause scene' broken
    obtain ⟨k', spare', same, fits'⟩ := broken.fits
    exact ⟨broken.keeps, k', spare', same, fits'⟩
  cases call with
  | render machine =>
    refine Ends.state (P := kept) (render_ends machine certain fits) ?_ ?_
    · intro stats scene' good
      obtain ⟨k', passed, keeps, fits'⟩ := good
      exact ⟨keeps, k', spare, passed.base, fits'⟩
    · intro scene' failed
      obtain ⟨k', spare', same, fits'⟩ := failed.fits
      exact ⟨failed.keeps, k', spare', same, fits'⟩
  | updateStates machine =>
    refine Ends.state (P := kept) (updateStates_ends machine certain fits) ?_
      fun scene' broken => of_broken _ scene' broken.1
    intro _ scene' good
    obtain ⟨new, -, -, keeps, fits'⟩ := good
    refine ⟨keeps, _, spare, ?_, fits'⟩
    rfl
  | arrange =>
    refine Ends.state (P := kept) (arrange_ends fits) ?_ (of_broken _)
    intro _ scene' good
    obtain ⟨-, keeps, -, -, fits'⟩ := good
    refine ⟨keeps, _, spare, ?_, fits'⟩
    rfl
  | rebuildArrows machine =>
    refine Ends.state (P := kept) (rebuildArrows_ends machine certain fits) ?_ (of_broken _)
    intro _ scene' good
    obtain ⟨drawn, -, -, same, fits'⟩ := good
    refine ⟨same.keeps, _, spare, ?_, fits'⟩
    rfl

theorem run_inStep (certain : ¬ mayRefuse scene.surface .removeChild) (inStep : scene.InStep base)
    (calls : List Call) :
    scene.Keeps (scene.run calls) ∧ (scene.run calls).InStep base := by
  induction calls generalizing scene with
  | nil => exact ⟨.refl scene, inStep⟩
  | cons call rest ih =>
    obtain ⟨keeps, inStep'⟩ := after_inStep certain inStep call
    rw [← keeps.mayRefuse] at certain
    obtain ⟨keeps', inStep''⟩ := ih certain inStep'
    exact ⟨keeps.trans keeps', inStep''⟩

/-! ## §4 The tree of a scene in order -/

/-- The handles of a scene on a grid, with those of circles and labels. -/
def handles (scene : Scene α σ) (s : GridSurface α) : List Handle :=
  GridSurface.root :: scene.arrowLayer :: (scene.arrows.map (·.handle) ++
    scene.nodes.nodes.flatMap fun node => node.handle :: (s.children? node.handle).getD [])

/-- What a scene remembers and the grid beneath it agree. -/
structure InOrder (scene : Scene α σ) (s : GridSurface α) : Prop where
  root_children : s.children? GridSurface.root =
    some (scene.arrowLayer :: scene.nodes.nodes.map (·.handle))
  layer_children : s.children? scene.arrowLayer = some (scene.arrows.map (·.handle))
  own_names : ∀ entry ∈ scene.nodes.entries, entry.2.id = entry.1
  /-- The group of a state has a circle and then a label with the name and the width kept. -/
  groups : ∀ node ∈ scene.nodes.nodes, ∃ circle label,
    s.children? node.handle = some [circle, label] ∧
    (s.nodes.get? circle).map (·.content) = some (.shape .circle) ∧
    (s.nodes.get? label).map (·.content) = some (.text node.id node.minSize) ∧
    GridSurface.measure label s = .ok node.minSize s
  live : ∀ h ∈ scene.handles s, (s.nodes.get? h).isSome
  distinct : (scene.handles s).Nodup
  /-- A node that can be reached from the root is reached by one path. -/
  one_path : ∀ (h : Handle) (p q : List Nat), s.nodes.follow GridSurface.root p = some h →
    s.nodes.follow GridSurface.root q = some h → p = q

theorem Fits.handles_eq {k : Sketch α} (fits : scene.Fits k spare) :
    scene.handles (grid scene.surface) = k.cells.map Prod.fst := by
  have groups : ∀ x ∈ k.states, x.node.handle ::
      ((grid scene.surface).children? x.node.handle).getD [] =
        [x.node.handle, x.circle, x.label] := by
    intro x listed
    have group := GridSurface.children?_of_mem fits.holds
      (Sketch.mem_cells_of_state listed (List.mem_cons_self : (_, x.group) ∈ x.cells))
    rw [group]; rfl
  rw [Sketch.map_fst_cells, handles, fits.layer, fits.arrows, fits.lists.nodes, List.map_map,
    List.flatMap_map, List.flatMap_congr groups]
  rfl

/-- A scene that fits a sketch is in order. -/
theorem Fits.inOrder {k : Sketch α} (fits : scene.Fits k spare) :
    scene.InOrder (grid scene.surface) := by
  constructor
  case root_children =>
    have listed : (GridSurface.root, k.top) ∈ k.cells := List.mem_cons_self
    have top := GridSurface.children?_of_mem fits.holds listed
    rw [fits.layer, fits.lists.nodes, List.map_map]
    exact top
  case layer_children =>
    have listed : (k.layer, k.layerNode) ∈ k.cells := List.mem_cons_of_mem _ List.mem_cons_self
    have layer := GridSurface.children?_of_mem fits.holds listed
    rw [fits.layer, fits.arrows, List.map_map]
    exact layer
  case own_names =>
    rw [fits.lists.entries]
    intro entry mem
    obtain ⟨x, -, rfl⟩ := List.mem_map.mp mem
    rfl
  case groups =>
    rw [fits.lists.nodes]
    intro node mem
    obtain ⟨x, listed, rfl⟩ := List.mem_map.mp mem
    have there : ∀ cell ∈ x.cells, cell ∈ k.cells := fun _ => Sketch.mem_cells_of_state listed
    simp only [ShownState.cells, ShownState.leaves, List.forall_mem_cons] at there
    obtain ⟨group_there, circle_there, label_there, -⟩ := there
    have group := GridSurface.children?_of_mem fits.holds group_there
    have circle := fits.holds.get _ circle_there
    have label := fits.holds.get _ label_there
    refine ⟨x.circle, x.label, group, ?_, ?_, GridSurface.measure_ok label rfl⟩
    · rw [circle]; rfl
    · rw [label]; rfl
  case live =>
    rw [fits.handles_eq]
    intro h mem
    obtain ⟨cell, listed, rfl⟩ := List.mem_map.mp mem
    rw [fits.holds.get cell listed]; rfl
  case distinct => rw [fits.handles_eq]; exact fits.holds.nodup
  case one_path => exact fun h p q => fits.holds.follow_injective k.isTree

end Scene

/-! ## §5 Runs on a surface that refuses calls -/

namespace Scene

/-- Whatever calls are refused but removals, and whatever is drawn, a scene that was put on a
surface with a bare root is in order after every call. -/
theorem run_inOrder {surface : Unreliable (GridSurface α)} {layout : Layout α}
    {scene : Scene α (Unreliable (GridSurface α))}
    (bare : surface.inner.children? GridSurface.root = some [])
    (certain : ∀ made, surface.refuses .removeChild made = false)
    (made : Scene.new surface layout = .ok scene) (calls : List Call) :
    (scene.run calls).InOrder (scene.run calls).surface.inner := by
  obtain ⟨base, there, no_children⟩ := Option.map_eq_some_iff.mp bare
  obtain ⟨spare, holds⟩ : ∃ spare, (grid surface).nodes.Holds [(GridSurface.root, base)] spare :=
    NodeStore.Holds.singleton there
  obtain ⟨-, only, layer, fits⟩ := isNew_of_new no_children holds made
  have certain' : ¬ mayRefuse scene.surface .removeChild := by
    rw [only.mayRefuse]; exact not_mayRefuse_of_never certain
  obtain ⟨-, k, spare', -, fits'⟩ := run_inStep certain' ⟨_, spare, rfl, fits⟩ calls
  exact fits'.inOrder

/-- The second text is refused, so the first pass leaves one circle of two. -/
theorem run_inOrder_refused_text :
    let surface : Unreliable (GridSurface Float) :=
      (Unreliable.ofSurface (GridSurface.new .standard)).refuseOnce .createText 1
    let calls := [Call.render (.ofText "A->B"), .rebuildArrows (.ofText "C->A"), .arrange]
    ∃ scene, Scene.new surface .standard = .ok scene ∧
      (scene.run calls).InOrder (scene.run calls).surface.inner := by
  intro surface calls
  obtain ⟨scene, made⟩ : ∃ scene, Scene.new surface .standard = .ok scene := ⟨_, rfl⟩
  exact ⟨scene, made, run_inOrder rfl (fun _ => rfl) made calls⟩

end Scene

end TransitionDiagram
