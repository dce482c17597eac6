/-
TransitionDiagram.Proofs.SceneFit: when a scene and its surface are in step.

A scene remembers handles: of the layer of arrows, of the groups of the states, and of the arrows.
It fits a sketch if it remembers what the sketch says and the surface beneath holds the sketch. A
scene that fits some sketch is in step with its surface, whatever the places are.

Some of a scene never changes, and `Keeps` says what: the constants of the layout, the settings of
the grid, its size in cells, and which calls may be refused. An action that ends with a fault
leaves a scene behind that fits some sketch and keeps all that; `Broken` adds why it ended so.

  §1 actions on parts of a scene
  §2 fitting a sketch
  §3 keeping what never changes
-/
import TransitionDiagram.Proofs.Circles
import TransitionDiagram.Proofs.NodeMap

namespace TransitionDiagram

open OnGrid

variable {α σ : Type}

/-! ## §1 Parts of a scene -/

namespace Scene

variable {β : Type} {scene : Scene α σ} {good : β → Scene α σ → Prop} {bad : Scene α σ → Prop}

theorem onSurface_ends {action : Action α σ β}
    (h : Ends (action scene.surface) (fun b surface => good b { scene with surface })
      (fun surface => bad { scene with surface })) :
    Ends (onSurface action scene) good bad := by
  unfold onSurface
  cases ended : action scene.surface with
  | ok b surface => rw [ended] at h; exact h
  | error fault surface => rw [ended] at h; exact h

theorem onNodes_ends {action : Action α (NodeMap α × σ) β}
    (h : Ends (action (scene.nodes, scene.surface))
      (fun b after => good b { scene with nodes := after.1, surface := after.2 })
      (fun after => bad { scene with nodes := after.1, surface := after.2 })) :
    Ends (onNodes action scene) good bad := by
  unfold onNodes
  cases ended : action (scene.nodes, scene.surface) with
  | ok b after => rw [ended] at h; exact h
  | error fault after => rw [ended] at h; exact h

end Scene

/-! ## §2 Fitting -/

variable [Scalar α]

/-- A map has the nodes of a sketch under their own names, with the widths of these names. -/
structure Sketch.Lists (k : Sketch α) (m : NodeMap α) : Prop where
  entries : m.entries = k.states.map ShownState.entry
  widths : ∀ x ∈ k.states, x.node.minSize = Cell.labelWidth x.node.id

namespace Sketch.Lists

variable {k : Sketch α} {m : NodeMap α}

theorem ids (lists : k.Lists m) : m.ids = k.states.map (·.node.id) := by
  rw [NodeMap.ids, lists.entries, List.map_map]; rfl

theorem nodes (lists : k.Lists m) : m.nodes = k.states.map (·.node) := by
  rw [NodeMap.nodes, lists.entries, List.map_map]; rfl

theorem filter (lists : k.Lists m) (keep : String → Bool) :
    { k with states := k.states.filter (keep ·.node.id) }.Lists (m.filter keep) where
  entries := by rw [NodeMap.entries_filter, lists.entries, List.filter_map]; rfl
  widths := fun x mem => lists.widths x (List.mem_of_mem_filter mem)

end Sketch.Lists

variable [DrawingSurface α σ] [OnGrid α σ]

namespace Scene

/-- A scene remembers what the sketch says, and its surface holds the sketch. -/
structure Fits (scene : Scene α σ) (k : Sketch α) (spare : Nat) : Prop where
  layer : scene.arrowLayer = k.layer
  lists : k.Lists scene.nodes
  arrows : scene.arrows = k.arrows.map (·.arrow)
  holds : (grid scene.surface).nodes.Holds k.cells spare

/-! ## §3 Keeping -/

/-- What never changes is the same. -/
structure Keeps (scene scene' : Scene α σ) : Prop where
  layout : scene'.layout = scene.layout
  config : (grid scene'.surface).config = (grid scene.surface).config
  wiped : (grid scene'.surface).canvas.wipe = (grid scene.surface).canvas.wipe
  mayRefuse : mayRefuse scene'.surface = mayRefuse scene.surface

namespace Keeps

variable {scene scene' scene'' : Scene α σ}

theorem refl (scene : Scene α σ) : scene.Keeps scene := ⟨rfl, rfl, rfl, rfl⟩

theorem trans (first : scene.Keeps scene') (second : scene'.Keeps scene'') :
    scene.Keeps scene'' where
  layout := second.layout.trans first.layout
  config := second.config.trans first.config
  wiped := second.wiped.trans first.wiped
  mayRefuse := second.mayRefuse.trans first.mayRefuse

/-- Other nodes beneath, and whatever the scene remembers of them. -/
theorem of_onlyNodes (layout : scene'.layout = scene.layout)
    (only : OnlyNodes scene.surface scene'.surface) : scene.Keeps scene' where
  layout := layout
  config := by rw [only.grid]
  wiped := by rw [only.grid]
  mayRefuse := only.mayRefuse

end Keeps

/-- A scene after a fault. It still fits some sketch below the same root, and nothing was drawn. -/
structure Broken (k : Sketch α) (cause : Prop) (scene scene' : Scene α σ) : Prop where
  keeps : scene.Keeps scene'
  canvas : (grid scene'.surface).canvas = (grid scene.surface).canvas
  fits : ∃ k' spare, k'.base = k.base ∧ scene'.Fits k' spare
  cause : cause

/-- Some call may be refused at some time. -/
def MayFail (scene : Scene α σ) : Prop :=
  ∃ call, mayRefuse scene.surface call

/-- A fault after other nodes were made beneath. -/
theorem Broken.of_onlyNodes {k k' : Sketch α} {cause : Prop} {scene scene' : Scene α σ}
    {spare : Nat} (layout : scene'.layout = scene.layout)
    (only : OnlyNodes scene.surface scene'.surface) (fits : scene'.Fits k' spare)
    (base : k'.base = k.base) (because : cause) : Broken k cause scene scene' where
  keeps := .of_onlyNodes layout only
  canvas := by rw [only.grid]
  fits := ⟨k', spare, base, fits⟩
  cause := because

theorem Broken.of_keeps {k k' : Sketch α} {cause cause' : Prop} {scene scene' scene'' : Scene α σ}
    (broken : Broken k' cause' scene' scene'') (base : k'.base = k.base)
    (keeps : scene.Keeps scene')
    (canvas : (grid scene'.surface).canvas = (grid scene.surface).canvas)
    (because : cause' → cause) : Broken k cause scene scene'' := by
  obtain ⟨k'', spare, same, fits⟩ := broken.fits
  exact ⟨keeps.trans broken.keeps, broken.canvas.trans canvas,
    ⟨k'', spare, same.trans base, fits⟩, because broken.cause⟩

theorem Keeps.mayFail {scene scene' : Scene α σ} (keeps : scene.Keeps scene') :
    scene'.MayFail → scene.MayFail := by
  intro fails
  obtain ⟨call, refused⟩ := fails
  exact ⟨call, keeps.mayRefuse ▸ refused⟩

end Scene

end TransitionDiagram
