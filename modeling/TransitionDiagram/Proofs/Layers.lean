/-
TransitionDiagram.Proofs.Layers: arrows are drawn beneath circles.

The picture of a pass is an overlay of two drawings that know nothing of each other: the groups of
the circles, drawn alone, and the layer of the arrows, drawn alone. Where a group makes a mark, be
it a blank inside a circle or the filler after a wide character of a label, the picture is that of
the groups; everywhere else it is that of the arrows. What the groups draw depends on the states and
their order, so other transitions change no cell of a circle or a label.

  §1 nodes below the root, drawn alone
  §2 groups and arrows of a sketch
  §3 passes
  §4 scenes
-/
import TransitionDiagram.Proofs.Portrait

namespace TransitionDiagram

open OnGrid

variable {α σ : Type} [Scalar α]

/-! ## §1 Nodes drawn alone -/

namespace GridSurface

end GridSurface

namespace Scene

variable [DrawingSurface α σ] [OnGrid α σ] {scene scene' : Scene α σ} {k k' : Sketch α}
  {machine : Machine} {stats : PassStats α} {spare : Nat}

/-- The groups of the circles, in the order of the map. -/
def groups (scene : Scene α σ) : List Handle :=
  scene.nodes.nodes.map (·.handle)

/-! ## §2 Groups and arrows -/

variable {config : PictureConfig α} {layout : Layout α}

/-- After a pass the circles have the radius that the layout chooses for their names. -/
theorem Steady.rendered_template (steady : scene.Steady config layout)
    (ended : render machine scene = .ok stats scene') {r : α}
    (chosen : layout.radiusOf? scene'.nodes.ids = some r) :
    (grid scene'.surface).template = .ofRadius r := by
  obtain ⟨k, k', spare, -, -, passed, -⟩ := steady.exists_sketches ended
  refine passed.template r ?_
  rw [passed.radius, steady.hasLayout, ← passed.ids, chosen]

/-! ## §4 Scenes -/

section

variable {machine' : Machine} {scene scene' : Scene α (Unreliable (GridSurface α))}

theorem Shows.template (shows : scene.Shows config layout machine) {r : α}
    (chosen : layout.radiusOf? scene.nodes.ids = some r) :
    scene.surface.inner.template = .ofRadius r := by
  obtain ⟨before, stats, steady, ended⟩ := shows.exists_pass
  exact steady.rendered_template ended chosen

end

end Scene

end TransitionDiagram
