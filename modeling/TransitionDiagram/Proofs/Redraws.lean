/-
TransitionDiagram.Proofs.Redraws: how often a picture was drawn.

A grid counts the updates that drew the whole tree. No other call touches the count, and an update
that is refused or that meets a missing node leaves it as it is. A pass draws once, as the last
thing that it does. So the count grows by one with a pass that goes through, and stays with a pass
that fails, wherever it fails; this asks nothing of the scene, nor of what may be refused.

  §1 calls on a grid
  §2 calls on a surface over a grid
  §3 passes
-/
import TransitionDiagram.Proofs.Respecting
import TransitionDiagram.Proofs.SceneFit

namespace TransitionDiagram

variable {α σ : Type} [Scalar α]

/-! ## §1 Grids -/

namespace GridSurface

/-- However the nodes change, the count of redraws stays. -/
theorem lastingOnGrid_redraws :
    LastingOnGrid fun s s' : GridSurface α => s'.redraws = s.redraws where
  lasting := .of_eq GridSurface.redraws
  create _ _ := rfl
  modify _ _ _ := rfl
  dropAll _ _ := rfl
  setCircleTemplate _ _ := rfl
  clear _ := rfl

/-- An update counts if it draws the whole tree. -/
theorem update_redraws (s : GridSurface α) :
    Ends (update s) (fun _ s' => s'.redraws = s.redraws + 1)
      (fun s' => s'.redraws = s.redraws) := by
  refine (Ends.get ?_).bind
  refine (Ends.set ?_).bind
  cases s.walk.fault with
  | none => exact rfl
  | some fault => exact rfl

end GridSurface

/-! ## §2 Surfaces over a grid -/

variable [DrawingSurface α σ] [OnGrid α σ]

namespace OnGrid

/-- How often the picture was drawn. -/
def redraws (s : σ) : Nat :=
  (grid s).redraws

/-- The picture was not drawn in between. -/
def SameRedraws (s s' : σ) : Prop :=
  redraws s' = redraws s

theorem lastingOnSurface_sameRedraws : LastingOnSurface (SameRedraws (α := α) (σ := σ)) :=
  lastingOnSurface GridSurface.lastingOnGrid_redraws.calls

theorem removeChild_sameRedraws (parent child : Handle) :
    Respects (DrawingSurface.removeChild parent child : Action α σ Unit) (SameRedraws (α := α)) :=
  (removeChild parent child).respects GridSurface.lastingOnGrid_redraws.lasting
    (GridSurface.lastingOnGrid_redraws.removeChild parent child)

theorem update_redraws (s : σ) :
    Ends (DrawingSurface.update s) (fun _ s' => redraws s' = redraws s + 1)
      (fun s' => redraws s' = redraws s) := by
  have beneath := GridSurface.update_redraws (grid s)
  rcases OnGrid.update s with
    ⟨fault, s', ended, -, becomes⟩ | ⟨_, s', after, ended, inner, becomes⟩ |
    ⟨fault, s', after, ended, inner, becomes⟩
  · rw [ended]
    exact congrArg GridSurface.redraws becomes.grid
  · rw [ended]
    exact (congrArg GridSurface.redraws becomes.grid).trans (beneath.of_ok inner)
  · rw [ended]
    exact (congrArg GridSurface.redraws becomes.grid).trans (beneath.of_error inner)

end OnGrid

/-! ## §3 Passes -/

namespace Scene

open OnGrid

/-- The picture was not drawn in between. -/
def SameRedraws (scene scene' : Scene α σ) : Prop :=
  OnGrid.SameRedraws scene.surface scene'.surface

theorem SameRedraws.lasting : Lasting (SameRedraws (α := α) (σ := σ)) :=
  .of_eq fun scene : Scene α σ => redraws scene.surface

theorem sameRedraws_of_retouched {β : Type} {action : Action α (Scene α σ) β}
    (h : Respects action (Retouched OnGrid.SameRedraws)) : Respects action SameRedraws :=
  h.imp fun same => same.surface

theorem updateStates_sameRedraws (machine : Machine) :
    Respects (updateStates machine : Action α (Scene α σ) (Nat × Nat)) SameRedraws := by
  have calls := lastingOnSurface_sameRedraws (α := α) (σ := σ)
  have matched : Respects (onNodes (NodeMap.reconcile createCircle machine.states))
      (SameRedraws (α := α) (σ := σ)) := onNodes_respects
    (NodeMap.reconcile_respects calls.lasting (createCircle_respects calls) machine.states)
  refine matched.bind SameRedraws.lasting fun outcome => ?_
  have removed := destroyCircles_respects removeChild_sameRedraws calls.lasting outcome.destroyed
  exact (sameRedraws_of_retouched (onSurface_respects removed)).bind SameRedraws.lasting fun _ =>
    .pure SameRedraws.lasting _

/-- A new scene has drawn nothing. -/
theorem redraws_of_new {surface : σ} {layout : Layout α} {scene : Scene α σ}
    (made : Scene.new surface layout = .ok scene) : redraws scene.surface = redraws surface := by
  have calls := lastingOnSurface_sameRedraws (α := α) (σ := σ)
  have layer := calls.createGroup surface
  unfold Scene.new at made
  generalize DrawingSurface.createGroup surface = created at made layer
  obtain ⟨h, s⟩ := created
  have attached := calls.addChild (DrawingSurface.root s) h s
  simp only at made
  cases ended : DrawingSurface.addChild (DrawingSurface.root s) h s with
  | error fault s' =>
    rw [ended] at made
    contradiction
  | ok _ s' =>
    rw [ended] at made
    cases made
    exact (attached.of_ok ended).trans layer

/-- A pass draws the picture once, and does so last. -/
theorem render_redraws (machine : Machine) (scene : Scene α σ) :
    Ends (render machine scene)
      (fun _ scene' => redraws scene'.surface = redraws scene.surface + 1)
      (fun scene' => redraws scene'.surface = redraws scene.surface) := by
  have calls := lastingOnSurface_sameRedraws (α := α) (σ := σ)
  have so_far : SameRedraws scene scene := rfl
  have failed : ∀ scene', SameRedraws scene scene' → SameRedraws scene scene' := fun _ same => same
  refine (updateStates_sameRedraws machine).andThen SameRedraws.lasting so_far failed ?_
  intro counts scene₁ so_far
  have clearing := sameRedraws_of_retouched (clear_respects calls)
  refine clearing.andThen SameRedraws.lasting so_far failed ?_
  intro _ scene₂ so_far
  have arranging := sameRedraws_of_retouched (arrange_respects calls)
  refine arranging.andThen SameRedraws.lasting so_far failed ?_
  intro radius scene₃ so_far
  have rebuilding :=
    sameRedraws_of_retouched (rebuildArrows_respects calls removeChild_sameRedraws machine)
  refine rebuilding.andThen SameRedraws.lasting so_far failed ?_
  intro arrows scene₄ so_far
  have same : redraws scene₄.surface = redraws scene.surface := so_far
  rw [← same]
  have drawn : Ends (onSurface DrawingSurface.update scene₄)
      (fun _ scene' => redraws scene'.surface = redraws scene₄.surface + 1)
      (fun scene' => redraws scene'.surface = redraws scene₄.surface) :=
    onSurface_ends (update_redraws scene₄.surface)
  exact drawn.andThen (fun _ _ counted => counted) (fun _ uncounted => uncounted)

end Scene

end TransitionDiagram
