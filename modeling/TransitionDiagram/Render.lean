/-
TransitionDiagram.Render: the picture of a text.

The text is read as a machine, the machine is shown on a fresh surface of characters with the
standard layout, and the picture is what that surface then shows.
-/
import TransitionDiagram.Scene
import TransitionDiagram.Surface.Grid

namespace TransitionDiagram

variable {α : Type} [Scalar α]

/-- The picture of a machine on a fresh surface. -/
def Machine.picture (m : Machine) (config : PictureConfig α) (layout : Layout α) :
    Except (Fault α) String := do
  let scene ← Scene.new (GridSurface.new config) layout
  match Scene.render m scene with
  | .ok _ scene => .ok scene.surface.frame
  | .error fault _ => .error fault

/-- The picture of a text. -/
def render (config : PictureConfig α) (text : String) : Except (Fault α) String :=
  (Machine.ofText text).picture config .standard

end TransitionDiagram
