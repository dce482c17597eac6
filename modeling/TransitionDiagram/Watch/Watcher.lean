/-
TransitionDiagram.Watch.Watcher: a live diagram that follows a file.

A watcher is shown the file from time to time. A stamp that differs from the last one is an edit;
the diagram decides when the edit leads to a new picture, and then reads what is seen at that
moment. While the file is missing nothing happens, and a pending update keeps its deadline.
-/
import TransitionDiagram.Live.Diagram
import TransitionDiagram.Surface.Grid
import TransitionDiagram.Watch.Sighting

namespace TransitionDiagram

/-- A diagram of characters that follows a file, and the last stamp seen. -/
structure Watcher (α : Type) where
  diagram : LiveDiagram α (GridSurface α) FileView
  path : String
  stamp : Stamp

namespace Watcher

variable {α : Type} [Scalar α]

/-- Draws a file that is there, and follows it from now on. -/
def start (path : String) (picture : PictureConfig α) (config : LiveDiagram.Config α)
    (seen : Sighting) : Except (Fault α) (Watcher α) :=
  match seen with
  | .missing => .error (.file (.missing path))
  | .unknown reason => .error (.file (.unknownState path reason))
  | .present stamp contents => do
    let diagram ← LiveDiagram.new (GridSurface.new picture) config
    match LiveDiagram.bindInput { path, contents : FileView } diagram with
    | .ok _ diagram => .ok { diagram := diagram.begin, path, stamp }
    | .error fault _ => .error fault

/-- Runs an action on the diagram. -/
def onDiagram {β : Type} (action : Action α (LiveDiagram α (GridSurface α) FileView) β) :
    Action α (Watcher α) β := fun w =>
  match action w.diagram with
  | .ok b diagram => .ok b { w with diagram }
  | .error fault diagram => .error fault { w with diagram }

/-- Takes note of a stamp, and of an edit if the stamp is new. -/
def noteStamp (now : Duration) (stamp : Stamp) (w : Watcher α) : Watcher α :=
  if stamp = w.stamp then w
  else { w with stamp, diagram := (w.diagram.notifyEdit now).2 }

/-- Looks at the file, and tells whether it was drawn anew. -/
def check (now : Duration) (seen : Sighting) : Action α (Watcher α) Bool := do
  match seen with
  | .missing => return false
  | .unknown reason => throw (.file (.unknownState (← get).path reason))
  | .present stamp contents =>
    modify fun w =>
      { w with diagram := { w.diagram with input := some { path := w.path, contents } } }
    modify (noteStamp now stamp)
    onDiagram (LiveDiagram.poll now)

/-- The picture as it was last drawn. -/
def frame (w : Watcher α) : String :=
  w.diagram.scene.surface.frame

end Watcher

end TransitionDiagram
