/-
TransitionDiagram.Live.Diagram: a scene that follows an edited text.

An update reads the text and, if it is not the text of the last pass, runs a pass for the machine
in it. Edits are notified; while the diagram is running a notification asks for an update after a
pause, and polling runs the update that is due. An update that ends with a fault leaves everything
said about the last pass as it was, so that the next update on the same text starts again.

  §1 live diagrams
  §2 updates
  §3 notifications
-/
import TransitionDiagram.Scene
import TransitionDiagram.Live.EditSource
import TransitionDiagram.Time.Debouncer

namespace TransitionDiagram

/-! ## §1 Live diagrams -/

/-- A scene, the text that it follows, and what is known of the last pass. -/
structure LiveDiagram (α σ E : Type) where
  scene : Scene α σ
  input : Option E
  /-- The text of the last pass. -/
  text : Option String
  /-- The machine of the last pass. -/
  machine : Machine
  debouncer : Debouncer
  running : Bool
  lastPass : Option (PassStats α)
  passes : Nat

namespace LiveDiagram

variable {α σ E : Type}

/-- The settings of a live diagram. -/
structure Config (α : Type) where
  quiet : Duration := Debouncer.standardQuiet
  layout : Layout α

/-- A diagram that follows nothing yet. -/
def new [DrawingSurface α σ] (surface : σ) (config : Config α) :
    Except (Fault α) (LiveDiagram α σ E) := do
  let scene ← Scene.new surface config.layout
  return {
    scene
    input := none
    text := none
    machine := .empty
    debouncer := { quiet := config.quiet }
    running := false
    lastPass := none
    passes := 0 }

/-! ## §2 Updates -/

/-- Runs an action on the scene. -/
def onScene {β : Type} (action : Action α (Scene α σ) β) : Action α (LiveDiagram α σ E) β :=
  fun live =>
    match action live.scene with
    | .ok b scene => .ok b { live with scene }
    | .error fault scene => .error fault { live with scene }

/-- Reads the text that is followed. -/
def readText [EditSource α E] : Action α (LiveDiagram α σ E) String := do
  match (← get).input with
  | none => throw .noInput
  | some source => ofExcept (EditSource.contents source)
where
  /-- The outcome of reading as an action. -/
  ofExcept : Except (Fault α) String → Action α (LiveDiagram α σ E) String
    | .ok text => pure text
    | .error fault => throw fault

/-- Runs a pass for a text. -/
def pass [Scalar α] [DrawingSurface α σ] (text : String) : Action α (LiveDiagram α σ E) Unit := do
  let machine := Machine.ofText text
  let stats ← onScene (Scene.render machine)
  modify fun live => { live with
    machine
    text := some text
    lastPass := some stats
    passes := live.passes + 1 }

/-- Runs a pass unless the text is that of the last pass, and tells whether one was run. -/
def update [Scalar α] [DrawingSurface α σ] [EditSource α E] :
    Action α (LiveDiagram α σ E) Bool := do
  let text ← readText
  if (← get).text = some text then return false
  pass text
  return true

/-- Follows a source from now on, and updates. -/
def bindInput [Scalar α] [DrawingSurface α σ] [EditSource α E] (source : E) :
    Action α (LiveDiagram α σ E) Bool := do
  modify fun live => { live with input := some source }
  update

/-! ## §3 Notifications -/

/-- Heeds notifications from now on. -/
def begin (live : LiveDiagram α σ E) : LiveDiagram α σ E :=
  { live with running := true }

/-- Heeds no notifications from now on, and drops the update that is pending. -/
def stop (live : LiveDiagram α σ E) : LiveDiagram α σ E :=
  { live with running := false, debouncer := live.debouncer.cancel.2 }

/-- Whether an update is pending. -/
def isPending (live : LiveDiagram α σ E) : Bool :=
  live.debouncer.isPending

/-- Asks for an update after a pause, and tells whether the request is heeded. -/
def notifyEdit (now : Duration) (live : LiveDiagram α σ E) : Bool × LiveDiagram α σ E :=
  if live.running then (true, { live with debouncer := (live.debouncer.schedule now).2 })
  else (false, live)

/-- Runs the update that is due, if there is one, and tells whether it ran a pass. -/
def poll [Scalar α] [DrawingSurface α σ] [EditSource α E] (now : Duration) :
    Action α (LiveDiagram α σ E) Bool := do
  let (due, debouncer) := (← get).debouncer.fire now
  if due then
    modify fun live => { live with debouncer }
    update
  else return false

end LiveDiagram

end TransitionDiagram
