/-
TransitionDiagram.Surface.Unreliable: a surface whose calls may be refused.

A schedule says for each kind of call, and for each number of calls of that kind made before,
whether the call is refused. A refused call changes nothing on the surface beneath. Every way in
which calls can fail without an effect is the run of some schedule.

  §1 counting calls
  §2 the surface
-/
import TransitionDiagram.Surface.Interface

namespace TransitionDiagram

/-! ## §1 Counts -/

/-- How many calls of each kind were made. -/
structure CallCounts where
  createText : Nat := 0
  measure : Nat := 0
  addChild : Nat := 0
  removeChild : Nat := 0
  setPosition : Nat := 0
  update : Nat := 0
  deriving DecidableEq, Repr

namespace CallCounts

/-- The count of one kind. -/
def get (counts : CallCounts) : SurfaceCall → Nat
  | .createText => counts.createText
  | .measure => counts.measure
  | .addChild => counts.addChild
  | .removeChild => counts.removeChild
  | .setPosition => counts.setPosition
  | .update => counts.update

/-- The counts after one more call. -/
def increment (counts : CallCounts) : SurfaceCall → CallCounts
  | .createText => { counts with createText := counts.createText + 1 }
  | .measure => { counts with measure := counts.measure + 1 }
  | .addChild => { counts with addChild := counts.addChild + 1 }
  | .removeChild => { counts with removeChild := counts.removeChild + 1 }
  | .setPosition => { counts with setPosition := counts.setPosition + 1 }
  | .update => { counts with update := counts.update + 1 }

end CallCounts

/-! ## §2 The surface -/

/-- Which calls are refused, by kind and by the number of calls of that kind made before. -/
abbrev Schedule : Type := SurfaceCall → Nat → Bool

/-- A surface with a schedule of refusals. -/
structure Unreliable (σ : Type) where
  inner : σ
  refuses : Schedule
  made : CallCounts

namespace Unreliable

variable {α σ : Type}

/-- A surface that refuses nothing. -/
def ofSurface (inner : σ) : Unreliable σ where
  inner := inner
  refuses _ _ := false
  made := {}

/-- The surface that will refuse one call of a kind, after letting some of that kind pass. -/
def refuseOnce (s : Unreliable σ) (call : SurfaceCall) (skip : Nat) : Unreliable σ :=
  let turn := s.made.get call + skip
  { s with refuses := fun c n => c = call && n = turn }

/-- Runs an action on the surface beneath. -/
def onInner {β : Type} (action : Action α σ β) : Action α (Unreliable σ) β := fun s =>
  match action s.inner with
  | .ok b inner => .ok b { s with inner }
  | .error fault inner => .error fault { s with inner }

/-- Makes a call, which is refused if the schedule says so, and counts it. -/
def attempt {β : Type} (call : SurfaceCall) (action : Action α σ β) :
    Action α (Unreliable σ) β := do
  let s ← get
  set { s with made := s.made.increment call }
  if s.refuses call (s.made.get call) then throw (.unavailable call)
  else onInner action

instance [DrawingSurface α σ] : DrawingSurface α (Unreliable σ) where
  root s := DrawingSurface.root s.inner
  size s := DrawingSurface.size s.inner
  createGroup s :=
    let (h, inner) := DrawingSurface.createGroup s.inner
    (h, { s with inner })
  createNode shape s :=
    let (h, inner) := DrawingSurface.createNode shape s.inner
    (h, { s with inner })
  createText label font color := attempt .createText (DrawingSurface.createText label font color)
  measure h := attempt .measure (DrawingSurface.measure h)
  addChild parent child := attempt .addChild (DrawingSurface.addChild parent child)
  removeChild parent child := attempt .removeChild (DrawingSurface.removeChild parent child)
  setPosition h position := attempt .setPosition (DrawingSurface.setPosition h position)
  setCircleTemplate template s :=
    { s with inner := DrawingSurface.setCircleTemplate template s.inner }
  clear s := { s with inner := DrawingSurface.clear s.inner }
  update := attempt .update DrawingSurface.update

end Unreliable

end TransitionDiagram
