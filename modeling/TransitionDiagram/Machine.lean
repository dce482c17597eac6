/-
TransitionDiagram.Machine: state machines as ordered collections of transitions.

A machine keeps its transitions in the order in which they were added, repeats included, and its
states in the order in which they first appeared as an end of a transition, each once. A state
exists only as an end of a transition, so a state cannot be added on its own.

A text describes the machine of the transitions on its lines; every other line is passed over, so
every text describes some machine.

  §1 the machine and its queries
  §2 adding transitions
  §3 the machine of a text
-/
import TransitionDiagram.Text.Lines
import TransitionDiagram.Transition.Line

namespace TransitionDiagram

/-! ## §1 Machines -/

/-- A state machine: states by first appearance, transitions in order of addition. -/
structure Machine where
  states : List String := []
  transitions : List Transition := []
  deriving DecidableEq, Repr, Inhabited

namespace Machine

/-- The machine without states and transitions. -/
def empty : Machine := {}

/-- Whether the text names a state of the machine. -/
def hasState (m : Machine) (id : String) : Bool :=
  m.states.contains id

/-- The state of that name, if there is one. -/
def state? (m : Machine) (id : String) : Option String :=
  m.states.find? (· == id)

/-- Whether the machine has no transition. -/
def isEmpty (m : Machine) : Bool :=
  m.transitions.isEmpty

/-- Whether the machine has neither a state nor a transition. -/
def isBlank (m : Machine) : Bool :=
  m.states.isEmpty && m.transitions.isEmpty

/-! ## §2 Adding transitions -/

/-- The states with one more, which is put last unless it is there already. -/
def insertState (states : List String) (id : String) : List String :=
  if states.contains id then states else states ++ [id]

/-- Adds a transition and those of its ends that are not states yet, the source first. -/
def addTransition (m : Machine) (t : Transition) : Machine where
  states := t.endpoints.foldl insertState m.states
  transitions := m.transitions ++ [t]

/-- Why a machine refuses a state: it would belong to no transition. -/
structure LoneState where
  id : String
  deriving DecidableEq, Repr

/-- The refusal in words. -/
def LoneState.message (e : LoneState) : String :=
  "state '" ++ e.id ++ "' needs a transition"

/-- Adding a state on its own is always refused. -/
def addState (_ : Machine) (id : String) : Except LoneState Machine :=
  .error { id }

/-- The machine of some transitions. -/
def ofTransitions (ts : List Transition) : Machine :=
  ts.foldl addTransition empty

/-! ## §3 The machine of a text -/

/-- The transitions on the lines of a text. -/
def transitionsOf (text : List Char) : List Transition :=
  (Text.lines text).filterMap Transition.ofLine?

/-- The machine that a text describes. -/
def ofText (text : String) : Machine :=
  ofTransitions (transitionsOf text.toList)

/-- Whether some line of the text is a transition. -/
def describedBy (text : String) : Bool :=
  (Text.lines text.toList).any fun line => (Transition.ofLine? line).isSome

/-- The name of the line grammar and its version. -/
def grammarName : String := "transitions 0.1.0"

end Machine

end TransitionDiagram
