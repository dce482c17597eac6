/-
TransitionDiagram.Scene.Reconcile: matching the nodes of a map with the states of a machine.

States are the same if their names are. A state that has a node keeps it, untouched and in its
slot. Every other state gets a new node, made in the order of the states and put behind the rest.
Only then are the nodes of vanished states taken out of the map and handed back. So if making a
node fails, the map still holds every node there is: the old ones and those made so far.
-/
import TransitionDiagram.Scene.NodeMap

namespace TransitionDiagram

variable {α ε σ : Type}

/-- The outcome of matching: how many nodes were made, and the nodes without a state. -/
structure Reconciliation (α : Type) where
  created : Nat
  destroyed : List (StateNode α)
  deriving DecidableEq, Repr

namespace NodeMap

/-- Makes a node with an action on the state beside the map, and puts it into the map. -/
def createNode (create : String → EStateM ε σ (StateNode α)) (id : String) :
    EStateM ε (NodeMap α × σ) Unit := fun (m, s) =>
  match create id s with
  | .ok node s => .ok () (m.insert id node, s)
  | .error e s => .error e (m, s)

/-- Makes a node for each state without one, and counts them. -/
def createMissing (create : String → EStateM ε σ (StateNode α)) :
    List String → EStateM ε (NodeMap α × σ) Nat
  | [] => pure 0
  | id :: rest => do
    if (← get).1.contains id then createMissing create rest
    else
      createNode create id
      let others ← createMissing create rest
      return others + 1

/-- Matches the map with some states. -/
def reconcile (create : String → EStateM ε σ (StateNode α)) (states : List String) :
    EStateM ε (NodeMap α × σ) (Reconciliation α) := do
  let created ← createMissing create states
  let (m, s) ← get
  set (m.filter states.contains, s)
  return { created, destroyed := (m.filter fun id => !states.contains id).nodes }

end NodeMap

end TransitionDiagram
