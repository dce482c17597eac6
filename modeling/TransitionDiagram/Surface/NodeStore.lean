/-
TransitionDiagram.Surface.NodeStore: nodes kept under handles.

The store is an array of slots. A node keeps its slot for its life, and the slot of a dropped node
stays empty for ever, so no handle is given twice. Children are lists of handles and may name nodes
that are not there any more.

Dropping a node drops all that can be reached from it. The nodes still to be dropped are kept in a
list; each step either empties a slot or shortens the list, so the work ends even if nodes lie
below themselves.

  §1 nodes and slots
  §2 adding and changing nodes
  §3 dropping nodes
-/
import TransitionDiagram.Fault

namespace TransitionDiagram

/-! ## §1 Nodes and slots -/

/-- A node of a picture. Its position is relative to its parent. -/
structure SceneNode (α : Type) where
  content : Content α
  position : Point α
  children : List Handle
  deriving DecidableEq, Repr

/-- Nodes in slots. A handle is the number of a slot. -/
structure NodeStore (α : Type) where
  slots : Array (Option (SceneNode α))
  deriving DecidableEq, Repr

namespace NodeStore

variable {α : Type}

/-- The node with a handle. -/
def get? (store : NodeStore α) (h : Handle) : Option (SceneNode α) :=
  store.slots[h.index]?.join

/-- The number of nodes. -/
def size (store : NodeStore α) : Nat :=
  store.slots.countP Option.isSome

/-- The handle that the next node will have. -/
def next (store : NodeStore α) : Handle :=
  { index := store.slots.size }

/-! ## §2 Adding and changing nodes -/

/-- The store without nodes. -/
def empty : NodeStore α where
  slots := #[]

/-- Adds a node. -/
def push (store : NodeStore α) (node : SceneNode α) : NodeStore α where
  slots := store.slots.push (some node)

/-- Changes a node, if it is there. -/
def modify (store : NodeStore α) (h : Handle) (f : SceneNode α → SceneNode α) : NodeStore α where
  slots := store.slots.modify h.index (Option.map f)

/-! ## §3 Dropping nodes -/

/-- Empties a slot. -/
def erase (store : NodeStore α) (h : Handle) : NodeStore α where
  slots := store.slots.setIfInBounds h.index none

/-- Emptying the slot of a node leaves one node less. -/
theorem size_erase {store : NodeStore α} {h : Handle} {node : SceneNode α}
    (there : store.get? h = some node) : (store.erase h).size < store.size := by
  have some_slot : store.slots[h.index]? = some (some node) := by
    simpa [get?, Option.join_eq_some_iff] using there
  obtain ⟨bound, slot⟩ := Array.getElem?_eq_some_iff.mp some_slot
  have positive : 0 < store.size :=
    Array.countP_pos_iff.mpr ⟨_, Array.getElem_mem bound, by rw [slot]; rfl⟩
  have counted : (store.erase h).size = store.size - 1 := by
    simp only [size, erase, Array.setIfInBounds, bound, ↓reduceDIte, Array.countP_set, slot,
      Option.isSome_some, Option.isSome_none, ↓reduceIte, Bool.false_eq_true, Nat.add_zero]
  omega

/-- Drops some nodes and all that can be reached from them. -/
def dropAll (store : NodeStore α) : List Handle → NodeStore α
  | [] => store
  | h :: rest =>
    match _there : store.get? h with
    | none => dropAll store rest
    | some node => dropAll (store.erase h) (node.children ++ rest)
  termination_by pending => (store.size, pending.length)
  decreasing_by
    · exact Prod.Lex.right _ (Nat.lt_succ_self _)
    · exact Prod.Lex.left _ _ (size_erase (by assumption))

end NodeStore

end TransitionDiagram
