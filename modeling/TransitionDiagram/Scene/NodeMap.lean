/-
TransitionDiagram.Scene.NodeMap: the nodes of states, by state and in order.

A state that is shown has a node: the handle of its group on the surface, the width of its label,
and where it is. The map keeps the nodes in the order in which their states came, and every state
once. A node that is put in place of another takes over its slot.

  §1 nodes and maps
  §2 looking up
  §3 inserting and removing
-/
import TransitionDiagram.Fault

namespace TransitionDiagram

/-! ## §1 Nodes and maps -/

/-- The node of a state: a circle around a label. -/
structure StateNode (α : Type) where
  id : String
  handle : Handle
  /-- The measured width of the label. -/
  minSize : α
  /-- The middle of the circle. -/
  position : Point α
  deriving DecidableEq, Repr

/-- A node that has no place yet. -/
def StateNode.unplaced {α : Type} [Scalar α] (id : String) (handle : Handle) (minSize : α) :
    StateNode α where
  id := id
  handle := handle
  minSize := minSize
  position := .origin

/-- Nodes by state, in order, with no state twice. -/
structure NodeMap (α : Type) where
  entries : List (String × StateNode α)
  nodup : (entries.map Prod.fst).Nodup

namespace NodeMap

variable {α : Type}

/-- The map without nodes. -/
def empty : NodeMap α where
  entries := []
  nodup := .nil

/-! ## §2 Looking up -/

/-- The states, in order. -/
def ids (m : NodeMap α) : List String :=
  m.entries.map Prod.fst

/-- The nodes, in order. -/
def nodes (m : NodeMap α) : List (StateNode α) :=
  m.entries.map Prod.snd

/-- The node of a state. -/
def get? (m : NodeMap α) (id : String) : Option (StateNode α) :=
  m.entries.lookup id

/-- Whether a state has a node. -/
def contains (m : NodeMap α) (id : String) : Bool :=
  m.ids.contains id

/-! ## §3 Inserting and removing -/

/-- The entries with those of one state replaced. -/
def replace (id : String) (node : StateNode α) (entries : List (String × StateNode α)) :
    List (String × StateNode α) :=
  entries.map fun entry => if entry.1 = id then (id, node) else entry

theorem map_fst_replace (id : String) (node : StateNode α)
    (entries : List (String × StateNode α)) :
    (replace id node entries).map Prod.fst = entries.map Prod.fst := by
  simp only [replace, List.map_map]
  refine List.map_congr_left fun entry _ => ?_
  by_cases h : entry.1 = id <;> simp [h]

/-- The map with a node for a state: in the slot of the state's node, or in a new last slot. -/
def insert (m : NodeMap α) (id : String) (node : StateNode α) : NodeMap α :=
  if h : m.contains id then
    { entries := replace id node m.entries
      nodup := by rw [map_fst_replace]; exact m.nodup }
  else
    { entries := m.entries ++ [(id, node)]
      nodup := by
        rw [List.map_append, List.nodup_append]
        refine ⟨m.nodup, by simp, ?_⟩
        intro a mem b new
        simp only [List.map_cons, List.map_nil, List.mem_singleton] at new
        rintro rfl
        exact h (by simpa [contains, ids, new] using mem) }

/-- The nodes of those states that pass a test. -/
def filter (m : NodeMap α) (keep : String → Bool) : NodeMap α where
  entries := m.entries.filter fun entry => keep entry.1
  nodup := m.nodup.sublist (List.filter_sublist.map Prod.fst)

end NodeMap

end TransitionDiagram
