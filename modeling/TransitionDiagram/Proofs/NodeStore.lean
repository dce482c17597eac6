/-
TransitionDiagram.Proofs.NodeStore: what a store of nodes holds.

`store.Holds cells spare` says that the listed nodes stand in the store under the listed handles,
that no handle is listed twice, and that there are `spare` more nodes, of which nothing else is
known. Each change of a store changes the list at the handle that it names and nowhere else, so a
proof about a tree of nodes never looks at the slots.

  §1 reading after a change
  §2 counting after a change
  §3 what a store holds
  §4 dropping nodes
-/
import Mathlib.Data.List.Perm.Subperm
import TransitionDiagram.Surface.NodeStore

namespace TransitionDiagram.NodeStore

variable {α : Type} {store : NodeStore α} {h k : Handle} {node : SceneNode α}

/-! ## §1 Reading -/

theorem get?_eq_some_iff : store.get? h = some node ↔ store.slots[h.index]? = some (some node) := by
  simp [get?, Option.join_eq_some_iff]

theorem get?_next : store.get? store.next = none := by
  simp [get?, next]

theorem get?_push_next : (store.push node).get? store.next = some node := by
  simp [get?, next, push]

theorem get?_push_of_ne (other : k ≠ store.next) : (store.push node).get? k = store.get? k := by
  have index_ne : k.index ≠ store.slots.size := fun same => other (by cases k; simp_all [next])
  simp [get?, push, Array.getElem?_push, index_ne]

theorem get?_modify_self {f : SceneNode α → SceneNode α} :
    (store.modify h f).get? h = (store.get? h).map f := by
  simp only [get?, modify, Array.getElem?_modify, if_pos]
  rcases store.slots[h.index]? with _ | _ | _ <;> rfl

theorem get?_modify_of_ne {f : SceneNode α → SceneNode α} (other : k ≠ h) :
    (store.modify h f).get? k = store.get? k := by
  have index_ne : h.index ≠ k.index := fun same => other (by cases k; cases h; simp_all)
  simp [get?, modify, Array.getElem?_modify, index_ne]

theorem get?_erase_of_ne (other : k ≠ h) : (store.erase h).get? k = store.get? k := by
  have index_ne : h.index ≠ k.index := fun same => other (by cases k; cases h; simp_all)
  simp [get?, erase, Array.getElem?_setIfInBounds_ne index_ne]

/-! ## §2 Counting -/

theorem size_push : (store.push node).size = store.size + 1 := by
  simp [size, push]

theorem size_modify {f : SceneNode α → SceneNode α} : (store.modify h f).size = store.size := by
  obtain ⟨⟨slots⟩⟩ := store
  simp only [size, modify, List.modify_toArray, List.countP_toArray]
  induction slots generalizing h with
  | nil => simp
  | cons slot slots ih =>
    obtain ⟨_ | index⟩ := h
    · cases slot <;> simp
    · have rest := ih (h := ⟨index⟩)
      cases slot <;> simp_all

theorem size_erase_add_one (there : store.get? h = some node) :
    (store.erase h).size + 1 = store.size := by
  obtain ⟨bound, slot⟩ := Array.getElem?_eq_some_iff.mp (get?_eq_some_iff.mp there)
  have positive : 0 < store.size :=
    Array.countP_pos_iff.mpr ⟨_, Array.getElem_mem bound, by rw [slot]; rfl⟩
  have counted : (store.erase h).size = store.size - 1 := by
    simp [size, erase, Array.setIfInBounds, bound, Array.countP_set, slot]
  omega

/-! ## §3 Holding -/

/-- The listed nodes stand in the store, under different handles, and so do `spare` others. -/
structure Holds (store : NodeStore α) (cells : List (Handle × SceneNode α)) (spare : Nat) :
    Prop where
  nodup : (cells.map Prod.fst).Nodup
  get : ∀ cell ∈ cells, store.get? cell.1 = some cell.2
  size : store.size = cells.length + spare

namespace Holds

variable {cells cells' : List (Handle × SceneNode α)} {spare : Nat}

theorem perm (holds : store.Holds cells spare) (order : cells.Perm cells') :
    store.Holds cells' spare where
  nodup := (order.map Prod.fst).nodup holds.nodup
  get := fun cell mem => holds.get cell (order.mem_iff.mpr mem)
  size := by rw [← order.length_eq]; exact holds.size

theorem head_ne (holds : store.Holds ((h, node) :: cells) spare) {cell : Handle × SceneNode α}
    (mem : cell ∈ cells) : cell.1 ≠ h := by
  have nodup := holds.nodup
  rw [List.map_cons, List.nodup_cons] at nodup
  intro same
  subst same
  exact nodup.1 (List.mem_map.mpr ⟨cell, mem, rfl⟩)

/-- A node that is not listed any more is one of the spare ones. -/
theorem forget (holds : store.Holds ((h, node) :: cells) spare) :
    store.Holds cells (spare + 1) where
  nodup := (List.nodup_cons.mp holds.nodup).2
  get := fun cell mem => holds.get cell (List.mem_cons_of_mem _ mem)
  size := by rw [holds.size, List.length_cons]; omega

theorem get_head (holds : store.Holds ((h, node) :: cells) spare) : store.get? h = some node :=
  holds.get (h, node) List.mem_cons_self

/-- A node that is there, all others being spare. -/
theorem singleton (there : store.get? h = some node) :
    ∃ spare, store.Holds [(h, node)] spare := by
  have counted := size_erase_add_one there
  refine ⟨(store.erase h).size, by simp, ?_, ?_⟩
  · intro cell mem
    rw [List.mem_singleton.mp mem]; exact there
  · rw [List.length_singleton]; omega

/-- A new node has a handle that is not listed. -/
theorem push (holds : store.Holds cells spare) :
    (store.push node).Holds ((store.next, node) :: cells) spare := by
  have fresh : ∀ cell ∈ cells, cell.1 ≠ store.next := by
    intro cell mem same
    have there := holds.get cell mem
    rw [same, get?_next] at there
    contradiction
  refine ⟨?_, ?_, ?_⟩
  · rw [List.map_cons, List.nodup_cons]
    refine ⟨fun mem => ?_, holds.nodup⟩
    obtain ⟨cell, listed, same⟩ := List.mem_map.mp mem
    exact fresh cell listed same
  · intro cell mem
    rcases List.mem_cons.mp mem with rfl | mem
    · exact get?_push_next
    · rw [get?_push_of_ne (fresh cell mem), holds.get cell mem]
  · rw [size_push, holds.size, List.length_cons]; omega

theorem modify (holds : store.Holds ((h, node) :: cells) spare) (f : SceneNode α → SceneNode α) :
    (store.modify h f).Holds ((h, f node) :: cells) spare := by
  refine ⟨holds.nodup, ?_, ?_⟩
  · intro cell mem
    rcases List.mem_cons.mp mem with rfl | mem
    · rw [get?_modify_self, holds.get_head]; rfl
    · rw [get?_modify_of_ne (holds.head_ne mem)]
      exact holds.get cell (List.mem_cons_of_mem _ mem)
  · rw [size_modify, holds.size]; rfl

theorem erase (holds : store.Holds ((h, node) :: cells) spare) :
    (store.erase h).Holds cells spare := by
  refine ⟨(List.nodup_cons.mp holds.nodup).2, ?_, ?_⟩
  · intro cell mem
    rw [get?_erase_of_ne (holds.head_ne mem)]
    exact holds.get cell (List.mem_cons_of_mem _ mem)
  · have counted := size_erase_add_one holds.get_head
    have total := holds.size
    rw [List.length_cons] at total
    omega

end Holds

/-! ## §4 Dropping -/

theorem dropAll_nil : store.dropAll [] = store := by
  rw [dropAll]

/-- Dropping a node empties its slot and goes on with its children. -/
theorem dropAll_cons {rest : List Handle} (there : store.get? h = some node) :
    store.dropAll (h :: rest) = (store.erase h).dropAll (node.children ++ rest) := by
  rw [dropAll]
  split
  · rename_i gone
    rw [there] at gone
    contradiction
  · rename_i found same
    rw [there] at same
    cases same
    rfl

/-- Nodes without children are dropped one by one. -/
theorem Holds.dropLeaves {cells leaves : List (Handle × SceneNode α)} {spare : Nat}
    (holds : store.Holds (leaves ++ cells) spare) (bare : ∀ leaf ∈ leaves, leaf.2.children = []) :
    (store.dropAll (leaves.map Prod.fst)).Holds cells spare := by
  induction leaves generalizing store with
  | nil => rw [List.map_nil, dropAll_nil]; exact holds
  | cons leaf leaves ih =>
    have first : store.Holds ((leaf.1, leaf.2) :: (leaves ++ cells)) spare := holds
    rw [List.map_cons, dropAll_cons first.get_head, bare leaf List.mem_cons_self, List.nil_append]
    exact ih first.erase fun other mem => bare other (List.mem_cons_of_mem _ mem)

/-- A node whose children have no children is dropped together with them. -/
theorem Holds.dropBranch {cells leaves : List (Handle × SceneNode α)} {spare : Nat}
    (holds : store.Holds ((h, node) :: (leaves ++ cells)) spare)
    (children : node.children = leaves.map Prod.fst)
    (bare : ∀ leaf ∈ leaves, leaf.2.children = []) :
    (store.dropAll [h]).Holds cells spare := by
  rw [dropAll_cons holds.get_head, List.append_nil, children]
  exact holds.erase.dropLeaves bare

end TransitionDiagram.NodeStore
