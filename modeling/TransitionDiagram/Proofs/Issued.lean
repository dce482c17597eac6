/-
TransitionDiagram.Proofs.Issued: which handles a surface has given.

A store gives handles in order, one for each node that is added, and takes none back: changing and
dropping nodes leave the handle that comes next as it is. So a handle below the next one was given
to some node once, whether or not that node is still there, and any other one was never given.

No call on a surface over a grid turns this back, whether it is refused or not.

  §1 handles of a store
  §2 calls on a grid
  §3 calls on a surface over a grid
-/
import TransitionDiagram.Proofs.Respecting

namespace TransitionDiagram

variable {α σ β : Type}

/-! ## §1 Stores -/

namespace NodeStore

/-- The handle was given to a node, which may be gone by now. -/
def Issued (store : NodeStore α) (h : Handle) : Prop :=
  h.index < store.next.index

variable {store : NodeStore α} {h k : Handle} {node : SceneNode α}

/-- A node that is added is given the next handle, and no other handle is given. -/
theorem issued_push : (store.push node).Issued h ↔ store.Issued h ∨ h = store.next := by
  obtain ⟨index⟩ := h
  simp only [Issued, next, push, Array.size_push, Handle.mk.injEq]
  omega

@[simp] theorem next_modify {f : SceneNode α → SceneNode α} :
    (store.modify h f).next = store.next := by
  simp [next, modify]

@[simp] theorem next_erase : (store.erase h).next = store.next := by
  simp [next, erase]

@[simp] theorem next_dropAll (pending : List Handle) :
    (store.dropAll pending).next = store.next := by
  fun_induction dropAll store pending with
  | case1 => rfl
  | case2 store h rest gone ih => exact ih
  | case3 store h rest node there ih => rw [ih, next_erase]

end NodeStore

/-! ## §2 Grids -/

namespace GridSurface

/-- No handle is taken back. -/
def Later (s s' : GridSurface α) : Prop :=
  s.nodes.next.index ≤ s'.nodes.next.index

theorem Later.lasting : Lasting (Later (α := α)) :=
  .of_le fun s : GridSurface α => s.nodes.next.index

theorem Later.of_eq {s s' : GridSurface α} (same : s'.nodes.next = s.nodes.next) : s.Later s' :=
  Nat.le_of_eq (congrArg Handle.index same.symm)

variable [Scalar α]

/-- However the nodes change, no handle is taken back. -/
theorem lastingOnGrid_later : LastingOnGrid (Later (α := α)) where
  lasting := Later.lasting
  create _ _ := by simp [Later, create, NodeStore.next, NodeStore.push]
  modify _ _ _ := .of_eq NodeStore.next_modify
  dropAll _ _ := .of_eq (NodeStore.next_dropAll _)
  setCircleTemplate _ _ := .of_eq rfl
  clear _ := .of_eq rfl

theorem update_respects : Respects update (Later (α := α)) := by
  intro s
  refine (Ends.get ?_).bind
  refine (Ends.set ?_).bind
  cases s.walk.fault with
  | none => exact Later.of_eq rfl
  | some fault => exact Later.of_eq rfl

end GridSurface

/-! ## §3 Surfaces over a grid -/

namespace OnGrid

variable [Scalar α] [DrawingSurface α σ] [OnGrid α σ]

/-- No handle that the grid beneath has given is taken back. -/
def Later (s s' : σ) : Prop :=
  (grid s).Later (grid s')

theorem lastingOnSurface_later : LastingOnSurface (Later (α := α) (σ := σ)) :=
  lastingOnSurface GridSurface.lastingOnGrid_later.calls

theorem removeChild_respects (parent child : Handle) :
    Respects (DrawingSurface.removeChild parent child : Action α σ Unit) (Later (α := α)) :=
  (removeChild parent child).respects GridSurface.Later.lasting
    (GridSurface.lastingOnGrid_later.removeChild parent child)

theorem update_respects : Respects (DrawingSurface.update : Action α σ Unit) (Later (α := α)) :=
  update.respects GridSurface.Later.lasting GridSurface.update_respects

end OnGrid

end TransitionDiagram
