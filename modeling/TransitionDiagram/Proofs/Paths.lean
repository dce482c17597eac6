/-
TransitionDiagram.Proofs.Paths: the ways down a tree of nodes.

A path is a list of numbers of children. A store in which every handle is listed at most once as a
child, and the root nowhere, is a tree: no two paths from the root lead to the same node. The store
of a sketch is one, because its handles are the root and the listed children, in another order.

  §1 paths
  §2 trees
  §3 sketches are trees
-/
import Mathlib.Data.List.Induction
import Mathlib.Data.List.Nodup
import Mathlib.Data.List.Pairwise
import Mathlib.Data.List.Perm.Basic
import TransitionDiagram.Proofs.Sketch

open scoped List

namespace TransitionDiagram

variable {α : Type}

namespace NodeStore

/-! ## §1 Paths -/

/-- The child of a node that has the given number. -/
def child? (store : NodeStore α) (h : Handle) (number : Nat) : Option Handle :=
  (store.get? h).bind (·.children[number]?)

/-- Where a path leads from a node. -/
def follow (store : NodeStore α) (h : Handle) (path : List Nat) : Option Handle :=
  path.foldlM store.child? h

theorem follow_append_singleton {store : NodeStore α} {h h' : Handle} {path : List Nat}
    {number : Nat} :
    store.follow h (path ++ [number]) = some h' ↔
      ∃ parent, store.follow h path = some parent ∧ store.child? parent number = some h' := by
  simp [follow, List.foldlM_append, Option.bind_eq_some_iff]

/-! ## §2 Trees -/

variable {store : NodeStore α} {root : Handle} {cells : List (Handle × SceneNode α)} {spare : Nat}

/-- The handles of the cells are the root and the children of the cells, each once. -/
def IsTree (root : Handle) (cells : List (Handle × SceneNode α)) : Prop :=
  (root :: cells.flatMap (·.2.children)) ~ cells.map Prod.fst

theorem Holds.child?_eq {parent : Handle × SceneNode α} (holds : store.Holds cells spare)
    (listed : parent ∈ cells) (number : Nat) :
    store.child? parent.1 number = parent.2.children[number]? := by
  rw [child?, holds.get parent listed]; rfl

/-- Paths from the root never leave the cells. -/
theorem Holds.mem_of_follow (holds : store.Holds cells spare) (tree : IsTree root cells)
    {path : List Nat} {h : Handle} (leads : store.follow root path = some h) :
    ∃ cell ∈ cells, cell.1 = h := by
  have of_listed : ∀ h' ∈ root :: cells.flatMap (·.2.children), ∃ cell ∈ cells, cell.1 = h' :=
    fun h' mem => List.mem_map.mp (tree.mem_iff.mp mem)
  induction path using List.reverseRecOn generalizing h with
  | nil =>
    cases leads
    exact of_listed root List.mem_cons_self
  | append_singleton path number ih =>
    obtain ⟨parent, before, step⟩ := follow_append_singleton.mp leads
    obtain ⟨cell, listed, rfl⟩ := ih before
    rw [holds.child?_eq listed] at step
    have child : h ∈ cell.2.children := List.mem_of_getElem? step
    exact of_listed h (List.mem_cons_of_mem _ (List.mem_flatMap.mpr ⟨cell, listed, child⟩))

/-- No node is the child of two cells, or twice of one. -/
theorem IsTree.parent_unique (tree : IsTree root cells) (nodup : (cells.map Prod.fst).Nodup)
    {x y : Handle × SceneNode α} (hx : x ∈ cells) (hy : y ∈ cells) {i j : Nat} {h : Handle}
    (first : x.2.children[i]? = some h) (second : y.2.children[j]? = some h) :
    x = y ∧ i = j := by
  have children := (List.nodup_cons.mp (tree.nodup_iff.mpr nodup)).2
  obtain ⟨each, apart⟩ := List.nodup_flatMap.mp children
  have same : x = y := by
    by_contra differ
    have symm : Std.Symm (Function.onFun List.Disjoint
        fun cell : Handle × SceneNode α => cell.2.children) :=
      ⟨fun _ _ disjoint => List.disjoint_symm disjoint⟩
    have disjoint := apart.forall hx hy differ
    exact disjoint (List.mem_of_getElem? first) (List.mem_of_getElem? second)
  subst same
  obtain ⟨bound, -⟩ := List.getElem?_eq_some_iff.mp first
  exact ⟨rfl, (List.getElem?_inj bound (each x hx)).mp (first.trans second.symm)⟩

/-- In a tree no two paths lead from the root to the same node. -/
theorem Holds.follow_injective (holds : store.Holds cells spare) (tree : IsTree root cells)
    {p q : List Nat} {h : Handle} (hp : store.follow root p = some h)
    (hq : store.follow root q = some h) : p = q := by
  have not_below : ∀ path number, store.follow root (path ++ [number]) ≠ some root := by
    intro path number leads
    obtain ⟨parent, before, step⟩ := follow_append_singleton.mp leads
    obtain ⟨cell, listed, rfl⟩ := holds.mem_of_follow tree before
    rw [holds.child?_eq listed] at step
    have child : root ∈ cell.2.children := List.mem_of_getElem? step
    have apart := (List.nodup_cons.mp (tree.nodup_iff.mpr holds.nodup)).1
    exact apart (List.mem_flatMap.mpr ⟨cell, listed, child⟩)
  -- on the last steps: both paths end at the same parent with the same number
  induction p using List.reverseRecOn generalizing q h with
  | nil =>
    cases hp
    rcases List.eq_nil_or_concat q with rfl | ⟨path, number, rfl⟩
    · rfl
    · exact absurd (by simpa using hq) (not_below path number)
  | append_singleton p i ih =>
    rcases List.eq_nil_or_concat q with rfl | ⟨q, j, rfl⟩
    · cases hq
      exact absurd hp (not_below p i)
    · rw [List.concat_eq_append] at hq ⊢
      obtain ⟨x, before_x, step_x⟩ := follow_append_singleton.mp hp
      obtain ⟨y, before_y, step_y⟩ := follow_append_singleton.mp hq
      obtain ⟨cx, mem_x, rfl⟩ := holds.mem_of_follow tree before_x
      obtain ⟨cy, mem_y, rfl⟩ := holds.mem_of_follow tree before_y
      rw [holds.child?_eq mem_x] at step_x
      rw [holds.child?_eq mem_y] at step_y
      obtain ⟨rfl, rfl⟩ := tree.parent_unique holds.nodup mem_x mem_y step_x step_y
      rw [ih before_x before_y]

end NodeStore

/-! ## §3 Sketches -/

theorem Sketch.map_fst_cells [Scalar α] (k : Sketch α) :
    k.cells.map Prod.fst = GridSurface.root :: k.layer :: (k.arrows.map (·.arrow.handle) ++
      k.states.flatMap fun x => [x.node.handle, x.circle, x.label]) := by
  have states : (k.states.flatMap ShownState.cells).map Prod.fst =
      k.states.flatMap fun x => [x.node.handle, x.circle, x.label] := by
    simp [List.map_flatMap, ShownState.cells, ShownState.leaves]
  have arrows : (k.arrows.map ShownArrow.cell).map Prod.fst = k.arrows.map (·.arrow.handle) := by
    simp [ShownArrow.cell]
  rw [cells, parts, List.map_cons, List.map_cons, List.map_append, states, arrows]

/-- The handles of a sketch are the root and the children of its nodes. -/
theorem Sketch.isTree [Scalar α] (k : Sketch α) : NodeStore.IsTree GridSurface.root k.cells := by
  have lines : (k.arrows.map ShownArrow.cell).flatMap (·.2.children) = [] := by
    simp [ShownArrow.cell]
  have groups : (k.states.flatMap ShownState.cells).flatMap (·.2.children) =
      k.states.flatMap fun x => [x.circle, x.label] := by
    simp [List.flatMap_assoc, ShownState.cells, ShownState.leaves, ShownState.group,
      GridSurface.freshNode]
  have together : k.states.map (·.node.handle) ++ k.states.flatMap (fun x => [x.circle, x.label]) ~
      k.states.flatMap fun x => [x.node.handle, x.circle, x.label] :=
    List.map_append_flatMap_perm _ _ _
  unfold NodeStore.IsTree
  rw [map_fst_cells]
  simp only [cells, parts, List.flatMap_cons, List.flatMap_append, lines, groups, top, layerNode,
    List.nil_append, List.cons_append]
  refine .cons _ (.cons _ ?_)
  calc k.states.map (·.node.handle) ++
        (k.arrows.map (·.arrow.handle) ++ k.states.flatMap fun x => [x.circle, x.label])
    _ ~ k.arrows.map (·.arrow.handle) ++
        (k.states.map (·.node.handle) ++ k.states.flatMap fun x => [x.circle, x.label]) :=
      List.perm_append_comm_assoc _ _ _
    _ ~ k.arrows.map (·.arrow.handle) ++
        k.states.flatMap fun x => [x.node.handle, x.circle, x.label] :=
      together.append_left _

end TransitionDiagram
