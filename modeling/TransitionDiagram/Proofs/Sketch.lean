/-
TransitionDiagram.Proofs.Sketch: the tree that a scene keeps on its surface.

A sketch says which nodes a scene means to have on its surface: the root, the layer of arrows below
it with a line for each arrow, and a group for each state with a circle and a label. Handles that
the scene itself does not keep, those of circles and labels, are part of the sketch.

A sketch is compared with a surface by its cells: the surface holds the sketch if its store holds
the cells. What the surface draws then follows from the sketch, which lists its visits.

  §1 sketches and their cells
  §2 adding to a sketch and taking from it
  §3 the walk over a sketch
-/
import TransitionDiagram.Proofs.NodeStore
import TransitionDiagram.Scene
import TransitionDiagram.Surface.Grid

open scoped List

namespace TransitionDiagram

variable {α : Type}

/-- Walks that do not stop early, one after the other. -/
theorem Walk.concat_map {γ : Type} {items : List γ} {walk : γ → Walk α}
    {visits : γ → List (Visit α)}
    (each : ∀ c ∈ items, walk c = { visits := visits c, fault := none }) :
    Walk.concat (items.map walk) = { visits := items.flatMap visits, fault := none } := by
  induction items with
  | nil => rfl
  | cons c rest ih =>
    rw [List.map_cons, Walk.concat, each c List.mem_cons_self,
      ih fun d mem => each d (List.mem_cons_of_mem _ mem)]
    rfl

variable [Scalar α]

/-! ## §1 Sketches -/

/-- The nodes that show a state, and where their group is. -/
structure ShownState (α : Type) where
  node : StateNode α
  place : Point α
  circle : Handle
  label : Handle

/-- The node that shows an arrow: where it is, and where it leads from there. -/
structure ShownArrow (α : Type) where
  arrow : Arrow
  place : Point α
  vector : Point α

namespace ShownState

/-- The circle and the label. -/
def leaves (x : ShownState α) : List (Handle × SceneNode α) :=
  [(x.circle, GridSurface.freshNode (.shape .circle)),
    (x.label, GridSurface.freshNode (.text x.node.id x.node.minSize))]

/-- The group around the circle and the label. -/
def group (x : ShownState α) : SceneNode α where
  content := .group
  position := x.place
  children := [x.circle, x.label]

/-- The group, the circle and the label. -/
def cells (x : ShownState α) : List (Handle × SceneNode α) :=
  (x.node.handle, x.group) :: x.leaves

/-- The entry of the state in a map of nodes. -/
def entry (x : ShownState α) : String × StateNode α :=
  (x.node.id, x.node)

/-- What a walk meets of the state, from a parent at `origin`. -/
def visits (origin : Point α) (x : ShownState α) : List (Visit α) :=
  let middle := origin.offset x.place
  [{ content := .group, position := middle },
    { content := .shape .circle, position := middle.offset .origin },
    { content := .text x.node.id x.node.minSize, position := middle.offset .origin }]

end ShownState

namespace ShownArrow

/-- The line of the arrow. -/
def cell (x : ShownArrow α) : Handle × SceneNode α :=
  (x.arrow.handle,
    { content := .shape (.line x.vector Scene.arrowStroke), position := x.place, children := [] })

/-- What a walk meets of the arrow, from a parent at `origin`. -/
def visit (origin : Point α) (x : ShownArrow α) : Visit α where
  content := .shape (.line x.vector Scene.arrowStroke)
  position := origin.offset x.place

end ShownArrow

/-- The tree of a scene. The root is given apart from its children. -/
structure Sketch (α : Type) where
  base : SceneNode α
  layer : Handle
  arrows : List (ShownArrow α)
  states : List (ShownState α)

namespace Sketch

/-- The root: the layer of arrows lies beneath all states. -/
def top (k : Sketch α) : SceneNode α :=
  { k.base with children := k.layer :: k.states.map (·.node.handle) }

/-- The layer of arrows. -/
def layerNode (k : Sketch α) : SceneNode α :=
  { GridSurface.freshNode .group with children := k.arrows.map (·.arrow.handle) }

/-- The nodes apart from the root and the layer. -/
def parts (k : Sketch α) : List (Handle × SceneNode α) :=
  k.arrows.map ShownArrow.cell ++ k.states.flatMap ShownState.cells

/-- All nodes of the sketch. -/
def cells (k : Sketch α) : List (Handle × SceneNode α) :=
  (GridSurface.root, k.top) :: (k.layer, k.layerNode) :: k.parts

/-- Two nodes, one for each arrow, three for each state. -/
theorem length_cells (k : Sketch α) :
    k.cells.length = 2 + 3 * k.states.length + k.arrows.length := by
  have triples : (k.states.flatMap ShownState.cells).length = 3 * k.states.length := by
    induction k.states with
    | nil => rfl
    | cons x rest ih => rw [List.flatMap_cons, List.length_append, ih]; simp [ShownState.cells,
        ShownState.leaves]; omega
  simp only [cells, parts, List.length_cons, List.length_append, List.length_map, triples]
  omega

theorem mem_cells_of_state {k : Sketch α} {x : ShownState α} (listed : x ∈ k.states)
    {cell : Handle × SceneNode α} (mem : cell ∈ x.cells) : cell ∈ k.cells := by
  simp only [cells, parts, List.mem_cons, List.mem_append, List.mem_flatMap]
  exact .inr (.inr (.inr ⟨x, listed, mem⟩))

theorem mem_cells_of_arrow {k : Sketch α} {x : ShownArrow α} (listed : x ∈ k.arrows) :
    x.cell ∈ k.cells := by
  simp only [cells, parts, List.mem_cons, List.mem_append, List.mem_map]
  exact .inr (.inr (.inl ⟨x, listed, rfl⟩))

/-- The cells tell of a state only its handle, its name, its width and its place. -/
theorem cells_congr {k : Sketch α} {states : List (ShownState α)}
    (same : states.map (fun x => (x.node.handle, x.cells)) =
      k.states.map fun x => (x.node.handle, x.cells)) :
    { k with states }.cells = k.cells := by
  have handles : states.map (·.node.handle) = k.states.map (·.node.handle) := by
    have firsts := congrArg (List.map Prod.fst) same
    simpa only [List.map_map, Function.comp_def] using firsts
  have drawn : states.flatMap ShownState.cells = k.states.flatMap ShownState.cells := by
    have seconds := congrArg (List.flatMap Prod.snd) same
    simpa only [List.flatMap_map] using seconds
  simp only [cells, top, layerNode, parts, handles, drawn]

/-! ## §2 Adding and taking -/

variable {store : NodeStore α} {spare : Nat}

/-- The order of the cells when the group of one state is wanted right behind the root. -/
theorem cells_perm_state (k : Sketch α) (before after : List (ShownState α)) (x : ShownState α) :
    { k with states := before ++ x :: after }.cells.Perm
      ((GridSurface.root, { k with states := before ++ x :: after }.top) ::
        (x.node.handle, x.group) :: (x.leaves ++
          ((k.layer, k.layerNode) :: { k with states := before ++ after }.parts))) := by
  refine .cons _ ?_
  have parts_eq : (k.layer, k.layerNode) :: { k with states := before ++ x :: after }.parts =
      ((k.layer, k.layerNode) :: (k.arrows.map ShownArrow.cell ++
        before.flatMap ShownState.cells)) ++ (x.cells ++ after.flatMap ShownState.cells) := by
    simp [parts]
  have rest_eq : (x.node.handle, x.group) :: (x.leaves ++
      ((k.layer, k.layerNode) :: { k with states := before ++ after }.parts)) =
      x.cells ++ (((k.layer, k.layerNode) :: (k.arrows.map ShownArrow.cell ++
        before.flatMap ShownState.cells)) ++ after.flatMap ShownState.cells) := by
    simp [parts, ShownState.cells]
  exact (List.Perm.of_eq parts_eq).trans
    ((List.perm_append_comm_assoc _ _ _).trans (List.Perm.of_eq rest_eq.symm))

/-- A state whose group is below the root belongs to the sketch. -/
theorem holds_addState {k : Sketch α} {x : ShownState α} {rest : List (Handle × SceneNode α)}
    (order : rest.Perm ((k.layer, k.layerNode) :: k.parts))
    (holds : store.Holds
      ((GridSurface.root, { k.top with children := k.top.children ++ [x.node.handle] }) ::
        (x.cells ++ rest)) spare) :
    store.Holds { k with states := k.states ++ [x] }.cells spare := by
  have top_eq : { k.top with children := k.top.children ++ [x.node.handle] } =
      { k with states := k.states ++ [x] }.top := by
    simp [top]
  rw [top_eq] at holds
  refine holds.perm (.cons _ ?_)
  have parts_eq : (k.layer, k.layerNode) :: { k with states := k.states ++ [x] }.parts =
      (k.layer, k.layerNode) :: k.parts ++ x.cells := by
    simp [parts]
  exact (order.append_left _).trans
    (List.perm_append_comm.trans (List.Perm.of_eq parts_eq.symm))

theorem erase_top {k : Sketch α} {before after : List (ShownState α)} {x : ShownState α}
    (holds : store.Holds { k with states := before ++ x :: after }.cells spare) :
    { { k with states := before ++ x :: after }.top with
      children := { k with states := before ++ x :: after }.top.children.erase x.node.handle } =
    { k with states := before ++ after }.top := by
  have nodup := (holds.perm (cells_perm_state k before after x)).nodup
  simp only [List.map_cons, List.map_append, List.nodup_cons, List.mem_cons, List.mem_append,
    not_or] at nodup
  -- the handle is found where the state is, as nothing before it has the same one
  have not_layer : k.layer ≠ x.node.handle := fun same => nodup.2.1.2.1 same.symm
  have not_before : x.node.handle ∉ before.map (·.node.handle) := by
    intro mem
    obtain ⟨y, listed, same⟩ := List.mem_map.mp mem
    refine nodup.2.1.2.2 (List.mem_map.mpr ⟨(y.node.handle, y.group), ?_, same⟩)
    simp only [parts, List.mem_append, List.mem_flatMap]
    exact .inr ⟨y, .inl listed, List.mem_cons_self⟩
  simp [top, List.erase_cons_tail, not_layer, List.erase_append_right, not_before]

theorem cells_perm_group (k : Sketch α) (before after : List (ShownState α)) (x : ShownState α) :
    { k with states := before ++ x :: after }.cells.Perm
      ((x.node.handle, x.group) :: (x.leaves ++
        (GridSurface.root, { k with states := before ++ x :: after }.top) ::
          (k.layer, k.layerNode) :: { k with states := before ++ after }.parts)) := by
  refine (cells_perm_state k before after x).trans ((List.Perm.swap _ _ _).trans (.cons _ ?_))
  exact List.perm_middle.symm

theorem holds_moveState {k : Sketch α} {before after : List (ShownState α)} {x : ShownState α}
    {place : Point α}
    (holds : store.Holds ((x.node.handle, { x.group with position := place }) :: (x.leaves ++
      (GridSurface.root, { k with states := before ++ x :: after }.top) ::
        (k.layer, k.layerNode) :: { k with states := before ++ after }.parts)) spare) :
    store.Holds { k with states := before ++ { x with place } :: after }.cells spare := by
  have moved := (cells_perm_group k before after { x with place }).symm
  have top_eq : { k with states := before ++ { x with place } :: after }.top =
      { k with states := before ++ x :: after }.top := by
    simp [top]
  rw [top_eq] at moved
  exact holds.perm moved

theorem cells_perm_arrow (k : Sketch α) (before after : List (ShownArrow α)) (x : ShownArrow α) :
    { k with arrows := before ++ x :: after }.cells.Perm
      ((k.layer, { k with arrows := before ++ x :: after }.layerNode) :: x.cell ::
        (GridSurface.root, k.top) :: { k with arrows := before ++ after }.parts) := by
  refine (List.Perm.swap _ _ _).trans (.cons _ ?_)
  have parts_perm : { k with arrows := before ++ x :: after }.parts.Perm
      (x.cell :: { k with arrows := before ++ after }.parts) := by
    simp only [parts, List.map_append, List.map_cons, List.append_assoc, List.cons_append]
    exact List.perm_middle
  exact (List.Perm.cons _ parts_perm).trans (.swap _ _ _)

theorem erase_layerNode {k : Sketch α} {before after : List (ShownArrow α)} {x : ShownArrow α}
    (holds : store.Holds { k with arrows := before ++ x :: after }.cells spare) :
    { { k with arrows := before ++ x :: after }.layerNode with
      children := { k with arrows := before ++ x :: after }.layerNode.children.erase
        x.arrow.handle } =
    { k with arrows := before ++ after }.layerNode := by
  have nodup := (holds.perm (cells_perm_arrow k before after x)).nodup
  simp only [List.map_cons, List.nodup_cons, List.mem_cons, not_or] at nodup
  have not_before : x.arrow.handle ∉ before.map (·.arrow.handle) := by
    intro mem
    obtain ⟨y, listed, same⟩ := List.mem_map.mp mem
    refine nodup.2.1.2 (List.mem_map.mpr ⟨y.cell, ?_, same⟩)
    simp only [parts, List.map_append, List.mem_append, List.mem_map]
    exact .inl (.inl ⟨y, listed, rfl⟩)
  simp [layerNode, List.erase_append_right, not_before]

/-- An arrow whose line is below the layer belongs to the sketch. -/
theorem holds_addArrow {k : Sketch α} {x : ShownArrow α}
    (holds : store.Holds
      ((k.layer, { k.layerNode with children := k.layerNode.children ++ [x.arrow.handle] }) ::
        x.cell :: (GridSurface.root, k.top) :: k.parts) spare) :
    store.Holds { k with arrows := k.arrows ++ [x] }.cells spare := by
  have layer_eq : { k.layerNode with children := k.layerNode.children ++ [x.arrow.handle] } =
      { k with arrows := k.arrows ++ [x] }.layerNode := by
    simp [layerNode]
  rw [layer_eq] at holds
  refine holds.perm ?_
  have parts_perm : (x.cell :: k.parts).Perm { k with arrows := k.arrows ++ [x] }.parts := by
    simp only [parts, List.map_append, List.map_cons, List.map_nil, List.append_assoc]
    exact List.perm_middle.symm
  calc (k.layer, { k with arrows := k.arrows ++ [x] }.layerNode) :: x.cell ::
        (GridSurface.root, k.top) :: k.parts
    _ ~ (k.layer, { k with arrows := k.arrows ++ [x] }.layerNode) ::
        (GridSurface.root, k.top) :: x.cell :: k.parts := .cons _ (.swap _ _ _)
    _ ~ (GridSurface.root, k.top) ::
        (k.layer, { k with arrows := k.arrows ++ [x] }.layerNode) :: x.cell :: k.parts :=
      .swap _ _ _
    _ ~ { k with arrows := k.arrows ++ [x] }.cells := .cons _ (.cons _ parts_perm)

/-! ## §3 The walk -/

/-- A walk over a node goes on with its children. -/
theorem walk_node {h : Handle} {node : SceneNode α} {depth : Nat} {origin : Point α}
    {below : List (Visit α)} (there : store.get? h = some node)
    (children : Walk.concat (node.children.map (store.walk depth (origin.offset node.position))) =
      { visits := below, fault := none }) :
    store.walk (depth + 1) origin h =
      { visits := { content := node.content, position := origin.offset node.position } :: below,
        fault := none } := by
  simp only [NodeStore.walk, there, children]

theorem walk_arrow {k : Sketch α} {x : ShownArrow α} {depth : Nat} {origin : Point α}
    (holds : store.Holds k.cells spare) (listed : x ∈ k.arrows) :
    store.walk (depth + 1) origin x.arrow.handle =
      { visits := [x.visit origin], fault := none } :=
  walk_node (holds.get _ (mem_cells_of_arrow listed)) rfl

theorem walk_state {k : Sketch α} {x : ShownState α} {depth : Nat} {origin : Point α}
    (holds : store.Holds k.cells spare) (listed : x ∈ k.states) :
    store.walk (depth + 2) origin x.node.handle =
      { visits := x.visits origin, fault := none } := by
  have there : ∀ cell ∈ x.cells, store.get? cell.1 = some cell.2 :=
    fun cell mem => holds.get cell (mem_cells_of_state listed mem)
  have circle := there (x.circle, _) (List.mem_cons_of_mem _ List.mem_cons_self)
  have label := there (x.label, _) (List.mem_cons_of_mem _ (List.mem_cons_of_mem _
    List.mem_cons_self))
  refine walk_node (there (x.node.handle, x.group) List.mem_cons_self) ?_
  simp only [ShownState.group, List.map_cons, List.map_nil]
  rw [walk_node circle rfl, walk_node label rfl]
  rfl

/-- What a walk over the whole sketch meets. -/
def visits (k : Sketch α) : List (Visit α) :=
  let top := Point.origin.offset k.base.position
  { content := k.base.content, position := top } ::
    ({ content := .group, position := top.offset .origin } ::
      k.arrows.map (ShownArrow.visit (top.offset .origin)) ++
      k.states.flatMap (ShownState.visits top))

theorem walk_layer {k : Sketch α} {depth : Nat} {origin : Point α}
    (holds : store.Holds k.cells spare) (deep : k.arrows ≠ [] → 0 < depth) :
    store.walk (depth + 1) origin k.layer =
      { visits := { content := .group, position := origin.offset .origin } ::
          k.arrows.map (ShownArrow.visit (origin.offset .origin)),
        fault := none } := by
  have there : store.get? k.layer = some k.layerNode :=
    holds.get (k.layer, k.layerNode) (List.mem_cons_of_mem _ List.mem_cons_self)
  refine walk_node there ?_
  have each : ∀ x ∈ k.arrows, store.walk depth (origin.offset .origin) x.arrow.handle =
      { visits := [x.visit (origin.offset .origin)], fault := none } := by
    intro x listed
    obtain ⟨less, rfl⟩ := Nat.exists_eq_add_of_le' (deep (List.ne_nil_of_mem listed))
    exact walk_arrow holds listed
  have lines := Walk.concat_map each
  rw [← List.map_eq_flatMap] at lines
  simpa only [layerNode, GridSurface.freshNode, List.map_map, Function.comp_def] using lines

/-- No way down a sketch is longer than there are slots. -/
theorem length_le_slots {k : Sketch α} (holds : store.Holds k.cells spare) :
    2 + 3 * k.states.length + k.arrows.length ≤ store.slots.size := by
  have counted : store.size ≤ store.slots.size := Array.countP_le_size
  have total := holds.size
  rw [length_cells] at total
  omega

/-- A surface that holds a sketch is walked to the end, and the sketch says what is met. -/
theorem walk_eq {k : Sketch α} (holds : store.Holds k.cells spare) :
    store.walk store.slots.size .origin GridSurface.root =
      { visits := k.visits, fault := none } := by
  have many := length_le_slots holds
  -- two levels are always there, and a third one as soon as anything is on it
  obtain ⟨depth, size_eq⟩ := Nat.exists_eq_add_of_le' (show 2 ≤ store.slots.size by omega)
  have deep_arrows : k.arrows ≠ [] → 0 < depth := by
    intro some_arrow
    have := List.length_pos_iff.mpr some_arrow
    omega
  have layer : store.walk (depth + 1) (Point.origin.offset k.base.position) k.layer = _ :=
    walk_layer holds deep_arrows
  have each : ∀ x ∈ k.states,
      store.walk (depth + 1) (Point.origin.offset k.base.position) x.node.handle =
        { visits := x.visits (Point.origin.offset k.base.position), fault := none } := by
    intro x listed
    have := List.length_pos_iff.mpr (List.ne_nil_of_mem listed)
    obtain ⟨less, rfl⟩ := Nat.exists_eq_add_of_le' (show 1 ≤ depth by omega)
    exact walk_state holds listed
  have top_there : store.get? GridSurface.root = some k.top :=
    holds.get (GridSurface.root, k.top) List.mem_cons_self
  have children : Walk.concat (k.top.children.map
      (store.walk (depth + 1) (Point.origin.offset k.top.position))) =
        { visits := k.visits.tail, fault := none } := by
    simp only [top, List.map_cons, List.map_map, Function.comp_def, Walk.concat, layer,
      Walk.concat_map each, visits, List.tail_cons]
  have walked := walk_node top_there children
  rw [size_eq]
  exact walked

end Sketch

end TransitionDiagram
