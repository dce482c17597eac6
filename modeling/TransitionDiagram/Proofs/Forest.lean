/-
TransitionDiagram.Proofs.Forest: surfaces on which every node has one place.

A surface lets a node be attached anywhere. If it is attached only while no list names it, and
neither to itself nor to a node below itself, then the lists form a forest, in which the root is the
top of one of the trees: a listed node is live, has one place in one list, and there is no way back
up. `after_isForest` is the step and `run_isForest` the run. Removing a child keeps this because the
nodes that go are whole subtrees: the parent of a dropped node is dropped too, or is the one from
which the child was taken.

  §1 forests
  §2 ways in a forest
  §3 changes of a forest
  §4 disciplined runs
-/
import Mathlib.Data.List.Nodup
import TransitionDiagram.Proofs.Instructions

namespace TransitionDiagram

variable {α : Type}

namespace NodeStore

variable {store : NodeStore α} {root h k p q child parent : Handle} {node : SceneNode α}

/-! ## §1 Forests -/

/-- Each listed node is live and has one place in one list, which is not below it. -/
structure IsForest (store : NodeStore α) (root : Handle) : Prop where
  root_live : store.Live root
  root_free : ∀ parent, root ∉ store.childrenOf parent
  live : ∀ parent, ∀ child ∈ store.childrenOf parent, store.Live child
  nodup : ∀ parent, (store.childrenOf parent).Nodup
  parent_unique : ∀ p q child, child ∈ store.childrenOf p → child ∈ store.childrenOf q → p = q
  acyclic : ∀ parent, ∀ child ∈ store.childrenOf parent, ¬ Reaches store.childrenOf child parent

namespace IsForest

/-! ## §2 Ways -/

/-- Of two nodes above the same one, one is above the other. -/
theorem total (forest : store.IsForest root) (first : Reaches store.childrenOf p k)
    (second : Reaches store.childrenOf q k) :
    Reaches store.childrenOf p q ∨ Reaches store.childrenOf q p := by
  have unique : Relator.RightUnique (Function.swap fun parent child =>
      child ∈ store.childrenOf parent) := fun child _ _ => forest.parent_unique _ _ child
  have up := Relation.ReflTransGen.total_of_right_unique unique
    (Relation.reflTransGen_swap.mpr first) (Relation.reflTransGen_swap.mpr second)
  exact up.symm.imp Relation.reflTransGen_swap.mp Relation.reflTransGen_swap.mp

/-- From a child there is a way to one of its siblings only if that is the child itself. -/
theorem eq_of_siblings (forest : store.IsForest root) (listed : p ∈ store.childrenOf parent)
    (listed' : q ∈ store.childrenOf parent) (way : Reaches store.childrenOf p q) : p = q := by
  rcases Reaches.iff_above.mp way with same | ⟨above, way, last⟩
  · exact same.symm
  · rw [forest.parent_unique _ _ _ last listed'] at way
    exact absurd way (forest.acyclic parent p listed)

/-- No node is below two siblings. -/
theorem siblings_apart (forest : store.IsForest root) (listed : p ∈ store.childrenOf parent)
    (listed' : q ∈ store.childrenOf parent) (first : Reaches store.childrenOf p k)
    (second : Reaches store.childrenOf q k) : p = q := by
  rcases forest.total first second with way | way
  · exact forest.eq_of_siblings listed listed' way
  · exact (forest.eq_of_siblings listed' listed way).symm

/-- In a forest there is one way at most from a node to another. -/
theorem way_unique (forest : store.IsForest root) {way way' : List Handle}
    (first : Way store.childrenOf h way k) (second : Way store.childrenOf h way' k) :
    way' = way := by
  induction first generalizing way' with
  | here =>
    cases second with
    | here => rfl
    | down listed on => exact absurd on.reaches (forest.acyclic _ _ listed)
  | down listed on ih =>
    cases second with
    | here => exact absurd on.reaches (forest.acyclic _ _ listed)
    | down listed' on' =>
      obtain rfl := forest.siblings_apart listed listed' on.reaches on'.reaches
      rw [ih on']

/-! ## §3 Changes -/

/-- Fewer places make a forest again, as long as the nodes that are named are still there. -/
theorem of_sublists {store' : NodeStore α} (forest : store.IsForest root)
    (lists : ∀ p, (store'.childrenOf p).Sublist (store.childrenOf p)) (root_live : store'.Live root)
    (live : ∀ p, ∀ k ∈ store'.childrenOf p, store'.Live k) : store'.IsForest root where
  root_live := root_live
  root_free p mem := forest.root_free p ((lists p).subset mem)
  live := live
  nodup p := (forest.nodup p).sublist (lists p)
  parent_unique p q k first second :=
    forest.parent_unique p q k ((lists p).subset first) ((lists q).subset second)
  acyclic p k mem way :=
    forest.acyclic p k ((lists p).subset mem) (way.mono fun q _ listed => (lists q).subset listed)

/-- A change that leaves all lists as they are and loses no node. -/
theorem of_same_lists {store' : NodeStore α} (forest : store.IsForest root)
    (live : ∀ h, store.Live h → store'.Live h)
    (lists : ∀ p, store'.childrenOf p = store.childrenOf p) : store'.IsForest root := by
  refine forest.of_sublists (fun p => by rw [lists]) (live root forest.root_live) ?_
  intro p k listed
  rw [lists] at listed
  exact live k (forest.live p k listed)

theorem push (forest : store.IsForest root) (bare : node.children = []) :
    (store.push node).IsForest root :=
  forest.of_same_lists (fun _ live => live_push.mpr (.inl live)) fun _ => childrenOf_push bare

theorem move {place : Point α} (forest : store.IsForest root) (there : store.get? h = some node) :
    (store.modify h fun node => { node with position := place }).IsForest root := by
  refine forest.of_same_lists (fun _ => live_modify.mpr) fun p => ?_
  rw [childrenOf_modify there]
  split_ifs with same
  · rw [same, childrenOf_of_get there]
  · rfl

/-- A node that no list names is attached to one that is not below it. -/
theorem attach (forest : store.IsForest root) (there : store.get? parent = some node)
    (live : store.Live child) (not_root : child ≠ root)
    (free : ∀ p, child ∉ store.childrenOf p) (apart : ¬ Reaches store.childrenOf child parent) :
    (store.modify parent fun node =>
      { node with children := node.children ++ [child] }).IsForest root := by
  set attached := store.modify parent fun node => { node with children := node.children ++ [child] }
  have lists : ∀ p, attached.childrenOf p =
      if p = parent then store.childrenOf parent ++ [child] else store.childrenOf p := fun p => by
    rw [childrenOf_modify there, childrenOf_of_get there]
  have added : ∀ {p k}, k ∈ attached.childrenOf p →
      k ∈ store.childrenOf p ∨ (p = parent ∧ k = child) := by
    intro p k
    rw [lists]
    split_ifs with same <;> simp [same]
  constructor
  case root_live => exact live_modify.mpr forest.root_live
  case root_free =>
    intro p listed
    rcases added listed with old | ⟨-, same⟩
    · exact forest.root_free p old
    · exact not_root same.symm
  case live =>
    intro p k listed
    rcases added listed with old | ⟨-, rfl⟩
    · exact live_modify.mpr (forest.live p k old)
    · exact live_modify.mpr live
  case nodup =>
    intro p
    rw [lists]
    split_ifs
    · exact (List.nodup_append_comm.mp (List.nodup_cons.mpr ⟨free parent, forest.nodup parent⟩))
    · exact forest.nodup p
  case parent_unique =>
    intro p q k first second
    rcases added first with old | ⟨rfl, rfl⟩
    · rcases added second with old' | ⟨-, rfl⟩
      · exact forest.parent_unique p q k old old'
      · exact absurd old (free p)
    · rcases added second with old' | ⟨rfl, -⟩
      · exact absurd old' (free q)
      · rfl
  case acyclic =>
    intro p k listed way
    rcases added listed with old | ⟨rfl, rfl⟩
    · rcases way.of_added added with way | ⟨up, down⟩
      · exact forest.acyclic p k old way
      · exact apart ((down.tail old).trans up)
    · exact (way.of_added added).elim apart fun both => apart both.2

/-- A node that no list names is dropped with all below it. -/
theorem drop (forest : store.IsForest root) (not_root : child ≠ root)
    (free : ∀ p, child ∉ store.childrenOf p) : (store.dropAll [child]).IsForest root := by
  have live : ∀ k, (store.dropAll [child]).Live k ↔
      store.Live k ∧ ¬ Reaches store.childrenOf child k := by
    simp [live_dropAll_iff]
  have kept : ∀ p, (store.dropAll [child]).Live p →
      (store.dropAll [child]).childrenOf p = store.childrenOf p := by
    intro p left
    obtain ⟨node, there⟩ := live_iff.mp left
    rw [childrenOf_of_get there, childrenOf_of_get (get?_of_dropAll there)]
  refine forest.of_sublists (fun p => ?_) ((live root).mpr ⟨forest.root_live, fun way => ?_⟩) ?_
  · by_cases left : (store.dropAll [child]).Live p
    · rw [kept p left]
    · rw [childrenOf_of_gone (not_live_iff.mp left)]
      exact List.nil_sublist _
  · rcases Reaches.iff_above.mp way with same | ⟨above, -, last⟩
    · exact not_root same.symm
    · exact forest.root_free above last
  · intro p k listed
    obtain ⟨-, apart⟩ := (live p).mp (live_of_mem_childrenOf listed)
    rw [kept p (live_of_mem_childrenOf listed)] at listed
    refine (live k).mpr ⟨forest.live p k listed, fun way => ?_⟩
    -- what goes with the child has its parent below the child, and that goes too
    rcases Reaches.iff_above.mp way with rfl | ⟨above, way, last⟩
    · exact free p listed
    · exact apart (forest.parent_unique above p k last listed ▸ way)

/-- A child is taken from its parent, and then dropped with all below it. -/
theorem remove (forest : store.IsForest root) (there : store.get? parent = some node)
    (listed : child ∈ store.childrenOf parent) :
    ((store.modify parent fun node =>
      { node with children := node.children.erase child }).dropAll [child]).IsForest root := by
  set taken := store.modify parent fun node => { node with children := node.children.erase child }
  have lists : ∀ p, taken.childrenOf p =
      if p = parent then (store.childrenOf parent).erase child else store.childrenOf p := fun p => by
    rw [childrenOf_modify there, childrenOf_of_get there]
  have shorter : ∀ p, (taken.childrenOf p).Sublist (store.childrenOf p) := by
    intro p
    rw [lists]
    split_ifs with same
    · rw [same]; exact List.erase_sublist
    · exact .refl _
  have taken_forest : taken.IsForest root :=
    forest.of_sublists shorter (live_modify.mpr forest.root_live) fun p k mem =>
      live_modify.mpr (forest.live p k ((shorter p).subset mem))
  refine taken_forest.drop (fun same => forest.root_free parent (same ▸ listed)) fun p mem => ?_
  obtain rfl := forest.parent_unique p parent child ((shorter p).subset mem) listed
  rw [lists, if_pos rfl] at mem
  exact (forest.nodup p).not_mem_erase mem

end IsForest

end NodeStore

/-! ## §4 Disciplined runs -/

namespace GridSurface

variable [Scalar α] {s : GridSurface α}

/-- A node is attached only if it is not the root, no list names it, and it is neither the new
parent nor above it. -/
def Permits (s : GridSurface α) : Instruction α → Prop
  | .addChild parent child => child ≠ root ∧ (∀ p, child ∉ s.nodes.childrenOf p) ∧
      ¬ Reaches s.nodes.childrenOf child parent
  | _ => True

omit [Scalar α] in
/-- Attaching a node is permitted if no slot lists it and the lists do not lead out of some handles,
the node being one of them and the parent not. -/
theorem permits_addChild {parent child : Handle} (below : List Handle) (not_root : child ≠ root)
    (free : ∀ i < s.nodes.slots.size, child ∉ s.nodes.childrenOf ⟨i⟩) (start : child ∈ below)
    (closed : ∀ p ∈ below, ∀ k ∈ s.nodes.childrenOf p, k ∈ below) (outside : parent ∉ below) :
    s.Permits (.addChild parent child) :=
  ⟨not_root, fun p listed => free p.index (NodeStore.live_of_mem_childrenOf listed).index_lt listed,
    fun way => outside (way.mem_of_closed closed start)⟩

/-- Each instruction of a run is permitted at its time. -/
def Disciplined (s : GridSurface α) : List (Instruction α) → Prop
  | [] => True
  | i :: rest => s.Permits i ∧ (s.after i).Disciplined rest

theorem new_isForest (config : PictureConfig α) :
    (new config).nodes.IsForest root := by
  have none_listed : ∀ p, (NodeStore.empty.push (freshNode (α := α) .group)).childrenOf p = [] := by
    intro p
    rw [NodeStore.childrenOf_push rfl]
    rfl
  have no_child : ∀ p k, k ∉ (new config).nodes.childrenOf p := fun p k mem => by
    simp [new, none_listed] at mem
  constructor
  case root_live => rfl
  case root_free => exact fun p => no_child p root
  case live => exact fun p k mem => absurd mem (no_child p k)
  case nodup => exact fun p => by simp [new, none_listed]
  case parent_unique => exact fun p q k mem => absurd mem (no_child p k)
  case acyclic => exact fun p k mem => absurd mem (no_child p k)

/-- A permitted instruction keeps a forest, whether or not it fails. -/
theorem after_isForest {i : Instruction α} (forest : s.nodes.IsForest root)
    (permitted : s.Permits i) : (s.after i).nodes.IsForest root := by
  cases i with
  | createGroup => exact forest.push rfl
  | createNode shape => exact forest.push rfl
  | createText label font color => exact forest.push rfl
  | measure h =>
    rw [after, perform_measure]
    split
    · exact forest
    · split <;> exact forest
  | addChild parent child =>
    obtain ⟨not_root, free, apart⟩ := permitted
    rw [after, perform_addChild]
    split_ifs with live parent_live
    · obtain ⟨node, there⟩ := NodeStore.live_iff.mp parent_live
      exact forest.attach there live not_root free apart
    · exact forest
    · exact forest
  | removeChild parent child =>
    rw [after, perform_removeChild]
    split_ifs with live listed
    · obtain ⟨node, there⟩ := NodeStore.live_iff.mp live
      exact forest.remove there listed
    · exact forest
    · exact forest
  | setPosition h position =>
    rw [after, perform_setPosition]
    split_ifs with live
    · obtain ⟨node, there⟩ := NodeStore.live_iff.mp live
      exact forest.move there
    · exact forest
  | update =>
    rw [after, perform_update]
    split <;> exact forest
  | _ => exact forest

theorem run_isForest {instructions : List (Instruction α)} (forest : s.nodes.IsForest root)
    (disciplined : s.Disciplined instructions) : (s.run instructions).nodes.IsForest root := by
  induction instructions generalizing s with
  | nil => exact forest
  | cons i rest ih => exact ih (after_isForest forest disciplined.1) disciplined.2

end GridSurface

end TransitionDiagram
