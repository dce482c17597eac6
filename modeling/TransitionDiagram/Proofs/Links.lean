/-
TransitionDiagram.Proofs.Links: live nodes and what their lists of children lead to.

Nothing stops a node from being listed twice, by several nodes, or below itself, and a list may name
nodes that are gone. So the nodes are a directed graph: `store.childrenOf` gives for each handle the
list of its node, the empty one if there is no such node, and `Reaches` follows the lists. A way
along them leaves live nodes only, but it may end at a handle without a node.

  §1 live nodes and their lists
  §2 after a change of the store
  §3 ways along lists
-/
import Mathlib.Data.List.Nodup
import Mathlib.Data.List.Perm.Subperm
import Mathlib.Logic.Relation
import TransitionDiagram.Proofs.NodeStore

namespace TransitionDiagram

variable {α : Type}

namespace NodeStore

variable {store : NodeStore α} {h k parent child : Handle} {node : SceneNode α}

/-! ## §1 Live nodes -/

/-- There is a node with this handle. -/
def Live (store : NodeStore α) (h : Handle) : Prop :=
  (store.get? h).isSome = true

instance (store : NodeStore α) : DecidablePred store.Live := fun h =>
  inferInstanceAs (Decidable ((store.get? h).isSome = true))

/-- The children that a node lists, none if there is no such node. -/
def childrenOf (store : NodeStore α) (h : Handle) : List Handle :=
  ((store.get? h).map (·.children)).getD []

theorem live_iff : store.Live h ↔ ∃ node, store.get? h = some node :=
  Option.isSome_iff_exists

theorem not_live_iff : ¬ store.Live h ↔ store.get? h = none := by
  simp [Live]

theorem live_of_get (there : store.get? h = some node) : store.Live h := by
  simp [Live, there]

theorem childrenOf_of_get (there : store.get? h = some node) :
    store.childrenOf h = node.children := by
  simp [childrenOf, there]

theorem childrenOf_of_gone (gone : store.get? h = none) : store.childrenOf h = [] := by
  simp [childrenOf, gone]

/-- Only live nodes list children. -/
theorem live_of_mem_childrenOf (listed : child ∈ store.childrenOf h) : store.Live h := by
  by_contra gone
  simp [childrenOf_of_gone (not_live_iff.mp gone)] at listed

/-- A live node has a slot. -/
theorem Live.index_lt (live : store.Live h) : h.index < store.slots.size := by
  obtain ⟨node, there⟩ := live_iff.mp live
  exact (Array.getElem?_eq_some_iff.mp (get?_eq_some_iff.mp there)).1

/-- There are no more live nodes in a row than there are slots. -/
theorem length_le_of_live {handles : List Handle} (nodup : handles.Nodup)
    (live : ∀ h ∈ handles, store.Live h) : handles.length ≤ store.slots.size := by
  have inside : handles.map (·.index) ⊆ List.range store.slots.size := by
    intro i mem
    obtain ⟨h, listed, rfl⟩ := List.mem_map.mp mem
    exact List.mem_range.mpr (live h listed).index_lt
  have distinct : (handles.map (·.index)).Nodup := nodup.map fun h k same => by
    cases h; cases k; simp_all
  simpa using (distinct.subperm inside).length_le

/-! ## §2 Changes -/

theorem get?_push : (store.push node).get? h = if h = store.next then some node else store.get? h := by
  split
  · subst h; exact get?_push_next
  · exact get?_push_of_ne ‹_›

theorem get?_modify {f : SceneNode α → SceneNode α} :
    (store.modify k f).get? h = if h = k then (store.get? h).map f else store.get? h := by
  split
  · subst h; exact get?_modify_self
  · exact get?_modify_of_ne ‹_›

theorem get?_erase_self : (store.erase h).get? h = none := by
  simp only [get?, erase, Array.getElem?_setIfInBounds_self]
  split <;> rfl

theorem get?_erase : (store.erase k).get? h = if h = k then none else store.get? h := by
  split
  · subst h; exact get?_erase_self
  · exact get?_erase_of_ne ‹_›

theorem live_push : (store.push node).Live h ↔ store.Live h ∨ h = store.next := by
  simp only [Live, get?_push]
  split <;> simp_all

/-- A new node without children changes no list. -/
theorem childrenOf_push (bare : node.children = []) :
    (store.push node).childrenOf h = store.childrenOf h := by
  simp only [childrenOf, get?_push]
  split
  · subst h; simp [bare, get?_next]
  · rfl

theorem live_modify {f : SceneNode α → SceneNode α} : (store.modify k f).Live h ↔ store.Live h := by
  simp only [Live, get?_modify]
  split <;> simp

/-- If a live node is changed, its new list is the one that the change makes. -/
theorem childrenOf_modify {f : SceneNode α → SceneNode α} (there : store.get? k = some node) :
    (store.modify k f).childrenOf h = if h = k then (f node).children else store.childrenOf h := by
  simp only [childrenOf, get?_modify]
  split
  · subst h; simp [there]
  · rfl

theorem childrenOf_erase :
    (store.erase k).childrenOf h = if h = k then [] else store.childrenOf h := by
  simp only [childrenOf, get?_erase]
  split <;> rfl

end NodeStore

/-! ## §3 Ways -/

/-- From the first handle the second can be reached along the lists, in any number of steps. -/
def Reaches (lists : Handle → List Handle) : Handle → Handle → Prop :=
  Relation.ReflTransGen fun parent child => child ∈ lists parent

namespace Reaches

variable {lists lists' : Handle → List Handle} {h k m parent child : Handle}

theorem refl (lists : Handle → List Handle) (h : Handle) : Reaches lists h h :=
  Relation.ReflTransGen.refl

theorem trans (first : Reaches lists h k) (next : Reaches lists k m) : Reaches lists h m :=
  Relation.ReflTransGen.trans first next

/-- One step down, and then on. -/
theorem below (listed : child ∈ lists h) (way : Reaches lists child k) : Reaches lists h k :=
  Relation.ReflTransGen.head listed way

/-- What is reached is the start itself, or reached from one that the start lists. -/
theorem iff_below : Reaches lists h k ↔ h = k ∨ ∃ child ∈ lists h, Reaches lists child k :=
  Relation.ReflTransGen.cases_head_iff.trans (by rw [eq_comm]; rfl)

/-- What is reached is the start itself, or listed by one that is reached. -/
theorem iff_above : Reaches lists h k ↔ k = h ∨ ∃ parent, Reaches lists h parent ∧ k ∈ lists parent :=
  Relation.ReflTransGen.cases_tail_iff _ h k

/-- Longer lists reach no less. -/
theorem mono (longer : ∀ parent, ∀ child ∈ lists parent, child ∈ lists' parent)
    (way : Reaches lists h k) : Reaches lists' h k :=
  Relation.ReflTransGen.mono longer _ _ way

/-- If there is one place more in the lists, a new way passes through it, and goes on from there
along the old lists. -/
theorem of_added (added : ∀ {p k}, k ∈ lists' p → k ∈ lists p ∨ (p = parent ∧ k = child))
    (way : Reaches lists' h k) :
    Reaches lists h k ∨ (Reaches lists h parent ∧ Reaches lists child k) := by
  induction way with
  | refl => exact .inl (.refl _ _)
  | tail _ last ih =>
    rcases added last with old | ⟨rfl, rfl⟩
    · exact ih.imp (·.tail old) (And.imp_right (·.tail old))
    · exact .inr ⟨ih.elim id And.left, .refl _ _⟩

/-- What is reached lies in every set that the lists do not leave. -/
theorem mem_of_closed {S : List Handle} (closed : ∀ parent ∈ S, ∀ child ∈ lists parent, child ∈ S)
    (start : h ∈ S) (way : Reaches lists h k) : k ∈ S := by
  induction way with
  | refl => exact start
  | tail _ listed ih => exact closed _ ih _ listed

end Reaches

/-- The nodes on a way down, the first and the last included. -/
inductive Way (lists : Handle → List Handle) : Handle → List Handle → Handle → Prop where
  | here (h : Handle) : Way lists h [h] h
  | down {h child k : Handle} {way : List Handle} (listed : child ∈ lists h)
      (on : Way lists child way k) : Way lists h (h :: way) k

theorem Way.reaches {lists : Handle → List Handle} {way : List Handle} (down : Way lists h way k) :
    Reaches lists h k := by
  induction down with
  | here => exact .refl _ _
  | down listed _ ih => exact .below listed ih

end TransitionDiagram
