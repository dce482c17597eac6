/-
TransitionDiagram.Proofs.Dropping: a removed child takes with it what it leads to, and nothing else.

Nodes are dropped one after the other while the lists of the dropped ones are followed, so some of
the nodes on a way may be gone before the way is gone along. This does not matter: when a node is
dropped, a way that passes through it goes on from one of its children, and those are dropped next.
`get?_dropAll` says what is left.

`Drops` is the same work as a recursion: a node is dropped, then its children one by one with all
below them, and then what was to be dropped after it. Each node that it meets is live and gone
afterwards, so it comes to an end on every store, with as many steps as there are live nodes at
most, even if nodes are listed several times or below themselves.

  §1 what is left
  §2 dropping as a recursion
  §3 removing a child
-/
import TransitionDiagram.Proofs.Links
import TransitionDiagram.Proofs.Issued

namespace TransitionDiagram

variable {α : Type}

namespace NodeStore

variable {store store' : NodeStore α} {h k p child : Handle} {node : SceneNode α}
  {pending rest dropped : List Handle}

/-! ## §1 What is left -/

/-- Without a node there are fewer ways. -/
theorem reaches_of_erase (way : Reaches (store.erase h).childrenOf p k) :
    Reaches store.childrenOf p k := by
  refine way.mono fun parent child listed => ?_
  rw [childrenOf_erase] at listed
  split at listed
  · simp at listed
  · exact listed

/-- A way either avoids a node, or goes on from one of its children without coming back to it. -/
theorem erase_reaches (there : store.get? h = some node) (way : Reaches store.childrenOf p k) :
    Reaches (store.erase h).childrenOf p k ∨
      ∃ child ∈ node.children, Reaches (store.erase h).childrenOf child k := by
  -- from the end of the way: the last visit to the node decides
  induction way using Relation.ReflTransGen.head_induction_on with
  | refl => exact .inl (.refl _ _)
  | @head parent child listed _ ih =>
    rcases ih with avoids | passes
    · by_cases same : parent = h
      · subst same
        rw [childrenOf_of_get there] at listed
        exact .inr ⟨child, listed, avoids⟩
      · have still : child ∈ (store.erase h).childrenOf parent := by
          simpa [childrenOf_erase, same] using listed
        exact .inl (avoids.below still)
    · exact .inr passes

/-- What is reached from a node or from those after it is the node itself, or reached without the
node from its children or from those after it. -/
theorem reached_cons_iff (there : store.get? h = some node) (other : k ≠ h) :
    (∃ p ∈ h :: rest, Reaches store.childrenOf p k) ↔
      ∃ p ∈ node.children ++ rest, Reaches (store.erase h).childrenOf p k := by
  constructor
  · rintro ⟨p, mem, way⟩
    rcases erase_reaches there way with avoids | ⟨child, listed, passes⟩
    · rcases List.mem_cons.mp mem with rfl | later
      · -- nothing leads away from the empty slot
        rcases Reaches.iff_below.mp avoids with same | ⟨child, listed, -⟩
        · exact absurd same.symm other
        · simp [childrenOf_erase] at listed
      · exact ⟨p, List.mem_append_right _ later, avoids⟩
    · exact ⟨child, List.mem_append_left _ listed, passes⟩
  · rintro ⟨p, mem, way⟩
    rcases List.mem_append.mp mem with listed | later
    · rw [← childrenOf_of_get there] at listed
      exact ⟨h, List.mem_cons_self, (reaches_of_erase way).below listed⟩
    · exact ⟨p, List.mem_cons_of_mem _ later, reaches_of_erase way⟩

open Classical in
/-- Dropping empties the slots of what can be reached, and leaves all others as they are. -/
theorem get?_dropAll (pending : List Handle) (k : Handle) :
    (store.dropAll pending).get? k =
      if ∃ p ∈ pending, Reaches store.childrenOf p k then none else store.get? k := by
  fun_induction dropAll store pending with
  | case1 store => simp
  | case2 store h rest gone ih =>
    rw [ih]
    by_cases same : k = h
    · subst same; simp [gone]
    · have leads_nowhere : ¬ Reaches store.childrenOf h k := by
        intro way
        rcases Reaches.iff_below.mp way with rfl | ⟨child, listed, -⟩
        · exact same rfl
        · simp [childrenOf_of_gone gone] at listed
      simp [leads_nowhere]
  | case3 store h rest node there ih =>
    rw [ih]
    by_cases same : k = h
    · subst same
      have reached : ∃ p ∈ k :: rest, Reaches store.childrenOf p k :=
        ⟨k, List.mem_cons_self, .refl _ _⟩
      simp only [get?_erase_self, ite_self, if_pos reached]
    · simp only [← reached_cons_iff there same, get?_erase_of_ne same]

theorem get?_of_dropAll (left : (store.dropAll pending).get? k = some node) :
    store.get? k = some node := by
  rw [get?_dropAll] at left
  split at left
  · contradiction
  · exact left

theorem live_dropAll_iff :
    (store.dropAll pending).Live k ↔
      store.Live k ∧ ¬ ∃ p ∈ pending, Reaches store.childrenOf p k := by
  rw [Live, get?_dropAll]
  split <;> simp_all [Live]

/-! ## §2 The recursion -/

/-- How some nodes are dropped with all below them, one after the other: which nodes are met, in
order, and what is left. -/
inductive Drops : NodeStore α → List Handle → List Handle → NodeStore α → Prop where
  | done (store : NodeStore α) : Drops store [] [] store
  | gone {store store' : NodeStore α} {h : Handle} {rest dropped : List Handle}
      (gone : store.get? h = none) (next : Drops store rest dropped store') :
      Drops store (h :: rest) dropped store'
  | node {store middle store' : NodeStore α} {h : Handle} {rest below later : List Handle}
      {node : SceneNode α} (there : store.get? h = some node)
      (children : Drops (store.erase h) node.children below middle)
      (next : Drops middle rest later store') :
      Drops store (h :: rest) (h :: (below ++ later)) store'

namespace Drops

/-- Dropping some nodes and then others. -/
theorem of_append {first second : List Handle}
    (drops : Drops store (first ++ second) dropped store') :
    ∃ below middle later, Drops store first below middle ∧ Drops middle second later store' ∧
      dropped = below ++ later := by
  induction first generalizing store dropped with
  | nil => exact ⟨[], store, dropped, .done store, drops, rfl⟩
  | cons h rest ih =>
    cases drops with
    | gone gone next =>
      obtain ⟨below, middle, later, one, two, rfl⟩ := ih next
      exact ⟨below, middle, later, .gone gone one, two, rfl⟩
    | node there children next =>
      obtain ⟨below, middle, later, one, two, rfl⟩ := ih next
      exact ⟨_, middle, later, .node there children one, two, by simp⟩

/-- The recursion comes to an end, and leaves what is left by working through a list. -/
theorem of_dropAll (store : NodeStore α) (pending : List Handle) :
    ∃ dropped, Drops store pending dropped (store.dropAll pending) := by
  fun_induction dropAll store pending with
  | case1 store => exact ⟨[], .done store⟩
  | case2 store h rest gone ih =>
    obtain ⟨dropped, next⟩ := ih
    exact ⟨dropped, .gone gone next⟩
  | case3 store h rest node there ih =>
    obtain ⟨dropped, drops⟩ := ih
    obtain ⟨below, middle, later, children, next, -⟩ := drops.of_append
    exact ⟨_, .node there children next⟩

/-- There is one way only in which the recursion can go. -/
theorem unique {dropped' : List Handle} {store'' : NodeStore α}
    (drops : Drops store pending dropped store') (drops' : Drops store pending dropped' store'') :
    dropped' = dropped ∧ store'' = store' := by
  induction drops generalizing dropped' store'' with
  | done => cases drops'; exact ⟨rfl, rfl⟩
  | gone gone _ ih =>
    cases drops' with
    | gone _ next => exact ih next
    | node there _ _ => rw [gone] at there; contradiction
  | node there _ _ ihChildren ihNext =>
    cases drops' with
    | gone gone _ => rw [there] at gone; contradiction
    | node there' children next =>
      rw [there] at there'
      cases there'
      obtain ⟨rfl, rfl⟩ := ihChildren children
      obtain ⟨rfl, rfl⟩ := ihNext next
      exact ⟨rfl, rfl⟩

/-- The slots of the nodes that are met are emptied, and all others are as they were. -/
theorem get?_eq (drops : Drops store pending dropped store') (k : Handle) :
    store'.get? k = if k ∈ dropped then none else store.get? k := by
  induction drops with
  | done => simp
  | gone _ _ ih => exact ih
  | node _ _ _ ihChildren ihNext =>
    rw [ihNext, ihChildren, get?_erase]
    simp only [List.mem_cons, List.mem_append]
    split_ifs <;> simp_all

theorem live_of_mem (drops : Drops store pending dropped store') (met : k ∈ dropped) :
    store.Live k := by
  induction drops with
  | done => simp at met
  | gone _ _ ih => exact ih met
  | @node store middle store' h rest below later node there children _ ihChildren ihNext =>
    have of_erase : (store.erase h).Live k → store.Live k := by
      rw [Live, Live, get?_erase]
      split <;> simp
    rcases List.mem_cons.mp met with rfl | met
    · exact live_of_get there
    · rcases List.mem_append.mp met with met | met
      · exact of_erase (ihChildren met)
      · -- what is there after the children was there before
        have live := ihNext met
        rw [Live, children.get?_eq] at live
        split at live
        · simp at live
        · exact of_erase live

theorem mem_iff (drops : Drops store pending dropped store') :
    k ∈ dropped ↔ store.Live k ∧ ¬ store'.Live k := by
  refine ⟨fun met => ⟨drops.live_of_mem met, ?_⟩, fun ⟨live, dead⟩ => ?_⟩
  · simp [Live, drops.get?_eq, met]
  · by_contra unmet
    rw [Live, drops.get?_eq, if_neg unmet] at dead
    exact dead live

/-- No node is met twice. -/
theorem nodup (drops : Drops store pending dropped store') : dropped.Nodup := by
  induction drops with
  | done => exact .nil
  | gone _ _ ih => exact ih
  | @node store middle store' h rest below later node there children next ihChildren ihNext =>
    have not_below : h ∉ below := fun met => by
      simpa [Live, get?_erase_self] using children.live_of_mem met
    have not_later : h ∉ later := fun met => by
      simpa [Live, children.get?_eq, get?_erase_self] using next.live_of_mem met
    rw [List.nodup_cons, List.mem_append, List.nodup_append]
    refine ⟨not_or.mpr ⟨not_below, not_later⟩, ihChildren, ihNext, ?_⟩
    rintro k met _ met' rfl
    exact (children.mem_iff.mp met).2 (next.live_of_mem met')

end Drops

end NodeStore

/-! ## §3 Removing a child -/

namespace GridSurface

variable {s s' : GridSurface α} {parent child : Handle}

theorem find_apply {h : Handle} : find h s = match s.nodes.get? h with
    | some node => .ok node s
    | none => .error (.unknownNode h) s := by
  simp only [find, Action.bind_apply, Action.get_apply]
  cases s.nodes.get? h <;> rfl

/-- A child is dropped if its parent is there and lists it. -/
theorem removeChild_apply : removeChild parent child s =
    if s.nodes.Live parent then
      if child ∈ s.nodes.childrenOf parent then
        .ok () { s with nodes := (s.nodes.modify parent fun node =>
          { node with children := node.children.erase child }).dropAll [child] }
      else .error (.unknownNode child) s
    else .error (.unknownNode parent) s := by
  simp only [removeChild, Action.bind_apply, find_apply]
  cases there : s.nodes.get? parent with
  | none => simp [NodeStore.Live, there]
  | some node =>
    rw [if_pos (NodeStore.live_of_get there), NodeStore.childrenOf_of_get there]
    by_cases listed : child ∈ node.children <;> simp [listed, modifyNodes]

/-- A child is removed from a node that is there, and what is left is what the list says. -/
theorem exists_of_removeChild (removed : removeChild parent child s = .ok () s') :
    ∃ node, s.nodes.get? parent = some node ∧
      s' = { s with nodes := (s.nodes.modify parent fun node =>
        { node with children := node.children.erase child }).dropAll [child] } := by
  rw [removeChild_apply] at removed
  split_ifs at removed with live listed
  cases removed
  obtain ⟨node, there⟩ := NodeStore.live_iff.mp live
  exact ⟨node, there, rfl⟩

/-- Removing a child comes to an end. It drops the live nodes that can be reached from the child
along the lists of children that are there once the child is not listed any more, each of them once.
All other nodes stay as they are, but for the one place in the list of the parent, and nothing else
of the surface is changed. -/
theorem removeChild_drops_reached (removed : removeChild parent child s = .ok () s') :
    let lists := fun h =>
      if h = parent then (s.nodes.childrenOf h).erase child else s.nodes.childrenOf h
    let detached := s.nodes.modify parent fun node =>
      { node with children := node.children.erase child }
    (∃ dropped, (∀ order nodes, NodeStore.Drops detached [child] order nodes ↔
        order = dropped ∧ nodes = s'.nodes) ∧
      dropped.Nodup ∧ ∀ h, h ∈ dropped ↔ s.nodes.Live h ∧ Reaches lists child h) ∧
    (∀ h, s'.nodes.Live h ↔ s.nodes.Live h ∧ ¬ Reaches lists child h) ∧
    (∀ h node, s'.nodes.get? h = some node → ∃ old, s.nodes.get? h = some old ∧
      node.content = old.content ∧ node.position = old.position ∧ node.children = lists h) ∧
    s'.nodes.next = s.nodes.next ∧ s' = { s with nodes := s'.nodes } := by
  intro lists detached
  obtain ⟨node, there, after⟩ := exists_of_removeChild removed
  have nodes : s'.nodes = detached.dropAll [child] := by rw [after]
  have lists_eq : detached.childrenOf = lists := by
    funext h
    rw [NodeStore.childrenOf_modify there]
    by_cases same : h = parent
    · subst same; simp [lists, NodeStore.childrenOf_of_get there]
    · simp [lists, same]
  have left : ∀ h, s'.nodes.Live h ↔ s.nodes.Live h ∧ ¬ Reaches lists child h := by
    intro h
    rw [nodes, NodeStore.live_dropAll_iff, lists_eq, NodeStore.live_modify]
    simp
  refine ⟨?_, left, ?_, ?_, ?_⟩
  · obtain ⟨dropped, drops⟩ := NodeStore.Drops.of_dropAll detached [child]
    rw [← nodes] at drops
    refine ⟨dropped, fun order nodes' => ⟨fun other => ?_, ?_⟩, drops.nodup, fun h => ?_⟩
    · exact drops.unique other
    · rintro ⟨rfl, rfl⟩; exact drops
    · rw [drops.mem_iff, left, NodeStore.live_modify]
      tauto
  · intro h node' there'
    rw [nodes] at there'
    have kept := NodeStore.get?_of_dropAll there'
    have children : node'.children = lists h := by
      rw [← lists_eq, NodeStore.childrenOf_of_get kept]
    rw [NodeStore.get?_modify] at kept
    split at kept
    · obtain ⟨old, was, rfl⟩ := Option.map_eq_some_iff.mp kept
      exact ⟨old, was, rfl, rfl, children⟩
    · exact ⟨node', kept, rfl, rfl, children⟩
  · rw [nodes, NodeStore.next_dropAll, NodeStore.next_modify]
  · rw [after]

/-- Two nodes below each other, of which one is listed twice by the root and the other also lists a
node that is gone. Both go with the first of the two places, and a node that only they do not lead to
stays. -/
theorem removeChild_drops_reached_cycle :
    let group (children : List Handle) : SceneNode Float := { freshNode .group with children }
    let s : GridSurface Float := { new .standard with
      nodes := { slots := #[some (group [⟨1⟩, ⟨2⟩, ⟨3⟩, ⟨1⟩]), some (group [⟨2⟩]),
        some (group [⟨4⟩, ⟨1⟩]), some (group []), none] } }
    ∃ s', removeChild root ⟨1⟩ s = .ok () s' ∧
      (∀ h, s'.nodes.Live h ↔ h = root ∨ h = ⟨3⟩) ∧
      s'.nodes.childrenOf root = [⟨2⟩, ⟨3⟩, ⟨1⟩] := by
  intro group s
  have there : s.nodes.get? root = some (group [⟨1⟩, ⟨2⟩, ⟨3⟩, ⟨1⟩]) := rfl
  obtain ⟨s', removed⟩ : ∃ s', removeChild root ⟨1⟩ s = .ok () s' :=
    ⟨_, removeChild_ok there (by decide)⟩
  obtain ⟨-, left, kept, -, -⟩ := removeChild_drops_reached removed
  have below : ∀ {h}, Reaches (fun h => if h = root then (s.nodes.childrenOf h).erase ⟨1⟩ else
      s.nodes.childrenOf h) ⟨1⟩ h → h ∈ [⟨1⟩, ⟨2⟩, (⟨4⟩ : Handle)] :=
    Reaches.mem_of_closed (by decide) (by decide)
  have root_left : s'.nodes.Live root :=
    (left root).mpr ⟨by decide, fun way => absurd (below way) (by decide)⟩
  refine ⟨s', removed, fun h => ⟨fun live => ?_, ?_⟩, ?_⟩
  · obtain ⟨was, apart⟩ := (left h).mp live
    have slot : h.index < 5 := was.index_lt
    obtain ⟨_ | _ | _ | _ | _ | index⟩ := h
    · exact .inl rfl
    · exact absurd (.refl _ _) apart
    · exact absurd (Reaches.below (by decide) (.refl _ _)) apart
    · exact .inr rfl
    · exact absurd was (by decide)
    · dsimp only at slot
      omega
  · rintro (rfl | rfl)
    · exact root_left
    · exact (left _).mpr ⟨by decide, fun way => absurd (below way) (by decide)⟩
  · obtain ⟨node, there⟩ := NodeStore.live_iff.mp root_left
    obtain ⟨old, was, -, -, children⟩ := kept root node there
    rw [NodeStore.childrenOf_of_get there, children]
    decide

end GridSurface

end TransitionDiagram
