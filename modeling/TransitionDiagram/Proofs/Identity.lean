/-
TransitionDiagram.Proofs.Identity: nodes are known by their states.

A state that has a node keeps it while machines come and go, as long as each of them has the state:
the handle and the width of the label stay, and the nodes that stay come first, in their order. A
new node has a handle that the surface has not given before. This needs no care from the surface,
which may refuse any call: a call that ends with a fault leaves out nodes, and never mixes them up.

Handles are given in order, so the handles of a map are in the order of its nodes. A handle that
was given before some call and is in the map after it was in the map all along. So a handle stands
for one state, and for one stretch of its life.

  §1 tags of nodes
  §2 what one call does to the tags
  §3 runs
  §4 what this means for states and handles
-/
import TransitionDiagram.Proofs.Issued
import TransitionDiagram.Proofs.Runs

namespace TransitionDiagram

open OnGrid

variable {α σ : Type}

/-! ## §1 Tags -/

namespace NodeMap

/-- The handle of the node of a state, with the width of its label. -/
def tag? (m : NodeMap α) (id : String) : Option (Handle × α) :=
  (m.get? id).map fun node => (node.handle, node.minSize)

/-- The handle of the node of a state. -/
def handle? (m : NodeMap α) (id : String) : Option Handle :=
  (m.get? id).map (·.handle)

variable {m : NodeMap α} {id : String}

theorem nodup_tags (m : NodeMap α) : (m.tags.map Prod.fst).Nodup := by
  rw [map_fst_tags]; exact m.nodup

theorem tags_insert {node : StateNode α} (absent : ¬ m.contains id = true) :
    (m.insert id node).tags = m.tags ++ [(id, node.handle, node.minSize)] := by
  rw [tags, entries_insert absent, List.map_append]; rfl

/-- Of a list with different keys, a key finds what is listed with it. -/
theorem lookup_eq_some_iff {β : Type} {entries : List (String × β)}
    (nodup : (entries.map Prod.fst).Nodup) {b : β} :
    entries.lookup id = some b ↔ (id, b) ∈ entries := by
  induction entries with
  | nil => simp
  | cons entry rest ih =>
    obtain ⟨key, b'⟩ := entry
    rw [List.map_cons, List.nodup_cons] at nodup
    rw [List.lookup_cons]
    by_cases same : id = key
    · subst same
      have absent : (id, b) ∉ rest := fun mem => nodup.1 (List.mem_map.mpr ⟨_, mem, rfl⟩)
      simp [absent, eq_comm]
    · have other : (id == key) = false := by simpa using same
      rw [other, ih nodup.2]
      simp [same]

theorem tag?_eq_some_iff {tag : Handle × α} : m.tag? id = some tag ↔ (id, tag) ∈ m.tags := by
  rw [← lookup_eq_some_iff m.nodup_tags]
  change _ ↔ (m.entries.map fun entry => (entry.1, _)).lookup id = _
  rw [lookup_map fun node : StateNode α => (node.handle, node.minSize)]
  rfl

theorem handle?_eq_some_iff {h : Handle} :
    m.handle? id = some h ↔ ∃ width, (id, h, width) ∈ m.tags := by
  simp only [← tag?_eq_some_iff, handle?, tag?, Option.map_eq_some_iff, Prod.mk.injEq]
  constructor
  · exact fun ⟨node, there, same⟩ => ⟨node.minSize, node, there, same, rfl⟩
  · exact fun ⟨width, node, there, same, _⟩ => ⟨node, there, same⟩

/-- Nodes that a map has gained are of states that had none. -/
theorem new_of_tags {m' : NodeMap α} {new : List (String × Handle × α)}
    (tags : m'.tags = m.tags ++ new) : ∀ tag ∈ new, tag.1 ∉ m.ids := by
  have nodup := m'.nodup_tags
  rw [tags, List.map_append, map_fst_tags] at nodup
  intro tag mem old
  exact (List.nodup_append.mp nodup).2.2 _ old _ (List.mem_map.mpr ⟨tag, mem, rfl⟩) rfl

end NodeMap

/-! ## §2 One call -/

/-- The tags of nodes that were made while the next handle went from one to the other. -/
structure Fresh (low high : Nat) (tags : List (String × Handle × α)) : Prop where
  within : ∀ tag ∈ tags, low ≤ tag.2.1.index ∧ tag.2.1.index < high
  ascending : (tags.map (·.2.1.index)).Pairwise (· < ·)

namespace Fresh

variable {low high : Nat} {tags : List (String × Handle × α)}

theorem nil : Fresh low high ([] : List (String × Handle × α)) :=
  ⟨by simp, .nil⟩

theorem cons {low' : Nat} {id : String} {h : Handle} {width : α} (first : low ≤ h.index)
    (next : h.index < low') (rest : Fresh low' high tags) (ends : low' ≤ high) :
    Fresh low high ((id, h, width) :: tags) where
  within := by
    intro tag mem
    rcases List.mem_cons.mp mem with rfl | mem
    · exact ⟨first, Nat.lt_of_lt_of_le next ends⟩
    · have bounds := rest.within tag mem
      omega
  ascending := by
    rw [List.map_cons, List.pairwise_cons]
    refine ⟨fun index mem => ?_, rest.ascending⟩
    obtain ⟨tag, listed, rfl⟩ := List.mem_map.mp mem
    have bounds := rest.within tag listed
    simp only
    omega

theorem mono {high' : Nat} (fresh : Fresh low high tags) (more : high ≤ high') :
    Fresh low high' tags :=
  ⟨fun tag mem => ⟨(fresh.within tag mem).1, Nat.lt_of_lt_of_le (fresh.within tag mem).2 more⟩,
    fresh.ascending⟩

theorem filter (fresh : Fresh low high tags) (keep : String × Handle × α → Bool) :
    Fresh low high (tags.filter keep) :=
  ⟨fun tag mem => fresh.within tag (List.mem_of_mem_filter mem),
    fresh.ascending.sublist (List.filter_sublist.map _)⟩

end Fresh

variable [Scalar α] [DrawingSurface α σ] [OnGrid α σ]

/-- The number of handles that the grid beneath has given. -/
def given (s : σ) : Nat :=
  (grid s).nodes.next.index

/-- Making a group gives one handle, the next one. -/
theorem given_createGroup (s : σ) : (DrawingSurface.createGroup s).1.index = given s ∧
    given (DrawingSurface.createGroup s).2 = given s + 1 := by
  obtain ⟨handle, becomes⟩ := createGroup s
  have beneath : grid (DrawingSurface.createGroup s).2 = (GridSurface.create .group (grid s)).2 :=
    becomes.grid
  refine ⟨by rw [handle]; rfl, ?_⟩
  rw [given, given, beneath]
  simp [GridSurface.create, NodeStore.next, NodeStore.push]

namespace NodeMap

/-- The map has gained nodes for states without one, and their handles are new. -/
structure Gained (before after : NodeMap α × σ) : Prop where
  later : given before.2 ≤ given after.2
  tags : ∃ new, after.1.tags = before.1.tags ++ new ∧ Fresh (given before.2) (given after.2) new

namespace Gained

variable {m : NodeMap α} {s s' : σ} {id : String} {after : NodeMap α × σ}

theorem of_later (later : given s ≤ given s') : Gained (m, s) (m, s') :=
  ⟨later, [], by simp, .nil⟩

/-- A node that was made comes before those that are made later. -/
theorem insert {node : StateNode α} (absent : ¬ m.contains id = true)
    (named : node.handle = (DrawingSurface.createGroup s).1)
    (later : Later (DrawingSurface.createGroup s).2 s')
    (rest : Gained (m.insert id node, s') after) : Gained (m, s) after := by
  obtain ⟨index, counted⟩ := given_createGroup s
  have made : given (DrawingSurface.createGroup s).2 ≤ given s' := later
  obtain ⟨more, new, tags, fresh⟩ := rest
  rw [← named] at index
  refine ⟨by simp only at more ⊢; omega, (id, node.handle, node.minSize) :: new, ?_, ?_⟩
  · rw [tags, tags_insert absent, List.append_assoc]; rfl
  · exact fresh.cons (by simp only; omega) (by simp only; omega) more

end Gained

theorem createMissing_gained (states : List String) (m : NodeMap α) (s : σ) :
    Ends (createMissing Scene.createCircle states (m, s)) (fun _ after => Gained (m, s) after)
      (fun after => Gained (m, s) after) := by
  induction states generalizing m s with
  | nil => exact Gained.of_later (Nat.le_refl _)
  | cons id rest ih =>
    refine (Ends.get ?_).bind
    by_cases there : m.contains id = true
    · rw [if_pos there]
      exact ih m s
    · rw [if_neg there]
      refine (createNode_ends
        ((Scene.createCircle_keeps lastingOnSurface_later id s).imp ?_ ?_)).bind
      · intro node s' made
        obtain ⟨named, later⟩ := made
        refine (ih (m.insert id node) s').andThen ?_ ?_
        · exact fun _ after gained => gained.insert there named later
        · exact fun after gained => gained.insert there named later
      · exact fun s' later => Gained.of_later later

end NodeMap

namespace Scene

variable {scene scene' scene'' : Scene α σ} {retained : String → Prop}

theorem lasting_retouched : Lasting (Retouched (α := α) (Later (α := α) (σ := σ))) :=
  Retouched.lasting lastingOnSurface_later.lasting

/-- The nodes of some states were kept, among them those that must be, and new ones were made. -/
structure Succeeds (retained : String → Prop) (scene scene' : Scene α σ) : Prop where
  later : given scene.surface ≤ given scene'.surface
  tags : ∃ (keep : String → Bool) (new : List (String × Handle × α)),
    scene'.nodes.tags = scene.nodes.tags.filter (keep ·.1) ++ new ∧
    (∀ id, retained id → keep id = true) ∧ (∀ tag ∈ new, tag.1 ∉ scene.nodes.ids) ∧
    Fresh (given scene.surface) (given scene'.surface) new

namespace Succeeds

/-- Nothing but places of nodes and the surface was changed. -/
theorem of_retouched (same : Retouched Later scene scene') : Succeeds retained scene scene' :=
  ⟨same.surface, fun _ => true, [], by simp [same.tags], by simp, by simp, .nil⟩

theorem retouched (first : Succeeds retained scene scene') (same : Retouched Later scene' scene'') :
    Succeeds retained scene scene'' := by
  have later : given scene'.surface ≤ given scene''.surface := same.surface
  obtain ⟨before, keep, new, tags, kept, absent, fresh⟩ := first
  exact ⟨Nat.le_trans before later, keep, new, same.tags.trans tags, kept, absent, fresh.mono later⟩

end Succeeds

theorem reconcile_succeeds (machine : Machine) :
    Respects (onNodes (NodeMap.reconcile createCircle machine.states) :
      Action α (Scene α σ) (Reconciliation α)) (Succeeds (· ∈ machine.states)) := by
  intro scene
  refine onNodes_ends ?_
  refine (NodeMap.createMissing_gained machine.states scene.nodes scene.surface).andThen ?_ ?_
  · intro count after gained
    obtain ⟨m, s⟩ := after
    obtain ⟨later, new, tags, fresh⟩ := gained
    refine (Ends.get ?_).bind
    refine (Ends.set ?_).bind
    refine ⟨later, machine.states.contains, new.filter (machine.states.contains ·.1), ?_, ?_, ?_,
      fresh.filter _⟩
    · rw [NodeMap.tags_filter, tags, List.filter_append]
    · exact fun id mem => List.contains_iff_mem.mpr mem
    · exact fun tag mem => NodeMap.new_of_tags tags tag (List.mem_of_mem_filter mem)
  · intro after gained
    obtain ⟨m, s⟩ := after
    obtain ⟨later, new, tags, fresh⟩ := gained
    exact ⟨later, fun _ => true, new, by simp [tags], by simp, NodeMap.new_of_tags tags, fresh⟩

theorem updateStates_succeeds (machine : Machine) :
    Respects (updateStates machine : Action α (Scene α σ) (Nat × Nat))
      (Succeeds (· ∈ machine.states)) := by
  -- the nodes of vanished states are out of the map, whatever becomes of their circles
  refine (reconcile_succeeds machine).append (fun outcome => ?_) Succeeds.retouched
  have calls := lastingOnSurface_later (α := α) (σ := σ)
  have removed := destroyCircles_respects removeChild_respects calls.lasting outcome.destroyed
  exact (onSurface_respects removed).bind lasting_retouched fun _ => .pure lasting_retouched _

theorem render_succeeds (machine : Machine) :
    Respects (render machine : Action α (Scene α σ) (PassStats α))
      (Succeeds (· ∈ machine.states)) := by
  have calls := lastingOnSurface_later (α := α) (σ := σ)
  refine (updateStates_succeeds machine).append (fun counts => ?_) Succeeds.retouched
  refine (clear_respects calls).bind lasting_retouched fun _ => ?_
  refine (arrange_respects calls).bind lasting_retouched fun radius => ?_
  refine (rebuildArrows_respects calls removeChild_respects machine).bind lasting_retouched
    fun arrows => ?_
  exact (onSurface_respects update_respects).bind lasting_retouched fun _ => .pure lasting_retouched _

/-- The states whose nodes a call leaves in the map if they have any. -/
def Call.Retains : Call → String → Prop
  | .render machine, id => id ∈ machine.states
  | .updateStates machine, id => id ∈ machine.states
  | .arrange, _ => True
  | .rebuildArrows _, _ => True

theorem after_succeeds (scene : Scene α σ) (call : Call) :
    Succeeds call.Retains scene (scene.after call) := by
  have calls := lastingOnSurface_later (α := α) (σ := σ)
  cases call with
  | render machine => exact (render_succeeds machine).stateOf scene
  | updateStates machine => exact (updateStates_succeeds machine).stateOf scene
  | arrange => exact .of_retouched ((arrange_respects calls).stateOf scene)
  | rebuildArrows machine =>
    exact .of_retouched ((rebuildArrows_respects calls removeChild_respects machine).stateOf scene)

/-! ## §3 Runs -/

/-- The handles of the map were given, and in the order of the nodes. -/
structure InHandleOrder (scene : Scene α σ) : Prop where
  issued : ∀ tag ∈ scene.nodes.tags, tag.2.1.index < given scene.surface
  ascending : (scene.nodes.tags.map (·.2.1.index)).Pairwise (· < ·)

namespace InHandleOrder

theorem succeeds (ordered : scene.InHandleOrder) (h : Succeeds retained scene scene') :
    scene'.InHandleOrder := by
  obtain ⟨later, keep, new, tags, -, -, fresh⟩ := h
  constructor
  case issued =>
    intro tag mem
    rw [tags, List.mem_append] at mem
    rcases mem with old | made
    · exact Nat.lt_of_lt_of_le (ordered.issued tag (List.mem_of_mem_filter old)) later
    · exact (fresh.within tag made).2
  case ascending =>
    rw [tags, List.map_append, List.pairwise_append]
    refine ⟨ordered.ascending.sublist (List.filter_sublist.map _), fresh.ascending, ?_⟩
    intro i old j made
    obtain ⟨tag, listed, rfl⟩ := List.mem_map.mp old
    obtain ⟨tag', listed', rfl⟩ := List.mem_map.mp made
    have before := ordered.issued tag (List.mem_of_mem_filter listed)
    have after := (fresh.within tag' listed').1
    omega

/-- No handle is the handle of two states. -/
theorem injective (ordered : scene.InHandleOrder) {id id' : String} {h : Handle} {width width' : α}
    (mem : (id, h, width) ∈ scene.nodes.tags) (mem' : (id', h, width') ∈ scene.nodes.tags) :
    id = id' := by
  have nodup : (scene.nodes.tags.map (·.2.1.index)).Nodup :=
    ordered.ascending.imp fun less => Nat.ne_of_lt less
  have same := List.inj_on_of_nodup_map nodup mem mem' rfl
  exact congrArg Prod.fst same

theorem run (ordered : scene.InHandleOrder) (calls : List Call) :
    (scene.run calls).InHandleOrder := by
  induction calls generalizing scene with
  | nil => exact ordered
  | cons call rest ih => exact ih (ordered.succeeds (after_succeeds scene call))

end InHandleOrder

theorem inHandleOrder_of_new {surface : σ} {layout : Layout α}
    (made : Scene.new surface layout = .ok scene) : scene.InHandleOrder := by
  have empty : scene.nodes = .empty := by
    unfold Scene.new at made
    simp only at made
    split at made
    · cases made; rfl
    · contradiction
  constructor <;> simp [empty, NodeMap.tags, NodeMap.empty]

/-- What has a handle that was given before a run was there before, and at every time since. -/
theorem mem_tags_of_run {calls : List Call} {tag : String × Handle × α}
    (listed : tag ∈ (scene.run calls).nodes.tags) (old : tag.2.1.index < given scene.surface) :
    ∀ part, part <+: calls → tag ∈ (scene.run part).nodes.tags := by
  induction calls generalizing scene with
  | nil =>
    intro part start
    rw [List.prefix_nil.mp start]
    exact listed
  | cons call rest ih =>
    obtain ⟨later, keep, new, tags, -, -, fresh⟩ := after_succeeds scene call
    have since := ih listed (Nat.lt_of_lt_of_le old later)
    intro part start
    rcases List.prefix_cons_iff.mp start with rfl | ⟨part, rfl, begins⟩
    · -- right after the call it is in the map, and it is none of those that the call has made
      have mem : tag ∈ (scene.after call).nodes.tags := since [] List.nil_prefix
      rw [tags, List.mem_append] at mem
      rcases mem with kept | made
      · exact List.mem_of_mem_filter kept
      · have not_old := (fresh.within tag made).1
        omega
    · exact since part begins

/-- What every call of a run retains is there after the run. -/
theorem mem_tags_run {calls : List Call} {tag : String × Handle × α}
    (listed : tag ∈ scene.nodes.tags) (retained : ∀ call ∈ calls, call.Retains tag.1) :
    tag ∈ (scene.run calls).nodes.tags := by
  induction calls generalizing scene with
  | nil => exact listed
  | cons call rest ih =>
    obtain ⟨now, later⟩ := List.forall_mem_cons.mp retained
    obtain ⟨-, keep, new, tags, kept, -⟩ := after_succeeds scene call
    have still : tag ∈ (scene.after call).nodes.tags := by
      rw [tags]
      exact List.mem_append_left _ (List.mem_filter.mpr ⟨listed, kept tag.1 now⟩)
    exact ih still later

/-! ## §4 States and handles -/

/-- What a call on a scene over a grid leaves of the nodes, if it retains some states. -/
structure KeepsIdentity (retained : String → Prop) (s : GridSurface α) (scene scene' : Scene α σ) :
    Prop where
  /-- A state that is retained keeps its handle and the width of its label. -/
  kept : ∀ id tag, retained id → scene.nodes.tag? id = some tag → scene'.nodes.tag? id = some tag
  /-- The states that are kept come first, in the order in which they were. -/
  order : ∃ kept new, scene'.nodes.ids = kept ++ new ∧ kept.Sublist scene.nodes.ids ∧
    ∀ id ∈ new, id ∉ scene.nodes.ids
  /-- A handle that comes into the map is greater than all that the surface had given. -/
  fresh : ∀ id h, scene'.nodes.handle? id = some h →
    (∀ other, scene.nodes.handle? other ≠ some h) → ∀ earlier, s.nodes.Issued earlier →
      earlier.index < h.index

theorem Succeeds.keepsIdentity (h : Succeeds retained scene scene') :
    KeepsIdentity retained (grid scene.surface) scene scene' := by
  obtain ⟨-, keep, new, tags, kept, absent, fresh⟩ := h
  constructor
  case kept =>
    intro id tag stays there
    rw [NodeMap.tag?_eq_some_iff] at there ⊢
    rw [tags]
    exact List.mem_append_left _ (List.mem_filter.mpr ⟨there, kept id stays⟩)
  case order =>
    refine ⟨(scene.nodes.tags.filter (keep ·.1)).map Prod.fst, new.map Prod.fst, ?_, ?_, ?_⟩
    · rw [← NodeMap.map_fst_tags, tags, List.map_append]
    · rw [← NodeMap.map_fst_tags]
      exact List.filter_sublist.map Prod.fst
    · exact List.forall_mem_map.mpr absent
  case fresh =>
    intro id h there unseen earlier issued
    obtain ⟨width, mem⟩ := NodeMap.handle?_eq_some_iff.mp there
    rw [tags, List.mem_append] at mem
    rcases mem with old | made
    · exact absurd (NodeMap.handle?_eq_some_iff.mpr ⟨width, List.mem_of_mem_filter old⟩) (unseen id)
    · exact Nat.lt_of_lt_of_le issued (fresh.within _ made).1

/-- However calls are refused, removals included: each call keeps the nodes of the states that it
retains, a handle is never used for another state nor a second time, and a state that all calls of
a run retain has the same node after it. -/
theorem identity_through_run {surface : Unreliable (GridSurface α)} {layout : Layout α}
    {start : Scene α (Unreliable (GridSurface α))} (made : Scene.new surface layout = .ok start)
    (before : List Call) :
    (∀ call, KeepsIdentity call.Retains (start.run before).surface.inner (start.run before)
      (start.run (before ++ [call]))) ∧
    (∀ between id id' h, (start.run before).nodes.handle? id = some h →
      (start.run (before ++ between)).nodes.handle? id' = some h →
      id' = id ∧ ∀ part, part <+: between →
        (start.run (before ++ part)).nodes.handle? id = some h) ∧
    (∀ between id tag, (start.run before).nodes.tag? id = some tag →
      (∀ call ∈ between, call.Retains id) →
      (start.run (before ++ between)).nodes.tag? id = some tag) := by
  have ordered := (inHandleOrder_of_new made).run before
  have continued : ∀ calls, start.run (before ++ calls) = (start.run before).run calls :=
    fun calls => List.foldl_append
  simp only [continued]
  generalize start.run before = scene at ordered
  refine ⟨?_, ?_, ?_⟩
  · intro call
    exact (after_succeeds scene call).keepsIdentity
  · intro between id id' h there there'
    simp only [NodeMap.handle?_eq_some_iff] at there there' ⊢
    obtain ⟨width, listed⟩ := there
    obtain ⟨width', listed'⟩ := there'
    have known : h.index < given scene.surface := ordered.issued _ listed
    have since := mem_tags_of_run listed' known
    have same : id' = id := ordered.injective (since [] List.nil_prefix) listed
    subst same
    exact ⟨rfl, fun part begins => ⟨width', since part begins⟩⟩
  · intro between id tag there retained
    rw [NodeMap.tag?_eq_some_iff] at there ⊢
    exact mem_tags_run there retained

/-- The circle of a state that has gone is not removed, and then the state comes back. -/
theorem identity_through_run_refused_removal :
    let surface : Unreliable (GridSurface Float) :=
      (Unreliable.ofSurface (GridSurface.new .standard)).refuseOnce .removeChild 0
    let before := [Call.render (.ofText "A->B"), .updateStates (.ofText "A->A")]
    let call := Call.render (.ofText "A->B")
    ∃ start, Scene.new surface .standard = .ok start ∧
      KeepsIdentity call.Retains (start.run before).surface.inner (start.run before)
        (start.run (before ++ [call])) := by
  intro surface before call
  obtain ⟨start, made⟩ : ∃ start, Scene.new surface .standard = .ok start := ⟨_, rfl⟩
  exact ⟨start, made, (identity_through_run made before).1 call⟩

end Scene

end TransitionDiagram
