/-
TransitionDiagram.Proofs.Stability: circles stay where they are while a machine grows.

Where a circle is put depends on its number in the map, on the radius, and on the constants of the
layout, and not on where it was or on how many circles come after it. Matching keeps the nodes of
states that stay in their slots and puts new ones behind them. So when a machine gains states, and
none of them has a label that asks for larger circles, a pass leaves the old states where the last
pass has put them. That holds even if the pass fails on the way, as the old nodes are then either
put in their places again or not touched.

All this is about the map. Of the surface it takes only that its size never changes.

  §1 places
  §2 matching
  §3 surfaces of a fixed size
  §4 passes
  §5 growing machines
-/
import TransitionDiagram.Proofs.Portrait
import TransitionDiagram.Proofs.Respecting
import TransitionDiagram.Proofs.Retrying

namespace TransitionDiagram

variable {α σ : Type} [Scalar α]

/-! ## §1 Places -/

namespace Rows

variable (rows : Rows α)

/-- More nodes change nothing for those before them. -/
theorem exists_put_append (place : Point α) (entries more : List (String × StateNode α)) :
    ∃ next, rows.put place (entries ++ more) = rows.put place entries ++ rows.put next more := by
  induction entries generalizing place with
  | nil => exact ⟨place, rfl⟩
  | cons entry rest ih =>
    obtain ⟨next, put⟩ := ih (rows.after place)
    exact ⟨next, by rw [List.cons_append, Rows.put, put]; rfl⟩

/-- Nodes are put in the same places wherever they were. -/
theorem put_put (place place' : Point α) (entries : List (String × StateNode α)) :
    rows.put place (rows.put place' entries) = rows.put place entries := by
  induction entries generalizing place place' with
  | nil => rfl
  | cons entry rest ih => rw [put, put, put, ih]

theorem map_position_put (place : Point α) (entries : List (String × StateNode α)) :
    (rows.put place entries).map (fun entry => (entry.1, entry.2.position)) =
      rows.seats place (entries.map Prod.fst) := by
  induction entries generalizing place with
  | nil => rfl
  | cons entry rest ih => rw [put, List.map_cons, ih]; rfl

theorem exists_seats_append (place : Point α) (ids more : List String) :
    ∃ next, rows.seats place (ids ++ more) = rows.seats place ids ++ rows.seats next more := by
  induction ids generalizing place with
  | nil => exact ⟨place, rfl⟩
  | cons id rest ih =>
    obtain ⟨next, seats⟩ := ih (rows.after place)
    exact ⟨next, by rw [List.cons_append, Rows.seats, seats]; rfl⟩

end Rows

namespace NodeMap

variable {m m' : NodeMap α} {edge : α} {layout : Layout α}

/-- The radius depends on the widths alone, which stay when nodes are put somewhere. -/
theorem radius?_put (m : NodeMap α) (rows : Rows α) (layout : Layout α) :
    (m.put rows).radius? layout = m.radius? layout := by
  have widths : (m.put rows).nodes.map (·.minSize) = m.nodes.map (·.minSize) := by
    rw [nodes, nodes, List.map_map, List.map_map]
    exact Rows.map_put (fun _ _ _ => rfl) rows m.entries rows.first
  rw [radius?, radius?, widths]

theorem radius?_arranged (m : NodeMap α) (edge : α) (layout : Layout α) :
    (m.arranged edge layout).radius? layout = m.radius? layout := by
  cases chosen : m.radius? layout with
  | none => rw [arranged_of_none chosen, chosen]
  | some radius => rw [arranged_of_radius chosen, radius?_put, chosen]

theorem ids_arranged (m : NodeMap α) (edge : α) (layout : Layout α) :
    (m.arranged edge layout).ids = m.ids := by
  rw [← map_fst_tags, tags_arranged, map_fst_tags]

theorem entries_eq_nil_of_radius (none : m.radius? layout = none) : m.entries = [] := by
  unfold radius? Layout.radius? at none
  split at none
  · rename_i no_widths
    exact List.map_eq_nil_iff.mp (List.map_eq_nil_iff.mp no_widths)
  · contradiction

/-- Nodes that are in their places are put there again. -/
theorem arranged_arranged (m : NodeMap α) (edge : α) (layout : Layout α) :
    (m.arranged edge layout).arranged edge layout = m.arranged edge layout := by
  cases chosen : m.radius? layout with
  | none => rw [arranged_of_none chosen, arranged_of_none chosen]
  | some radius =>
    rw [arranged_of_radius (by rw [radius?_arranged, chosen]), arranged_of_radius chosen]
    exact eq_of_entries (Rows.put_put _ _ _ _)

/-- The nodes that come first get the same places whichever nodes come after them, unless these
change the radius. -/
theorem arranged_prefix (first : m.entries <+: m'.entries)
    (same : m'.radius? layout = m.radius? layout) :
    (m.arranged edge layout).entries <+: (m'.arranged edge layout).entries := by
  cases chosen : m.radius? layout with
  | none =>
    rw [arranged_of_none chosen, entries_eq_nil_of_radius chosen]
    exact List.nil_prefix
  | some radius =>
    obtain ⟨more, split⟩ := first
    rw [arranged_of_radius chosen, arranged_of_radius (same.trans chosen)]
    obtain ⟨next, put_eq⟩ := (Rows.ofRadius layout edge radius).exists_put_append
      (Rows.ofRadius layout edge radius).first m.entries more
    rw [split] at put_eq
    exact ⟨_, put_eq.symm⟩

/-- Places depend on the states in their order and on the radius. -/
theorem places_prefix_of_arrange? {radius : α} {arranged : NodeMap α}
    (first : m.ids <+: m'.ids) (same : m'.radius? layout = m.radius? layout)
    (put : m.arrange? edge layout = some (radius, arranged)) :
    ∃ arranged', m'.arrange? edge layout = some (radius, arranged') ∧
      arranged.places <+: arranged'.places := by
  obtain ⟨r, chosen, made⟩ := Option.map_eq_some_iff.mp put
  obtain ⟨rfl, rfl⟩ := Prod.mk.inj made
  refine ⟨_, by rw [arrange?, same, chosen]; rfl, ?_⟩
  obtain ⟨more, split⟩ := first
  generalize Rows.ofRadius layout edge r = rows
  have seated : ∀ m : NodeMap α, (m.put rows).places = rows.seats rows.first m.ids := fun m =>
    rows.map_position_put rows.first m.entries
  obtain ⟨next, seats⟩ := rows.exists_seats_append rows.first m.ids more
  rw [seated, seated, ← split, seats]
  exact List.prefix_append _ _

end NodeMap

/-! ## §2 Matching -/

namespace NodeMap

variable {ε : Type} {create : String → EStateM ε σ (StateNode α)} {m : NodeMap α} {s : σ}
  {states : List String}

omit [Scalar α] in
/-- If all nodes are nodes of the states, a matching adds nodes behind them and does nothing else,
whether it goes through or not. -/
theorem prefix_reconcile (stay : ∀ id ∈ m.ids, id ∈ states) :
    m.entries <+: (stateOf (reconcile create states (m, s))).1.entries := by
  cases ended : reconcile create states (m, s) with
  | ok outcome after =>
    obtain ⟨m', s'⟩ := after
    obtain ⟨made, -, -, -, entries⟩ := reconcile_eq_ok_iff.mp ended
    have all : m.entries.filter (·.1 ∈ states) = m.entries :=
      List.filter_eq_self.mpr fun entry mem => decide_eq_true (stay _ (List.mem_map_of_mem mem))
    rw [all] at entries
    exact ⟨made, entries.symm⟩
  | error e after =>
    obtain ⟨m', s'⟩ := after
    obtain ⟨made, -, -, -, -, -, -, entries⟩ := reconcile_eq_error_iff.mp ended
    exact ⟨made, entries.symm⟩

end NodeMap

/-! ## §3 Surfaces of a fixed size -/

variable [DrawingSurface α σ]

/-- The second surface is as large as the first. -/
def SameSize (s s' : σ) : Prop :=
  DrawingSurface.size s' = DrawingSurface.size s

/-- No call changes the size of a surface. -/
structure FixedSize (α σ : Type) [DrawingSurface α σ] : Prop where
  calls : LastingOnSurface (SameSize (α := α) (σ := σ))
  removeChild : ∀ parent child : Handle,
    Respects (DrawingSurface.removeChild parent child : Action α σ Unit) SameSize
  update : Respects (DrawingSurface.update : Action α σ Unit) SameSize

/-- The size of a grid is one of its settings. -/
theorem GridSurface.lastingOnGrid_size :
    LastingOnGrid fun s s' : GridSurface α => s'.config.size = s.config.size where
  lasting := .of_eq fun s : GridSurface α => s.config.size
  create _ _ := rfl
  modify _ _ _ := rfl
  dropAll _ _ := rfl
  setCircleTemplate _ _ := rfl
  clear _ := rfl

theorem GridSurface.update_size :
    Respects GridSurface.update fun s s' : GridSurface α => s'.config.size = s.config.size := by
  intro s
  refine (Ends.get ?_).bind
  refine (Ends.set ?_).bind
  cases s.walk.fault with
  | none => exact rfl
  | some fault => exact rfl

/-- A surface over a grid is as large as the grid. -/
theorem OnGrid.fixedSize [OnGrid α σ] : FixedSize α σ := by
  have same : SameSize (σ := σ) = fun s s' => (grid s').config.size = (grid s).config.size := by
    funext s s'
    rw [SameSize, OnGrid.size, OnGrid.size]
    rfl
  have grids := GridSurface.lastingOnGrid_size (α := α)
  constructor
  case calls => rw [same]; exact lastingOnSurface grids.calls
  case removeChild =>
    intro parent child
    rw [same]
    exact (OnGrid.removeChild parent child).respects grids.lasting (grids.removeChild parent child)
  case update => rw [same]; exact OnGrid.update.respects grids.lasting GridSurface.update_size

/-! ## §4 Passes -/

namespace Scene

variable {scene scene' scene'' : Scene α σ} {machine : Machine}

/-- The layout and the size of the surface are the same. -/
structure SameFrame (scene scene' : Scene α σ) : Prop where
  size : SameSize scene.surface scene'.surface
  layout : scene'.layout = scene.layout

/-- The map with every node at its place in a scene. -/
def arrangedNodes (scene : Scene α σ) (m : NodeMap α) : NodeMap α :=
  m.arranged (DrawingSurface.size scene.surface).width scene.layout

omit [Scalar α] in
theorem SameFrame.trans (first : scene.SameFrame scene') (second : scene'.SameFrame scene'') :
    scene.SameFrame scene'' :=
  ⟨Eq.trans second.size first.size, second.layout.trans first.layout⟩

theorem SameFrame.arrangedNodes_eq (same : scene.SameFrame scene') (m : NodeMap α) :
    scene'.arrangedNodes m = scene.arrangedNodes m := by
  rw [arrangedNodes, arrangedNodes, same.size, same.layout]

omit [Scalar α] in
theorem Aside.sameFrame (aside : Aside SameSize scene scene') : scene.SameFrame scene' :=
  ⟨aside.surface, aside.layout⟩

/-- The map after the matching of a pass. -/
def matched (machine : Machine) (scene : Scene α σ) : NodeMap α :=
  (stateOf (NodeMap.reconcile createCircle machine.states (scene.nodes, scene.surface))).1

section Fixed

variable (fixed : FixedSize α σ)

include fixed

/-- The map is matched with the states, and then no node changes any more. -/
theorem updateStates_matched (machine : Machine) (scene : Scene α σ) :
    Ends (updateStates machine scene)
      (fun _ scene' => scene.SameFrame scene' ∧ scene'.nodes = matched machine scene ∧
        ∀ id, id ∈ scene'.nodes.ids ↔ id ∈ machine.states)
      (fun scene' => scene.SameFrame scene' ∧ scene'.nodes = matched machine scene) := by
  have lasting : Lasting (SameSize (σ := σ)) := fixed.calls.lasting
  have created := NodeMap.reconcile_respects lasting (createCircle_respects fixed.calls)
    machine.states (scene.nodes, scene.surface)
  unfold updateStates
  refine Ends.bind (onNodes_ends ?_)
  cases ended : NodeMap.reconcile createCircle machine.states (scene.nodes, scene.surface) with
  | error fault after =>
    have nodes : matched machine scene = after.1 := by rw [matched, ended]; rfl
    exact ⟨⟨created.of_error ended, rfl⟩, nodes.symm⟩
  | ok outcome after =>
    obtain ⟨m, s⟩ := after
    have nodes : matched machine scene = m := by rw [matched, ended]; rfl
    obtain ⟨made, named, -, -, entries⟩ := NodeMap.reconcile_eq_ok_iff.mp ended
    let scene₁ : Scene α σ := { scene with nodes := m, surface := s }
    have same₁ : scene.SameFrame scene₁ := ⟨created.of_ok ended, rfl⟩
    have removed := onSurface_aside
      (destroyCircles_respects fixed.removeChild lasting outcome.destroyed) scene₁
    refine removed.andThen ?_ ?_
    · intro _ scene₂ aside
      refine ⟨same₁.trans aside.sameFrame, aside.nodes.trans nodes.symm, fun id => ?_⟩
      rw [aside.nodes]
      exact NodeMap.mem_ids_of_reconcile named entries
    · exact fun scene₂ aside => ⟨same₁.trans aside.sameFrame, aside.nodes.trans nodes.symm⟩

/-- A pass that goes through leaves the matched nodes in their places. One that fails leaves them
there, or where they were. -/
theorem render_places (machine : Machine) (scene : Scene α σ) :
    Ends (render machine scene)
      (fun _ scene' => scene.SameFrame scene' ∧
        scene'.nodes = scene.arrangedNodes (matched machine scene) ∧
        ∀ id, id ∈ scene'.nodes.ids ↔ id ∈ machine.states)
      (fun scene' => scene'.nodes = matched machine scene ∨
        scene'.nodes = scene.arrangedNodes (matched machine scene)) := by
  unfold render
  refine (updateStates_matched fixed machine scene).andThen ?_ (fun _ failed => .inl failed.2)
  rintro ⟨created, destroyed⟩ scene₁ ⟨same₁, nodes₁, ids₁⟩
  refine (clear_aside fixed.calls scene₁).andThen ?_
    (fun _ aside => .inl (aside.nodes.trans nodes₁))
  intro _ scene₂ aside₂
  have same₂ := same₁.trans aside₂.sameFrame
  have nodes₂ := aside₂.nodes.trans nodes₁
  have placed : ∀ scene₃, Arranged SameSize scene₂ scene₃ → scene.SameFrame scene₃ ∧
      scene₃.nodes = scene.arrangedNodes (matched machine scene) := by
    intro scene₃ arranged
    refine ⟨same₂.trans ⟨arranged.surface, arranged.layout⟩, ?_⟩
    rw [← same₂.arrangedNodes_eq, ← nodes₂]
    exact arranged.nodes
  refine (arrange_arranged fixed.calls scene₂).andThen ?_ (fun _ failed => .inr (placed _ failed).2)
  intro radius scene₃ arranged
  obtain ⟨same₃, nodes₃⟩ := placed scene₃ arranged
  have rebuilt := rebuildArrows_aside fixed.calls fixed.removeChild machine scene₃
  refine rebuilt.andThen ?_ (fun _ aside => .inr (aside.nodes.trans nodes₃))
  intro arrows scene₄ aside₄
  refine (onSurface_aside fixed.update scene₄).andThen ?_
    (fun _ aside => .inr (aside.nodes.trans (aside₄.nodes.trans nodes₃)))
  intro _ scene₅ aside₅
  have nodes₅ := aside₅.nodes.trans (aside₄.nodes.trans nodes₃)
  refine ⟨same₃.trans (aside₄.sameFrame.trans aside₅.sameFrame), nodes₅, fun id => ?_⟩
  rw [nodes₅, arrangedNodes, NodeMap.ids_arranged, ← nodes₁]
  exact ids₁ id

theorem nodes_updateStates (machine : Machine) (scene : Scene α σ) :
    (scene.after (.updateStates machine)).nodes = matched machine scene :=
  (updateStates_matched fixed machine scene).state (fun _ _ ended => ended.2.1)
    (fun _ failed => failed.2)

/-! ## §5 Growing machines -/

/-- Nodes at their places stay there in a pass for more states, unless these change the radius. -/
theorem prefix_render (stay : ∀ id ∈ scene.nodes.ids, id ∈ machine.states)
    (settled : scene.arrangedNodes scene.nodes = scene.nodes)
    (same : (matched machine scene).radius? scene.layout = scene.nodes.radius? scene.layout) :
    scene.nodes.entries <+: (scene.after (.render machine)).nodes.entries := by
  have first : scene.nodes.entries <+: (matched machine scene).entries :=
    NodeMap.prefix_reconcile stay
  have placed : scene.nodes.entries <+:
      (scene.arrangedNodes (matched machine scene)).entries := by
    have there : (scene.arrangedNodes scene.nodes).entries <+: _ :=
      NodeMap.arranged_prefix first same
    rwa [settled] at there
  let kept := fun scene' : Scene α σ => scene.nodes.entries <+: scene'.nodes.entries
  refine (render_places fixed machine scene).state (P := kept) ?_ ?_
  · rintro _ scene' ⟨-, nodes, -⟩
    simpa only [kept, nodes] using placed
  · rintro scene' (nodes | nodes)
    · simpa only [kept, nodes] using first
    · simpa only [kept, nodes] using placed

/-- If the nodes of one map come first in another one, and both ask for one radius, then they get
the same places in both, wherever the nodes were before.

So if a pass goes through and the next one is for a machine with all the states of the first, then
all of these keep their slots, their handles and their places, provided that the new states leave
the radius as it was. It does not matter what was done before, nor whether the second pass goes
through. -/
theorem placement_stable :
    (∀ (m m' : NodeMap α) (edge : α) (layout : Layout α), m.ids <+: m'.ids →
      m'.radius? layout = m.radius? layout →
        ∀ radius arranged, m.arrange? edge layout = some (radius, arranged) →
          ∃ arranged', m'.arrange? edge layout = some (radius, arranged') ∧
            arranged.places <+: arranged'.places) ∧
    ∀ (machine machine' : Machine) (before scene : Scene α σ) (stats : PassStats α),
      render machine before = .ok stats scene →
      (∀ id ∈ machine.states, id ∈ machine'.states) →
      (scene.after (.updateStates machine')).nodes.radius? scene.layout =
        scene.nodes.radius? scene.layout →
        scene.nodes.entries <+: (scene.after (.render machine')).nodes.entries ∧
        ∀ id ∈ machine.states, ∃ (slot : Nat) (node : StateNode α),
          scene.nodes.entries[slot]? = some (id, node) ∧
          (scene.after (.render machine')).nodes.entries[slot]? = some (id, node) := by
  refine ⟨fun m m' edge layout first same radius arranged put =>
    NodeMap.places_prefix_of_arrange? first same put, ?_⟩
  intro machine machine' before scene stats ended grows same
  obtain ⟨frame, nodes, ids⟩ := (render_places fixed machine before).of_ok ended
  have stay : ∀ id ∈ scene.nodes.ids, id ∈ machine'.states := fun id mem =>
    grows id ((ids id).mp mem)
  have settled : scene.arrangedNodes scene.nodes = scene.nodes := by
    rw [frame.arrangedNodes_eq, nodes]
    exact NodeMap.arranged_arranged _ _ _
  rw [nodes_updateStates fixed] at same
  have kept := prefix_render fixed stay settled same
  refine ⟨kept, fun id mem => ?_⟩
  obtain ⟨⟨_, node⟩, listed, rfl⟩ := List.mem_map.mp ((ids id).mpr mem)
  obtain ⟨slot, there⟩ := List.getElem?_of_mem listed
  obtain ⟨more, split⟩ := kept
  refine ⟨slot, node, there, ?_⟩
  rw [← split, List.getElem?_append_left (List.getElem?_eq_some_iff.mp there).1, there]

end Fixed

/-- If no call is refused, matching shows the states of a machine, and the map knows the widths of
their names. -/
theorem Steady.updateStates_lists [OnGrid α σ] {config : PictureConfig α} {layout : Layout α}
    (steady : scene.Steady config layout) (never : ¬ scene.MayFail) (machine : Machine) :
    ∃ k : Sketch α, k.Lists (scene.after (.updateStates machine)).nodes ∧
      (scene.after (.updateStates machine)).nodes.ids = machine.shown scene.nodes.ids := by
  obtain ⟨k, spare, -, fits⟩ := steady.inStep
  let listed := fun scene' : Scene α σ =>
    ∃ k : Sketch α, k.Lists scene'.nodes ∧ scene'.nodes.ids = machine.shown scene.nodes.ids
  refine (updateStates_ends machine steady.certain fits).state (P := listed) ?_ ?_
  · rintro _ scene' ⟨new, named, -, -, fits'⟩
    exact ⟨_, fits'.lists, fits'.lists.ids.trans (fits.lists.map_id_filter named)⟩
  · rintro scene' ⟨broken, -⟩
    exact absurd broken.cause never

/-- A third state joins two, and all labels have one letter. -/
theorem placement_stable_third_state :
    let machine := Machine.ofText "A->B"
    let machine' := Machine.ofText "A->B\nC->A"
    FixedSize Float (Unreliable (GridSurface Float)) ∧
    ∃ (before scene : Scene Float (Unreliable (GridSurface Float))) (stats : PassStats Float),
      render machine before = .ok stats scene ∧ (∀ id ∈ machine.states, id ∈ machine'.states) ∧
      (scene.after (.updateStates machine')).nodes.radius? scene.layout =
        scene.nodes.radius? scene.layout ∧
      scene.nodes.ids = ["A", "B"] ∧
      (scene.after (.updateStates machine')).nodes.ids = ["A", "B", "C"] ∧
      scene.nodes.entries <+: (scene.after (.render machine')).nodes.entries := by
  intro machine machine'
  have fixed : FixedSize Float (Unreliable (GridSurface Float)) := OnGrid.fixedSize
  have wf : machine.WellFormed := (Machine.Built.ofText "A->B").wellFormed
  have grows : ∀ id ∈ machine.states, id ∈ machine'.states := by decide +kernel
  obtain ⟨surface, start, -, -, -, steady, never, no_states⟩ :=
    exists_unrefused (PictureConfig.standard : PictureConfig Float) .standard
  obtain ⟨stats, scene, ended, steady', never', ids⟩ := steady.exists_rendered never wf
  replace ids : scene.nodes.ids = ["A", "B"] := by
    rw [ids, no_states]
    decide +kernel
  obtain ⟨k, spare, -, fits⟩ := steady'.inStep
  obtain ⟨k', lists', ids'⟩ := steady'.updateStates_lists never' machine'
  replace ids' : (scene.after (.updateStates machine')).nodes.ids = ["A", "B", "C"] := by
    rw [ids', ids]
    decide +kernel
  -- equal widths have any of them as the largest
  have width : ∀ id ∈ ["A", "B", "C"], Text.width id = 1 := by decide +kernel
  have larger_self : ∀ x : Float, Scalar.larger x x = x := by
    intro x
    change (if x.isNaN then x else if x < x then x else x) = x
    simp
  have same : (scene.after (.updateStates machine')).nodes.radius? scene.layout =
      scene.nodes.radius? scene.layout := by
    rw [lists'.radius?, fits.lists.radius?, ← lists'.ids, ← fits.lists.ids, ids, ids']
    simp only [List.forall_mem_cons] at width
    simp [Layout.radiusOf?, Layout.radius?, Cell.labelWidth, width, larger_self]
  exact ⟨fixed, start, scene, stats, ended, grows, same, ids, ids',
    ((placement_stable fixed).2 machine machine' start scene stats ended grows same).1⟩

end Scene

end TransitionDiagram
