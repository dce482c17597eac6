/-
TransitionDiagram.Proofs.Strays: what stays on a surface that refuses removals.

A scene forgets a circle when its state is gone, and an arrow when arrows are built anew, before it
asks the surface to remove them. If the surface refuses, the node stays and nobody knows of it: it
is a stray. So what the surface has below the root are the nodes of the map and stray circles, and
the layer has stray lines first and then the arrows of the scene.

Each action is told by what it does to the strays. None is ever removed, and there are some after a
call if and only if there were some before or a removal was refused. An action that ends with a
fault leaves such a surface as well, and says why: strays are never the cause, so a pass goes
through beside them as soon as no call is refused.

  §1 strays
  §2 circles
  §3 places
  §4 arrows
  §5 calls
-/
import TransitionDiagram.Proofs.Refusals
import TransitionDiagram.Proofs.Runs

open scoped List

namespace TransitionDiagram

open OnGrid

variable {α σ : Type} [Scalar α]

/-! ## §1 Strays -/

/-- What stays of a state of a sketch while its place changes. -/
def ShownState.tag (x : ShownState α) : String × Handle × α :=
  (x.node.id, x.node.handle, x.node.minSize)

theorem NodeMap.Gains.tags {m m' : NodeMap α} {new : List (ShownState α)}
    (gains : m.Gains m' new) : m'.tags = m.tags ++ new.map ShownState.tag := by
  simp [NodeMap.tags, gains.entries, ShownState.entry, ShownState.tag]

theorem NodeMap.Gains.ids {m m' : NodeMap α} {new : List (ShownState α)}
    (gains : m.Gains m' new) : m'.ids = m.ids ++ new.map (·.node.id) := by
  simp [NodeMap.ids, gains.entries, ShownState.entry]

namespace Scene

section Strewn

variable [DrawingSurface α σ] [OnGrid α σ]

/-- The surface holds a sketch with the nodes of the map and lost ones, and with the arrows of the
scene behind stale ones. -/
structure Strewn (lost : List (String × Handle × α)) (stale drawn : List (ShownArrow α))
    (scene : Scene α σ) (k : Sketch α) (spare : Nat) : Prop where
  layer : scene.arrowLayer = k.layer
  states : (k.states.map ShownState.tag) ~ lost ++ scene.nodes.tags
  lines : k.arrows = stale ++ drawn
  arrows : scene.arrows = drawn.map (·.arrow)
  holds : (grid scene.surface).nodes.Holds k.cells spare

/-- What is lost, what is stale, and the arrows of the scene are known. -/
def Littered (lost : List (String × Handle × α)) (stale drawn : List (ShownArrow α))
    (scene : Scene α σ) : Prop :=
  ∃ k spare, scene.Strewn lost stale drawn k spare

variable {scene scene' : Scene α σ} {k : Sketch α} {spare : Nat}
  {lost : List (String × Handle × α)} {stale drawn : List (ShownArrow α)}

/-- The nodes beneath are the same, and so is what the scene remembers apart from places. -/
theorem Strewn.littered_of_same (strewn : scene.Strewn lost stale drawn k spare)
    (layer : scene'.arrowLayer = scene.arrowLayer) (tags : scene'.nodes.tags = scene.nodes.tags)
    (arrows : scene'.arrows = scene.arrows)
    (nodes : (grid scene'.surface).nodes = (grid scene.surface).nodes) :
    scene'.Littered lost stale drawn :=
  ⟨k, spare, layer.trans strewn.layer, tags ▸ strewn.states, strewn.lines,
    arrows.trans strewn.arrows, nodes ▸ strewn.holds⟩

/-! ## §2 Circles -/

/-- Matching puts the nodes of vanished states out of the map, and their circles are lost until
they are removed. -/
theorem reconcile_strews (machine : Machine) (strewn : scene.Strewn lost stale drawn k spare) :
    Ends (onNodes (NodeMap.reconcile createCircle machine.states) scene)
      (fun outcome scene' => ∃ doomed : List (String × Handle × α),
        outcome.destroyed.map (·.handle) = doomed.map (·.2.1) ∧
        scene'.nodes.ids = machine.shown scene.nodes.ids ∧
        scene'.Littered (doomed ++ lost) stale drawn)
      (fun scene' => scene'.Littered lost stale drawn ∧ scene.MayFail) := by
  unfold NodeMap.reconcile
  refine onNodes_ends ?_
  refine (NodeMap.createMissing_gains machine.states scene.nodes strewn.holds).andThen ?_ ?_
  · intro count after good
    obtain ⟨m, s⟩ := after
    obtain ⟨new, -, named, -, gains, holds⟩ := good
    refine (Ends.get ?_).bind
    refine (Ends.set ?_).bind
    let keep : String × Handle × α → Bool := fun tag => machine.states.contains tag.1
    refine ⟨m.tags.filter (! keep ·), ?_, ?_, { k with states := k.states ++ new }, spare,
      strewn.layer, ?_, strewn.lines, strewn.arrows, holds⟩
    · simp [NodeMap.nodes, NodeMap.tags, NodeMap.entries_filter, List.filter_map, keep,
        Function.comp_def]
    · have ids := gains.ids
      rw [named] at ids
      simp only [NodeMap.ids, NodeMap.entries_filter] at ids ⊢
      rw [Machine.shown, ← ids, List.filter_map]; rfl
    · simp only [NodeMap.tags_filter]
      calc (k.states ++ new).map ShownState.tag
        _ ~ lost ++ scene.nodes.tags ++ new.map ShownState.tag := by
          rw [List.map_append]
          exact strewn.states.append_right _
        _ ~ lost ++ m.tags := by rw [gains.tags, List.append_assoc]
        _ ~ lost ++ (m.tags.filter (! keep ·) ++ m.tags.filter keep) :=
          (List.perm_append_comm.trans (List.filter_append_perm keep m.tags)).symm.append_left lost
        _ ~ m.tags.filter (! keep ·) ++ lost ++ m.tags.filter keep := by
          rw [← List.append_assoc]
          exact List.perm_append_comm.append_right _
  · intro after bad
    obtain ⟨m, s⟩ := after
    obtain ⟨new, gains, spoilt⟩ := bad
    obtain ⟨spare', holds⟩ := spoilt.holds
    refine ⟨⟨{ k with states := k.states ++ new }, spare', strewn.layer, ?_, strewn.lines,
      strewn.arrows, holds⟩, spoilt.refusal⟩
    simp only [gains.tags, List.map_append, ← List.append_assoc]
    exact strewn.states.append_right _

/-! ## §3 Places -/

theorem nodes_of_becomes {s s' : σ} {beneath : GridSurface α}
    (becomes : view.Becomes s s' beneath) : (grid s').nodes = beneath.nodes :=
  congrArg GridSurface.nodes becomes.grid

theorem moveGroup_strews {h : Handle} (position : Point α)
    (listed : h ∈ scene.nodes.tags.map (·.2.1)) (littered : scene.Littered lost stale drawn) :
    Ends (onSurface (DrawingSurface.setPosition h position) scene)
      (fun _ scene' => scene'.nodes = scene.nodes ∧ OnlyNodes scene.surface scene'.surface ∧
        scene'.Littered lost stale drawn)
      (fun scene' => scene'.Littered lost stale drawn ∧ scene.MayFail) := by
  obtain ⟨⟨base, layer, arrows, states⟩, spare, strewn⟩ := littered
  obtain ⟨tag, mem, rfl⟩ := List.mem_map.mp listed
  obtain ⟨x, there, rfl⟩ : ∃ x ∈ states, x.tag = tag :=
    List.mem_map.mp (strewn.states.mem_iff.mpr (List.mem_append_right _ mem))
  obtain ⟨before, after, rfl⟩ := List.append_of_mem there
  have order := Sketch.cells_perm_group { base, layer, arrows, states := [] } before after x
  refine onSurface_ends ((setPosition_ends position (strewn.holds.perm order)).imp ?_ ?_)
  · intro _ s good
    refine ⟨rfl, good.1,
      { base, layer, arrows, states := before ++ { x with place := position } :: after },
      spare, strewn.layer, ?_, strewn.lines, strewn.arrows, Sketch.holds_moveState good.2⟩
    simpa [ShownState.tag] using strewn.states
  · exact fun s refused =>
      ⟨strewn.littered_of_same rfl rfl rfl refused.nodes, _, refused.allowed⟩

/-- Circles are moved, strays are not, and neither comes or goes. -/
theorem arrange_strews (littered : scene.Littered lost stale drawn) :
    Ends (arrange scene) (fun _ scene' => scene'.Littered lost stale drawn)
      (fun scene' => scene'.Littered lost stale drawn ∧ scene.MayFail) := by
  unfold arrange
  refine (Ends.get ?_).bind
  rw [NodeMap.arrange?]
  cases scene.nodes.radius? scene.layout with
  | none => exact littered
  | some radius =>
    refine (Ends.set ?_).bind
    obtain ⟨k, spare, strewn⟩ := littered
    -- the places are in the map, and the groups are moved there one by one
    let inv := fun (items : List (StateNode α)) (scene' : Scene α σ) =>
      (∀ node ∈ items, node.handle ∈ scene'.nodes.tags.map (·.2.1)) ∧
        mayRefuse scene'.surface = mayRefuse scene.surface ∧ scene'.Littered lost stale drawn
    have round : ∀ node rest scene', inv (node :: rest) scene' →
        Ends (onSurface (DrawingSurface.setPosition node.handle node.position) scene')
          (fun _ scene'' => inv rest scene'')
          (fun scene'' => scene''.Littered lost stale drawn ∧ scene.MayFail) := by
      intro node rest scene' kept
      obtain ⟨all_listed, same, littered⟩ := kept
      obtain ⟨listed, others_listed⟩ := List.forall_mem_cons.mp all_listed
      refine (moveGroup_strews node.position listed littered).imp ?_ ?_
      · intro _ scene'' moved
        obtain ⟨nodes, only, littered'⟩ := moved
        exact ⟨nodes ▸ others_listed, only.mayRefuse.trans same, littered'⟩
      · intro scene'' failed
        obtain ⟨littered', call, refused⟩ := failed
        exact ⟨littered', call, same ▸ refused⟩
    have becomes := OnGrid.setCircleTemplate (.ofRadius radius) scene.surface
    have nodes := nodes_of_becomes becomes
    refine (Ends.forM round _ _ ⟨?_, ?_, ?_⟩).andThen (fun _ _ moved => moved.2.2)
      (fun _ failed => failed)
    · simp only [NodeMap.nodes, NodeMap.tags, List.map_map, List.forall_mem_map]
      exact fun entry mem => List.mem_map.mpr ⟨entry, mem, rfl⟩
    · exact becomes.mayRefuse
    · exact strewn.littered_of_same rfl (NodeMap.tags_put _ _) rfl nodes

theorem clear_strews (littered : scene.Littered lost stale drawn) :
    Ends ((modify fun scene => { scene with surface := DrawingSurface.clear scene.surface } :
        Action α (Scene α σ) PUnit) scene)
      (fun _ scene' => scene'.Littered lost stale drawn) (fun _ => False) := by
  obtain ⟨k, spare, strewn⟩ := littered
  have nodes := nodes_of_becomes (OnGrid.clear scene.surface)
  exact Ends.modifyGet (strewn.littered_of_same rfl rfl rfl nodes)

/-- Strays are drawn as well, and do not keep the tree from being drawn. -/
theorem update_strews (littered : scene.Littered lost stale drawn) :
    Ends (onSurface DrawingSurface.update scene)
      (fun _ scene' => scene'.nodes = scene.nodes ∧ scene'.Littered lost stale drawn)
      (fun scene' => scene'.Littered lost stale drawn ∧ scene.MayFail) := by
  obtain ⟨k, spare, strewn⟩ := littered
  have whole : (grid scene.surface).walk = { visits := k.visits, fault := none } :=
    Sketch.walk_eq strewn.holds
  refine onSurface_ends ((OnGrid.update.ends (GridSurface.update_ok whole)).imp ?_ ?_)
  · intro _ s good
    have nodes := nodes_of_becomes good.2
    exact ⟨rfl, strewn.littered_of_same rfl rfl rfl nodes⟩
  · intro s refused
    have nodes := nodes_of_becomes refused.2
    exact ⟨strewn.littered_of_same rfl rfl rfl nodes, _, refused.1⟩

end Strewn

/-- A surface of characters that refuses calls. -/
abbrev Refusing (α : Type) : Type := Unreliable (GridSurface α)

open Unreliable (NoRemovalRefused SameRemovals Tried Booked)

variable {scene scene' : Scene α (Refusing α)} {k : Sketch α} {spare : Nat}
  {lost : List (String × Handle × α)} {stale drawn : List (ShownArrow α)}

theorem mayFail_of_refuses (same : scene'.surface.refuses = scene.surface.refuses)
    (fails : scene'.MayFail) : scene.MayFail := by
  obtain ⟨call, made, refused⟩ := fails
  exact ⟨call, made, same ▸ refused⟩

/-- Of some circles those stay whose removal is refused, and there is no other fault. -/
theorem destroyCircles_strew {nodes : List (StateNode α)}
    {doomed others : List (String × Handle × α)} {shown : List (ShownState α)} {s : Refusing α}
    {n : Nat} (handles : nodes.map (·.handle) = doomed.map (·.2.1))
    (states : shown.map ShownState.tag ~ doomed ++ others)
    (holds : (grid s).nodes.Holds { k with states := shown }.cells spare) :
    ∃ (shown' : List (ShownState α)) (left : List (String × Handle × α)),
      shown'.map ShownState.tag ~ left ++ others ∧
      (grid (stateOf (forEach destroyCircle nodes s))).nodes.Holds
        { k with states := shown' }.cells spare ∧
      Booked n (n + left.length) s (stateOf (forEach destroyCircle nodes s)) ∧
      Ends (forEach destroyCircle nodes s) (fun _ _ => True)
        (fun _ => mayRefuse s .removeChild) := by
  induction nodes generalizing doomed others shown s n with
  | nil =>
    rw [List.map_nil, eq_comm, List.map_eq_nil_iff] at handles
    subst handles
    exact ⟨shown, [], states, holds, .refl s, trivial⟩
  | cons node rest ih =>
    obtain ⟨tag, doomed, rfl, named, others_named⟩ := List.map_eq_cons_iff.mp handles.symm
    obtain ⟨x, listed, rfl⟩ : ∃ x ∈ shown, x.tag = tag :=
      List.mem_map.mp (states.mem_iff.mpr (by simp))
    obtain ⟨before, after, rfl⟩ := List.append_of_mem listed
    have same_action :
        (destroyCircle node : Action α (Refusing α) Unit) = destroyCircle x.node := by
      simp only [destroyCircle, ← named]; rfl
    have tried : Ends (destroyCircle x.node s) (fun _ s' => Tried false s s')
        (fun s' => Tried true s s') :=
      Unreliable.removeChild_tried (holds.get _ List.mem_cons_self) (by simp [Sketch.top])
    rw [stateOf_forEach_cons, same_action]
    have once := (destroyCircle_ends holds).and tried
    have first : x.tag :: (before ++ after).map ShownState.tag ~ x.tag :: (doomed ++ others) := by
      refine List.Perm.trans ?_ states
      simpa using List.perm_middle.symm
    cases ended : destroyCircle x.node s with
    | ok _ s' =>
      obtain ⟨⟨only, holds'⟩, passed⟩ := once.of_ok ended
      obtain ⟨shown', left, states', holds'', booked, ends⟩ :=
        ih others_named.symm first.cons_inv holds'
      refine ⟨shown', left, states', holds'', (Booked.of_passed passed).trans booked, ?_⟩
      simp only [forEach, same_action, ended]
      exact ends.imp (fun _ _ _ => trivial) (fun _ refused => only.mayRefuse ▸ refused)
    | error fault s' =>
      obtain ⟨refused, refusal⟩ := once.of_error ended
      rw [← refused.nodes] at holds
      -- the circle stays, and it is one of the others from now on
      have moved : (before ++ x :: after).map ShownState.tag ~ doomed ++ x.tag :: others :=
        states.trans List.perm_middle.symm
      obtain ⟨shown', left, states', holds', booked, -⟩ := ih others_named.symm moved holds
      refine ⟨shown', left ++ [x.tag], by simpa using states', holds', ?_, ?_⟩
      · have count : n + 1 + left.length = n + (left ++ [x.tag]).length := by simp; omega
        rw [← count]
        exact (Booked.of_refused refusal).trans booked
      · simp only [forEach, same_action, ended]
        cases forEach destroyCircle rest s' <;> exact refused.allowed

/-- After an action there are as many strays as the books say, from some number before it. -/
def Accounts (n : Nat) (scene scene' : Scene α (Refusing α)) : Prop :=
  ∃ lost stale drawn, scene'.Littered lost stale drawn ∧
    Booked n (lost.length + stale.length) scene.surface scene'.surface

theorem updateStates_accounts (machine : Machine) (littered : scene.Littered lost stale drawn) :
    Ends (updateStates machine scene)
      (fun _ scene' => scene'.nodes.ids = machine.shown scene.nodes.ids ∧
        Accounts (lost.length + stale.length) scene scene')
      (fun scene' => Accounts (lost.length + stale.length) scene scene' ∧ scene.MayFail) := by
  obtain ⟨k, spare, strewn⟩ := littered
  have quiet : Respects (onNodes (NodeMap.reconcile createCircle machine.states))
      fun scene scene' : Scene α (Refusing α) => SameRemovals scene.surface scene'.surface :=
    onNodes_respects (NodeMap.reconcile_respects SameRemovals.lasting
      (createCircle_respects Unreliable.lastingOnSurface_sameRemovals) machine.states)
  unfold updateStates
  refine ((reconcile_strews machine strewn).and (quiet scene)).andThen ?_ ?_
  · intro outcome scene₁ good
    obtain ⟨⟨doomed, handles, ids, k₁, spare₁, strewn₁⟩, same⟩ := good
    have states : k₁.states.map ShownState.tag ~ doomed ++ (lost ++ scene₁.nodes.tags) := by
      simpa using strewn₁.states
    obtain ⟨shown, left, states', holds, booked, ends⟩ := destroyCircles_strew
      (n := lost.length + stale.length) handles states strewn₁.holds
    have count :
        lost.length + stale.length + left.length = (left ++ lost).length + stale.length := by
      simp only [List.length_append]; omega
    rw [count] at booked
    let settled := fun scene' : Scene α (Refusing α) =>
      scene'.nodes.ids = machine.shown scene.nodes.ids ∧
        Accounts (lost.length + stale.length) scene scene'
    have removed :
        settled (stateOf (onSurface (forEach destroyCircle outcome.destroyed) scene₁)) := by
      rw [stateOf_onSurface]
      refine ⟨ids, left ++ lost, stale, drawn, ?_, (Booked.of_same same).trans booked⟩
      exact ⟨{ k₁ with states := shown }, spare₁, strewn₁.layer, by simpa using states',
        strewn₁.lines, strewn₁.arrows, holds⟩
    have cause : Ends (onSurface (forEach destroyCircle outcome.destroyed) scene₁)
        (fun _ _ => True) (fun _ => scene.MayFail) :=
      onSurface_ends (ends.imp (fun _ _ _ => trivial)
        fun _ refused => mayFail_of_refuses same.refuses ⟨_, refused⟩)
    exact ((Ends.of_state removed).and cause).andThen (fun _ _ h => h.1) (fun _ h => ⟨h.1.2, h.2⟩)
  · intro scene' bad
    obtain ⟨⟨littered', fails⟩, same⟩ := bad
    exact ⟨⟨lost, stale, drawn, littered', .of_same same⟩, fails⟩

/-! ## §4 Arrows -/

/-- All arrows are removed, or those that are left are stale from now on. -/
theorem removeArrows_accounts (littered : scene.Littered lost stale drawn) :
    Ends (removeArrows scene)
      (fun _ scene' => scene'.nodes = scene.nodes ∧ scene'.Littered lost stale [] ∧
        Booked (lost.length + stale.length) (lost.length + stale.length) scene.surface
          scene'.surface)
      (fun scene' => Accounts (lost.length + stale.length) scene scene' ∧ scene.MayFail) := by
  obtain ⟨k, spare, strewn⟩ := littered
  unfold removeArrows
  refine Ends.bind (Ends.get (Ends.bind (Ends.set ?_)))
  generalize books : lost.length + stale.length = n
  -- the arrows that remain to be removed are behind the stale ones
  let inv := fun (items : List Arrow) (scene' : Scene α (Refusing α)) =>
    ∃ rest : List (ShownArrow α), items = rest.map (·.arrow) ∧ scene'.arrowLayer = k.layer ∧
      scene'.nodes = scene.nodes ∧ scene'.arrows = [] ∧
      (grid scene'.surface).nodes.Holds { k with arrows := stale ++ rest }.cells spare ∧
      Booked n n scene.surface scene'.surface
  have round : ∀ arrow rest scene', inv (arrow :: rest) scene' →
      Ends (onSurface (DrawingSurface.removeChild scene.arrowLayer arrow.handle) scene')
        (fun _ scene'' => inv rest scene'')
        (fun scene'' => Accounts n scene scene'' ∧ scene.MayFail) := by
    intro arrow items scene' kept
    obtain ⟨lines, listed, layer, nodes, none_left, holds, booked⟩ := kept
    obtain ⟨x, rest, rfl, rfl, rfl⟩ := List.map_eq_cons_iff.mp listed.symm
    have tried : Ends (DrawingSurface.removeChild k.layer x.arrow.handle scene'.surface)
        (fun _ s => Tried false scene'.surface s) (fun s => Tried true scene'.surface s) :=
      Unreliable.removeChild_tried (holds.get _ (List.mem_cons_of_mem _ List.mem_cons_self))
        (by simp [Sketch.layerNode])
    rw [strewn.layer]
    refine onSurface_ends (((removeArrow_ends holds).and tried).imp ?_ ?_)
    · intro _ s good
      obtain ⟨⟨-, holds'⟩, passed⟩ := good
      exact ⟨rest, rfl, layer, nodes, none_left, holds', booked.trans (.of_passed passed)⟩
    · intro s bad
      obtain ⟨refused, refusal⟩ := bad
      rw [← refused.nodes] at holds
      refine ⟨⟨lost, stale ++ x :: rest, [], ?_, booked.trans ?_⟩,
        mayFail_of_refuses booked.refuses ⟨_, refused.allowed⟩⟩
      · exact ⟨{ k with arrows := stale ++ x :: rest }, spare, layer, nodes ▸ strewn.states,
          by simp, none_left, holds⟩
      · rw [List.length_append, List.length_cons, ← Nat.add_assoc, ← Nat.add_assoc]
        exact .of_refused refusal
  have start : inv scene.arrows { scene with arrows := [] } :=
    ⟨drawn, strewn.arrows, strewn.layer, rfl, rfl, strewn.lines ▸ strewn.holds, .refl _⟩
  refine (Ends.forM round _ _ start).imp ?_ (fun _ failed => failed)
  intro _ scene' good
  obtain ⟨rest, listed, layer, nodes, none_left, holds, booked⟩ := good
  rw [List.map_eq_nil_iff.mp listed.symm] at holds
  exact ⟨nodes, ⟨{ k with arrows := stale ++ [] }, spare, layer, nodes ▸ strewn.states, rfl,
    none_left, holds⟩, booked⟩

/-- The arrows of all transitions are drawn, behind the stale ones. -/
theorem rebuildArrows_accounts (machine : Machine) (littered : scene.Littered lost stale drawn) :
    Ends (rebuildArrows machine scene)
      (fun _ scene' => scene'.nodes = scene.nodes ∧ (∃ drawn' : List (ShownArrow α),
        drawn'.map (some ·.drawing) = machine.drawings scene.nodes.places ∧
        scene'.Littered lost stale drawn') ∧
        Booked (lost.length + stale.length) (lost.length + stale.length) scene.surface
          scene'.surface)
      (fun scene' => Accounts (lost.length + stale.length) scene scene' ∧
        scene.DrawingFails machine) := by
  unfold rebuildArrows
  refine (removeArrows_accounts littered).andThen ?_ (fun _ failed => failed.imp_right .inl)
  intro _ scene₁ good
  obtain ⟨nodes₁, ⟨k, spare, strewn⟩, booked⟩ := good
  have quiet := addArrows_respects (α := α) (Unreliable.lastingOnSurface_sameRemovals)
    machine.transitions.zipIdx scene₁
  have littered_of : ∀ {scene' : Scene α (Refusing α)} {drawn' spare'}, scene₁.SameStates scene' →
      scene'.arrows = scene₁.arrows ++ drawn'.map (·.arrow) →
      (grid scene'.surface).nodes.Holds { k with arrows := k.arrows ++ drawn' }.cells spare' →
      scene'.Littered lost stale drawn' := by
    intro scene' drawn' spare' same arrows holds
    exact ⟨{ k with arrows := k.arrows ++ drawn' }, spare', same.layer.trans strewn.layer,
      same.nodes ▸ strewn.states, by simp [strewn.lines], by simp [arrows, strewn.arrows], holds⟩
  refine ((addArrows_draw machine strewn.layer strewn.holds).and quiet).andThen ?_ ?_
  · intro _ scene₂ good
    obtain ⟨⟨drawn', drawings, same, arrows, holds⟩, same_removals⟩ := good
    refine Ends.bind (Ends.get ⟨same.nodes.trans nodes₁, ⟨drawn', nodes₁ ▸ drawings, ?_⟩, ?_⟩)
    · exact littered_of same arrows holds
    · exact booked.trans (.of_same same_removals.surface)
  · intro scene₂ bad
    obtain ⟨⟨drawn', spare', same, arrows, holds, cause⟩, same_removals⟩ := bad
    refine ⟨⟨lost, stale, drawn', littered_of same arrows holds,
      booked.trans (.of_same same_removals.surface)⟩, ?_⟩
    rcases cause with fails | dangles
    · exact .inl (mayFail_of_refuses booked.refuses fails)
    · exact .inr (nodes₁ ▸ dangles)

/-! ## §5 Calls -/

theorem Accounts.trans {scene'' : Scene α (Refusing α)} {n n' : Nat}
    (later : Accounts n' scene' scene'') (booked : Booked n n' scene.surface scene'.surface) :
    Accounts n scene scene'' := by
  obtain ⟨lost, stale, drawn, littered, booked'⟩ := later
  exact ⟨lost, stale, drawn, littered, booked.trans booked'⟩

theorem arrange_accounts (littered : scene.Littered lost stale drawn) :
    Ends (arrange scene)
      (fun _ scene' => scene'.nodes.ids = scene.nodes.ids ∧ scene'.Littered lost stale drawn ∧
        SameRemovals scene.surface scene'.surface)
      (fun scene' => Accounts (lost.length + stale.length) scene scene' ∧ scene.MayFail) := by
  have quiet := arrange_respects (α := α) Unreliable.lastingOnSurface_sameRemovals scene
  refine ((arrange_strews littered).and quiet).imp ?_ ?_
  · intro _ scene' good
    refine ⟨?_, good.1, good.2.surface⟩
    rw [← NodeMap.map_fst_tags, good.2.tags, NodeMap.map_fst_tags]
  · intro scene' bad
    obtain ⟨⟨littered', fails⟩, same⟩ := bad
    exact ⟨⟨lost, stale, drawn, littered', .of_same same.surface⟩, fails⟩

/-- A pass that goes through shows the states and the transitions of the machine, beside strays. It
goes through unless a call may be refused, or a transition has an end that is no state. -/
theorem render_accounts (machine : Machine) (littered : scene.Littered lost stale drawn) :
    Ends (render machine scene)
      (fun _ scene' => scene'.nodes.ids = machine.shown scene.nodes.ids ∧
        ∃ (lost' : List (String × Handle × α)) (stale' drawn' : List (ShownArrow α)),
          drawn'.map (some ·.drawing) = machine.drawings scene'.nodes.places ∧
          scene'.Littered lost' stale' drawn' ∧
          Booked (lost.length + stale.length) (lost'.length + stale'.length) scene.surface
            scene'.surface)
      (fun scene' => Accounts (lost.length + stale.length) scene scene' ∧
        (scene.MayFail ∨ machine.Dangles machine.states)) := by
  have calls := Unreliable.lastingOnSurface_sameRemovals (α := α) (σ := GridSurface α)
  unfold render
  refine (updateStates_accounts machine littered).andThen ?_ (fun _ failed => failed.imp_right .inl)
  intro counts scene₁ good
  obtain ⟨created, destroyed⟩ := counts
  obtain ⟨ids₁, lost, stale, drawn, littered₁, booked₁⟩ := good
  refine ((clear_strews littered₁).and (clear_respects calls scene₁)).andThen ?_
    (fun _ never => never.1.elim)
  intro _ scene₂ good
  obtain ⟨littered₂, same₂⟩ := good
  have booked₂ := booked₁.trans (.of_same same₂.surface)
  have ids₂ : scene₂.nodes.ids = machine.shown scene.nodes.ids := by
    rw [← ids₁, ← NodeMap.map_fst_tags, same₂.tags, NodeMap.map_fst_tags]
  refine (arrange_accounts littered₂).andThen ?_ (fun _ failed =>
    ⟨failed.1.trans booked₂, .inl (mayFail_of_refuses booked₂.refuses failed.2)⟩)
  intro radius scene₃ good
  obtain ⟨ids₃, littered₃, same₃⟩ := good
  have booked₃ := booked₂.trans (.of_same same₃)
  refine (rebuildArrows_accounts machine littered₃).andThen ?_ ?_
  · intro arrows scene₄ good
    obtain ⟨nodes₄, ⟨drawn', drawings, littered₄⟩, booked₄⟩ := good
    replace booked₄ := booked₃.trans booked₄
    have quiet := onSurface_respects (α := α) Unreliable.update_sameRemovals scene₄
    refine ((update_strews littered₄).and quiet).andThen ?_ ?_
    · intro _ scene₅ good
      obtain ⟨⟨nodes₅, littered₅⟩, same₅⟩ := good
      have nodes : scene₅.nodes = scene₃.nodes := nodes₅.trans nodes₄
      refine ⟨by rw [nodes, ids₃, ids₂], lost, stale, drawn', ?_, littered₅, ?_⟩
      · rw [nodes, drawings]
      · exact booked₄.trans (.of_same same₅.surface)
    · intro scene₅ bad
      obtain ⟨⟨littered₅, fails⟩, same₅⟩ := bad
      exact ⟨⟨lost, stale, drawn', littered₅, booked₄.trans (.of_same same₅.surface)⟩,
        .inl (mayFail_of_refuses booked₄.refuses fails)⟩
  · intro scene₄ bad
    obtain ⟨accounts, fails | ⟨t, listed, id, mem, absent⟩⟩ := bad
    · exact ⟨accounts.trans booked₃, .inl (mayFail_of_refuses booked₃.refuses fails)⟩
    · rw [ids₃, ids₂, Machine.mem_shown] at absent
      exact ⟨accounts.trans booked₃, .inr ⟨t, listed, id, mem, absent⟩⟩

/-- Strays keep no pass from going through. -/
theorem Littered.exists_rendered {machine : Machine} (wf : machine.WellFormed)
    (never : ¬ scene.MayFail) (littered : scene.Littered lost stale drawn) :
    ∃ stats scene', render machine scene = .ok stats scene' := by
  have no_fault : ¬ (scene.MayFail ∨ machine.Dangles machine.states) := by
    rintro (fails | ⟨t, listed, id, mem, absent⟩)
    · exact never fails
    · exact absent (wf.ends listed mem)
  have ends : Ends (render machine scene) (fun _ _ => True) (fun _ => False) :=
    (render_accounts machine littered).imp (fun _ _ _ => trivial) (fun _ bad => no_fault bad.2)
  obtain ⟨stats, scene', ended, -⟩ := ends.exists_ok
  exact ⟨stats, scene', ended⟩

/-- Nothing is left behind on a bare surface. -/
theorem littered_of_new {surface : Refusing α} {layout : Layout α}
    (bare : surface.inner.children? GridSurface.root = some [])
    (made : Scene.new surface layout = .ok scene) : scene.Littered [] [] [] := by
  obtain ⟨base, there, no_children⟩ := Option.map_eq_some_iff.mp bare
  obtain ⟨spare, holds⟩ : ∃ spare, (grid surface).nodes.Holds [(GridSurface.root, base)] spare :=
    NodeStore.Holds.singleton there
  obtain ⟨-, -, layer, fits⟩ := isNew_of_new no_children holds made
  exact ⟨_, spare, fits.layer, by simp [NodeMap.tags, fits.lists.entries], rfl, fits.arrows,
    fits.holds⟩

theorem after_accounts (littered : scene.Littered lost stale drawn) (call : Call) :
    Accounts (lost.length + stale.length) scene (scene.after call) := by
  cases call with
  | render machine =>
    refine (render_accounts machine littered).state ?_ (fun _ failed => failed.1)
    exact fun _ scene' good => good.2.imp fun _ h => h.imp fun _ h => h.imp fun _ h => h.2
  | updateStates machine =>
    exact (updateStates_accounts machine littered).state (fun _ _ good => good.2)
      (fun _ failed => failed.1)
  | arrange =>
    refine (arrange_accounts littered).state ?_ (fun _ failed => failed.1)
    exact fun _ scene' good => ⟨lost, stale, drawn, good.2.1, .of_same good.2.2⟩
  | rebuildArrows machine =>
    refine (rebuildArrows_accounts machine littered).state ?_ (fun _ failed => failed.1)
    intro _ scene' good
    obtain ⟨-, ⟨drawn', -, littered'⟩, booked⟩ := good
    exact ⟨lost, stale, drawn', littered', booked⟩

/-- The strays of a run are those of its calls. -/
theorem run_accounts (littered : scene.Littered lost stale drawn) (calls : List Call) :
    Accounts (lost.length + stale.length) scene (scene.run calls) := by
  induction calls generalizing scene lost stale drawn with
  | nil => exact ⟨lost, stale, drawn, littered, .refl _⟩
  | cons call rest ih =>
    obtain ⟨lost', stale', drawn', littered', booked⟩ := after_accounts littered call
    exact (ih littered').trans booked

end Scene

end TransitionDiagram
