/-
TransitionDiagram.Proofs.States: matching the circles of a scene with the states of a machine.

Matching makes a circle for each missing state, in the order of the machine, and only then removes
the circles of vanished states. So a refused call leaves all old circles and some new ones, and a
matching that goes through leaves those of the states of the machine, old ones before new ones.
Removing must not be refused: a node that left the map is gone from it in any case.
-/
import TransitionDiagram.Proofs.SceneFit

namespace TransitionDiagram

open OnGrid

variable {α σ : Type}

theorem NodeMap.createNode_ends {ε : Type} {m : NodeMap α} {s : σ}
    {create : String → EStateM ε σ (StateNode α)} {id : String}
    {good : Unit → NodeMap α × σ → Prop} {bad : NodeMap α × σ → Prop}
    (h : Ends (create id s) (fun node s' => good () (m.insert id node, s'))
      (fun s' => bad (m, s'))) :
    Ends (createNode create id (m, s)) good bad := by
  cases made : create id s with
  | ok node s' => rw [made] at h; simp only [createNode, made]; exact h
  | error e s' => rw [made] at h; simp only [createNode, made]; exact h

variable [Scalar α]

/-- A map has gained the nodes of some states of a sketch, behind the others. -/
structure NodeMap.Gains (m m' : NodeMap α) (new : List (ShownState α)) : Prop where
  entries : m'.entries = m.entries ++ new.map ShownState.entry
  widths : ∀ x ∈ new, x.node.minSize = Cell.labelWidth x.node.id

theorem NodeMap.Gains.cons {m m' : NodeMap α} {x : ShownState α} {new : List (ShownState α)}
    (absent : ¬ m.contains x.node.id = true) (width : x.node.minSize = Cell.labelWidth x.node.id)
    (rest : (m.insert x.node.id x.node).Gains m' new) : m.Gains m' (x :: new) where
  entries := by
    rw [rest.entries, entries_insert absent, List.append_assoc]; rfl
  widths := List.forall_mem_cons.mpr ⟨width, rest.widths⟩

theorem Sketch.Lists.gains {k : Sketch α} {m m' : NodeMap α} {new : List (ShownState α)}
    (lists : k.Lists m) (gains : m.Gains m' new) :
    { k with states := k.states ++ new }.Lists m' where
  entries := by rw [gains.entries, lists.entries, List.map_append]
  widths := by
    intro x mem
    rcases List.mem_append.mp mem with old | made
    · exact lists.widths x old
    · exact gains.widths x made

variable [DrawingSurface α σ] [OnGrid α σ] {k : Sketch α} {m : NodeMap α} {s : σ} {spare : Nat}

namespace NodeMap

/-- A circle for each missing state is made and listed, or some of them are. The surface may have
circles that the map does not list. -/
theorem createMissing_gains (states : List String) (m : NodeMap α)
    (holds : (grid s).nodes.Holds k.cells spare) :
    Ends (createMissing Scene.createCircle states (m, s))
      (fun count after => ∃ new : List (ShownState α), count = new.length ∧
        new.map (·.node.id) = missing m.ids states ∧ OnlyNodes s after.2 ∧ m.Gains after.1 new ∧
        (grid after.2).nodes.Holds { k with states := k.states ++ new }.cells spare)
      (fun after => ∃ new : List (ShownState α), m.Gains after.1 new ∧
        Spoilt { k with states := k.states ++ new } s after.2) := by
  have none : m.Gains m [] := ⟨by simp, by simp⟩
  induction states generalizing k m s with
  | nil =>
    refine ⟨[], rfl, rfl, .refl s, none, ?_⟩
    simpa only [List.append_nil] using holds
  | cons id rest ih =>
    refine (Ends.get ?_).bind
    by_cases there : m.contains id = true
    · rw [if_pos there, missing, if_pos (contains_iff.mp there)]
      exact ih m holds none
    · have absent : id ∉ m.ids := fun mem => there (contains_iff.mpr mem)
      rw [if_neg there, missing, if_neg absent]
      refine (createNode_ends ((createCircle_ends id holds).imp ?_ ?_)).bind
      · -- the circle is made, and the rest of the states follows
        intro node s' good
        obtain ⟨only, x, rfl, -, unplaced, holds'⟩ := good
        have named : x.node.id = id := by rw [unplaced]; rfl
        have width : x.node.minSize = Cell.labelWidth x.node.id := by rw [unplaced]; rfl
        subst named
        have grown : (m.insert x.node.id x.node).ids = m.ids ++ [x.node.id] :=
          ids_insert there
        refine (ih (m.insert x.node.id x.node) holds' ⟨by simp, by simp⟩).andThen ?_ ?_
        · intro count after good
          obtain ⟨new, rfl, ids, only', gains, holds''⟩ := good
          rw [List.append_assoc, List.singleton_append] at holds''
          refine ⟨x :: new, rfl, ?_, only.trans only', gains.cons there width, holds''⟩
          rw [List.map_cons, ids, grown]
        · intro after bad
          obtain ⟨new, gains, spoilt⟩ := bad
          rw [List.append_assoc, List.singleton_append] at spoilt
          obtain ⟨call, refused⟩ := spoilt.refusal
          exact ⟨x :: new, gains.cons there width, only.trans spoilt.only, spoilt.holds, call,
            only.mayRefuse ▸ refused⟩
      · -- the circle is not made, and no other one is tried
        intro s' spoilt
        refine ⟨[], none, ?_⟩
        simpa only [List.append_nil] using spoilt

theorem createMissing_ends (states : List String) (lists : k.Lists m)
    (holds : (grid s).nodes.Holds k.cells spare) :
    Ends (createMissing Scene.createCircle states (m, s))
      (fun count after => ∃ new : List (ShownState α), count = new.length ∧
        new.map (·.node.id) = missing m.ids states ∧ OnlyNodes s after.2 ∧
        { k with states := k.states ++ new }.Lists after.1 ∧
        (grid after.2).nodes.Holds { k with states := k.states ++ new }.cells spare)
      (fun after => ∃ new : List (ShownState α),
        { k with states := k.states ++ new }.Lists after.1 ∧
        Spoilt { k with states := k.states ++ new } s after.2) := by
  refine (createMissing_gains states m holds).imp ?_ ?_
  · intro count after good
    obtain ⟨new, counted, ids, only, gains, holds'⟩ := good
    exact ⟨new, counted, ids, only, lists.gains gains, holds'⟩
  · intro after bad
    obtain ⟨new, gains, spoilt⟩ := bad
    exact ⟨new, lists.gains gains, spoilt⟩

/-- The map keeps the nodes of the given states, and the surface still has all circles. -/
theorem reconcile_ends (states : List String) (lists : k.Lists m)
    (holds : (grid s).nodes.Holds k.cells spare) :
    Ends (reconcile Scene.createCircle states (m, s))
      (fun outcome after => ∃ new : List (ShownState α),
        new.map (·.node.id) = missing m.ids states ∧ OnlyNodes s after.2 ∧
        outcome = { created := new.length,
                    destroyed := ((k.states ++ new).filter
                      (!states.contains ·.node.id)).map (·.node) } ∧
        { k with states := (k.states ++ new).filter (states.contains ·.node.id) }.Lists after.1 ∧
        (grid after.2).nodes.Holds { k with states := k.states ++ new }.cells spare)
      (fun after => ∃ new : List (ShownState α),
        { k with states := k.states ++ new }.Lists after.1 ∧
        Spoilt { k with states := k.states ++ new } s after.2) := by
  unfold reconcile
  refine (createMissing_ends states lists holds).andThen ?_ (fun _ spoilt => spoilt)
  intro count after good
  obtain ⟨m', s'⟩ := after
  obtain ⟨new, rfl, ids, only, lists', holds'⟩ := good
  refine ⟨new, ids, only, ?_, lists'.filter states.contains, holds'⟩
  have vanished := (lists'.filter fun id => !states.contains id).nodes
  simp only [vanished]

end NodeMap

namespace Scene

variable {scene : Scene α σ}

/-- Matching leaves the circles of the states of the machine, old ones before new ones. If it
fails, all old circles are there, and some new ones behind them. -/
theorem updateStates_ends (machine : Machine) (certain : ¬ mayRefuse scene.surface .removeChild)
    (fits : scene.Fits k spare) :
    Ends (updateStates machine scene)
      (fun counts scene' => ∃ new : List (ShownState α),
        new.map (·.node.id) = NodeMap.missing scene.nodes.ids machine.states ∧
        counts = (new.length,
          ((k.states ++ new).filter (!machine.states.contains ·.node.id)).length) ∧
        scene.Keeps scene' ∧
        scene'.Fits
          { k with states := (k.states ++ new).filter (machine.states.contains ·.node.id) } spare)
      (fun scene' => Broken k scene.MayFail scene scene' ∧ scene'.arrows = scene.arrows ∧
        ∃ new, scene'.nodes.ids = scene.nodes.ids ++ new ∧ ∀ id ∈ new, id ∉ scene.nodes.ids) := by
  unfold updateStates
  refine Ends.bind (onNodes_ends ?_)
  refine (NodeMap.reconcile_ends machine.states fits.lists fits.holds).imp ?_ ?_
  · intro outcome after good
    obtain ⟨m', s'⟩ := after
    obtain ⟨new, ids, only, rfl, lists, holds⟩ := good
    rw [← only.mayRefuse] at certain
    refine Ends.bind (onSurface_ends ?_)
    refine (destroyCircles_ends (machine.states.contains ·.node.id) certain [] (k.states ++ new)
      holds).imp ?_ (fun _ => False.elim)
    intro _ s'' good
    obtain ⟨only', holds'⟩ := good
    refine ⟨new, ids, ?_, .of_onlyNodes rfl (only.trans only'), ?_⟩
    · rw [List.length_map]
    · exact ⟨fits.layer, lists, fits.arrows, holds'⟩
  · intro after bad
    obtain ⟨m', s'⟩ := after
    obtain ⟨new, lists, spoilt⟩ := bad
    obtain ⟨spare', holds⟩ := spoilt.holds
    have ids : m'.ids = scene.nodes.ids ++ new.map (·.node.id) := by
      rw [lists.ids, fits.lists.ids, List.map_append]
    have disjoint := m'.nodup
    rw [← NodeMap.ids, ids] at disjoint
    have fits' : Fits { scene with nodes := m', surface := s' }
        { k with states := k.states ++ new } spare' :=
      ⟨fits.layer, lists, fits.arrows, holds⟩
    refine ⟨.of_onlyNodes rfl spoilt.only fits' rfl spoilt.refusal, rfl, _, ids, ?_⟩
    exact fun id mem old => (List.nodup_append.mp disjoint).2.2 id old id mem rfl

end Scene

end TransitionDiagram
