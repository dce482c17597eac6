/-
TransitionDiagram.Proofs.Places: putting the circles of a scene in their places.

The places depend on the constants of the layout, the right edge, and the names of the states in
their order, and on nothing else: the radius comes from the widths of the names, and a state gets
the place of its number. `seats` computes them from the names alone. Nodes get their places in the
map first, then their groups are moved there one by one, so a refused call leaves some groups in
their old places, and the map says where all of them should be.

  §1 places of names
  §2 places of nodes
  §3 moving the groups
-/
import TransitionDiagram.Proofs.SceneFit

namespace TransitionDiagram

open OnGrid

variable {α σ : Type} [Scalar α]

/-! ## §1 Places of names -/

namespace Rows

/-- The names with their places, from the given place on. -/
def seats (rows : Rows α) (place : Point α) : List String → List (String × Point α)
  | [] => []
  | id :: rest => (id, place) :: seats rows (rows.after place) rest

/-- The nodes of a sketch put at the given place and those after it; their groups stay. -/
def seat (rows : Rows α) (place : Point α) : List (ShownState α) → List (ShownState α)
  | [] => []
  | x :: rest =>
    { x with node := { x.node with position := place } } :: seat rows (rows.after place) rest

variable {rows : Rows α} {place : Point α} {states : List (ShownState α)}

theorem map_entry_seat :
    (rows.seat place states).map ShownState.entry =
      rows.put place (states.map ShownState.entry) := by
  induction states generalizing place with
  | nil => rfl
  | cons x rest ih => simp [seat, put, ih, ShownState.entry]

/-- What a sketch tells of a state apart from its place in the map is not changed. -/
theorem map_seat {γ : Type} {f : ShownState α → γ}
    (blind : ∀ x p, f { x with node := { x.node with position := p } } = f x) :
    (rows.seat place states).map f = states.map f := by
  induction states generalizing place with
  | nil => rfl
  | cons x rest ih => rw [seat, List.map_cons, List.map_cons, blind, ih]

theorem map_position_seat :
    (rows.seat place states).map (fun x => (x.node.id, x.node.position)) =
      rows.seats place (states.map (·.node.id)) := by
  induction states generalizing place with
  | nil => rfl
  | cons x rest ih => simp [seat, seats, ih]

theorem map_fst_seats (ids : List String) : (rows.seats place ids).map Prod.fst = ids := by
  induction ids generalizing place with
  | nil => rfl
  | cons id rest ih => rw [seats, List.map_cons, ih]

end Rows

/-- The radius of circles around some names. -/
def Layout.radiusOf? (layout : Layout α) (ids : List String) : Option α :=
  layout.radius? (ids.map Cell.labelWidth)

/-- The names with their places, if circles are put up to the given edge. -/
def Layout.seats (layout : Layout α) (edge : α) (ids : List String) : List (String × Point α) :=
  match layout.radiusOf? ids with
  | none => []
  | some radius =>
    (Rows.ofRadius layout edge radius).seats (Rows.ofRadius layout edge radius).first ids

theorem Layout.radiusOf?_eq_none_iff {layout : Layout α} {ids : List String} :
    layout.radiusOf? ids = none ↔ ids = [] := by
  cases ids <;> simp [radiusOf?, radius?]

theorem Layout.map_fst_seats (layout : Layout α) (edge : α) (ids : List String) :
    (layout.seats edge ids).map Prod.fst = ids := by
  unfold seats
  cases h : layout.radiusOf? ids with
  | none => exact (radiusOf?_eq_none_iff.mp h).symm
  | some radius => exact Rows.map_fst_seats ids

/-! ## §2 Places of nodes -/

/-- A state with its group at the place that the map says. -/
def ShownState.settle (x : ShownState α) : ShownState α :=
  { x with place := x.node.position }

namespace Sketch

variable {k : Sketch α} {m : NodeMap α}

/-- The states of a sketch with all circles in their places. -/
def arranged (k : Sketch α) (layout : Layout α) (edge : α) : List (ShownState α) :=
  match layout.radiusOf? (k.states.map (·.node.id)) with
  | none => []
  | some radius =>
    ((Rows.ofRadius layout edge radius).seat (Rows.ofRadius layout edge radius).first
      k.states).map ShownState.settle

/-- What a sketch tells of a state apart from places is not changed. -/
theorem map_arranged {γ : Type} {f : ShownState α → γ} (layout : Layout α) (edge : α)
    (blind : ∀ x p, f { x with node := { x.node with position := p }, place := p } = f x) :
    (k.arranged layout edge).map f = k.states.map f := by
  unfold arranged
  cases h : layout.radiusOf? (k.states.map (·.node.id)) with
  | none =>
    rw [Layout.radiusOf?_eq_none_iff, List.map_eq_nil_iff] at h
    rw [h]
  | some radius =>
    have settled : ∀ x, f x.settle = f x := fun x => blind x x.node.position
    rw [List.map_map, Rows.map_seat fun x p => ?_]
    · exact List.map_congr_left fun x _ => settled x
    · exact (blind x p).trans (settled x).symm

theorem map_position_arranged (layout : Layout α) (edge : α) :
    (k.arranged layout edge).map (fun x => (x.node.id, x.node.position)) =
      layout.seats edge (k.states.map (·.node.id)) := by
  unfold arranged Layout.seats
  cases h : layout.radiusOf? (k.states.map (·.node.id)) with
  | none => rfl
  | some radius =>
    rw [List.map_map]
    exact Rows.map_position_seat

theorem place_arranged {layout : Layout α} {edge : α} :
    ∀ x ∈ k.arranged layout edge, x.place = x.node.position := by
  unfold arranged
  cases layout.radiusOf? (k.states.map (·.node.id)) with
  | none => simp
  | some radius =>
    intro x mem
    obtain ⟨y, -, rfl⟩ := List.mem_map.mp mem
    rfl

theorem Lists.radius? (lists : k.Lists m) (layout : Layout α) :
    m.radius? layout = layout.radiusOf? (k.states.map (·.node.id)) := by
  rw [NodeMap.radius?, lists.nodes, Layout.radiusOf?, List.map_map, List.map_map]
  congr 1
  exact List.map_congr_left fun x mem => lists.widths x mem

theorem Lists.put (lists : k.Lists m) (rows : Rows α) :
    { k with states := rows.seat rows.first k.states }.Lists (m.put rows) where
  entries := by
    change rows.put rows.first m.entries = _
    rw [lists.entries, Rows.map_entry_seat]
  widths := by
    have same : (rows.seat rows.first k.states).map (fun x => (x.node.minSize, x.node.id)) =
        k.states.map fun x => (x.node.minSize, x.node.id) := Rows.map_seat fun _ _ => rfl
    intro x mem
    have there : (x.node.minSize, x.node.id) ∈ k.states.map fun x => (x.node.minSize, x.node.id) :=
      same ▸ List.mem_map.mpr ⟨x, mem, rfl⟩
    obtain ⟨y, listed, eq⟩ := List.mem_map.mp there
    have width := lists.widths y listed
    rw [Prod.mk.injEq] at eq
    rw [← eq.1, ← eq.2]; exact width

end Sketch

/-! ## §3 Moving the groups -/

namespace Scene

variable [DrawingSurface α σ] [OnGrid α σ] {scene : Scene α σ} {k : Sketch α} {spare : Nat}

theorem moveGroup_ends {before after : List (ShownState α)} {x : ShownState α}
    (fits : scene.Fits { k with states := before ++ x :: after } spare) :
    Ends (onSurface (DrawingSurface.setPosition x.node.handle x.node.position) scene)
      (fun _ scene' => OnlyNodes scene.surface scene'.surface ∧
        scene' = { scene with surface := scene'.surface } ∧
        scene'.Fits { k with states := before ++ x.settle :: after } spare)
      (Broken k scene.MayFail scene) := by
  have order := Sketch.cells_perm_group k before after x
  refine onSurface_ends ((setPosition_ends x.node.position (fits.holds.perm order)).imp ?_ ?_)
  · intro _ s good
    obtain ⟨only, holds⟩ := good
    have entries := fits.lists.entries
    have widths := fits.lists.widths
    refine ⟨only, rfl, fits.layer, ⟨?_, ?_⟩, fits.arrows, Sketch.holds_moveState holds⟩
    · simpa [ShownState.entry, ShownState.settle] using entries
    · simpa [ShownState.settle, or_imp, forall_and] using widths
  · intro s refused
    have fits' : Fits { scene with surface := s } { k with states := before ++ x :: after }
        spare := by
      refine ⟨fits.layer, fits.lists, fits.arrows, ?_⟩
      rw [refused.nodes]; exact fits.holds
    exact .of_onlyNodes rfl refused.only fits' rfl ⟨_, refused.allowed⟩

/-- The groups are moved one by one to where the map says. -/
theorem moveGroups_ends {states : List (ShownState α)}
    (fits : scene.Fits { k with states } spare) :
    Ends ((states.map (·.node)).forM (fun node =>
        onSurface (DrawingSurface.setPosition node.handle node.position)) scene)
      (fun _ scene' => OnlyNodes scene.surface scene'.surface ∧
        scene' = { scene with surface := scene'.surface } ∧
        scene'.Fits { k with states := states.map ShownState.settle } spare)
      (Broken k scene.MayFail scene) := by
  -- the groups before the next one are where they should be, the others where they were
  let inv := fun (items : List (StateNode α)) (scene' : Scene α σ) =>
    ∃ before after, items = after.map (·.node) ∧ states = before ++ after ∧
      OnlyNodes scene.surface scene'.surface ∧ scene' = { scene with surface := scene'.surface } ∧
      scene'.Fits { k with states := before.map ShownState.settle ++ after } spare
  have round : ∀ node rest scene', inv (node :: rest) scene' →
      Ends (onSurface (DrawingSurface.setPosition node.handle node.position) scene')
        (fun _ scene'' => inv rest scene'') (Broken k scene.MayFail scene) := by
    intro node rest scene' kept
    obtain ⟨before, after, items, rfl, only, same, fits'⟩ := kept
    obtain ⟨x, after, rfl, rfl, rfl⟩ := List.map_eq_cons_iff.mp items.symm
    refine (moveGroup_ends fits').imp ?_ ?_
    · intro _ scene'' good
      obtain ⟨only', same', fits''⟩ := good
      refine ⟨before ++ [x], after, rfl, by simp, only.trans only', ?_, by simpa using fits''⟩
      rw [same', same]
    · intro scene'' broken
      have keeps : scene.Keeps scene' := .of_onlyNodes (by rw [same]) only
      exact broken.of_keeps rfl keeps (by rw [only.grid]) keeps.mayFail
  refine (Ends.forM round _ scene ⟨[], states, rfl, rfl, .refl _, rfl, fits⟩).imp ?_
    (fun _ broken => broken)
  intro _ scene' good
  obtain ⟨before, after, items, rfl, only, same, fits'⟩ := good
  rw [List.map_eq_nil_iff.mp items.symm] at fits' ⊢
  exact ⟨only, same, by simpa using fits'⟩

/-- The right edge of the surface of a scene. -/
def edge (scene : Scene α σ) : α :=
  (grid scene.surface).config.size.width

theorem Keeps.edge {scene scene' : Scene α σ} (keeps : scene.Keeps scene') :
    scene'.edge = scene.edge := by
  unfold Scene.edge
  rw [keeps.config]

/-- All circles are put in their places and get their radius, if there are circles. -/
theorem arrange_ends (fits : scene.Fits k spare) :
    Ends (arrange scene)
      (fun radius scene' => radius = scene.layout.radiusOf? scene.nodes.ids ∧
        scene.Keeps scene' ∧
        (grid scene'.surface).canvas = (grid scene.surface).canvas ∧
        (∀ r, radius = some r → (grid scene'.surface).template = .ofRadius r) ∧
        scene'.Fits { k with states := k.arranged scene.layout scene.edge } spare)
      (Broken k scene.MayFail scene) := by
  unfold arrange
  refine (Ends.get ?_).bind
  have radius_eq := fits.lists.radius? scene.layout
  rw [OnGrid.size, NodeMap.arrange?, radius_eq, fits.lists.ids]
  cases h : scene.layout.radiusOf? (k.states.map (·.node.id)) with
  | none =>
    refine ⟨rfl, .refl _, rfl, fun r absurd => by contradiction, ?_⟩
    have no_states := List.map_eq_nil_iff.mp (Layout.radiusOf?_eq_none_iff.mp h)
    have arranged_eq : k.arranged scene.layout scene.edge = k.states := by
      rw [Sketch.arranged, h, no_states]
    rw [arranged_eq]
    exact fits
  | some radius =>
    let rows := Rows.ofRadius scene.layout scene.edge radius
    let template : CircleTemplate α := .ofRadius radius
    let scene₁ : Scene α σ := { scene with
      nodes := scene.nodes.put rows
      surface := DrawingSurface.setCircleTemplate template scene.surface }
    have becomes := setCircleTemplate template scene.surface
    have beneath : grid scene₁.surface = { grid scene.surface with template } := becomes.grid
    have keeps₁ : scene.Keeps scene₁ := by
      refine ⟨rfl, ?_, ?_, becomes.mayRefuse⟩ <;> rw [beneath]
    have fits₁ : scene₁.Fits { k with states := rows.seat rows.first k.states } spare := by
      refine ⟨fits.layer, fits.lists.put rows, fits.arrows, ?_⟩
      rw [beneath, Sketch.cells_congr (Rows.map_seat fun _ _ => rfl)]
      exact fits.holds
    have arranged_eq : k.arranged scene.layout scene.edge =
        (rows.seat rows.first k.states).map ShownState.settle := by
      rw [Sketch.arranged, h]
    have nodes_eq : scene₁.nodes.nodes = (rows.seat rows.first k.states).map (·.node) :=
      fits₁.lists.nodes
    have moved := moveGroups_ends fits₁
    rw [← nodes_eq] at moved
    rw [arranged_eq]
    refine (Ends.set ?_).bind
    refine moved.andThen ?_ ?_
    · intro _ scene₂ good
      obtain ⟨only, same, fits₂⟩ := good
      have keeps₂ : scene₁.Keeps scene₂ := .of_onlyNodes (by rw [same]) only
      refine ⟨rfl, keeps₁.trans keeps₂, by rw [only.grid, beneath], ?_, fits₂⟩
      intro r radius_eq
      cases radius_eq
      rw [only.grid, beneath]
    · exact fun scene₂ broken => broken.of_keeps rfl keeps₁ (by rw [beneath]) keeps₁.mayFail

end Scene

end TransitionDiagram
