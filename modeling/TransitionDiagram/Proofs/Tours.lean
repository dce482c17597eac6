/-
TransitionDiagram.Proofs.Tours: drawing a forest comes to an end and meets each node once.

`Tour` is drawing as a recursion: a node is met, then its children one by one with all below them,
and then its siblings. Nothing in it counts levels, so on a store in which a node lies below itself
there is no tour. In a forest there is one, since the nodes on a way down are all different and live
(`exists_tour`), and the levels that a walk may go down are never used up. What a tour meets, in
which order and where, is read off it by induction: the nodes that can be reached, each once, a node
before its children and these in the order of its list, each where the coordinates on the one way
that leads to it add up. The picture is a blank canvas with the marks of all that is met, one after
the other, so a cell shows the last mark that was made in it.

  §1 tours
  §2 there is a tour
  §3 what a tour meets
  §4 where a tour meets it
  §5 what is drawn for it
  §6 drawing after a disciplined run
-/
import TransitionDiagram.Proofs.Clipping
import TransitionDiagram.Proofs.Forest

namespace TransitionDiagram

variable {α : Type} [Scalar α]

namespace NodeStore

variable {store : NodeStore α} {root h k p q parent : Handle} {origin : Point α}
  {node : SceneNode α} {pending : List Handle} {met : List (Handle × Visit α)}

/-! ## §1 Tours -/

/-- How some nodes are drawn from an origin, one after the other and each with all below it: which
nodes are met, in order, and with what is drawn for each. -/
inductive Tour (store : NodeStore α) :
    Point α → List Handle → List (Handle × Visit α) → Prop where
  | done (origin : Point α) : Tour store origin [] []
  | node {origin : Point α} {h : Handle} {rest : List Handle} {node : SceneNode α}
      {below later : List (Handle × Visit α)} (there : store.get? h = some node)
      (children : Tour store
        { x := origin.x + node.position.x, y := origin.y + node.position.y } node.children below)
      (next : Tour store origin rest later) :
      Tour store origin (h :: rest)
        ((h, {
          content := node.content
          position := { x := origin.x + node.position.x, y := origin.y + node.position.y } }) ::
          (below ++ later))

theorem Tour.cons {first later : List (Handle × Visit α)} (one : store.Tour origin [h] first)
    (next : store.Tour origin pending later) : store.Tour origin (h :: pending) (first ++ later) := by
  cases one with
  | node there children nothing =>
    cases nothing
    simpa using Tour.node there children next

/-! ## §2 There is a tour -/

/-- Tours over single nodes make a tour over all of them, and so do their walks. -/
theorem exists_tour_of_each {depth : Nat}
    (each : ∀ h ∈ pending, ∃ met, store.Tour origin [h] met ∧
      store.walk depth origin h = { visits := met.map Prod.snd, fault := none }) :
    ∃ met, store.Tour origin pending met ∧ Walk.concat (pending.map (store.walk depth origin)) =
      { visits := met.map Prod.snd, fault := none } := by
  induction pending with
  | nil => exact ⟨[], .done origin, rfl⟩
  | cons h rest ih =>
    obtain ⟨first, one, walked⟩ := each h List.mem_cons_self
    obtain ⟨later, next, walked'⟩ := ih fun k mem => each k (List.mem_cons_of_mem _ mem)
    exact ⟨first ++ later, one.cons next, by simp [Walk.concat, walked, walked']⟩

/-- In a forest a walk below a node goes down no further than the nodes above it leave room for. -/
theorem IsForest.exists_tour (forest : store.IsForest root) {depth : Nat} (origin : Point α)
    (above : List Handle) (live : store.Live h) (nodup : above.Nodup)
    (leads : ∀ a ∈ above, store.Live a ∧ a ≠ h ∧ Reaches store.childrenOf a h)
    (room : store.slots.size ≤ above.length + depth) :
    ∃ met, store.Tour origin [h] met ∧
      store.walk depth origin h = { visits := met.map Prod.snd, fault := none } := by
  -- on the levels that are left: each of them is used by one of the nodes above
  induction depth generalizing origin above h with
  | zero =>
    have distinct : (h :: above).Nodup :=
      List.nodup_cons.mpr ⟨fun mem => (leads h mem).2.1 rfl, nodup⟩
    have bound := length_le_of_live distinct fun a mem => by
      rcases List.mem_cons.mp mem with rfl | mem
      · exact live
      · exact (leads a mem).1
    simp at bound
    omega
  | succ depth ih =>
    obtain ⟨node, there⟩ := live_iff.mp live
    have each : ∀ child ∈ node.children, ∃ met,
        store.Tour (origin.offset node.position) [child] met ∧
        store.walk depth (origin.offset node.position) child =
          { visits := met.map Prod.snd, fault := none } := by
      intro child listed
      rw [← childrenOf_of_get there] at listed
      have below : Reaches store.childrenOf h child := .below listed (.refl _ _)
      refine ih _ (h :: above) (forest.live h child listed)
        (List.nodup_cons.mpr ⟨fun mem => (leads h mem).2.1 rfl, nodup⟩) ?_ (by simp; omega)
      intro a mem
      rcases List.mem_cons.mp mem with rfl | mem
      · refine ⟨live, ?_, below⟩
        rintro rfl
        exact forest.acyclic a a listed (.refl _ _)
      · obtain ⟨a_live, -, way⟩ := leads a mem
        refine ⟨a_live, ?_, way.trans below⟩
        rintro rfl
        exact forest.acyclic h a listed way
    obtain ⟨below, children, walked⟩ := exists_tour_of_each each
    refine ⟨_, .node there children (.done _), ?_⟩
    simp only [walk, there, walked, List.append_nil, List.map_cons]
    rfl

/-! ## §3 What is met -/

namespace Tour

/-- The nodes that can be reached are met, and no others. -/
theorem mem_iff (tour : store.Tour origin pending met) :
    k ∈ met.map Prod.fst ↔ ∃ p ∈ pending, Reaches store.childrenOf p k := by
  induction tour with
  | done => simp
  | node there _ _ ihChildren ihNext =>
    simp only [List.map_cons, List.map_append, List.mem_cons, List.mem_append, ihChildren, ihNext,
      exists_eq_or_imp]
    rw [Reaches.iff_below, childrenOf_of_get there, or_assoc, eq_comm]

/-- In a forest, siblings and what is below them are met once. -/
theorem nodup (tour : store.Tour origin pending met) (forest : store.IsForest root)
    (distinct : pending.Nodup)
    (apart : ∀ p ∈ pending, ∀ q ∈ pending, ∀ k, Reaches store.childrenOf p k →
      Reaches store.childrenOf q k → p = q) : (met.map Prod.fst).Nodup := by
  induction tour with
  | done => exact .nil
  | @node origin h rest node below later there children next ihChildren ihNext =>
    have lists := childrenOf_of_get there
    obtain ⟨not_rest, distinct⟩ := List.nodup_cons.mp distinct
    have not_later : ∀ k, Reaches store.childrenOf h k → k ∉ later.map Prod.fst := by
      intro k way mem
      obtain ⟨q, listed, way'⟩ := next.mem_iff.mp mem
      have same := apart h List.mem_cons_self q (List.mem_cons_of_mem _ listed) k way way'
      exact not_rest (same ▸ listed)
    have of_below : ∀ {k}, k ∈ below.map Prod.fst →
        ∃ child ∈ store.childrenOf h, Reaches store.childrenOf child k := by
      intro k mem
      rw [lists]
      exact children.mem_iff.mp mem
    rw [List.map_cons, List.map_append, List.nodup_cons, List.mem_append, List.nodup_append]
    refine ⟨not_or.mpr ⟨fun mem => ?_, not_later h (.refl _ _)⟩, ihChildren ?_ ?_,
      ihNext distinct fun p hp q hq => apart p (.tail _ hp) q (.tail _ hq), ?_⟩
    · obtain ⟨child, listed, way⟩ := of_below mem
      exact forest.acyclic h child listed way
    · rw [← lists]
      exact forest.nodup h
    · rw [← lists]
      exact fun p hp q hq k => forest.siblings_apart hp hq
    · rintro k mem _ mem' rfl
      obtain ⟨child, listed, way⟩ := of_below mem
      exact not_later k (.below listed way) mem'

theorem pending_sublist (tour : store.Tour origin pending met) :
    pending.Sublist (met.map Prod.fst) := by
  induction tour with
  | done => exact .slnil
  | node _ _ _ _ ihNext =>
    simp only [List.map_cons, List.map_append]
    exact (ihNext.trans (List.sublist_append_right _ _)).cons_cons _

/-- A node is met before its children, and these in the order in which it lists them. -/
theorem family_sublist (tour : store.Tour origin pending met) (mem : k ∈ met.map Prod.fst) :
    (k :: store.childrenOf k).Sublist (met.map Prod.fst) := by
  induction tour with
  | done => simp at mem
  | @node origin h rest node below later there children next ihChildren ihNext =>
    simp only [List.map_cons, List.map_append, List.mem_cons, List.mem_append] at mem ⊢
    rcases mem with rfl | mem | mem
    · rw [childrenOf_of_get there]
      exact (children.pending_sublist.trans (List.sublist_append_left _ _)).cons_cons _
    · exact ((ihChildren mem).trans (List.sublist_append_left _ _)).cons _
    · exact ((ihNext mem).trans (List.sublist_append_right _ _)).cons _

end Tour

/-! ## §4 Places -/

/-- The place of the last of some nodes, each of which is given relative to the one before: the sums
of their coordinates, from the first one on. -/
def placeBelow (origin : Point α) (nodes : List (SceneNode α)) : Point α where
  x := (nodes.map (·.position.x)).foldl (· + ·) origin.x
  y := (nodes.map (·.position.y)).foldl (· + ·) origin.y

/-- Each node is met with what it shows, where the coordinates on a way to it add up. -/
theorem Tour.placed (tour : store.Tour origin pending met) {entry : Handle × Visit α}
    (mem : entry ∈ met) : ∃ p ∈ pending, ∃ way nodes node, Way store.childrenOf p way entry.1 ∧
      way.map store.get? = nodes.map some ∧ store.get? entry.1 = some node ∧
      entry.2 = { content := node.content, position := placeBelow origin nodes } := by
  induction tour with
  | done => simp at mem
  | @node origin h rest node below later there children next ihChildren ihNext =>
    simp only [List.mem_cons, List.mem_append] at mem
    rcases mem with rfl | mem | mem
    · exact ⟨h, List.mem_cons_self, [h], [node], node, .here h, by simp [there], there, rfl⟩
    · obtain ⟨child, listed, way, nodes, node', down, along, there', visit⟩ := ihChildren mem
      rw [← childrenOf_of_get there] at listed
      exact ⟨h, List.mem_cons_self, h :: way, node :: nodes, node', .down listed down,
        by simp [there, along], there', visit⟩
    · obtain ⟨p, listed, found⟩ := ihNext mem
      exact ⟨p, List.mem_cons_of_mem _ listed, found⟩

end NodeStore

/-! ## §5 Marks -/

namespace GridSurface

/-- The marks of all that is met, in order. -/
def marksOf (s : GridSurface α) (met : List (Handle × Visit α)) : List Mark :=
  met.flatMap fun (_, v) =>
    v.content.marksAt s.config.style.glyphs s.template.radius v.position

/-- What is drawn on a tour are the marks of all that it meets. -/
theorem draw_met (s : GridSurface α) (canvas : Canvas) (met : List (Handle × Visit α)) :
    s.draw canvas (met.map Prod.snd) = canvas.paint (s.marksOf met) := by
  simp only [draw_eq_paint, List.flatMap_map, Visit.marks_eq, marksOf]

/-! ## §6 Drawing -/

/-- After every disciplined run the nodes are a forest, so drawing the picture comes to an end,
succeeds and counts. It draws each node that can be reached from the root once, a node before its
children and these in the order in which they were attached, each where the coordinates on the one
way from the root to it add up. The canvas is the blank one with the marks of all these nodes: a
cell shows the character of the last mark that is made in it, or is blank. -/
theorem disciplined_draws_each_once (config : PictureConfig α)
    {instructions : List (Instruction α)} (disciplined : (new config).Disciplined instructions) :
    let s := (new config).run instructions
    let zero : Point α := { x := Scalar.ofInt 0, y := Scalar.ofInt 0 }
    let blank := Canvas.blank (Cell.columns config.size) (Cell.rows config.size)
    s.nodes.IsForest root ∧
    ∃ met, s.nodes.Tour zero [root] met ∧
      update s = .ok () { s with
        canvas := blank.paint (s.marksOf met), redraws := s.redraws + 1 } ∧
      (∀ column row : Nat, column < Cell.columns config.size → row < Cell.rows config.size →
        (blank.paint (s.marksOf met)).get column row =
          (Mark.last? (s.marksOf met) column row).getD ' ') ∧
      (met.map Prod.fst).Nodup ∧
      (∀ h, h ∈ met.map Prod.fst ↔ Reaches s.nodes.childrenOf root h) ∧
      (∀ h ∈ met.map Prod.fst, (h :: s.nodes.childrenOf h).Sublist (met.map Prod.fst)) ∧
      ∀ entry ∈ met, ∃ way nodes node, Way s.nodes.childrenOf root way entry.1 ∧
        (∀ other, Way s.nodes.childrenOf root other entry.1 → other = way) ∧
        way.map s.nodes.get? = nodes.map some ∧ s.nodes.get? entry.1 = some node ∧
        entry.2 = { content := node.content, position := NodeStore.placeBelow zero nodes } := by
  intro s zero blank
  have forest : s.nodes.IsForest root := run_isForest (new_isForest config) disciplined
  obtain ⟨met, tour, walked⟩ := forest.exists_tour zero [] forest.root_live .nil (by simp)
    (Nat.le_of_eq (Nat.zero_add _).symm)
  have wiped : s.canvas.wipe = blank :=
    (wipe_canvas_run _ instructions).trans (Canvas.wipe_blank _ _)
  have drawn : update s = .ok () (s.redrawn (met.map Prod.snd)) := update_ok walked
  rw [redrawn, draw_met, wiped] at drawn
  refine ⟨forest, met, tour, drawn, fun column row left above => ?_, ?_, fun h => ?_,
    fun h => tour.family_sublist, ?_⟩
  · have shaped : blank.Shaped := Canvas.shaped_blank _ _
    have inside : blank.inside column row = true := Canvas.inside_iff.mpr
      ⟨⟨Int.natCast_nonneg _, Int.ofNat_lt.mpr left⟩, Int.natCast_nonneg _, Int.ofNat_lt.mpr above⟩
    rw [shaped.get_paint inside, ← wiped, Canvas.get_wipe]
  · refine tour.nodup forest (List.nodup_singleton root) fun p hp q hq _ _ _ => ?_
    rw [List.mem_singleton.mp hp, List.mem_singleton.mp hq]
  · simp [tour.mem_iff]
  · intro entry mem
    obtain ⟨p, listed, way, nodes, node, down, along, there, visit⟩ := tour.placed mem
    obtain rfl := List.mem_singleton.mp listed
    exact ⟨way, nodes, node, down, fun other => forest.way_unique down, along, there, visit⟩

/-- A circle and a label are attached to a group and the group to the root; a node that never was is
attached, which fails; the group and the label are moved; and the circle is removed. The label is
drawn where both moves take it, and the circle is not drawn. -/
theorem disciplined_draws_each_once_group :
    let instructions : List (Instruction Float) := [.createGroup, .createNode .circle,
      .createText "A" .label .black, .addChild ⟨1⟩ ⟨2⟩, .addChild ⟨1⟩ ⟨3⟩, .addChild root ⟨1⟩,
      .addChild ⟨3⟩ ⟨9⟩, .setPosition ⟨1⟩ ⟨40, 32⟩, .setPosition ⟨3⟩ ⟨8, 16⟩, .removeChild ⟨1⟩ ⟨2⟩]
    let start : GridSurface Float := new .standard
    let s := start.run instructions
    let label : Visit Float := {
      content := .text "A" (Cell.labelWidth "A")
      position := {
        x := Scalar.ofInt 0 + Scalar.ofInt 0 + 40 + 8
        y := Scalar.ofInt 0 + Scalar.ofInt 0 + 32 + 16 } }
    start.Disciplined instructions ∧
      ∃ met s', update s = .ok () s' ∧ s'.canvas = start.canvas.paint (s.marksOf met) ∧
        (⟨3⟩, label) ∈ met ∧ ⟨2⟩ ∉ met.map Prod.fst := by
  intro instructions start s label
  have disciplined : start.Disciplined instructions := by
    refine ⟨trivial, trivial, trivial, ?_, ?_, ?_, ?_, trivial, trivial, trivial, trivial⟩
    · exact permits_addChild [⟨2⟩] (by decide) (by decide) (by decide) (by decide) (by decide)
    · exact permits_addChild [⟨3⟩] (by decide) (by decide) (by decide) (by decide) (by decide)
    · exact permits_addChild [⟨1⟩, ⟨2⟩, ⟨3⟩] (by decide) (by decide) (by decide) (by decide)
        (by decide)
    · exact permits_addChild [⟨9⟩] (by decide) (by decide) (by decide) (by decide) (by decide)
  let text : SceneNode Float := ⟨label.content, ⟨8, 16⟩, []⟩
  let group (children : List Handle) : SceneNode Float := ⟨.group, ⟨40, 32⟩, children⟩
  let top : SceneNode Float := ⟨.group, .origin, [⟨1⟩]⟩
  let before := start.run instructions.dropLast
  have built : before.nodes = { slots := #[some top, some (group [⟨2⟩, ⟨3⟩]),
      some (freshNode (.shape .circle)), some text] } := by
    simp only [before, start, instructions, run, List.dropLast, List.foldl_cons, List.foldl_nil,
      after, Instruction.perform]
    rfl
  have last : s = before.after (.removeChild ⟨1⟩ ⟨2⟩) := by
    simp only [s, before, instructions, run, List.dropLast, List.foldl_cons, List.foldl_nil]
  have nodes : s.nodes = { slots := #[some top, some (group [⟨3⟩]), none, some text] } := by
    rw [last, after, perform_removeChild, if_pos (by rw [built]; decide),
      if_pos (by rw [built]; decide), stateOf, built]
    exact (NodeStore.dropAll_cons rfl).trans NodeStore.dropAll_nil
  have down : Way s.nodes.childrenOf root [root, ⟨1⟩, ⟨3⟩] ⟨3⟩ := by
    rw [nodes]
    exact .down (List.mem_singleton_self _) (.down (List.mem_singleton_self _) (.here _))
  have closed : ∀ p ∈ [root, ⟨1⟩, ⟨3⟩], ∀ k ∈ s.nodes.childrenOf p, k ∈ [root, ⟨1⟩, ⟨3⟩] := by
    rw [nodes]
    decide
  obtain ⟨-, met, -, drawn, -, -, reached, -, placed⟩ :=
    disciplined_draws_each_once .standard disciplined
  refine ⟨disciplined, met, _, drawn, rfl, ?_, fun mem => ?_⟩
  · obtain ⟨entry, mem, handle⟩ := List.mem_map.mp ((reached ⟨3⟩).mpr down.reaches)
    obtain ⟨way, along, node, -, only, found, there, visit⟩ := placed entry mem
    rw [handle] at only there
    rw [← only _ down] at found
    change List.map s.nodes.get? _ = _ at found
    change s.nodes.get? _ = _ at there
    rw [nodes] at found there
    obtain rfl : [top, group [⟨3⟩], text] = along :=
      (List.map_inj_right fun _ _ => Option.some.inj).mp found
    obtain rfl : text = node := Option.some.inj there
    exact (Prod.ext handle visit : entry = (⟨3⟩, label)) ▸ mem
  · exact absurd (((reached ⟨2⟩).mp mem).mem_of_closed closed (by decide)) (by decide)

end GridSurface

end TransitionDiagram
