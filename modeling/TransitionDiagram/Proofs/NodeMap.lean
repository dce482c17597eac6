/-
TransitionDiagram.Proofs.NodeMap: looking up nodes and inserting new ones.

A map that gets a node for a state without one has that node last; nothing else changes. `missing`
lists the states that will get a node, each once, in the order in which they come.

  §1 looking up
  §2 inserting and filtering
  §3 missing states
-/
import TransitionDiagram.Scene.Reconcile

namespace TransitionDiagram.NodeMap

variable {α : Type} {m : NodeMap α} {id : String} {node : StateNode α}

/-! ## §1 Looking up -/

theorem contains_iff : m.contains id = true ↔ id ∈ m.ids := by
  simp [contains]

/-- A map with nodes for some states, each listed once, has these states in some order. -/
theorem perm_of_mem_iff {states : List String} (nodup : states.Nodup)
    (same : ∀ id, id ∈ m.ids ↔ id ∈ states) : m.ids.Perm states :=
  (List.perm_ext_iff_of_nodup m.nodup nodup).mpr same

theorem lookup_map {β γ : Type} (f : β → γ) (entries : List (String × β)) :
    (entries.map fun entry => (entry.1, f entry.2)).lookup id = (entries.lookup id).map f := by
  induction entries with
  | nil => rfl
  | cons entry rest ih =>
    rw [List.map_cons, List.lookup_cons, List.lookup_cons, ih]
    cases id == entry.1 <;> rfl

theorem lookup_isSome_iff {β : Type} {entries : List (String × β)} :
    (entries.lookup id).isSome ↔ id ∈ entries.map Prod.fst := by
  induction entries with
  | nil => simp
  | cons entry rest ih =>
    rw [List.lookup_cons, List.map_cons, List.mem_cons, ← ih]
    by_cases same : id = entry.1
    · simp [same]
    · have other : (id == entry.1) = false := by simpa using same
      rw [other]
      simp [same]

/-! ## §2 Inserting and filtering -/

/-- A map is what it lists. -/
theorem eq_of_entries {m' : NodeMap α} (same : m.entries = m'.entries) : m = m' := by
  cases m
  cases m'
  simpa using same

/-- A node for a state without one gets a new last slot. -/
theorem entries_insert (absent : ¬ m.contains id = true) :
    (m.insert id node).entries = m.entries ++ [(id, node)] := by
  unfold insert
  rw [dif_neg absent]

theorem ids_insert (absent : ¬ m.contains id = true) : (m.insert id node).ids = m.ids ++ [id] := by
  rw [ids, entries_insert absent, List.map_append]
  rfl

theorem entries_filter (keep : String → Bool) :
    (m.filter keep).entries = m.entries.filter fun entry => keep entry.1 := rfl

/-! ## §3 Missing states -/

/-- The states that are not among some others, each once, in their order. -/
def missing (ids : List String) : List String → List String
  | [] => []
  | id :: rest => if id ∈ ids then missing ids rest else id :: missing (ids ++ [id]) rest

theorem mem_missing {ids states : List String} :
    id ∈ missing ids states ↔ id ∈ states ∧ id ∉ ids := by
  induction states generalizing ids with
  | nil => simp [missing]
  | cons first rest ih =>
    by_cases there : first ∈ ids
    · rw [missing, if_pos there, ih, List.mem_cons]
      constructor
      · exact fun ⟨mem, absent⟩ => ⟨.inr mem, absent⟩
      · intro h
        obtain ⟨rfl | mem, absent⟩ := h
        · exact absurd there absent
        · exact ⟨mem, absent⟩
    · rw [missing, if_neg there, List.mem_cons, List.mem_cons, ih]
      by_cases same : id = first
      · simp [same, there]
      · simp [same]

/-- Of states that all differ, the missing ones are those that are not among the others. -/
theorem missing_of_nodup {ids states : List String} (nodup : states.Nodup) :
    missing ids states = states.filter (· ∉ ids) := by
  induction states generalizing ids with
  | nil => rfl
  | cons first rest ih =>
    obtain ⟨new, nodup⟩ := List.nodup_cons.mp nodup
    by_cases there : first ∈ ids
    · rw [missing, if_pos there, ih nodup, List.filter_cons_of_neg (by simpa using there)]
    · rw [missing, if_neg there, ih nodup, List.filter_cons_of_pos (by simpa using there)]
      congr 1
      refine List.filter_congr fun other mem => ?_
      have differs : other ≠ first := fun same => new (same ▸ mem)
      simp [differs]

theorem missing_eq_nil {ids states : List String} (all : ∀ id ∈ states, id ∈ ids) :
    missing ids states = [] := by
  rw [List.eq_nil_iff_forall_not_mem]
  intro id mem
  obtain ⟨listed, absent⟩ := mem_missing.mp mem
  exact absent (all id listed)

end TransitionDiagram.NodeMap
