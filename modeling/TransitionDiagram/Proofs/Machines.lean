/-
TransitionDiagram.Proofs.Machines: machines that can be built.

A machine is built by reading a text and by adding transitions. Such a machine has every state
once, and its states are the ends of its transitions in the order in which they first appear.

  §1 inserting states
  §2 adding transitions
  §3 well-formed machines
  §4 machines that can be built
-/
import TransitionDiagram.Machine

namespace TransitionDiagram.Machine

/-! ## §1 Inserting states -/

theorem mem_insertState {states : List String} {id other : String} :
    other ∈ insertState states id ↔ other ∈ states ∨ other = id := by
  unfold insertState
  split
  · rename_i there
    have mem : id ∈ states := by simpa using there
    constructor
    · exact .inl
    · intro h
      rcases h with old | rfl
      · exact old
      · exact mem
  · simp

theorem nodup_insertState {states : List String} (nodup : states.Nodup) (id : String) :
    (insertState states id).Nodup := by
  unfold insertState
  split
  · exact nodup
  · rename_i absent
    have new : id ∉ states := by simpa using absent
    refine List.nodup_append.mpr ⟨nodup, by simp, ?_⟩
    intro a mem b same
    rw [List.mem_singleton.mp same]
    intro equal
    subst equal
    exact new mem

/-- What is inserted behind some states is what would have been inserted without them, less those
states. -/
theorem insertState_append_filter (states later : List String) (id : String) :
    insertState (states ++ later.filter (· ∉ states)) id =
      states ++ (insertState later id).filter (· ∉ states) := by
  by_cases old : id ∈ states
  · by_cases listed : id ∈ later <;> simp [insertState, old, listed]
  · by_cases listed : id ∈ later <;> simp [insertState, old, listed]

theorem foldl_insertState_append_filter (states later ids : List String) :
    ids.foldl insertState (states ++ later.filter (· ∉ states)) =
      states ++ (ids.foldl insertState later).filter (· ∉ states) := by
  induction ids generalizing later with
  | nil => rfl
  | cons id rest ih => rw [List.foldl_cons, insertState_append_filter, ih, List.foldl_cons]

/-- Inserting a state once more keeps the order of first appearances. -/
theorem insertState_eraseDups (ids : List String) (id : String) :
    insertState ids.eraseDups id = (ids ++ [id]).eraseDups := by
  by_cases there : id ∈ ids <;>
    simp [insertState, List.eraseDups_append, List.eraseDups_cons, List.removeAll, there]

theorem foldl_insertState_eraseDups (ids more : List String) :
    more.foldl insertState ids.eraseDups = (ids ++ more).eraseDups := by
  induction more generalizing ids with
  | nil => simp
  | cons id rest ih => rw [List.foldl_cons, insertState_eraseDups, ih, List.append_assoc]; rfl

/-! ## §2 Adding transitions -/

theorem transitions_foldl_addTransition (m : Machine) (ts : List Transition) :
    (ts.foldl addTransition m).transitions = m.transitions ++ ts := by
  induction ts generalizing m with
  | nil => simp
  | cons t rest ih => simp [ih, addTransition]

theorem states_foldl_addTransition (m : Machine) (ts : List Transition) :
    (ts.foldl addTransition m).states =
      (ts.flatMap Transition.endpoints).foldl insertState m.states := by
  induction ts generalizing m with
  | nil => rfl
  | cons t rest ih => rw [List.foldl_cons, ih, List.flatMap_cons, List.foldl_append]; rfl

theorem transitions_ofText (text : String) :
    (ofText text).transitions = transitionsOf text.toList := by
  rw [ofText, ofTransitions, transitions_foldl_addTransition]; rfl

theorem mem_states_addTransition {m : Machine} {t : Transition} {id : String} :
    id ∈ (m.addTransition t).states ↔ id ∈ m.states ∨ id ∈ t.endpoints := by
  simp [addTransition, Transition.endpoints, mem_insertState, or_assoc]

/-! ## §3 Well-formed machines -/

/-- Every state is there once, and the states are the ends of the transitions. -/
structure WellFormed (m : Machine) : Prop where
  nodup : m.states.Nodup
  mem_states : ∀ id, id ∈ m.states ↔ ∃ t ∈ m.transitions, id ∈ t.endpoints

namespace WellFormed

theorem empty : WellFormed .empty where
  nodup := .nil
  mem_states := by simp [Machine.empty]

theorem addTransition {m : Machine} (wf : m.WellFormed) (t : Transition) :
    (m.addTransition t).WellFormed where
  nodup := nodup_insertState (nodup_insertState wf.nodup t.source) t.target
  mem_states := by
    intro id
    have transitions : (m.addTransition t).transitions = m.transitions ++ [t] := rfl
    rw [mem_states_addTransition, wf.mem_states, transitions]
    simp [or_and_right, exists_or]

theorem ends {m : Machine} (wf : m.WellFormed) {t : Transition} (listed : t ∈ m.transitions)
    {id : String} (isEnd : id ∈ t.endpoints) : id ∈ m.states :=
  (wf.mem_states id).mpr ⟨t, listed, isEnd⟩

theorem states_eq_nil {m : Machine} (wf : m.WellFormed) (none : m.transitions = []) :
    m.states = [] := by
  rw [List.eq_nil_iff_forall_not_mem]
  intro id mem
  obtain ⟨t, listed, -⟩ := (wf.mem_states id).mp mem
  rw [none] at listed
  exact List.not_mem_nil listed

theorem foldl_addTransition {m : Machine} (wf : m.WellFormed) (ts : List Transition) :
    (ts.foldl Machine.addTransition m).WellFormed := by
  induction ts generalizing m with
  | nil => exact wf
  | cons t rest ih => exact ih (wf.addTransition t)

end WellFormed

/-! ## §4 Machines that can be built -/

/-- The machine can be had by reading texts and adding transitions. -/
inductive Built : Machine → Prop where
  | empty : Built .empty
  | ofText (text : String) : Built (.ofText text)
  | addTransition {m : Machine} (t : Transition) : Built m → Built (m.addTransition t)

/-- A machine that can be built is well formed. -/
theorem Built.wellFormed {m : Machine} (built : m.Built) : m.WellFormed := by
  induction built with
  | empty => exact .empty
  | ofText text => exact WellFormed.empty.foldl_addTransition _
  | addTransition t _ ih => exact ih.addTransition t

/-- The states of a machine that can be built are in the order in which they first appear as ends of
its transitions. -/
theorem Built.states_eq {m : Machine} (built : m.Built) :
    m.states = (m.transitions.flatMap Transition.endpoints).eraseDups := by
  induction built with
  | empty => rfl
  | ofText text =>
    rw [transitions_ofText, Machine.ofText, ofTransitions, states_foldl_addTransition]
    exact foldl_insertState_eraseDups [] _
  | @addTransition m t _ ih =>
    change t.endpoints.foldl insertState m.states = ((m.transitions ++ [t]).flatMap _).eraseDups
    rw [ih, foldl_insertState_eraseDups, List.flatMap_append, List.flatMap_singleton]

end TransitionDiagram.Machine
