/-
TransitionDiagram.Proofs.Editing: a machine that is edited in place.

Transitions are added to a machine one by one. Reading a text into it replaces all that it had, and
clearing leaves nothing. A state that is added on its own is refused, and then nothing is changed.
So the transitions of an edited machine are those that came with the last edit that began anew and
with those after it; and as every edit leaves a machine that could have been built, its states and
all that can be asked about them follow from its transitions.

  §1 edits
  §2 transitions after a history of edits
  §3 states that follow from the transitions
-/
import Mathlib.Data.List.Perm.Subperm
import TransitionDiagram.Proofs.Machines
import TransitionDiagram.Proofs.Outcome

namespace TransitionDiagram.Machine

/-! ## §1 Edits -/

/-- What can be done to a machine that is kept. -/
inductive Edit where
  | addTransition (t : Transition)
  /-- Adds a transition as the edge of a graph. Its ends need not be states before. -/
  | addEdge (t : Transition)
  /-- Tries to add a state without a transition. -/
  | addState (id : String)
  /-- Replaces the machine by that of a text. -/
  | read (text : String)
  | clear
  deriving DecidableEq, Repr

namespace Edit

/-- Makes an edit. A refusal leaves the machine in place. -/
def run : Edit → EStateM LoneState Machine Unit
  | addTransition t => modify (·.addTransition t)
  | addEdge t => modify (·.addTransition t)
  | addState id => do
    match (← get).addState id with
    | .ok m => set m
    | .error refusal => throw refusal
  | read text => set (Machine.ofText text)
  | clear => set Machine.empty

/-- Whether nothing that was there before an edit is there after it. -/
def renews : Edit → Bool
  | read _ => true
  | clear => true
  | _ => false

/-- The transitions that come with an edit. -/
def listed : Edit → List Transition
  | addTransition t => [t]
  | addEdge t => [t]
  | addState _ => []
  | read text => transitionsOf text.toList
  | clear => []

/-- The edits from the last one on that renews the machine, or all of them. -/
def current : List Edit → List Edit
  | [] => []
  | edit :: rest => if rest.any renews then current rest else edit :: rest

end Edit

/-- The machine after an edit, whether or not it was refused. -/
def after (m : Machine) (edit : Edit) : Machine :=
  stateOf (edit.run m)

/-- The machine after some edits, one after the other. -/
def edited (m : Machine) (edits : List Edit) : Machine :=
  edits.foldl after m

/-! ## §2 Transitions -/

theorem Edit.run_addState (m : Machine) (id : String) :
    (Edit.addState id).run m = .error { id } m := rfl

/-- Edits that renew nothing are current from the first one on. -/
theorem Edit.current_of_quiet {edits : List Edit} (quiet : edits.any renews = false) :
    current edits = edits := by
  cases edits with
  | nil => rfl
  | cons edit rest =>
    simp only [List.any_cons, Bool.or_eq_false_iff] at quiet
    simp [current, quiet.2]

theorem transitions_after (m : Machine) (edit : Edit) :
    (m.after edit).transitions =
      (if edit.renews then [] else m.transitions) ++ edit.listed := by
  cases edit with
  | addTransition t => rfl
  | addEdge t => rfl
  | addState id => exact (List.append_nil _).symm
  | read text => exact transitions_ofText text
  | clear => rfl

/-- What an edited machine has of the one before, and what has come since. -/
theorem transitions_edited (m : Machine) (edits : List Edit) :
    (m.edited edits).transitions =
      (if edits.any Edit.renews then [] else m.transitions) ++
        (Edit.current edits).flatMap Edit.listed := by
  induction edits generalizing m with
  | nil => simp [edited, Edit.current]
  | cons edit rest ih =>
    have first : m.edited (edit :: rest) = (m.after edit).edited rest := rfl
    rw [first, ih, transitions_after, Edit.current, List.any_cons]
    cases renewed : rest.any Edit.renews with
    | true => simp
    | false =>
      rw [Edit.current_of_quiet renewed]
      simp

/-! ## §3 States -/

theorem Built.after {m : Machine} (built : m.Built) (edit : Edit) : (m.after edit).Built := by
  cases edit with
  | addTransition t => exact built.addTransition t
  | addEdge t => exact built.addTransition t
  | addState id => exact built
  | read text => exact .ofText text
  | clear => exact .empty

theorem Built.edited {m : Machine} (built : m.Built) (edits : List Edit) :
    (m.edited edits).Built := by
  induction edits generalizing m with
  | nil => exact built
  | cons edit rest ih => exact ih (built.after edit)

/-- What is told of the states of a machine agrees with its transitions. -/
structure Coherent (m : Machine) : Prop where
  /-- The states are the ends of the transitions, in the order in which they first appear. -/
  states : m.states = (m.transitions.flatMap fun t => [t.source, t.target]).eraseDups
  nodup : m.states.Nodup
  hasState : ∀ id, m.hasState id = true ↔ ∃ t ∈ m.transitions, id = t.source ∨ id = t.target
  finds : ∀ id, (m.state? id).isSome ↔ ∃ t ∈ m.transitions, id = t.source ∨ id = t.target
  same_name : ∀ id, ∀ found ∈ m.state? id, found = id
  isEmpty : m.isEmpty = true ↔ m.states.length = 0
  isBlank : m.isBlank = true ↔ m.states.length = 0
  two_each : m.states.length ≤ 2 * m.transitions.length

/-- Without a state there is no transition, as a transition has ends. -/
theorem WellFormed.transitions_eq_nil {m : Machine} (wf : m.WellFormed)
    (stateless : m.states = []) : m.transitions = [] := by
  rw [List.eq_nil_iff_forall_not_mem]
  intro t listed
  have source : t.source ∈ m.states := wf.ends listed List.mem_cons_self
  rw [stateless] at source
  exact List.not_mem_nil source

theorem length_endpoints (ts : List Transition) :
    (ts.flatMap Transition.endpoints).length = 2 * ts.length := by
  simp [List.length_flatMap, Transition.endpoints, Nat.mul_comm]

/-- All that is told of a machine that can be built follows from its transitions. -/
theorem Built.coherent {m : Machine} (built : m.Built) : m.Coherent := by
  have wf := built.wellFormed
  have no_state : m.transitions = [] ↔ m.states = [] :=
    ⟨wf.states_eq_nil, wf.transitions_eq_nil⟩
  constructor
  case states => exact built.states_eq
  case nodup => exact wf.nodup
  case hasState =>
    intro id
    simp only [hasState, List.contains_iff_mem, wf.mem_states, Transition.mem_endpoints]
  case finds =>
    intro id
    simp only [← Transition.mem_endpoints, ← wf.mem_states]
    simp [state?]
  case same_name =>
    intro id found there
    simpa using List.find?_some there
  case isEmpty =>
    rw [isEmpty, List.isEmpty_iff, no_state, List.length_eq_zero_iff]
  case isBlank =>
    simp [isBlank, no_state]
  case two_each =>
    rw [← length_endpoints]
    refine (wf.nodup.subperm fun id mem => ?_).length_le
    rw [wf.mem_states] at mem
    exact List.mem_flatMap.mpr mem

/-- After any edits of a new machine its transitions are those that the current edits brought, in
order and with repeats, its states follow from them, and a state on its own is refused. -/
theorem edited_coherent (edits : List Edit) :
    (empty.edited edits).transitions = (Edit.current edits).flatMap Edit.listed ∧
    (empty.edited edits).Coherent ∧
    ∀ id, (Edit.addState id).run (empty.edited edits) = .error { id } (empty.edited edits) := by
  refine ⟨?_, (Built.empty.edited edits).coherent, fun id => Edit.run_addState _ id⟩
  rw [transitions_edited]
  split <;> rfl

/-- A text is read over what was added before, and a refused state leaves no trace. -/
example :
    (empty.edited [.addEdge { source := "A", target := "B" }, .read "C->A\n\nA->A", .addState "D",
      .addTransition { source := "B", target := "C" }]).states = ["C", "A", "B"] := by
  decide +kernel

end TransitionDiagram.Machine
