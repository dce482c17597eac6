/-
TransitionDiagram.Proofs.Matching: what matching a map with some states does, whatever makes nodes.

Nodes are made by an action that may do anything to the state beside the map, and may fail. `Makes`
says that it was run for some states, one after the other, and which nodes it made. A matching goes
through if and only if that can be done for the missing states, in their order. Then the map lists
the old nodes that stay and the new ones after them, and the other old nodes are handed back; so a
second matching with the same states finds nothing to do.

  §1 making nodes
  §2 missing states
  §3 matching
-/
import TransitionDiagram.Proofs.NodeMap
import TransitionDiagram.Proofs.Outcome

namespace TransitionDiagram.NodeMap

variable {α ε σ : Type} {create : String → EStateM ε σ (StateNode α)} {m m' : NodeMap α} {s s' : σ}
  {id : String} {states : List String} {made : List (String × StateNode α)}

/-! ## §1 Making nodes -/

/-- Nodes are made for some states, one after the other, each once. They are listed by state. -/
inductive Makes (create : String → EStateM ε σ (StateNode α)) :
    σ → List (String × StateNode α) → σ → Prop where
  | nil (s : σ) : Makes create s [] s
  | cons {s s' s'' : σ} {id : String} {node : StateNode α} {rest : List (String × StateNode α)}
    (first : create id s = .ok node s') (later : Makes create s' rest s'') :
    Makes create s ((id, node) :: rest) s''

/-- The same action, which also lists the states for which it is run. -/
def listing (create : String → EStateM ε σ (StateNode α)) (id : String) :
    EStateM ε (σ × List String) (StateNode α) := fun (s, asked) =>
  match create id s with
  | .ok node s => .ok node (s, asked ++ [id])
  | .error e s => .error e (s, asked ++ [id])

theorem Makes.listing (makes : Makes create s made s') (asked : List String) :
    Makes (listing create) (s, asked) made (s', asked ++ made.map Prod.fst) := by
  induction makes generalizing asked with
  | nil s =>
    rw [List.map_nil, List.append_nil]
    exact .nil _
  | @cons s s' s'' id node rest first _ ih =>
    have listed : NodeMap.listing create id (s, asked) = .ok node (s', asked ++ [id]) := by
      simp only [NodeMap.listing, first]
    refine .cons listed ?_
    simpa using ih (asked ++ [id])

/-! ## §2 Missing states -/

theorem createMissing_nil (m : NodeMap α) (s : σ) :
    createMissing create [] (m, s) = .ok 0 (m, s) := rfl

theorem createMissing_of_contains (there : m.contains id = true) (rest : List String) :
    createMissing create (id :: rest) (m, s) = createMissing create rest (m, s) := by
  simp [createMissing, Action.bind_apply, there]

theorem createMissing_of_error {e : ε} (absent : ¬ m.contains id = true)
    (failed : create id s = .error e s') (rest : List String) :
    createMissing create (id :: rest) (m, s) = .error e (m, s') := by
  simp [createMissing, Action.bind_apply, createNode, absent, failed]

theorem createMissing_of_ok {node : StateNode α} (absent : ¬ m.contains id = true)
    (first : create id s = .ok node s') (rest : List String) :
    createMissing create (id :: rest) (m, s) =
      match createMissing create rest (m.insert id node, s') with
      | .ok count after => .ok (count + 1) after
      | .error e after => .error e after := by
  rw [createMissing, Action.bind_apply, Action.get_apply]
  simp only [if_neg absent, Action.bind_apply, createNode, first]
  cases createMissing create rest (m.insert id node, s') <;> rfl

/-- If a node is made for each missing state, the map gains these nodes, and nothing else was done
on the way. -/
theorem createMissing_ok {count : Nat}
    (ended : createMissing create states (m, s) = .ok count (m', s')) :
    ∃ made, made.map Prod.fst = missing m.ids states ∧ Makes create s made s' ∧
      count = made.length ∧ m'.entries = m.entries ++ made := by
  induction states generalizing m s count with
  | nil =>
    rw [createMissing_nil] at ended
    cases ended
    exact ⟨[], rfl, .nil _, rfl, (List.append_nil _).symm⟩
  | cons id rest ih =>
    by_cases there : m.contains id = true
    · rw [createMissing_of_contains there] at ended
      rw [missing, if_pos (contains_iff.mp there)]
      exact ih ended
    · rw [missing, if_neg fun mem => there (contains_iff.mpr mem)]
      cases first : create id s with
      | error e s₁ =>
        rw [createMissing_of_error there first] at ended
        contradiction
      | ok node s₁ =>
        rw [createMissing_of_ok there first] at ended
        cases others : createMissing create rest (m.insert id node, s₁) with
        | error e after =>
          rw [others] at ended
          contradiction
        | ok count after =>
          rw [others] at ended
          cases ended
          obtain ⟨made, named, makes, rfl, entries⟩ := ih others
          refine ⟨(id, node) :: made, ?_, .cons first makes, rfl, ?_⟩
          · rw [List.map_cons, named, ids_insert there]
          · rw [entries, entries_insert there, List.append_assoc]; rfl

/-- Whenever nodes can be made for the missing states one after the other, this is what is done. -/
theorem createMissing_of_makes (makes : Makes create s made s')
    (named : made.map Prod.fst = missing m.ids states) :
    ∃ m', createMissing create states (m, s) = .ok made.length (m', s') ∧
      m'.entries = m.entries ++ made := by
  induction states generalizing m s made with
  | nil =>
    obtain rfl := List.map_eq_nil_iff.mp named
    cases makes
    exact ⟨m, rfl, (List.append_nil _).symm⟩
  | cons id rest ih =>
    rw [missing] at named
    by_cases there : id ∈ m.ids
    · rw [if_pos there] at named
      rw [createMissing_of_contains (contains_iff.mpr there)]
      exact ih makes named
    · rw [if_neg there] at named
      have absent : ¬ m.contains id = true := fun mem => there (contains_iff.mp mem)
      cases makes with
      | nil => contradiction
      | @cons _ s₁ _ id' node later first makes =>
        obtain ⟨rfl, named⟩ := List.cons.inj named
        have grown : (m.insert id' node).ids = m.ids ++ [id'] := ids_insert absent
        rw [← grown] at named
        obtain ⟨m', ended, entries⟩ := ih makes named
        refine ⟨m', ?_, ?_⟩
        · rw [createMissing_of_ok absent first, ended]; rfl
        · rw [entries, entries_insert absent, List.append_assoc]; rfl

/-! ## §3 Matching -/

theorem mem_states_of_named (named : made.map Prod.fst = missing m.ids states) :
    ∀ entry ∈ made, entry.1 ∈ states := fun _ mem =>
  (mem_missing.mp (named ▸ List.mem_map_of_mem mem)).1

/-- New nodes that are nodes of the states all stay. -/
theorem filter_append_made (new : ∀ entry ∈ made, entry.1 ∈ states) :
    (m.entries ++ made).filter (states.contains ·.1) =
      m.entries.filter (·.1 ∈ states) ++ made := by
  have stay : made.filter (states.contains ·.1) = made :=
    List.filter_eq_self.mpr fun entry mem => List.contains_iff_mem.mpr (new entry mem)
  rw [List.filter_append, stay]
  simp

theorem filter_not_append_made (new : ∀ entry ∈ made, entry.1 ∈ states) :
    (m.entries ++ made).filter (!states.contains ·.1) = m.entries.filter (·.1 ∉ states) := by
  have go : made.filter (!states.contains ·.1) = [] :=
    List.filter_eq_nil_iff.mpr fun entry mem => by simpa using new entry mem
  rw [List.filter_append, go, List.append_nil]
  simp

theorem reconcile_of_createMissing {count : Nat}
    (first : createMissing create states (m, s) = .ok count (m', s')) :
    reconcile create states (m, s) = .ok
      { created := count, destroyed := (m'.filter fun id => !states.contains id).nodes }
      (m'.filter states.contains, s') := by
  unfold reconcile
  rw [Action.bind_apply, first]
  rfl

/-- A matching goes through just if nodes can be made for all missing states one after the other.
Then it leaves the old nodes that stay and the new ones, and hands back the other old ones. -/
theorem reconcile_eq_ok_iff {outcome : Reconciliation α} :
    reconcile create states (m, s) = .ok outcome (m', s') ↔
      ∃ made, made.map Prod.fst = missing m.ids states ∧ Makes create s made s' ∧
        outcome = {
          created := made.length
          destroyed := (m.entries.filter (·.1 ∉ states)).map Prod.snd } ∧
        m'.entries = m.entries.filter (·.1 ∈ states) ++ made := by
  constructor
  · intro ended
    cases first : createMissing create states (m, s) with
    | error e after =>
      rw [reconcile, Action.bind_apply, first] at ended
      contradiction
    | ok count after =>
      rw [reconcile_of_createMissing first] at ended
      cases ended
      obtain ⟨made, named, makes, rfl, entries⟩ := createMissing_ok first
      refine ⟨made, named, makes, ?_, ?_⟩
      · rw [nodes, entries_filter, entries, filter_not_append_made (mem_states_of_named named)]
      · rw [entries_filter, entries, filter_append_made (mem_states_of_named named)]
  · rintro ⟨made, named, makes, rfl, entries⟩
    obtain ⟨m₁, first, entries₁⟩ := createMissing_of_makes makes named
    have stay : m₁.filter states.contains = m' := by
      refine eq_of_entries ?_
      rw [entries_filter, entries₁, filter_append_made (mem_states_of_named named), entries]
    rw [reconcile_of_createMissing first, stay, nodes, entries_filter, entries₁,
      filter_not_append_made (mem_states_of_named named)]

/-- After a matching the map has nodes for just the states. -/
theorem mem_ids_of_reconcile (named : made.map Prod.fst = missing m.ids states)
    (entries : m'.entries = m.entries.filter (·.1 ∈ states) ++ made) :
    id ∈ m'.ids ↔ id ∈ states := by
  have new : id ∈ made.map Prod.fst ↔ id ∈ states ∧ id ∉ m.ids := by
    rw [named, mem_missing]
  have old : id ∈ (m.entries.filter (·.1 ∈ states)).map Prod.fst ↔ id ∈ m.ids ∧ id ∈ states := by
    simp [ids]
  rw [ids, entries, List.map_append, List.mem_append, old, new]
  by_cases there : id ∈ m.ids <;> simp [there]

/-- A map that has nodes for just the states is left as it is, and no node is made. -/
theorem reconcile_of_mem_iff (same : ∀ id, id ∈ m.ids ↔ id ∈ states) :
    reconcile create states (m, s) = .ok { created := 0, destroyed := [] } (m, s) := by
  have every : ∀ entry ∈ m.entries, entry.1 ∈ states := fun entry mem =>
    (same entry.1).mp (List.mem_map_of_mem mem)
  refine reconcile_eq_ok_iff.mpr ⟨[], ?_, .nil s, ?_, ?_⟩
  · exact (missing_eq_nil fun id mem => (same id).mpr mem).symm
  · have gone : m.entries.filter (·.1 ∉ states) = [] :=
      List.filter_eq_nil_iff.mpr fun entry mem => by simpa using every entry mem
    rw [gone]
    rfl
  · rw [List.append_nil]
    exact (List.filter_eq_self.mpr fun entry mem => decide_eq_true (every entry mem)).symm

/-- A matching that goes through makes a node once for each state without one, in the order of the
states, and asks for no other. The map then lists the old nodes of these states as they were, and
the new ones after them; the other old nodes are handed back, as they were and in their order.
Matching again with the same states makes nothing and changes nothing. -/
theorem reconcile_matches (create : String → EStateM ε σ (StateNode α)) (states : List String)
    (differ : states.Nodup) (m m' : NodeMap α) (s s' : σ) (outcome : Reconciliation α)
    (ended : reconcile create states (m, s) = .ok outcome (m', s')) :
    ∃ made, made.map Prod.fst = states.filter (· ∉ m.ids) ∧ Makes create s made s' ∧
      (∀ asked, reconcile (listing create) states (m, (s, asked)) =
        .ok outcome (m', (s', asked ++ states.filter (· ∉ m.ids)))) ∧
      m'.entries = m.entries.filter (·.1 ∈ states) ++ made ∧
      m'.ids.Perm states ∧
      outcome.destroyed = (m.entries.filter (·.1 ∉ states)).map Prod.snd ∧
      outcome.created = (states.filter (· ∉ m.ids)).length ∧
      outcome.created ≤ m'.entries.length ∧
      ∀ {ε' σ' : Type} (create' : String → EStateM ε' σ' (StateNode α)) (t : σ'),
        reconcile create' states (m', t) = .ok { created := 0, destroyed := [] } (m', t) := by
  obtain ⟨made, named, makes, rfl, entries⟩ := reconcile_eq_ok_iff.mp ended
  have same : ∀ id, id ∈ m'.ids ↔ id ∈ states := fun id => mem_ids_of_reconcile named entries
  have fresh : made.map Prod.fst = states.filter (· ∉ m.ids) := by
    rw [named, missing_of_nodup differ]
  refine ⟨made, fresh, makes, ?_, entries, perm_of_mem_iff differ same, rfl, ?_, ?_,
    fun create' t => reconcile_of_mem_iff same⟩
  · intro asked
    rw [← fresh]
    exact reconcile_eq_ok_iff.mpr ⟨made, named, makes.listing asked, rfl, entries⟩
  · rw [← fresh, List.length_map]
  · rw [entries, List.length_append]
    exact Nat.le_add_left _ _

/-- A map with nodes for `A`, `B` and `C` is matched with `D`, `C`, `A` and `E`. The new nodes get
the next handles. -/
theorem reconcile_matches_slots :
    let node (id : String) (handle : Nat) : StateNode Nat :=
      { id, handle := ⟨handle⟩, minSize := 1, position := ⟨handle, 0⟩ }
    let create (id : String) : EStateM Unit Nat (StateNode Nat) := fun n => .ok (node id n) (n + 1)
    let m : NodeMap Nat :=
      { entries := [("A", node "A" 4), ("B", node "B" 2), ("C", node "C" 7)], nodup := by decide }
    let m' : NodeMap Nat :=
      { entries := [("A", node "A" 4), ("C", node "C" 7), ("D", node "D" 8), ("E", node "E" 9)]
        nodup := by decide }
    ["D", "C", "A", "E"].Nodup ∧
      reconcile create ["D", "C", "A", "E"] (m, 8) =
        .ok { created := 2, destroyed := [node "B" 2] } (m', 10) ∧
      (∀ asked, reconcile (listing create) ["D", "C", "A", "E"] (m, (8, asked)) =
        .ok { created := 2, destroyed := [node "B" 2] } (m', (10, asked ++ ["D", "E"]))) := by
  intro node create m m'
  have differ : ["D", "C", "A", "E"].Nodup := by decide
  have ended : reconcile create ["D", "C", "A", "E"] (m, 8) =
      .ok { created := 2, destroyed := [node "B" 2] } (m', 10) := by
    refine reconcile_eq_ok_iff.mpr ⟨[("D", node "D" 8), ("E", node "E" 9)], ?_, ?_, ?_, ?_⟩
    · decide
    · exact .cons rfl (.cons rfl (.nil _))
    · decide
    · decide
  obtain ⟨made, -, -, asked, -⟩ :=
    reconcile_matches create ["D", "C", "A", "E"] differ m m' 8 10 _ ended
  exact ⟨differ, ended, asked⟩

end TransitionDiagram.NodeMap
