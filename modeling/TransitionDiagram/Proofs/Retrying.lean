/-
TransitionDiagram.Proofs.Retrying: matchings that fail, and that are tried again.

A matching fails where making a node fails. It has then put the nodes that were made into the map,
behind the old ones, and has taken none out. A second matching with the same states finds them
there and goes on where the first one stopped. So the nodes that are made in all tries together are
one for each missing state, in the order of the states, and the last try ends as a matching does
that never fails. Vanished states are handed back by the last try alone.

Nodes may be made by another action in each try, from any state beside the map.

  §1 matchings that fail
  §2 the nodes that a try makes
  §3 trying again
-/
import TransitionDiagram.Proofs.Matching

namespace TransitionDiagram.NodeMap

variable {α ε σ : Type} {create : String → EStateM ε σ (StateNode α)} {m m' : NodeMap α}
  {s s' s₁ : σ} {e : ε} {id : String} {states rest : List String}
  {made : List (String × StateNode α)}

/-! ## §1 Failing -/

/-- If making a node fails, the map has gained the nodes of the states before that. -/
theorem createMissing_error (ended : createMissing create states (m, s) = .error e (m', s')) :
    ∃ made id rest s₁, missing m.ids states = made.map Prod.fst ++ id :: rest ∧
      Makes create s made s₁ ∧ create id s₁ = .error e s' ∧ m'.entries = m.entries ++ made := by
  induction states generalizing m s with
  | nil =>
    rw [createMissing_nil] at ended
    contradiction
  | cons id rest ih =>
    by_cases there : m.contains id = true
    · rw [createMissing_of_contains there] at ended
      rw [missing, if_pos (contains_iff.mp there)]
      exact ih ended
    · rw [missing, if_neg fun mem => there (contains_iff.mpr mem)]
      cases first : create id s with
      | error e s₁ =>
        rw [createMissing_of_error there first] at ended
        cases ended
        exact ⟨[], id, _, s, rfl, .nil s, first, (List.append_nil _).symm⟩
      | ok node s₁ =>
        rw [createMissing_of_ok there first] at ended
        cases others : createMissing create rest (m.insert id node, s₁) with
        | ok count after =>
          rw [others] at ended
          contradiction
        | error e after =>
          rw [others] at ended
          cases ended
          obtain ⟨made, id', rest', s₂, named, makes, failed, entries⟩ := ih others
          refine ⟨(id, node) :: made, id', rest', s₂, ?_, .cons first makes, failed, ?_⟩
          · rw [← ids_insert there, named]; rfl
          · rw [entries, entries_insert there, List.append_assoc]; rfl

/-- Whenever nodes are made for the first missing states and the next one fails, this is what is
done. -/
theorem createMissing_of_makes_error (makes : Makes create s made s₁)
    (failed : create id s₁ = .error e s')
    (named : missing m.ids states = made.map Prod.fst ++ id :: rest) :
    ∃ m', createMissing create states (m, s) = .error e (m', s') ∧
      m'.entries = m.entries ++ made := by
  induction states generalizing m s made with
  | nil => cases made <;> contradiction
  | cons first others ih =>
    rw [missing] at named
    by_cases there : first ∈ m.ids
    · rw [if_pos there] at named
      rw [createMissing_of_contains (contains_iff.mpr there)]
      exact ih makes named
    · rw [if_neg there] at named
      have absent : ¬ m.contains first = true := fun mem => there (contains_iff.mp mem)
      cases makes with
      | nil =>
        obtain ⟨rfl, -⟩ := List.cons.inj named
        exact ⟨m, createMissing_of_error absent failed others, (List.append_nil _).symm⟩
      | @cons _ s₂ _ id' node later made_first makes =>
        obtain ⟨rfl, others_named⟩ := List.cons.inj named
        have grown : (m.insert first node).ids = m.ids ++ [first] := ids_insert absent
        rw [← grown] at others_named
        obtain ⟨m', ended, entries⟩ := ih makes others_named
        refine ⟨m', ?_, ?_⟩
        · rw [createMissing_of_ok absent made_first, ended]
        · rw [entries, entries_insert absent, List.append_assoc]; rfl

theorem reconcile_eq_error_iff_createMissing :
    reconcile create states (m, s) = .error e (m', s') ↔
      createMissing create states (m, s) = .error e (m', s') := by
  cases first : createMissing create states (m, s) with
  | error e after =>
    unfold reconcile
    rw [Action.bind_apply, first]
    simp only [EStateM.Result.error.injEq]
  | ok count after =>
    rw [reconcile_of_createMissing first]
    simp

/-- A matching fails just where making a node does. Then the map has the old nodes as they were and
those that were made before. -/
theorem reconcile_eq_error_iff :
    reconcile create states (m, s) = .error e (m', s') ↔
      ∃ made id rest s₁, missing m.ids states = made.map Prod.fst ++ id :: rest ∧
        Makes create s made s₁ ∧ create id s₁ = .error e s' ∧
        m'.entries = m.entries ++ made := by
  rw [reconcile_eq_error_iff_createMissing]
  constructor
  · exact createMissing_error
  · rintro ⟨made, id, rest, s₁, named, makes, failed, entries⟩
    obtain ⟨m₁, ended, entries₁⟩ := createMissing_of_makes_error makes failed named
    rw [ended, eq_of_entries (entries₁.trans entries.symm)]

/-! ## §2 One try -/

/-- The same action, which also notes the nodes that it makes. -/
def noting (create : String → EStateM ε σ (StateNode α)) (id : String) :
    EStateM ε (σ × List (String × StateNode α)) (StateNode α) := fun (s, made) =>
  match create id s with
  | .ok node s' => .ok node (s', made ++ [(id, node)])
  | .error e s' => .error e (s', made)

/-- The nodes that are made in a matching, whether it goes through or not. -/
def built (create : String → EStateM ε σ (StateNode α)) (states : List String) (m : NodeMap α)
    (s : σ) : List (String × StateNode α) :=
  (stateOf (reconcile (noting create) states (m, (s, [])))).2.2

theorem Makes.noting (makes : Makes create s made s') (before : List (String × StateNode α)) :
    Makes (noting create) (s, before) made (s', before ++ made) := by
  induction makes generalizing before with
  | nil s =>
    rw [List.append_nil]
    exact .nil _
  | @cons s s' s'' id node rest first _ ih =>
    have noted : NodeMap.noting create id (s, before) = .ok node (s', before ++ [(id, node)]) := by
      simp only [NodeMap.noting, first]
    refine .cons noted ?_
    simpa using ih (before ++ [(id, node)])

theorem noting_of_error (failed : create id s = .error e s')
    (before : List (String × StateNode α)) :
    noting create id (s, before) = .error e (s', before) := by
  simp only [noting, failed]

/-- A matching that goes through has made the nodes of all missing states. -/
theorem built_of_ok {outcome : Reconciliation α}
    (ended : reconcile create states (m, s) = .ok outcome (m', s')) :
    (built create states m s).map Prod.fst = missing m.ids states ∧
      Makes create s (built create states m s) s' ∧
      outcome = {
        created := (built create states m s).length
        destroyed := (m.entries.filter (·.1 ∉ states)).map Prod.snd } ∧
      m'.entries = m.entries.filter (·.1 ∈ states) ++ built create states m s := by
  obtain ⟨made, named, makes, rfl, entries⟩ := reconcile_eq_ok_iff.mp ended
  have noted := reconcile_eq_ok_iff.mpr ⟨made, named, makes.noting [], rfl, entries⟩
  have all : built create states m s = made := by
    rw [built, noted]; rfl
  rw [all]
  exact ⟨named, makes, rfl, entries⟩

/-- A matching that fails has made the nodes of the missing states before the one that failed. -/
theorem built_of_error (ended : reconcile create states (m, s) = .error e (m', s')) :
    ∃ id rest s₁, missing m.ids states = (built create states m s).map Prod.fst ++ id :: rest ∧
      Makes create s (built create states m s) s₁ ∧ create id s₁ = .error e s' ∧
      m'.entries = m.entries ++ built create states m s := by
  obtain ⟨made, id, rest, s₁, named, makes, failed, entries⟩ := reconcile_eq_error_iff.mp ended
  have noted := reconcile_eq_error_iff.mpr
    ⟨made, id, rest, _, named, makes.noting [], noting_of_error failed _, entries⟩
  have all : built create states m s = made := by
    rw [built, noted]; rfl
  rw [all]
  exact ⟨id, rest, s₁, named, makes, failed, entries⟩

/-! ## §3 Trying again -/

/-- Matchings with the same states that fail, one after the other, each with an action of its own
and from a state of its own. The nodes that they make are listed. -/
inductive Fails (ε σ : Type) (states : List String) :
    NodeMap α → List (String × StateNode α) → NodeMap α → Prop where
  | never (m : NodeMap α) : Fails ε σ states m [] m
  | again {m m₁ m₂ : NodeMap α} {create : String → EStateM ε σ (StateNode α)} {s s' : σ} {e : ε}
    {later : List (String × StateNode α)}
    (failed : reconcile create states (m, s) = .error e (m₁, s'))
    (more : Fails ε σ states m₁ later m₂) :
    Fails ε σ states m (built create states m s ++ later) m₂

/-- States that have got a node are not missing any more, and the others still are. -/
theorem missing_append (differ : states.Nodup) {ids done : List String}
    (split : missing ids states = done ++ rest) : missing (ids ++ done) states = rest := by
  rw [missing_of_nodup differ] at split ⊢
  have apart := (List.nodup_append.mp (split ▸ differ.filter _)).2.2
  calc states.filter (· ∉ ids ++ done)
    _ = (states.filter (· ∉ ids)).filter (· ∉ done) := by
      rw [List.filter_filter]
      refine List.filter_congr fun id _ => ?_
      simp [Bool.and_comm]
    _ = done.filter (· ∉ done) ++ rest.filter (· ∉ done) := by rw [split, List.filter_append]
    _ = rest := by
      have gone : done.filter (· ∉ done) = [] := by simp
      have stay : rest.filter (· ∉ done) = rest := List.filter_eq_self.mpr fun id mem =>
        decide_eq_true fun early => apart id early id mem rfl
      rw [gone, stay, List.nil_append]

/-- However often a matching fails, no node is lost, and the states that are still missing are the
later ones. -/
theorem Fails.entries {early : List (String × StateNode α)} (differ : states.Nodup)
    (fails : Fails ε σ states m early m') :
    m'.entries = m.entries ++ early ∧
      missing m.ids states = early.map Prod.fst ++ missing m'.ids states := by
  induction fails with
  | never m => exact ⟨(List.append_nil _).symm, rfl⟩
  | @again m m₁ m₂ create s s' e later failed _ ih =>
    obtain ⟨entries, named⟩ := ih
    obtain ⟨id, rest, -, split, -, -, entries₁⟩ := built_of_error failed
    have ids₁ : m₁.ids = m.ids ++ (built create states m s).map Prod.fst := by
      rw [ids, entries₁, List.map_append]; rfl
    refine ⟨?_, ?_⟩
    · rw [entries, entries₁, List.append_assoc]
    · rw [split, ← missing_append differ split, ← ids₁, named, List.map_append,
        List.append_assoc]

/-- An action that never fails makes a node for each of some states, one after the other. -/
theorem exists_makes (never : ∀ id s, ∃ node s', create id s = .ok node s') (ids : List String)
    (s : σ) : ∃ made s', made.map Prod.fst = ids ∧ Makes create s made s' := by
  induction ids generalizing s with
  | nil => exact ⟨[], s, rfl, .nil s⟩
  | cons id rest ih =>
    obtain ⟨node, s₁, first⟩ := never id s
    obtain ⟨made, s', named, makes⟩ := ih s₁
    exact ⟨(id, node) :: made, s', by rw [List.map_cons, named], .cons first makes⟩

/-- A matching whose action never fails goes through. -/
theorem exists_reconciled (never : ∀ id s, ∃ node s', create id s = .ok node s')
    (states : List String) (m : NodeMap α) (s : σ) :
    ∃ outcome m' s', reconcile create states (m, s) = .ok outcome (m', s') := by
  obtain ⟨made, s', named, makes⟩ := exists_makes never (missing m.ids states) s
  obtain ⟨m₁, first, -⟩ := createMissing_of_makes makes named
  exact ⟨_, _, s', reconcile_of_createMissing first⟩

/-- The old nodes of a map after a matching. -/
theorem filter_old (named : made.map Prod.fst = missing m.ids states) :
    (m.entries.filter (·.1 ∈ states) ++ made).filter (·.1 ∈ m.ids) =
      m.entries.filter (·.1 ∈ states) := by
  have old : (m.entries.filter (·.1 ∈ states)).filter (·.1 ∈ m.ids) =
      m.entries.filter (·.1 ∈ states) := List.filter_eq_self.mpr fun entry mem =>
    decide_eq_true (List.mem_map_of_mem (List.mem_filter.mp mem).1)
  have new : made.filter (·.1 ∈ m.ids) = [] := List.filter_eq_nil_iff.mpr fun entry mem => by
    simpa using (mem_missing.mp (named ▸ List.mem_map_of_mem mem)).2
  rw [List.filter_append, old, new, List.append_nil]

/-- A matching that fails leaves every old node in its slot and has the nodes that were made before
the failure behind them, in the order of the states. If matchings with the same states fail, however
often, and then one goes through, then a node was made just once for each missing state, in the
order of the states; the last matching counts those that were not made before it; and the order of
the map, the old nodes that stay and those that are handed back are those after any single matching
that goes through, as one does whose action never fails. -/
theorem retries_add_up (states : List String) (differ : states.Nodup) (m : NodeMap α) :
    (∀ (create : String → EStateM ε σ (StateNode α)) (s s' : σ) (e : ε) (m' : NodeMap α),
      reconcile create states (m, s) = .error e (m', s') →
        m'.entries = m.entries ++ built create states m s ∧
        ∃ id rest s₁, states.filter (· ∉ m.ids) =
            (built create states m s).map Prod.fst ++ id :: rest ∧
          Makes create s (built create states m s) s₁ ∧ create id s₁ = .error e s') ∧
    ∀ (early : List (String × StateNode α)) (m₁ m' : NodeMap α)
      (create : String → EStateM ε σ (StateNode α)) (s s' : σ) (outcome : Reconciliation α),
      Fails ε σ states m early m₁ → reconcile create states (m₁, s) = .ok outcome (m', s') →
        (early ++ built create states m₁ s).map Prod.fst = states.filter (· ∉ m.ids) ∧
        m₁.entries = m.entries ++ early ∧
        m'.entries = m.entries.filter (·.1 ∈ states) ++ (early ++ built create states m₁ s) ∧
        outcome.destroyed = (m.entries.filter (·.1 ∉ states)).map Prod.snd ∧
        outcome.created =
          (states.filter fun id => id ∉ m.ids ∧ id ∉ early.map Prod.fst).length ∧
        ∀ {ε' σ' : Type} (create' : String → EStateM ε' σ' (StateNode α)) (t : σ'),
          ((∀ id t, ∃ node t', create' id t = .ok node t') →
            ∃ once m'' t', reconcile create' states (m, t) = .ok once (m'', t')) ∧
          ∀ once m'' t', reconcile create' states (m, t) = .ok once (m'', t') →
            m''.ids = m'.ids ∧ once.destroyed = outcome.destroyed ∧
            m''.entries.filter (·.1 ∈ m.ids) = m'.entries.filter (·.1 ∈ m.ids) := by
  refine ⟨?_, ?_⟩
  · intro create s s' e m' failed
    obtain ⟨id, rest, s₁, named, makes, last, entries⟩ := built_of_error failed
    rw [missing_of_nodup differ] at named
    exact ⟨entries, id, rest, s₁, named, makes, last⟩
  · intro early m₁ m' create s s' outcome fails ended
    obtain ⟨entries₁, split⟩ := fails.entries differ
    obtain ⟨named, -, rfl, entries⟩ := built_of_ok ended
    generalize built create states m₁ s = late at named entries ⊢
    have all : (early ++ late).map Prod.fst = missing m.ids states := by
      rw [List.map_append, named, split]
    have ids₁ : m₁.ids = m.ids ++ early.map Prod.fst := by
      rw [ids, entries₁, List.map_append]; rfl
    -- what was made before the last try is of the states, so nothing of it is handed back
    have of_states : ∀ entry ∈ early, entry.1 ∈ states := fun entry mem =>
      mem_states_of_named all entry (List.mem_append_left _ mem)
    have stay : m₁.entries.filter (·.1 ∈ states) = m.entries.filter (·.1 ∈ states) ++ early := by
      simpa [entries₁] using filter_append_made (m := m) of_states
    have go : m₁.entries.filter (·.1 ∉ states) = m.entries.filter (·.1 ∉ states) := by
      simpa [entries₁] using filter_not_append_made (m := m) of_states
    rw [stay, List.append_assoc] at entries
    refine ⟨by rw [all, missing_of_nodup differ], entries₁, entries, by rw [go], ?_, ?_⟩
    · have left : states.filter (fun id => id ∉ m.ids ∧ id ∉ early.map Prod.fst) =
          missing m₁.ids states := by
        rw [missing_of_nodup differ, ids₁]
        exact List.filter_congr fun id _ => by by_cases old : id ∈ m.ids <;> simp [old]
      rw [left, ← named, List.length_map]
    · intro ε' σ' create' t
      refine ⟨fun never => exists_reconciled never states m t, ?_⟩
      intro once m'' t' ended'
      obtain ⟨named', -, rfl, entries'⟩ := built_of_ok ended'
      refine ⟨?_, by rw [go], ?_⟩
      · rw [ids, ids, entries, entries', List.map_append, List.map_append, named', all]
      · rw [entries, entries', filter_old named', filter_old all]

/-- A map with nodes for `A`, `B` and `C` is matched with `D`, `C`, `A`, `E` and `F`. Twice no node
is made for `E`. -/
theorem retries_add_up_third_try :
    let node (id : String) (handle : Nat) : StateNode Nat :=
      { id, handle := ⟨handle⟩, minSize := 1, position := ⟨handle, 0⟩ }
    let create (id : String) : EStateM Unit Nat (StateNode Nat) := fun n =>
      if id = "E" ∧ n < 13 then .error () (n + 2) else .ok (node id n) (n + 1)
    let states := ["D", "C", "A", "E", "F"]
    let m : NodeMap Nat :=
      { entries := [("A", node "A" 4), ("B", node "B" 2), ("C", node "C" 7)], nodup := by decide }
    let m₁ : NodeMap Nat :=
      { entries := m.entries ++ [("D", node "D" 8)], nodup := by decide }
    let m' : NodeMap Nat :=
      { entries := [("A", node "A" 4), ("C", node "C" 7), ("D", node "D" 8), ("E", node "E" 13),
          ("F", node "F" 14)]
        nodup := by decide }
    states.Nodup ∧
      reconcile create states (m, 8) = .error () (m₁, 11) ∧
      reconcile create states (m₁, 11) = .error () (m₁, 13) ∧
      reconcile create states (m₁, 13) =
        .ok { created := 2, destroyed := [node "B" 2] } (m', 15) ∧
      (built create states m 8 ++ (built create states m₁ 11 ++ []) ++
        built create states m₁ 13).map Prod.fst = ["D", "E", "F"] := by
  intro node create states m m₁ m'
  have differ : states.Nodup := by decide
  have first : reconcile create states (m, 8) = .error () (m₁, 11) :=
    reconcile_eq_error_iff.mpr
      ⟨[("D", node "D" 8)], "E", ["F"], 9, by decide, .cons rfl (.nil _), rfl, rfl⟩
  have second : reconcile create states (m₁, 11) = .error () (m₁, 13) :=
    reconcile_eq_error_iff.mpr ⟨[], "E", ["F"], 11, by decide, .nil _, rfl, by decide⟩
  have third : reconcile create states (m₁, 13) =
      .ok { created := 2, destroyed := [node "B" 2] } (m', 15) :=
    reconcile_eq_ok_iff.mpr ⟨[("E", node "E" 13), ("F", node "F" 14)], by decide,
      .cons rfl (.cons rfl (.nil _)), by decide, by decide⟩
  have fails : Fails Unit Nat states m _ m₁ := .again first (.again second (.never m₁))
  obtain ⟨-, retried⟩ := retries_add_up states differ m
  exact ⟨differ, first, second, third, (retried _ m₁ m' create 13 15 _ fails third).1⟩

end TransitionDiagram.NodeMap
