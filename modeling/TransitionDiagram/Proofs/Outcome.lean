/-
TransitionDiagram.Proofs.Outcome: what is known of an action when it ends.

An action ends with a result or with a fault, and with a state in either case. `Ends` says both at
once: which results and states there are without a fault, and which states a fault leaves behind.
So one walk through an action proves what it does and what it keeps when it fails midway.

  §1 outcomes
  §2 single steps
  §3 actions one after the other
  §4 loops
-/
import TransitionDiagram.Surface.Interface

namespace TransitionDiagram

variable {α ε σ β γ : Type}

/-! ## §1 Outcomes -/

/-- The outcome is good, or it is a fault that leaves a state behind which is not too bad. -/
def Ends (outcome : EStateM.Result ε σ β) (good : β → σ → Prop) (bad : σ → Prop) : Prop :=
  match outcome with
  | .ok b s => good b s
  | .error _ s => bad s

/-- The state that an outcome leaves behind. -/
def stateOf : EStateM.Result ε σ β → σ
  | .ok _ s => s
  | .error _ s => s

/-! ## §2 Single steps -/

namespace Action

variable (s : σ)

@[simp] theorem get_apply : (get : EStateM ε σ σ) s = .ok s s := rfl

@[simp] theorem set_apply (s' : σ) : (set s' : EStateM ε σ PUnit) s = .ok ⟨⟩ s' := rfl

@[simp] theorem modify_apply (f : σ → σ) : (modify f : EStateM ε σ PUnit) s = .ok ⟨⟩ (f s) := rfl

@[simp] theorem pure_apply (b : β) : (pure b : EStateM ε σ β) s = .ok b s := rfl

@[simp] theorem throw_apply (e : ε) : (throw e : EStateM ε σ β) s = .error e s := rfl

/-- After the first action the second one runs, unless the first ended with a fault. -/
theorem bind_apply (x : EStateM ε σ β) (f : β → EStateM ε σ γ) :
    (x >>= f) s = match x s with
      | .ok b s' => f b s'
      | .error e s' => .error e s' := by
  change EStateM.bind x f s = _
  unfold EStateM.bind
  cases x s <;> rfl

end Action

namespace Ends

variable {outcome : EStateM.Result ε σ β} {good good' : β → σ → Prop} {bad bad' : σ → Prop}

theorem imp (h : Ends outcome good bad) (hg : ∀ b s, good b s → good' b s)
    (hb : ∀ s, bad s → bad' s) : Ends outcome good' bad' := by
  cases outcome with
  | ok b s => exact hg b s h
  | error e s => exact hb s h

/-- What holds after every result and every fault holds of the state left behind. -/
theorem state {P : σ → Prop} (h : Ends outcome good bad) (hg : ∀ b s, good b s → P s)
    (hb : ∀ s, bad s → P s) : P (stateOf outcome) := by
  cases outcome with
  | ok b s => exact hg b s h
  | error e s => exact hb s h

/-- What holds of the state left behind holds in either case. -/
theorem of_state {P : σ → Prop} (h : P (stateOf outcome)) : Ends outcome (fun _ s => P s) P := by
  cases outcome <;> exact h

theorem and (h : Ends outcome good bad) (h' : Ends outcome good' bad') :
    Ends outcome (fun b s => good b s ∧ good' b s) (fun s => bad s ∧ bad' s) := by
  cases outcome <;> exact ⟨h, h'⟩

theorem of_ok {b : β} {s : σ} (h : Ends outcome good bad) (ho : outcome = .ok b s) : good b s := by
  subst ho; exact h

theorem of_error {e : ε} {s : σ} (h : Ends outcome good bad) (ho : outcome = .error e s) :
    bad s := by
  subst ho; exact h

theorem exists_ok (h : Ends outcome good (fun _ => False)) :
    ∃ b s, outcome = .ok b s ∧ good b s := by
  cases outcome with
  | ok b s => exact ⟨b, s, rfl, h⟩
  | error e s => exact h.elim

/-! ## §3 One after the other -/

theorem bind_of_ok {x : EStateM ε σ β} {f : β → EStateM ε σ γ} {s s' : σ} {b : β}
    (ended : x s = .ok b s') : (x >>= f) s = f b s' := by
  rw [Action.bind_apply, ended]

theorem bind_of_error {x : EStateM ε σ β} {f : β → EStateM ε σ γ} {s s' : σ} {e : ε}
    (ended : x s = .error e s') : (x >>= f) s = .error e s' := by
  rw [Action.bind_apply, ended]

/-- What holds after both actions, or after the first one has ended with a fault. -/
theorem bind {x : EStateM ε σ β} {f : β → EStateM ε σ γ} {s : σ} {good : γ → σ → Prop}
    (h : Ends (x s) (fun b s' => Ends (f b s') good bad) bad) : Ends ((x >>= f) s) good bad := by
  cases ended : x s with
  | ok b s' => rw [bind_of_ok ended]; rw [ended] at h; exact h
  | error e s' => rw [bind_of_error ended]; rw [ended] at h; exact h

theorem andThen {x : EStateM ε σ β} {f : β → EStateM ε σ γ} {s : σ} {good : γ → σ → Prop}
    {good₁ : β → σ → Prop} {bad₁ : σ → Prop} (first : Ends (x s) good₁ bad₁)
    (next : ∀ b s', good₁ b s' → Ends (f b s') good bad) (failed : ∀ s', bad₁ s' → bad s') :
    Ends ((x >>= f) s) good bad :=
  (first.imp next failed).bind

theorem modifyGet {f : σ → β × σ} {s : σ} (h : good (f s).1 (f s).2) :
    Ends ((modifyGet f : EStateM ε σ β) s) good bad := h

theorem get {good : σ → σ → Prop} {s : σ} (h : good s s) :
    Ends ((get : EStateM ε σ σ) s) good bad := h

theorem set {good : PUnit → σ → Prop} {s s' : σ} (h : good ⟨⟩ s') :
    Ends ((set s' : EStateM ε σ PUnit) s) good bad := h

/-! ## §4 Loops -/

/-- A loop over a list keeps what every round hands on to the next. -/
theorem forM {f : γ → EStateM ε σ PUnit} {inv : List γ → σ → Prop}
    (round : ∀ c rest s, inv (c :: rest) s → Ends (f c s) (fun _ s' => inv rest s') bad) :
    ∀ (items : List γ) (s : σ), inv items s →
      Ends (items.forM f s) (fun _ s' => inv [] s') bad := by
  intro items
  induction items with
  | nil => intro s h; exact h
  | cons c rest ih =>
    intro s h
    exact (round c rest s h).andThen (fun _ s' h' => ih s' h') (fun _ h' => h')

end Ends

end TransitionDiagram
