/-
TransitionDiagram.Proofs.Refusals: removals that were refused.

A surface with a schedule counts its calls, so two of its states tell which removals lie between
them, and the schedule tells which of these were refused. `Booked` compares this with a number of
nodes that should be gone: there are none in the end if and only if there were none at first and no
removal in between was refused. This can be said of each part of a run and put together.

  §1 what lies between two states of a surface
  §2 calls other than removals
  §3 removals
-/
import TransitionDiagram.Proofs.Respecting

namespace TransitionDiagram

variable {α σ β : Type}

namespace Unreliable

/-! ## §1 Between two states -/

/-- No removal was refused from one state to a later one. -/
def NoRemovalRefused (s s' : Unreliable σ) : Prop :=
  ∀ turn, s.made.removeChild ≤ turn → turn < s'.made.removeChild →
    s.refuses .removeChild turn = false

/-- No removal was tried. -/
structure SameRemovals (s s' : Unreliable σ) : Prop where
  refuses : s'.refuses = s.refuses
  made : s'.made.removeChild = s.made.removeChild

/-- Of the nodes that should be gone there are none in the end if and only if there were none at
first and no removal was refused. -/
structure Booked (strays strays' : Nat) (s s' : Unreliable σ) : Prop where
  refuses : s'.refuses = s.refuses
  made : s.made.removeChild ≤ s'.made.removeChild
  clean : strays' = 0 ↔ strays = 0 ∧ s.NoRemovalRefused s'

variable {s s' s'' : Unreliable σ} {n n' n'' : Nat}

theorem SameRemovals.lasting : Lasting (SameRemovals (σ := σ)) where
  refl _ := ⟨rfl, rfl⟩
  trans first second :=
    ⟨second.refuses.trans first.refuses, second.made.trans first.made⟩

/-- No removal was refused in a whole run if none was in either part of it. -/
theorem noRemovalRefused_iff (refuses : s'.refuses = s.refuses)
    (before : s.made.removeChild ≤ s'.made.removeChild)
    (after : s'.made.removeChild ≤ s''.made.removeChild) :
    s.NoRemovalRefused s'' ↔ s.NoRemovalRefused s' ∧ s'.NoRemovalRefused s'' := by
  simp only [NoRemovalRefused, refuses]
  constructor
  · intro none
    constructor
    · exact fun turn low high => none turn low (by omega)
    · exact fun turn low high => none turn (by omega) high
  · intro none turn low high
    by_cases early : turn < s'.made.removeChild
    · exact none.1 turn low early
    · exact none.2 turn (by omega) high

namespace Booked

theorem trans (first : Booked n n' s s') (second : Booked n' n'' s' s'') : Booked n n'' s s'' where
  refuses := second.refuses.trans first.refuses
  made := Nat.le_trans first.made second.made
  clean := by
    rw [second.clean, first.clean, noRemovalRefused_iff first.refuses first.made second.made,
      and_assoc]

theorem of_same (same : SameRemovals s s') : Booked n n s s' where
  refuses := same.refuses
  made := Nat.le_of_eq same.made.symm
  clean := by
    have none : s.NoRemovalRefused s' := by
      intro turn low high
      rw [same.made] at high
      omega
    simp [none]

theorem refl (s : Unreliable σ) : Booked n n s s :=
  .of_same ⟨rfl, rfl⟩

end Booked

/-! ## §2 Other calls -/

theorem attempt_sameRemovals {call : SurfaceCall} (other : call ≠ .removeChild)
    (action : Action α σ β) : Respects (attempt call action) SameRemovals := by
  intro s
  have made : (s.made.increment call).removeChild = s.made.removeChild := by
    cases call <;> first | contradiction | rfl
  rw [attempt_apply]
  by_cases refused : s.refuses call (s.made.get call) = true
  · rw [if_pos refused]
    exact ⟨rfl, made⟩
  · rw [if_neg refused]
    simp only [onInner]
    cases action s.inner <;> exact ⟨rfl, made⟩

/-- Calls other than removals try no removal. -/
theorem lastingOnSurface_sameRemovals [DrawingSurface α σ] :
    LastingOnSurface (SameRemovals (σ := σ)) where
  lasting := SameRemovals.lasting
  createGroup _ := ⟨rfl, rfl⟩
  createNode _ _ := ⟨rfl, rfl⟩
  createText _ _ _ := attempt_sameRemovals (by decide) _
  measure _ := attempt_sameRemovals (by decide) _
  addChild _ _ := attempt_sameRemovals (by decide) _
  setPosition _ _ := attempt_sameRemovals (by decide) _
  setCircleTemplate _ _ := ⟨rfl, rfl⟩
  clear _ := ⟨rfl, rfl⟩

theorem update_sameRemovals [DrawingSurface α σ] :
    Respects (DrawingSurface.update : Action α (Unreliable σ) Unit) SameRemovals :=
  attempt_sameRemovals (by decide) _

/-! ## §3 Removals -/

/-- One removal was tried, and was refused or not. -/
structure Tried (refused : Bool) (s s' : Unreliable σ) : Prop where
  refuses : s'.refuses = s.refuses
  made : s'.made.removeChild = s.made.removeChild + 1
  turn : s.refuses .removeChild s.made.removeChild = refused

theorem Tried.noRemovalRefused_iff {refused : Bool} (tried : Tried refused s s') :
    s.NoRemovalRefused s' ↔ refused = false := by
  rw [← tried.turn]
  constructor
  · exact fun none => none _ (Nat.le_refl _) (by rw [tried.made]; omega)
  · intro passed turn low high
    rw [tried.made] at high
    rw [show turn = s.made.removeChild by omega]
    exact passed

theorem Booked.of_passed (tried : Tried false s s') : Booked n n s s' where
  refuses := tried.refuses
  made := by rw [tried.made]; omega
  clean := by simp [tried.noRemovalRefused_iff]

/-- A removal that is refused leaves some node that should be gone. -/
theorem Booked.of_refused (tried : Tried true s s') : Booked n (n' + 1) s s' where
  refuses := tried.refuses
  made := by rw [tried.made]; omega
  clean := by simp [tried.noRemovalRefused_iff]

/-- A child that is there is removed unless the removal is refused. -/
theorem removeChild_tried [Scalar α] {s : Unreliable (GridSurface α)} {parent child : Handle}
    {node : SceneNode α} (there : s.inner.nodes.get? parent = some node)
    (listed : child ∈ node.children) :
    Ends (DrawingSurface.removeChild parent child s) (fun _ s' => Tried false s s')
      (fun s' => Tried true s s') := by
  change Ends (attempt .removeChild (GridSurface.removeChild parent child) s) _ _
  rw [attempt_apply]
  by_cases refused : s.refuses .removeChild (s.made.get .removeChild) = true
  · rw [if_pos refused]
    exact ⟨rfl, rfl, refused⟩
  · rw [if_neg refused]
    simp only [onInner, GridSurface.removeChild_ok there listed]
    exact ⟨rfl, rfl, Bool.eq_false_iff.mpr refused⟩

end Unreliable

end TransitionDiagram
