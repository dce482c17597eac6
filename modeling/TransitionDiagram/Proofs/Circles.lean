/-
TransitionDiagram.Proofs.Circles: making and removing the circles of states.

Each step is told by what it does to the sketch: a circle that is made is the last one of the new
sketch, and removing circles leaves those of the states that are kept. A step that ends with a
fault leaves the sketch as it was; what was made of an unfinished circle is spare.

  §1 one circle
  §2 many circles
-/
import TransitionDiagram.Proofs.Sketch
import TransitionDiagram.Proofs.SurfaceCalls

namespace TransitionDiagram

open OnGrid

variable {α σ : Type}

/-- A loop that is told to go on after faults and meets none. -/
theorem Scene.ends_forEach_cons {β : Type} {action : β → Action α σ Unit} {b : β}
    {rest : List β} {s : σ} {good : σ → Prop}
    (first : Ends (action b s) (fun _ s' => Ends (Scene.forEach action rest s')
      (fun _ s'' => good s'') (fun _ => False)) (fun _ => False)) :
    Ends (Scene.forEach action (b :: rest) s) (fun _ s' => good s') (fun _ => False) := by
  obtain ⟨_, s', ended, h⟩ := first.exists_ok
  simp only [Scene.forEach, ended]
  exact h

variable [Scalar α] [DrawingSurface α σ] [OnGrid α σ]

/-! ## §1 One circle -/

/-- After a call was refused the surface still holds a sketch, perhaps with more spare nodes. -/
structure Spoilt (k : Sketch α) (s s' : σ) : Prop where
  only : OnlyNodes s s'
  holds : ∃ spare, (grid s').nodes.Holds k.cells spare
  refusal : ∃ call, mayRefuse s call

variable {k : Sketch α} {s : σ} {spare : Nat}

theorem spoilt_of_refused {s' s'' : σ} {call : SurfaceCall}
    (extra : List (Handle × SceneNode α)) (only : OnlyNodes s s')
    (holds : (grid s').nodes.Holds (extra ++ k.cells) spare) (refused : Refused call s' s'') :
    Spoilt k s s'' := by
  refine ⟨only.trans refused.only, ?_, call, ?_⟩
  · rw [refused.nodes]
    induction extra generalizing spare with
    | nil => exact ⟨spare, holds⟩
    | cons cell rest ih => exact ih holds.forget
  · rw [← only.mayRefuse]; exact refused.allowed

/-- A new circle belongs to the sketch as soon as its group is attached to the root. -/
theorem createCircle_ends (id : String) (holds : (grid s).nodes.Holds k.cells spare) :
    Ends (Scene.createCircle id s)
      (fun node s' => OnlyNodes s s' ∧ ∃ x : ShownState α, x.node = node ∧ x.place = .origin ∧
        node = .unplaced id node.handle (Cell.labelWidth id) ∧
        (grid s').nodes.Holds { k with states := k.states ++ [x] }.cells spare)
      (Spoilt k s) := by
  unfold Scene.createCircle
  obtain ⟨only₁, holds₁⟩ := createGroup_holds holds
  refine (Ends.modifyGet ?_).bind
  obtain ⟨only₂, holds₂⟩ := createNode_holds .circle holds₁
  refine (Ends.modifyGet ?_).bind
  generalize (DrawingSurface.createGroup s).1 = group at *
  generalize (DrawingSurface.createGroup s).2 = s₁ at *
  generalize (DrawingSurface.createNode Shape.circle s₁).1 = circle at *
  generalize (DrawingSurface.createNode Shape.circle s₁).2 = s₂ at *
  have only := only₁.trans only₂
  -- until the group is a child of the root, a refused call leaves its nodes spare
  refine (addChild_ends holds₂.get_head (holds₂.perm (.swap _ _ _))).andThen ?_
    (fun s' => spoilt_of_refused [_, _] only holds₂)
  intro _ s₃ good
  obtain ⟨only₃, holds₃⟩ := good
  replace only := only.trans only₃
  refine (createText_ends id .label .black holds₃).andThen ?_
    (fun s' => spoilt_of_refused [_, _] only holds₃)
  intro text s₄ good
  obtain ⟨only₄, holds₄⟩ := good
  replace only := only.trans only₄
  refine (addChild_ends holds₄.get_head (holds₄.perm (.swap _ _ _))).andThen ?_
    (fun s' => spoilt_of_refused [_, _, _] only holds₄)
  intro _ s₅ good
  obtain ⟨only₅, holds₅⟩ := good
  replace only := only.trans only₅
  have text_there := holds₅.get (text, _) (List.mem_cons_of_mem _ List.mem_cons_self)
  refine (measure_ends text_there rfl).andThen ?_
    (fun s' => spoilt_of_refused [_, _, _] only holds₅)
  intro width s₆ good
  obtain ⟨rfl, only₆, nodes₆⟩ := good
  rw [← nodes₆] at holds₅
  replace only := only.trans only₆
  refine (Ends.get ?_).bind
  rw [root]
  -- the nodes of the circle are complete, and the root is needed first
  let x : ShownState α :=
    { node := .unplaced id group (Cell.labelWidth id), place := .origin, circle, label := text }
  have order : ((group, x.group) ::
      (text, GridSurface.freshNode (.text id (Cell.labelWidth id))) ::
        (circle, GridSurface.freshNode (.shape .circle)) :: k.cells).Perm
      ((GridSurface.root, k.top) :: (x.cells ++ (k.layer, k.layerNode) :: k.parts)) := by
    have swapped : (x.cells ++ k.cells).Perm _ := List.perm_middle
    exact (List.Perm.cons _ (.swap _ _ _)).trans swapped
  refine (addChild_ends holds₅.get_head (holds₅.perm order)).andThen ?_
    (fun s' => spoilt_of_refused [_, _, _] only holds₅)
  intro _ s₇ good
  obtain ⟨only₇, holds₇⟩ := good
  exact ⟨only.trans only₇, x, rfl, rfl, rfl, Sketch.holds_addState (.refl _) holds₇⟩

theorem destroyCircle_ends {before after : List (ShownState α)} {x : ShownState α}
    (holds : (grid s).nodes.Holds { k with states := before ++ x :: after }.cells spare) :
    Ends (Scene.destroyCircle x.node s)
      (fun _ s' => OnlyNodes s s' ∧
        (grid s').nodes.Holds { k with states := before ++ after }.cells spare)
      (Refused .removeChild s) := by
  unfold Scene.destroyCircle
  refine (Ends.get ?_).bind
  rw [root]
  have listed : x.node.handle ∈ { k with states := before ++ x :: after }.top.children := by
    simp [Sketch.top]
  have bare : ∀ leaf ∈ x.leaves, leaf.2.children = [] := by
    simp [ShownState.leaves, GridSurface.freshNode]
  have order := Sketch.cells_perm_state k before after x
  refine (removeChild_ends listed rfl bare (holds.perm order)).imp ?_ (fun _ refused => refused)
  intro _ s' good
  obtain ⟨only, holds'⟩ := good
  rw [Sketch.erase_top holds] at holds'
  exact ⟨only, holds'⟩

/-! ## §2 Many circles -/

/-- Removing the circles of some states leaves those of the others, in their order. -/
theorem destroyCircles_ends (keep : ShownState α → Bool) (certain : ¬ mayRefuse s .removeChild)
    (before states : List (ShownState α))
    (holds : (grid s).nodes.Holds { k with states := before ++ states }.cells spare) :
    Ends (Scene.forEach Scene.destroyCircle ((states.filter (!keep ·)).map (·.node)) s)
      (fun _ s' => OnlyNodes s s' ∧
        (grid s').nodes.Holds { k with states := before ++ states.filter keep }.cells spare)
      (fun _ => False) := by
  induction states generalizing before s with
  | nil => exact ⟨.refl s, holds⟩
  | cons x states ih =>
    by_cases kept : keep x = true
    · have moved : before ++ x :: states = (before ++ [x]) ++ states := by simp
      have split : before ++ x :: states.filter keep = (before ++ [x]) ++ states.filter keep := by
        simp
      rw [List.filter_cons_of_neg (by simp [kept]), List.filter_cons_of_pos kept, split]
      rw [moved] at holds
      exact ih certain (before ++ [x]) holds
    · rw [List.filter_cons_of_pos (by simp [kept]), List.filter_cons_of_neg kept, List.map_cons]
      refine Scene.ends_forEach_cons ((destroyCircle_ends holds).imp ?_ ?_)
      · intro _ s' good
        obtain ⟨only, holds'⟩ := good
        rw [← only.mayRefuse] at certain
        exact (ih certain before holds').imp (fun _ _ later => ⟨only.trans later.1, later.2⟩)
          (fun _ later => later)
      · exact fun _ refused => certain refused.allowed

end TransitionDiagram
