/-
TransitionDiagram.Proofs.Updates: what an update of a live diagram can do.

An update reads the text, compares it with the text of the last pass, and runs a pass if they
differ. So it ends in one of four ways, and `UpdateCases` lists them with all that is known of each;
nothing here depends on the surface or on the source of the text. The two other calls that run an
update change one field first: binding stores the source, and polling takes the deadline away.

  §1 new diagrams
  §2 reading
  §3 updates
  §4 binding and polling
-/
import TransitionDiagram.Live.Diagram
import TransitionDiagram.Proofs.Outcome

namespace TransitionDiagram

variable {α σ E : Type}

namespace LiveDiagram

variable {live : LiveDiagram α σ E}

/-! ## §1 New diagrams -/

/-- A diagram on a new scene, which follows nothing yet. -/
def unbound (scene : Scene α σ) (quiet : Duration) : LiveDiagram α σ E where
  scene := scene
  input := none
  text := none
  machine := .empty
  debouncer := { quiet }
  running := false
  lastPass := none
  passes := 0

theorem exists_unbound_of_new [DrawingSurface α σ] {surface : σ} {config : Config α}
    (made : LiveDiagram.new surface config = .ok live) :
    ∃ scene, Scene.new surface config.layout = .ok scene ∧ live = unbound scene config.quiet := by
  cases made_scene : Scene.new surface config.layout with
  | error fault =>
    simp only [LiveDiagram.new, made_scene, bind, Except.bind] at made
    contradiction
  | ok scene =>
    simp only [LiveDiagram.new, made_scene, bind, Except.bind, pure, Except.pure] at made
    cases made
    exact ⟨scene, rfl, rfl⟩

/-! ## §2 Reading -/

section

variable [EditSource α E]

/-- Reading changes nothing and gives the text of the source that is bound, or a fault. -/
theorem readText_cases (live : LiveDiagram α σ E) :
    (∃ fault, readText live = .error fault live) ∨
    (∃ source text, live.input = some source ∧
      EditSource.contents (α := α) source = .ok text ∧ readText live = .ok text live) := by
  cases bound : live.input with
  | none =>
    refine .inl ⟨.noInput, ?_⟩
    simp only [readText, Action.bind_apply, Action.get_apply, bound, Action.throw_apply]
  | some source =>
    cases contents : EditSource.contents (α := α) source with
    | error fault =>
      refine .inl ⟨fault, ?_⟩
      simp only [readText, Action.bind_apply, Action.get_apply, bound, contents]
      rfl
    | ok text =>
      refine .inr ⟨source, text, rfl, contents, ?_⟩
      simp only [readText, Action.bind_apply, Action.get_apply, bound, contents]
      rfl

/-- What can be read is read. -/
theorem readText_ok {source : E} {text : String} (bound : live.input = some source)
    (contents : EditSource.contents (α := α) source = .ok text) :
    readText live = .ok text live := by
  simp only [readText, Action.bind_apply, Action.get_apply, bound, contents]
  rfl

/-- What was read are the contents of the source. -/
theorem exists_source_of_readText {text : String} (read : readText live = .ok text live) :
    ∃ source, live.input = some source ∧ EditSource.contents (α := α) source = .ok text := by
  rcases readText_cases live with ⟨fault, failed⟩ | ⟨source, text', bound, contents, read'⟩
  · rw [failed] at read
    contradiction
  · rw [read'] at read
    cases read
    exact ⟨source, bound, contents⟩

end

/-! ## §3 Updates -/

/-- The diagram after a pass that went through. -/
def passed (live : LiveDiagram α σ E) (text : String) (stats : PassStats α)
    (scene : Scene α σ) : LiveDiagram α σ E :=
  { live with
    scene
    machine := .ofText text
    text := some text
    lastPass := some stats
    passes := live.passes + 1 }

variable [Scalar α] [DrawingSurface α σ]

theorem pass_apply (text : String) (live : LiveDiagram α σ E) :
    pass text live = match Scene.render (.ofText text) live.scene with
      | .ok stats scene => .ok () (live.passed text stats scene)
      | .error fault scene => .error fault { live with scene } := by
  simp only [pass, Action.bind_apply, onScene]
  cases Scene.render (.ofText text) live.scene <;> rfl

variable [EditSource α E]

/-- How an update ends: reading fails, the text is that of the last pass, a pass for another text
goes through, or it fails. -/
inductive UpdateCases (live : LiveDiagram α σ E) :
    EStateM.Result (Fault α) (LiveDiagram α σ E) Bool → Prop where
  | unread (fault : Fault α) (failed : readText live = .error fault live) :
      UpdateCases live (.error fault live)
  | skipped (text : String) (read : readText live = .ok text live)
      (seen : live.text = some text) : UpdateCases live (.ok false live)
  | passed (text : String) (stats : PassStats α) (scene : Scene α σ)
      (read : readText live = .ok text live) (new : live.text ≠ some text)
      (ended : Scene.render (.ofText text) live.scene = .ok stats scene) :
      UpdateCases live (.ok true (live.passed text stats scene))
  | failed (text : String) (fault : Fault α) (scene : Scene α σ)
      (read : readText live = .ok text live) (new : live.text ≠ some text)
      (ended : Scene.render (.ofText text) live.scene = .error fault scene) :
      UpdateCases live (.error fault { live with scene })

/-- An update on another text than that of the last pass is a pass. -/
theorem update_eq_pass {text : String} (read : readText live = .ok text live)
    (new : live.text ≠ some text) :
    update live = (do pass text; return true : Action α (LiveDiagram α σ E) Bool) live := by
  simp only [update, Action.bind_apply, read, Action.get_apply, if_neg new]

theorem update_cases (live : LiveDiagram α σ E) : live.UpdateCases (update live) := by
  rcases readText_cases live with ⟨fault, failed⟩ | ⟨_, text, -, -, read⟩
  · simp only [update, Action.bind_apply, failed]
    exact .unread fault failed
  · by_cases seen : live.text = some text
    · simp only [update, Action.bind_apply, read, Action.get_apply, if_pos seen]
      exact .skipped text read seen
    · rw [update_eq_pass read seen, Action.bind_apply, pass_apply]
      cases ended : Scene.render (.ofText text) live.scene with
      | ok stats scene => exact .passed text stats scene read seen ended
      | error fault scene => exact .failed text fault scene read seen ended

/-- What is told to the diagram, and not by it, is the same. -/
structure SameSetting (live live' : LiveDiagram α σ E) : Prop where
  input : live'.input = live.input
  debouncer : live'.debouncer = live.debouncer
  running : live'.running = live.running

/-- An update changes nothing that the diagram is told, however it ends. -/
theorem update_setting (live : LiveDiagram α σ E) : live.SameSetting (stateOf (update live)) := by
  have ends := update_cases live
  generalize update live = outcome at ends
  cases ends <;> exact ⟨rfl, rfl, rfl⟩

/-! ## §4 Binding and polling -/

theorem bindInput_apply (source : E) (live : LiveDiagram α σ E) :
    bindInput source live = update { live with input := some source } := rfl

/-- Polling takes the deadline away and updates, if the deadline is reached. -/
theorem poll_apply (now : Duration) (live : LiveDiagram α σ E) :
    poll now live =
      if live.debouncer.isDue now then
        update { live with debouncer := live.debouncer.cancel.2 }
      else .ok false live := by
  have opened : poll now live = match live.debouncer.fire now with
      | (true, debouncer) => update { live with debouncer }
      | (false, _) => .ok false live := by
    simp only [poll, Action.bind_apply, Action.get_apply]
    rcases live.debouncer.fire now with ⟨_ | _, debouncer⟩ <;> rfl
  rw [opened, Debouncer.fire]
  by_cases due : live.debouncer.isDue now = true
  · rw [if_pos due, if_pos due]; rfl
  · rw [if_neg due, if_neg due]

end LiveDiagram

end TransitionDiagram
