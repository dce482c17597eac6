/-
TransitionDiagram.Proofs.Bookkeeping: what a live diagram writes down of its updates.

An update that runs no pass changes nothing at all. One whose pass goes through writes down the
text, the machine and the outcome of that pass, and counts it; the surface counts one redraw. One
that ends with a fault may have changed the scene, but what is written down and both counts are as
before, so the same text is tried anew by the next update. `Atomic` says this of the outcome of an
update, and it holds for every diagram, whatever is refused.

By induction on the events, the two counts are equal after every run, and they are the number of
calls that answered that a pass was run.

  §1 what is written down
  §2 what an update writes down
  §3 what every run keeps
  §4 updates after any run
-/
import TransitionDiagram.Proofs.Following
import TransitionDiagram.Proofs.Redraws

namespace TransitionDiagram

open OnGrid

variable {α : Type}

namespace LiveDiagram

/-! ## §1 Records -/

/-- How often the picture of a diagram was drawn. -/
def redraws (live : LiveGrid α) : Nat :=
  live.scene.surface.inner.redraws

/-- What is written down of the last pass is the same, and so are both counts. -/
structure SameRecord (live live' : LiveGrid α) : Prop where
  text : live'.text = live.text
  machine : live'.machine = live.machine
  lastPass : live'.lastPass = live.lastPass
  passes : live'.passes = live.passes
  redraws : live'.redraws = live.redraws

/-- What is written down agrees: both counts are equal, a text and an outcome are known once a
pass was counted, and the machine is that of the text, without states if there is none. -/
structure Booked (live : LiveGrid α) : Prop where
  redraws : live.redraws = live.passes
  text : live.text = none ↔ live.passes = 0
  lastPass : live.lastPass = none ↔ live.passes = 0
  machine : live.machine = (live.text.map Machine.ofText).getD .empty

theorem Booked.of_sameRecord {live live' : LiveGrid α} (booked : live.Booked)
    (same : live.SameRecord live') : live'.Booked := by
  obtain ⟨text, machine, lastPass, passes, redraws⟩ := same
  refine ⟨?_, ?_, ?_, ?_⟩
  · rw [redraws, passes, booked.redraws]
  · rw [text, passes, booked.text]
  · rw [lastPass, passes, booked.lastPass]
  · rw [machine, text, booked.machine]

/-! ## §2 One update -/

/-- Whatever happens to the scene, the same source is read. -/
theorem readText_of_input {live live' : LiveGrid α} {text : String}
    (same : live'.input = live.input) (read : readText live = .ok text live) :
    readText live' = .ok text live' := by
  obtain ⟨source, bound, contents⟩ := exists_source_of_readText read
  exact readText_ok (same.trans bound) contents

variable [Scalar α]

/-- The text that is read is that of the last pass, and nothing at all has changed. -/
structure Skipped (live live' : LiveGrid α) (text : String) : Prop where
  read : readText live = .ok text live
  seen : live.text = some text
  unchanged : live' = live

/-- A pass for the text that is read, which is not that of the last pass, went through and was
written down. -/
structure Advanced (live live' : LiveGrid α) (text : String) (stats : PassStats α) : Prop where
  read : readText live = .ok text live
  new : live.text ≠ some text
  rendered : Scene.render (.ofText text) live.scene = .ok stats live'.scene
  text_eq : live'.text = some text
  machine : live'.machine = .ofText text
  lastPass : live'.lastPass = some stats
  passes : live'.passes = live.passes + 1
  redraws : live'.redraws = live.redraws + 1
  setting : live.SameSetting live'

/-- Reading failed, or a pass for a text that is not that of the last pass did, and all but the
scene is as before. An update on that text is a pass for it, still. -/
structure Undone (live live' : LiveGrid α) (fault : Fault α) : Prop where
  cause : readText live = .error fault live ∨
    ∃ text, readText live = .ok text live ∧ live.text ≠ some text ∧
      Scene.render (.ofText text) live.scene = .error fault live'.scene
  record : live.SameRecord live'
  setting : live.SameSetting live'
  again : ∀ text, readText live = .ok text live → live.text ≠ some text →
    readText live' = .ok text live' ∧
    update live' = (do pass text; return true : Action α (LiveGrid α) Bool) live'

/-- An update of a diagram does all that belongs to a pass, or writes nothing down. -/
def Atomic (live : LiveGrid α) : EStateM.Result (Fault α) (LiveGrid α) Bool → Prop
  | .ok false live' => ∃ text, live.Skipped live' text
  | .ok true live' => ∃ text stats, live.Advanced live' text stats
  | .error fault live' => live.Undone live' fault

variable {live live' : LiveGrid α} {outcome : EStateM.Result (Fault α) (LiveGrid α) Bool}

theorem undone_of_redraws {scene : Scene α (Unreliable (GridSurface α))} {fault : Fault α}
    (cause : readText live = .error fault live ∨
      ∃ text, readText live = .ok text live ∧ live.text ≠ some text ∧
        Scene.render (.ofText text) live.scene = .error fault scene)
    (same : redraws ({ live with scene } : LiveGrid α) = live.redraws) :
    live.Undone { live with scene } fault where
  cause := cause
  record := ⟨rfl, rfl, rfl, rfl, same⟩
  setting := ⟨rfl, rfl, rfl⟩
  again := by
    intro text read new
    have same_input : ({ live with scene } : LiveGrid α).input = live.input := rfl
    have read' := readText_of_input same_input read
    exact ⟨read', update_eq_pass read' new⟩

theorem update_atomic (live : LiveGrid α) : live.Atomic (update live) := by
  have ends := update_cases live
  generalize update live = outcome at ends
  cases ends with
  | unread fault failed => exact undone_of_redraws (.inl failed) rfl
  | skipped text read seen => exact ⟨text, read, seen, rfl⟩
  | passed text stats scene read new ended =>
    have counted := (Scene.render_redraws (.ofText text) live.scene).of_ok ended
    exact ⟨text, stats, read, new, ended, rfl, rfl, rfl, rfl, counted, rfl, rfl, rfl⟩
  | failed text fault scene read new ended =>
    have uncounted := (Scene.render_redraws (.ofText text) live.scene).of_error ended
    exact undone_of_redraws (.inr ⟨text, read, new, ended⟩) uncounted

/-! ## §3 Runs -/

/-- What an update answers, unless it ends with a fault. -/
def answerOf : EStateM.Result (Fault α) (LiveGrid α) Bool → Option Bool
  | .ok b _ => some b
  | .error _ _ => none

/-- What the call that an event makes answers, unless it ends with a fault. -/
def answer (live : LiveGrid α) : Event → Option Bool
  | .bind source => answerOf (bindInput source live)
  | .update => answerOf (update live)
  | .poll now => answerOf (poll now live)
  | _ => none

/-- The number of calls that answer that a pass was run. -/
def passesRun (live : LiveGrid α) : List Event → Nat
  | [] => 0
  | event :: rest =>
    (if live.answer event = some true then 1 else 0) + (live.after event).passesRun rest

/-- An atomic outcome keeps the record in agreement, and counts if it answers that a pass was
run. -/
theorem Booked.atomic (booked : live.Booked) (atomic : live.Atomic outcome) :
    (stateOf outcome).Booked ∧ (stateOf outcome).passes =
      live.passes + if answerOf outcome = some true then 1 else 0 := by
  match outcome, atomic with
  | .ok false live', ⟨text, skipped⟩ =>
    obtain rfl : live' = live := skipped.unchanged
    exact ⟨booked, rfl⟩
  | .ok true live', ⟨text, stats, advanced⟩ =>
    refine ⟨⟨?_, ?_, ?_, ?_⟩, advanced.passes⟩ <;> simp only [stateOf]
    · rw [advanced.redraws, advanced.passes, booked.redraws]
    · simp [advanced.text_eq, advanced.passes]
    · simp [advanced.lastPass, advanced.passes]
    · simp [advanced.machine, advanced.text_eq]
  | .error fault live', undone =>
    exact ⟨booked.of_sameRecord undone.record, undone.record.passes⟩

/-- An event leads to the outcome of an update, perhaps after the source or the deadline has
changed, or it touches no record and answers nothing of a pass. -/
theorem after_cases (live : LiveGrid α) (event : Event) :
    (∃ start, live.SameRecord start ∧ live.after event = stateOf (update start) ∧
      live.answer event = answerOf (update start)) ∨
    (live.SameRecord (live.after event) ∧ live.answer event ≠ some true) := by
  cases event with
  | bind source =>
    exact .inl ⟨{ live with input := some source }, ⟨rfl, rfl, rfl, rfl, rfl⟩, rfl, rfl⟩
  | update => exact .inl ⟨live, ⟨rfl, rfl, rfl, rfl, rfl⟩, rfl, rfl⟩
  | poll now =>
    simp only [after, answer, poll_apply]
    split
    · exact .inl ⟨{ live with debouncer := live.debouncer.cancel.2 }, ⟨rfl, rfl, rfl, rfl, rfl⟩,
        rfl, rfl⟩
    · exact .inr ⟨⟨rfl, rfl, rfl, rfl, rfl⟩, by simp [answerOf]⟩
  | edit source => exact .inr ⟨⟨rfl, rfl, rfl, rfl, rfl⟩, by simp [answer]⟩
  | begin => exact .inr ⟨⟨rfl, rfl, rfl, rfl, rfl⟩, by simp [answer]⟩
  | stop => exact .inr ⟨⟨rfl, rfl, rfl, rfl, rfl⟩, by simp [answer]⟩
  | notify now =>
    refine .inr ⟨?_, by simp [answer]⟩
    simp only [after, notifyEdit]
    split <;> exact ⟨rfl, rfl, rfl, rfl, rfl⟩

theorem Booked.after (booked : live.Booked) (event : Event) :
    (live.after event).Booked ∧ (live.after event).passes =
      live.passes + if live.answer event = some true then 1 else 0 := by
  rcases after_cases live event with ⟨start, same, ended, answered⟩ | ⟨same, quiet⟩
  · rw [ended, answered, ← same.passes]
    exact (booked.of_sameRecord same).atomic (update_atomic start)
  · rw [if_neg quiet]
    exact ⟨booked.of_sameRecord same, same.passes⟩

theorem Booked.run (booked : live.Booked) (events : List Event) :
    (live.run events).Booked ∧
      (live.run events).passes = live.passes + live.passesRun events := by
  induction events generalizing live with
  | nil => exact ⟨booked, rfl⟩
  | cons event rest ih =>
    obtain ⟨first, counted⟩ := booked.after event
    obtain ⟨last, counted'⟩ := ih first
    refine ⟨last, ?_⟩
    rw [passesRun, ← Nat.add_assoc, ← counted]
    exact counted'

theorem booked_of_new {config : PictureConfig α} {surface : Unreliable (GridSurface α)}
    {settings : Config α} (fresh : surface.inner = GridSurface.new config)
    (made : LiveDiagram.new surface settings = .ok live) : live.Booked ∧ live.passes = 0 := by
  obtain ⟨scene, made_scene, rfl⟩ := exists_unbound_of_new made
  have undrawn : OnGrid.redraws scene.surface = OnGrid.redraws surface :=
    Scene.redraws_of_new made_scene
  have none : surface.inner.redraws = 0 := by rw [fresh]; rfl
  exact ⟨⟨undrawn.trans none, by simp [unbound], by simp [unbound], rfl⟩, rfl⟩

/-! ## §4 Updates after any run -/

/-- After any events on a fresh surface, whatever reading and the surface refuse: what is written
down agrees, and counts the calls that ran a pass. An update is atomic then, by itself, of the
diagram with a new source when one is bound, and of the diagram without its deadline when polling
reaches it. Polling before that does nothing. -/
theorem updates_booked {config : PictureConfig α} {surface : Unreliable (GridSurface α)}
    {settings : Config α} (fresh : surface.inner = GridSurface.new config)
    (made : LiveDiagram.new surface settings = .ok live) (events : List Event) :
    (live.run events).Booked ∧ (live.run events).passes = live.passesRun events ∧
    (live.run events).Atomic (update (live.run events)) ∧
    (∀ source, Atomic { live.run events with input := some source }
      (bindInput source (live.run events))) ∧
    (∀ now, if (live.run events).debouncer.isDue now then
      Atomic { live.run events with debouncer := (live.run events).debouncer.cancel.2 }
        (poll now (live.run events))
      else poll now (live.run events) = .ok false (live.run events)) := by
  obtain ⟨booked, none⟩ := booked_of_new fresh made
  obtain ⟨booked', counted⟩ := booked.run events
  rw [none, Nat.zero_add] at counted
  refine ⟨booked', counted, update_atomic _, fun source => update_atomic _, fun now => ?_⟩
  rw [poll_apply]
  by_cases due : (live.run events).debouncer.isDue now = true
  · rw [if_pos due, if_pos due]
    exact update_atomic _
  · rw [if_neg due, if_neg due]

/-- Removals are refused, and so is reading in the end, with an update pending. -/
theorem updates_booked_refused_removals :
    let surface : Unreliable (GridSurface Float) :=
      { Unreliable.ofSurface (GridSurface.new .standard) with
        refuses := fun call _ => call = .removeChild }
    let events : List Event := [.bind { text := "A->B" }, .begin, .edit { text := "B->C" },
      .notify .zero, .update, .edit { text := "C->A", refusal := some "busy" }, .update]
    ∃ live, LiveDiagram.new surface { layout := .standard } = .ok live ∧
      (live.run events).Booked ∧ (live.run events).passes = live.passesRun events ∧
      (live.run events).Atomic (update (live.run events)) ∧
      Atomic { live.run events with input := some { text := "" } }
        (bindInput { text := "" } (live.run events)) := by
  intro surface events
  obtain ⟨live, made⟩ : ∃ live, LiveDiagram.new surface { layout := .standard } = .ok live :=
    ⟨_, rfl⟩
  obtain ⟨booked, counted, atomic, binding, -⟩ := updates_booked rfl made events
  exact ⟨live, made, booked, counted, atomic, binding _⟩

end LiveDiagram

end TransitionDiagram
