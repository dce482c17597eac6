/-
TransitionDiagram.Proofs.Following: whether a live diagram shows its text.

An update skips the pass if the text is that of the last pass that went through. A pass that ends
with a fault leaves that text in place, but by then it may have made circles, removed others,
taken arrows away and wiped the canvas. So an update that runs a pass leaves a diagram in sync with
its text. An update that skips it does so as well if no pass failed since the last one that went
through, or those that failed were refused their first circle. Otherwise a circle too many is
shown, or the canvas is blank: then the pass that was skipped is missed, unless the picture of the
text is blank itself.

  §1 texts, events and runs
  §2 diagrams in sync
  §3 updates
  §4 what every run keeps
  §5 when an update leaves the diagram in sync
  §6 an edit that is taken back
-/
import TransitionDiagram.Live.Diagram
import TransitionDiagram.Proofs.Portrait
import TransitionDiagram.Proofs.Updates

namespace TransitionDiagram

open OnGrid

variable {α : Type}

/-- A live diagram of a text in memory, on a grid whose calls may be refused. -/
abbrev LiveGrid (α : Type) : Type :=
  LiveDiagram α (Unreliable (GridSurface α)) TextBuffer

/-! ## §1 Texts, events and runs -/

/-- A text in memory is read as it is. -/
theorem TextBuffer.text_of_contents {source : TextBuffer} {text : String}
    (read : EditSource.contents (α := α) source = .ok text) : source.text = text := by
  simp only [EditSource.contents] at read
  cases refusal : source.refusal with
  | none =>
    rw [refusal] at read
    exact Except.ok.inj read
  | some reason =>
    rw [refusal] at read
    contradiction

variable [Scalar α]

namespace LiveDiagram

/-- What can happen to a live diagram. -/
inductive Event where
  | bind (source : TextBuffer)
  | edit (source : TextBuffer)
  | update
  | begin
  | stop
  | notify (now : Duration)
  | poll (now : Duration)

/-- The diagram after an event, whether or not it ended with a fault. -/
def after (live : LiveGrid α) : Event → LiveGrid α
  | .bind source => stateOf (bindInput source live)
  | .edit source => { live with input := live.input.map fun _ => source }
  | .update => stateOf (update live)
  | .begin => live.begin
  | .stop => live.stop
  | .notify now => (live.notifyEdit now).2
  | .poll now => stateOf (poll now live)

/-- The diagram after some events, one after the other. -/
def run (live : LiveGrid α) (events : List Event) : LiveGrid α :=
  events.foldl after live

/-- Whether the pass that an update would run now goes through, if it would run one. -/
def attempt (live : LiveGrid α) : Option Bool :=
  match readText live with
  | .error _ _ => none
  | .ok text _ =>
    if live.text = some text then none
    else
      match pass text live with
      | .ok _ _ => some true
      | .error _ _ => some false

/-- Whether the pass that an event runs goes through, if it runs one. -/
def attemptAt (live : LiveGrid α) : Event → Option Bool
  | .bind source => attempt { live with input := some source }
  | .update => attempt live
  | .poll now =>
    let (due, debouncer) := live.debouncer.fire now
    if due then attempt { live with debouncer } else none
  | _ => none

/-- What is seen of a scene changes: its states, its arrows or its canvas. -/
def Marks (scene scene' : Scene α (Unreliable (GridSurface α))) : Prop :=
  scene'.nodes.ids ≠ scene.nodes.ids ∨ scene'.arrows ≠ scene.arrows ∨
    scene'.surface.inner.canvas ≠ scene.surface.inner.canvas

/-- Whether a failed pass has left a mark that no later pass has removed, after an event that runs
a pass which goes through, or fails, or that runs none. -/
def harmAfter (harmed : Prop) (live live' : LiveGrid α) : Option Bool → Prop
  | some true => False
  | some false => harmed ∨ Marks live.scene live'.scene
  | none => harmed

/-- Whether there is such a mark after some events, given whether there was one before. -/
def harmedFrom (harmed : Prop) (live : LiveGrid α) : List Event → Prop
  | [] => harmed
  | event :: rest =>
    harmedFrom (harmAfter harmed live (live.after event) (live.attemptAt event))
      (live.after event) rest

/-- Whether passes that failed, since the last one that went through, have left a mark. -/
def Harmed (live : LiveGrid α) (events : List Event) : Prop :=
  harmedFrom False live events

end LiveDiagram

/-! ## §2 Diagrams in sync -/

namespace LiveDiagram

/-- The diagram shows the text as it is now: its states, an arrow for each transition, and the
picture that one more pass, were it to go through, would leave as it is. -/
structure InSync (live : LiveGrid α) : Prop where
  database : ∃ source, live.input = some source ∧ live.machine = .ofText source.text
  states : live.scene.nodes.ids.Perm live.machine.states
  arrows : live.scene.arrows.length = live.machine.transitions.length
  frame : ∃ stats scene,
    Scene.render live.machine (live.scene.refusing fun _ _ => false) = .ok stats scene ∧
    scene.surface.inner.frame = live.scene.surface.inner.frame

/-- The states, the number of arrows and the frame are those of the machine of the last pass. -/
structure Intact (config : PictureConfig α) (layout : Layout α) (live : LiveGrid α) : Prop where
  states : live.scene.nodes.ids.Perm live.machine.states
  arrows : live.scene.arrows.length = live.machine.transitions.length
  frame : live.scene.surface.inner.frame =
    (portrait config layout live.scene.nodes.ids live.machine.pairs).frame

/-- The states, the number of arrows and the whole canvas are those of the machine of the last
pass. -/
structure Pristine (config : PictureConfig α) (layout : Layout α) (live : LiveGrid α) : Prop where
  states : live.scene.nodes.ids.Perm live.machine.states
  arrows : live.scene.arrows.length = live.machine.transitions.length
  canvas : live.scene.surface.inner.canvas =
    portrait config layout live.scene.nodes.ids live.machine.pairs

theorem Pristine.intact {config : PictureConfig α} {layout : Layout α} {live : LiveGrid α}
    (pristine : live.Pristine config layout) : live.Intact config layout :=
  ⟨pristine.states, pristine.arrows, congrArg Canvas.frame pristine.canvas⟩

/-- A circle too many is shown, or the canvas is blank. -/
def Spoiled (config : PictureConfig α) (live : LiveGrid α) : Prop :=
  (∃ id ∈ live.scene.nodes.ids, id ∉ live.machine.states) ∨
    live.scene.surface.inner.canvas = (GridSurface.new config).canvas

/-- What every run on a surface that was fresh keeps. -/
structure Followed (config : PictureConfig α) (layout : Layout α) (live : LiveGrid α) : Prop where
  steady : live.scene.Steady config layout
  machine : ∀ text, live.text = some text → live.machine = .ofText text

variable {config : PictureConfig α} {layout : Layout α} {live live' : LiveGrid α}

/-- If the machine is that of the text, the diagram is in sync exactly if it is intact. -/
theorem inSync_iff_intact (followed : live.Followed config layout) {source : TextBuffer}
    (bound : live.input = some source) (database : live.machine = .ofText source.text) :
    live.InSync ↔ live.Intact config layout := by
  have steady : (live.scene.refusing fun _ _ => false).Steady config layout :=
    followed.steady.refusing fun _ => rfl
  have wf : live.machine.WellFormed := by
    rw [database]; exact (Machine.Built.ofText _).wellFormed
  -- one more pass shows the portrait of what is shown already
  have again : ∀ stats scene, live.scene.nodes.ids.Perm live.machine.states →
      Scene.render live.machine (live.scene.refusing fun _ _ => false) = .ok stats scene →
      scene.surface.inner.frame =
        (portrait config layout live.scene.nodes.ids live.machine.pairs).frame := by
    intro stats scene states ended
    obtain ⟨-, ids, -, canvas⟩ := steady.rendered ended
    have same : scene.nodes.ids = live.scene.nodes.ids :=
      ids.trans (Machine.shown_eq_self fun id => states.mem_iff)
    rw [same] at canvas
    exact congrArg Canvas.frame canvas
  constructor
  · intro inSync
    obtain ⟨-, states, arrows, stats, scene, ended, frame⟩ := inSync
    exact ⟨states, arrows, by rw [← frame]; exact again stats scene states ended⟩
  · intro intact
    obtain ⟨states, arrows, frame⟩ := intact
    obtain ⟨stats, scene, ended⟩ := followed.steady.exists_rendered_reliable wf
    exact ⟨⟨source, bound, database⟩, states, arrows, stats, scene, ended,
      by rw [frame]; exact again stats scene states ended⟩

/-! ## §3 Updates -/

/-- A pass that goes through leaves a pristine diagram of its text. -/
theorem Followed.passed {text : String} {stats : PassStats α}
    {scene : Scene α (Unreliable (GridSurface α))} (followed : live.Followed config layout)
    (ended : Scene.render (.ofText text) live.scene = .ok stats scene) :
    (live.passed text stats scene).Followed config layout ∧
      (live.passed text stats scene).Pristine config layout := by
  have wf : (Machine.ofText text).WellFormed := (Machine.Built.ofText text).wellFormed
  obtain ⟨steady, -, arrows, canvas⟩ := followed.steady.rendered ended
  refine ⟨⟨steady, ?_⟩, ⟨followed.steady.rendered_perm ended wf.nodup, arrows, canvas⟩⟩
  intro seen same
  cases same
  rfl

/-- A pass that fails leaves what is known of the last pass as it was. -/
theorem Followed.failed {text : String} {fault : Fault α}
    {scene : Scene α (Unreliable (GridSurface α))} (followed : live.Followed config layout)
    (ended : Scene.render (.ofText text) live.scene = .error fault scene) :
    ({ live with scene } : LiveGrid α).Followed config layout ∧ live.scene.Drifts scene := by
  obtain ⟨steady, drifts⟩ := followed.steady.failed ended
  exact ⟨⟨steady, followed.machine⟩, drifts⟩

/-- How an update ends: reading fails, the text is that of the last pass, a pass goes through, or
a pass fails. -/
inductive UpdateEnds (config : PictureConfig α) (layout : Layout α) (live : LiveGrid α) :
    EStateM.Result (Fault α) (LiveGrid α) Bool → Option Bool → Prop where
  | unread (fault : Fault α) : UpdateEnds config layout live (.error fault live) none
  | skipped (source : TextBuffer) (bound : live.input = some source)
      (seen : live.text = some source.text) : UpdateEnds config layout live (.ok false live) none
  | passed (source : TextBuffer) (live' : LiveGrid α) (bound : live'.input = some source)
      (database : live'.machine = .ofText source.text) (followed : live'.Followed config layout)
      (pristine : live'.Pristine config layout) :
      UpdateEnds config layout live (.ok true live') (some true)
  | failed (fault : Fault α) (live' : LiveGrid α) (followed : live'.Followed config layout)
      (text : live'.text = live.text) (machine : live'.machine = live.machine)
      (drifts : live.scene.Drifts live'.scene) :
      UpdateEnds config layout live (.error fault live') (some false)

theorem update_ends (followed : live.Followed config layout) :
    UpdateEnds config layout live (update live) (attempt live) := by
  have cases := update_cases live
  generalize update live = outcome at cases
  cases cases with
  | unread fault failed =>
    rw [attempt, failed]
    exact .unread fault
  | skipped text read seen =>
    obtain ⟨source, bound, contents⟩ := exists_source_of_readText read
    obtain rfl := TextBuffer.text_of_contents contents
    rw [attempt, read]
    simp only [if_pos seen]
    exact .skipped source bound seen
  | passed text stats scene read new ended =>
    obtain ⟨source, bound, contents⟩ := exists_source_of_readText read
    obtain rfl := TextBuffer.text_of_contents contents
    rw [attempt, read]
    simp only [if_neg new, pass_apply, ended]
    obtain ⟨followed', pristine⟩ := followed.passed ended
    exact .passed source _ bound rfl followed' pristine
  | failed text fault scene read new ended =>
    rw [attempt, read]
    simp only [if_neg new, pass_apply, ended]
    obtain ⟨followed', drifts⟩ := followed.failed ended
    exact .failed fault _ followed' rfl rfl drifts

/-! ## §4 What every run keeps -/

/-- What is shown and what is known of the last pass are the same. -/
structure Unmoved (live live' : LiveGrid α) : Prop where
  scene : live'.scene = live.scene
  text : live'.text = live.text
  machine : live'.machine = live.machine

theorem Followed.of_unmoved (followed : live.Followed config layout)
    (unmoved : live.Unmoved live') : live'.Followed config layout where
  steady := by rw [unmoved.scene]; exact followed.steady
  machine := by rw [unmoved.text, unmoved.machine]; exact followed.machine

/-- What an event leads to, given whether it ran a pass and whether the pass went through. -/
structure Leads (config : PictureConfig α) (layout : Layout α) (live : LiveGrid α)
    (tried : Option Bool) (live' : LiveGrid α) : Prop where
  followed : live'.Followed config layout
  passed : tried = some true → live'.Pristine config layout
  failed : tried = some false → live'.text = live.text ∧ live'.machine = live.machine ∧
    live.scene.Drifts live'.scene
  quiet : tried = none → live.Unmoved live'

theorem Leads.of_unmoved (followed : live.Followed config layout) (unmoved : live.Unmoved live') :
    live.Leads config layout none live' where
  followed := followed.of_unmoved unmoved
  passed := fun absurd => by contradiction
  failed := fun absurd => by contradiction
  quiet := fun _ => unmoved

/-- An update, perhaps after something was changed that is not shown. -/
theorem update_leads {before : LiveGrid α} (followed : before.Followed config layout)
    (unmoved : before.Unmoved live) :
    before.Leads config layout (attempt live) (stateOf (update live)) := by
  have ends := update_ends (followed.of_unmoved unmoved)
  generalize update live = outcome at *
  generalize attempt live = tried at *
  cases ends with
  | unread fault => exact .of_unmoved followed unmoved
  | skipped source bound seen => exact .of_unmoved followed unmoved
  | passed source live' bound database followed' pristine =>
    exact ⟨followed', fun _ => pristine, fun absurd => by contradiction,
      fun absurd => by contradiction⟩
  | failed fault live' followed' text machine drifts =>
    refine ⟨followed', fun absurd => by contradiction, fun _ => ?_, fun absurd => by contradiction⟩
    exact ⟨text.trans unmoved.text, machine.trans unmoved.machine, unmoved.scene ▸ drifts⟩

theorem after_leads (followed : live.Followed config layout) (event : Event) :
    live.Leads config layout (live.attemptAt event) (live.after event) := by
  cases event with
  | bind source => exact update_leads followed ⟨rfl, rfl, rfl⟩
  | edit source => exact .of_unmoved followed ⟨rfl, rfl, rfl⟩
  | update => exact update_leads followed ⟨rfl, rfl, rfl⟩
  | begin => exact .of_unmoved followed ⟨rfl, rfl, rfl⟩
  | stop => exact .of_unmoved followed ⟨rfl, rfl, rfl⟩
  | notify now =>
    refine .of_unmoved followed ?_
    simp only [after, notifyEdit]
    split <;> exact ⟨rfl, rfl, rfl⟩
  | poll now =>
    have opened : poll now live = match live.debouncer.fire now with
        | (true, debouncer) => update { live with debouncer }
        | (false, _) => .ok false live := by
      simp only [poll, Action.bind_apply, Action.get_apply]
      rcases live.debouncer.fire now with ⟨_ | _, debouncer⟩ <;> rfl
    simp only [after, attemptAt, opened]
    rcases live.debouncer.fire now with ⟨_ | _, debouncer⟩
    · exact .of_unmoved followed ⟨rfl, rfl, rfl⟩
    · exact update_leads followed ⟨rfl, rfl, rfl⟩

/-- What is known of a diagram that has followed some text, given whether failed passes have left
a mark. -/
structure Kept (config : PictureConfig α) (layout : Layout α) (harmed : Prop)
    (live : LiveGrid α) : Prop where
  followed : live.Followed config layout
  pristine : live.text ≠ none → ¬ harmed → live.Pristine config layout
  spoiled : live.text ≠ none → harmed → live.Spoiled config

/-- A failed pass spoils a diagram if it leaves a mark or if the diagram was spoiled before. -/
theorem Kept.failed {harmed : Prop} (kept : live.Kept config layout harmed)
    (followed : live'.Followed config layout) (text : live'.text = live.text)
    (machine : live'.machine = live.machine) (drifts : live.scene.Drifts live'.scene) :
    live'.Kept config layout (harmed ∨ Marks live.scene live'.scene) where
  followed := followed
  pristine := by
    intro some_text unharmed
    obtain ⟨unharmed, unmarked⟩ := not_or.mp unharmed
    simp only [Marks, ne_eq, not_or, not_not] at unmarked
    obtain ⟨ids, arrows, canvas⟩ := unmarked
    obtain ⟨states, count, picture⟩ := kept.pristine (text ▸ some_text) unharmed
    refine ⟨?_, ?_, ?_⟩
    · rw [ids, machine]; exact states
    · rw [arrows, machine]; exact count
    · rw [canvas, ids, machine]; exact picture
  spoiled := by
    intro some_text harm
    rw [text] at some_text
    rcases drifts with wiped | ⟨canvas, arrows, new, ids, fresh⟩
    · exact .inr (wiped.trans kept.followed.steady.wiped)
    · by_cases before : harmed
      · rcases kept.spoiled some_text before with ⟨id, mem, stray⟩ | blank
        · exact .inl ⟨id, by rw [ids]; exact List.mem_append_left _ mem, by rwa [machine]⟩
        · exact .inr (canvas.trans blank)
      · -- the mark can only be a new circle, and the states of the machine all had one
        obtain ⟨states, -, -⟩ := kept.pristine some_text before
        have grown : new ≠ [] := by
          intro none_new
          subst none_new
          rw [List.append_nil] at ids
          exact (harm.resolve_left before).elim (· ids) (·.elim (· arrows) (· canvas))
        obtain ⟨id, mem⟩ := List.exists_mem_of_ne_nil new grown
        refine .inl ⟨id, by rw [ids]; exact List.mem_append_right _ mem, fun listed => ?_⟩
        rw [machine, ← states.mem_iff] at listed
        exact fresh id mem listed

theorem Kept.after {harmed : Prop} {tried : Option Bool} (kept : live.Kept config layout harmed)
    (leads : live.Leads config layout tried live') :
    live'.Kept config layout (harmAfter harmed live live' tried) := by
  rcases tried with _ | _ | _
  · obtain ⟨scene, text, machine⟩ := leads.quiet rfl
    refine ⟨leads.followed, fun some_text unharmed => ?_, fun some_text harm => ?_⟩
    · rw [text] at some_text
      obtain ⟨states, arrows, canvas⟩ := kept.pristine some_text unharmed
      refine ⟨?_, ?_, ?_⟩
      · rw [scene, machine]; exact states
      · rw [scene, machine]; exact arrows
      · rw [scene, machine]; exact canvas
    · rw [text] at some_text
      rw [Spoiled, scene, machine]
      exact kept.spoiled some_text harm
  · obtain ⟨text, machine, drifts⟩ := leads.failed rfl
    exact kept.failed leads.followed text machine drifts
  · exact ⟨leads.followed, fun _ _ => leads.passed rfl, fun _ harm => harm.elim⟩

theorem Kept.run {harmed : Prop} (kept : live.Kept config layout harmed) (events : List Event) :
    (live.run events).Kept config layout (harmedFrom harmed live events) := by
  induction events generalizing live harmed with
  | nil => exact kept
  | cons event rest ih => exact ih (kept.after (after_leads kept.followed event))

/-! ## §5 When an update leaves the diagram in sync -/

/-- A diagram on a fresh surface follows no text yet. -/
theorem kept_of_new {surface : Unreliable (GridSurface α)} {settings : Config α}
    (fresh : surface.inner = GridSurface.new config)
    (certain : ∀ made, surface.refuses .removeChild made = false)
    (made : LiveDiagram.new surface settings = .ok live) :
    live.Kept config settings.layout False := by
  have beneath : grid surface = GridSurface.new config := fresh
  obtain ⟨scene, made_scene, rfl⟩ := exists_unbound_of_new made
  obtain ⟨steady, -⟩ := Scene.Steady.of_new beneath (not_mayRefuse_of_never certain) made_scene
  exact ⟨⟨steady, fun text absurd => by contradiction⟩, fun absurd => (absurd rfl).elim,
    fun absurd => (absurd rfl).elim⟩

/-- After an update that ended without a fault, the machine is that of the text. The diagram is in
sync unless the update skipped the pass although failed passes had left a mark; then it is in sync
only if the picture of the text is blank and nothing else is missing. -/
theorem inSync_iff_of_update {surface : Unreliable (GridSurface α)} {settings : Config α}
    {events : List Event} {b : Bool} (fresh : surface.inner = GridSurface.new config)
    (certain : ∀ made, surface.refuses .removeChild made = false)
    (made : LiveDiagram.new surface settings = .ok live)
    (ended : update (live.run events) = .ok b live') :
    (∃ source, live'.input = some source ∧ live'.machine = .ofText source.text) ∧
    (live'.InSync ↔ b = true ∨ ¬ live.Harmed events ∨
      (live'.Intact config settings.layout ∧ live'.scene.surface.inner.frame = "")) := by
  have kept : (live.run events).Kept config settings.layout (live.Harmed events) :=
    (kept_of_new fresh certain made).run events
  have ends := update_ends kept.followed
  rw [ended] at ends
  generalize attempt (live.run events) = tried at ends
  cases ends with
  | passed source _ bound database followed pristine =>
    refine ⟨⟨source, bound, database⟩, fun _ => .inl rfl, fun _ => ?_⟩
    exact (inSync_iff_intact followed bound database).mpr pristine.intact
  | skipped source bound seen =>
    have database := kept.followed.machine _ seen
    have some_text : (live.run events).text ≠ none := by rw [seen]; exact Option.some_ne_none _
    have sync_iff := inSync_iff_intact kept.followed bound database
    refine ⟨⟨source, bound, database⟩, fun inSync => ?_, ?_⟩
    · have intact := sync_iff.mp inSync
      by_cases harmed : live.Harmed events
      · rcases kept.spoiled some_text harmed with ⟨id, mem, stray⟩ | blank
        · exact absurd (intact.states.mem_iff.mp mem) stray
        · refine .inr (.inr ⟨intact, ?_⟩)
          rw [GridSurface.frame, blank]; exact Canvas.frame_blank _ _
      · exact .inr (.inl harmed)
    · intro h
      rcases h with absurd | unharmed | ⟨intact, -⟩
      · contradiction
      · exact sync_iff.mpr (kept.pristine some_text unharmed).intact
      · exact sync_iff.mpr intact

/-! ## §6 An edit that is taken back -/

/-- A grid that refuses the second text, once. -/
def refusingSecondText : Unreliable (GridSurface Float) :=
  (Unreliable.ofSurface (GridSurface.new .standard)).refuseOnce .createText 1

/-- An arrow is put into an empty text, and taken out after a pass for it. -/
def takenBack : List Event :=
  [.bind { text := "" }, .edit { text := "A->B" }, .update, .edit { text := "" }]

/-- The pass for the arrow fails at its second circle, and the first one stays. -/
theorem takenBack_ends :
    ∃ live live', LiveDiagram.new refusingSecondText { layout := .standard } = .ok live ∧
      update (live.run takenBack) = .ok false live' ∧ live'.machine.states = [] ∧
      live'.scene.nodes.ids = ["A"] := by
  have ran : (match LiveDiagram.new refusingSecondText { layout := .standard } with
      | .error _ => false
      | .ok live => match update (live.run takenBack) with
        | .error _ _ => false
        | .ok b live' => !b && live'.machine.states == [] && live'.scene.nodes.ids == ["A"]) =
        true := by decide +kernel
  cases made : LiveDiagram.new refusingSecondText { layout := .standard } with
  | error fault =>
    rw [made] at ran
    contradiction
  | ok live =>
    rw [made] at ran
    cases ended : update (live.run takenBack) with
    | error fault live' =>
      simp only [ended] at ran
      contradiction
    | ok b live' =>
      simp only [ended, Bool.and_eq_true, Bool.not_eq_true', beq_iff_eq] at ran
      obtain ⟨⟨rfl, states⟩, ids⟩ := ran
      exact ⟨live, live', rfl, ended, states, ids⟩

/-- What is said of updates, where the pass is skipped although a failed one has left a circle. -/
theorem inSync_iff_of_update_taken_back :
    ∃ live live', LiveDiagram.new refusingSecondText { layout := .standard } = .ok live ∧
      update (live.run takenBack) = .ok false live' ∧
      (live'.InSync ↔ false = true ∨ ¬ live.Harmed takenBack ∨
        (live'.Intact .standard .standard ∧ live'.scene.surface.inner.frame = "")) := by
  obtain ⟨live, live', made, ended, -, -⟩ := takenBack_ends
  exact ⟨live, live', made, ended, (inSync_iff_of_update rfl (fun _ => rfl) made ended).2⟩

/-- An update that ends without a fault may leave a circle which is not in the text. -/
theorem not_inSync_taken_back :
    ∃ live live', LiveDiagram.new refusingSecondText { layout := .standard } = .ok live ∧
      update (live.run takenBack) = .ok false live' ∧ ¬ live'.InSync := by
  obtain ⟨live, live', made, ended, states, ids⟩ := takenBack_ends
  refine ⟨live, live', made, ended, fun inSync => ?_⟩
  have perm := inSync.states
  rw [states, ids] at perm
  exact absurd perm.eq_nil (List.cons_ne_nil _ _)

end LiveDiagram

end TransitionDiagram
