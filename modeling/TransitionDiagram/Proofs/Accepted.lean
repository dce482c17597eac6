/-
TransitionDiagram.Proofs.Accepted: what becomes of an edit whose notification is heeded.

A notification that is heeded asks for an update, so that an edit it stands for is not lost: the
update is pending, or the text was processed. But the poll that finds the update due drops the
deadline first, and an update that then ends with a fault is asked for no more. `Dropped` says that
this has happened to a text that was not processed, and that nobody has made up for it since. By
induction on the run, this is the one way in which an accepted edit is lost; by induction on the
polls that follow when no call is refused any more, they bring the diagram up to date exactly if it
was not. A direct update always does, also beside strays.

  §1 the text of the buffer
  §2 the last event of a kind
  §3 the text that is processed
  §4 edits that are accepted, and edits that are dropped
  §5 when nothing is refused any more
  §6 an edit that is dropped
-/
import TransitionDiagram.Proofs.Bookkeeping
import TransitionDiagram.Proofs.Requests
import TransitionDiagram.Proofs.Strays

namespace TransitionDiagram

variable {α : Type}

namespace LiveDiagram

variable {live : LiveGrid α}

/-! ## §1 The text of the buffer -/

/-- The text in the buffer that is followed. -/
def bufferText (live : LiveGrid α) : Option String :=
  live.input.map (·.text)

theorem bufferText_of_readText {text : String} (read : readText live = .ok text live) :
    live.bufferText = some text := by
  obtain ⟨source, bound, contents⟩ := exists_source_of_readText read
  rw [bufferText, bound, ← TextBuffer.text_of_contents contents]
  rfl

/-- The text was processed, and the machine is the one in it. -/
structure UpToDate (text : String) (live : LiveGrid α) : Prop where
  processed : live.text = some text
  machine : live.machine = .ofText text

theorem Booked.upToDate {text : String} (booked : live.Booked) (same : live.text = some text) :
    live.UpToDate text :=
  ⟨same, by rw [booked.machine, same]; rfl⟩

variable [Scalar α]

/-! ## §2 The last event of a kind -/

/-- An event of one kind happened, and all that came after it are of another kind. Of which kind an
event is may depend on the diagram at that time. -/
def EverSince (since event : LiveGrid α → Event → Prop) (live : LiveGrid α)
    (events : List Event) : Prop :=
  ∃ before e after, events = before ++ e :: after ∧ event (live.run before) e ∧
    ∀ first e' rest, after = first ++ e' :: rest →
      since (live.run (before ++ e :: first)) e'

section

variable {since event : LiveGrid α → Event → Prop}

theorem not_everSince_nil : ¬ EverSince since event live [] := by
  rintro ⟨before, e, after, cut, -⟩
  simp at cut

theorem everSince_concat (events : List Event) (e : Event) :
    EverSince since event live (events ++ [e]) ↔
      event (live.run events) e ∨
        (since (live.run events) e ∧ EverSince since event live events) := by
  constructor
  · rintro ⟨before, found, after, cut, is, all⟩
    rcases List.eq_nil_or_concat' after with rfl | ⟨after, last, rfl⟩
    · obtain ⟨rfl, same⟩ := List.append_inj' cut rfl
      rw [List.singleton_inj.mp same]
      exact .inl is
    · rw [← List.cons_append, ← List.append_assoc] at cut
      obtain ⟨rfl, same⟩ := List.append_inj' cut rfl
      rw [List.singleton_inj.mp same]
      refine .inr ⟨all after last [] rfl, before, found, after, rfl, is, ?_⟩
      intro first e' rest split
      exact all first e' (rest ++ [last]) (by simp [split])
  · rintro (is | ⟨last, before, found, after, rfl, is, all⟩)
    · exact ⟨events, e, [], rfl, is, by simp⟩
    · refine ⟨before, found, after ++ [e], by simp, is, ?_⟩
      intro first e' rest split
      rcases List.eq_nil_or_concat' rest with rfl | ⟨rest, e'', rfl⟩
      · obtain ⟨rfl, same⟩ := List.append_inj' split rfl
        rw [← List.singleton_inj.mp same]
        exact last
      · rw [← List.cons_append, ← List.append_assoc] at split
        obtain ⟨rfl, -⟩ := List.append_inj' split rfl
        exact all first e' rest rfl

end

/-! ## §3 The text that is processed -/

/-- Whether an event reads the text and ends without a fault. -/
def processes (live : LiveGrid α) : Event → Bool
  | .poll now => live.attempts now && (answerOf (poll now live)).isSome
  | event => (live.answer event).isSome

/-- An update that ends without a fault has processed the text of the buffer, by a pass or because
it is that of the last pass. -/
theorem text_update (live : LiveGrid α) :
    (stateOf (update live)).text =
      if (answerOf (update live)).isSome then live.bufferText else live.text := by
  have ends := update_cases live
  generalize update live = outcome at ends
  cases ends with
  | unread fault failed => rfl
  | skipped text read seen => exact seen.trans (bufferText_of_readText read).symm
  | passed text stats scene read new ended => exact (bufferText_of_readText read).symm
  | failed text fault scene read new ended => rfl

/-- An event updates, perhaps after the source or the deadline has changed, or it touches neither
the scene nor the text that was processed. -/
theorem after_updates (live : LiveGrid α) (event : Event) :
    (∃ start : LiveGrid α, start.scene = live.scene ∧ start.text = live.text ∧
      live.after event = stateOf (update start) ∧
      live.processes event = (answerOf (update start)).isSome) ∨
    ((live.after event).scene = live.scene ∧ (live.after event).text = live.text ∧
      live.processes event = false) := by
  cases event with
  | bind source => exact .inl ⟨{ live with input := some source }, rfl, rfl, rfl, rfl⟩
  | update => exact .inl ⟨live, rfl, rfl, rfl, rfl⟩
  | poll now =>
    simp only [after, processes, attempts_eq_isDue, poll_apply]
    cases due : live.debouncer.isDue now with
    | true => exact .inl ⟨{ live with debouncer := live.debouncer.cancel.2 }, rfl, rfl, rfl, rfl⟩
    | false => exact .inr ⟨rfl, rfl, rfl⟩
  | edit source => exact .inr ⟨rfl, rfl, rfl⟩
  | begin => exact .inr ⟨rfl, rfl, rfl⟩
  | stop => exact .inr ⟨rfl, rfl, rfl⟩
  | notify now =>
    refine .inr ?_
    simp only [after, notifyEdit]
    split <;> exact ⟨rfl, rfl, rfl⟩

theorem bufferText_update (live : LiveGrid α) :
    (stateOf (update live)).bufferText = live.bufferText := by
  rw [bufferText, (update_setting live).input, bufferText]

theorem text_after (live : LiveGrid α) (event : Event) :
    (live.after event).text =
      if live.processes event then (live.after event).bufferText else live.text := by
  rcases after_updates live event with ⟨start, -, text, ended, processes⟩ | ⟨-, text, processes⟩
  · rw [ended, processes, text_update, bufferText_update, text]
  · rw [text, processes]; rfl

/-! ## §4 Edits that are accepted, and edits that are dropped -/

/-- The event is a notification, and it is heeded. -/
def Heeds (live : LiveGrid α) (event : Event) : Prop :=
  (live.happening event).isRequest = true

/-- The event is no stop, and the text in the buffer is the same after it. -/
structure Leaves (live : LiveGrid α) (event : Event) : Prop where
  goes_on : live.happening event ≠ .stopped
  text : (live.after event).bufferText = live.bufferText

/-- A notification was heeded, and neither has the text changed since nor was there a stop. -/
def Accepted (live : LiveGrid α) (events : List Event) : Prop :=
  EverSince Leaves Heeds live events

/-- The event is a poll that takes the deadline away and then ends with a fault, although the text
of the buffer is not the one that was processed. -/
structure Drops (live : LiveGrid α) (event : Event) : Prop where
  attempted : live.happening event = .attempted
  failed : live.processes event = false
  behind : live.text ≠ live.bufferText

/-- Polling has dropped the text, and no notification was heeded since and no text processed. -/
def Dropped (live : LiveGrid α) (events : List Event) : Prop :=
  EverSince (fun live event => ¬ live.Heeds event ∧ live.processes event = false) Drops live events

/-- An update is pending, or the text of the buffer is the one that was processed. -/
def Settled (live : LiveGrid α) : Prop :=
  live.isPending = true ∨ live.text = live.bufferText

theorem Heeds.pending {event : Event} (heeds : live.Heeds event) :
    (live.after event).isPending = true := by
  have turns := turns_of_event live event
  rw [Heeds] at heeds
  generalize live.happening event = h at turns heeds
  cases turns with
  | requested now heeded debouncer running => simp [debouncer]
  | _ => contradiction

theorem Heeds.leaves {event : Event} (heeds : live.Heeds event) : live.Leaves event := by
  cases event with
  | notify now =>
    refine ⟨fun stopped => by rw [Heeds, stopped] at heeds; contradiction, ?_⟩
    simp only [after, notifyEdit]
    split <;> rfl
  | poll now =>
    simp only [Heeds, happening] at heeds
    split at heeds <;> contradiction
  | _ => contradiction

theorem Drops.not_heeds {event : Event} (drops : live.Drops event) : ¬ live.Heeds event := by
  rw [Heeds, drops.attempted]
  exact Bool.false_ne_true

/-- What one event does to an edit while the text in the buffer stays: it is settled by a heeded
notification and by processing the text, and it is unsettled only when a poll drops it. -/
theorem Leaves.settled_iff {event : Event} (leaves : live.Leaves event) :
    (live.after event).Settled ↔
      live.Heeds event ∨ live.processes event = true ∨ (¬ live.Drops event ∧ live.Settled) := by
  by_cases heeds : live.Heeds event
  · exact iff_of_true (.inl heeds.pending) (.inl heeds)
  by_cases processes : live.processes event = true
  · have text := text_after live event
    rw [if_pos processes] at text
    exact iff_of_true (.inr text) (.inr (.inl processes))
  have failed : live.processes event = false := by simpa using processes
  have text : (live.after event).text = live.text := by rw [text_after, if_neg processes]
  have turns := turns_of_event live event
  have drops_iff : live.Drops event ↔
      live.happening event = .attempted ∧ live.text ≠ live.bufferText :=
    ⟨fun drops => ⟨drops.attempted, drops.behind⟩, fun h => ⟨h.1, failed, h.2⟩⟩
  simp only [heeds, processes, false_or, drops_iff, Settled, isPending_iff, text, leaves.text]
  rw [Heeds] at heeds
  have no_stop := leaves.goes_on
  generalize live.happening event = h at turns heeds no_stop
  cases turns with
  | requested now heeded debouncer running => exact absurd rfl heeds
  | attempted due debouncer running => simp [debouncer]; tauto
  | begun debouncer running => simp [debouncer]
  | stopped debouncer running => exact absurd rfl no_stop
  | nothing debouncer running => simp [debouncer]

/-- An accepted edit is pending or processed, unless polling has dropped it. -/
theorem Accepted.settled_iff {events : List Event} (accepted : live.Accepted events) :
    (live.run events).Settled ↔ ¬ live.Dropped events := by
  induction events using List.reverseRecOn with
  | nil => exact absurd accepted not_everSince_nil
  | append_singleton events event ih =>
    have leaves : (live.run events).Leaves event := by
      rcases (everSince_concat events event).mp accepted with heeds | ⟨leaves, -⟩
      · exact heeds.leaves
      · exact leaves
    rw [run_concat, leaves.settled_iff, Dropped, everSince_concat]
    by_cases drops : (live.run events).Drops event
    · simp [drops, drops.not_heeds, drops.failed]
    rcases (everSince_concat events event).mp accepted with heeds | ⟨-, before⟩
    · simp [drops, heeds]
    · rw [ih before, Dropped]
      by_cases heeds : (live.run events).Heeds event
      · simp [drops, heeds]
      · cases (live.run events).processes event <;> simp [drops, heeds]

/-! ## §5 When nothing is refused any more -/

/-- The diagram at a time from which on the text can be read and the surface refuses nothing. -/
def eased (live : LiveGrid α) : LiveGrid α :=
  { live with
    input := live.input.map fun source => { source with refusal := none }
    scene := live.scene.refusing fun _ _ => false }

/-- The surface has what the scene remembers, perhaps beside strays. -/
def Grounded (live : LiveGrid α) : Prop :=
  ∃ lost stale drawn, live.scene.Littered lost stale drawn

/-- A text that can be read is followed on a surface that refuses nothing. -/
structure Calm (source : TextBuffer) (live : LiveGrid α) : Prop where
  bound : live.input = some source
  readable : source.refusal = none
  willing : ¬ live.scene.MayFail
  grounded : live.Grounded

variable {source : TextBuffer}

theorem Grounded.update (grounded : live.Grounded) : (stateOf (update live)).Grounded := by
  obtain ⟨lost, stale, drawn, littered⟩ := grounded
  have ends := update_cases live
  generalize LiveDiagram.update live = outcome at ends
  have render (machine : Machine) : ∃ lost stale drawn,
      (stateOf (Scene.render machine live.scene)).Littered lost stale drawn := by
    obtain ⟨lost', stale', drawn', littered', -⟩ := Scene.after_accounts littered (.render machine)
    exact ⟨lost', stale', drawn', littered'⟩
  cases ends with
  | unread fault failed => exact ⟨lost, stale, drawn, littered⟩
  | skipped text read seen => exact ⟨lost, stale, drawn, littered⟩
  | passed text stats scene read new ended =>
    have passed := render (.ofText text)
    rw [ended] at passed
    exact passed
  | failed text fault scene read new ended =>
    have failed := render (.ofText text)
    rw [ended] at failed
    exact failed

/-- Whatever happens, there are strays at the worst. -/
theorem Grounded.run (grounded : live.Grounded) (events : List Event) :
    (live.run events).Grounded := by
  induction events using List.reverseRecOn with
  | nil => exact grounded
  | append_singleton events event ih =>
    rw [run_concat, Grounded]
    rcases after_updates (live.run events) event with ⟨start, same, -, ended, -⟩ | ⟨same, -, -⟩
    · rw [Grounded, ← same] at ih
      rw [ended]
      exact Grounded.update ih
    · rw [same]
      exact ih

theorem grounded_of_new {config : PictureConfig α} {surface : Unreliable (GridSurface α)}
    {settings : Config α} (fresh : surface.inner = GridSurface.new config)
    (made : LiveDiagram.new surface settings = .ok live) : live.Grounded := by
  obtain ⟨scene, made_scene, rfl⟩ := exists_unbound_of_new made
  exact ⟨[], [], [], Scene.littered_of_new (by rw [fresh]; rfl) made_scene⟩

theorem Grounded.calm_eased (grounded : live.Grounded) (bound : live.input = some source) :
    live.eased.Calm { source with refusal := none } where
  bound := by rw [eased, bound]; rfl
  readable := rfl
  willing := by
    rintro ⟨call, refused⟩
    exact OnGrid.not_mayRefuse_of_never (fun _ => rfl) refused
  grounded := by
    obtain ⟨lost, stale, drawn, k, spare, strewn⟩ := grounded
    exact ⟨lost, stale, drawn, strewn.littered_of_same rfl rfl rfl rfl⟩

/-- An update processes the text then. -/
theorem Calm.update (calm : live.Calm source) :
    (stateOf (update live)).Calm source ∧ (stateOf (update live)).text = some source.text := by
  obtain ⟨bound, readable, willing, lost, stale, drawn, littered⟩ := calm
  have read : readText live = .ok source.text live := by
    refine readText_ok bound ?_
    simp only [EditSource.contents, readable]
  have setting := update_setting live
  have spread := Grounded.update ⟨lost, stale, drawn, littered⟩
  have ends := update_cases live
  generalize LiveDiagram.update live = outcome at setting spread ends
  cases ends with
  | unread fault failed => rw [read] at failed; contradiction
  | skipped text read' seen =>
    rw [read] at read'
    cases read'
    exact ⟨⟨bound, readable, willing, spread⟩, seen⟩
  | passed text stats scene read' new ended =>
    rw [read] at read'
    cases read'
    obtain ⟨-, _, _, _, -, -, booked⟩ := (Scene.render_accounts _ littered).of_ok ended
    refine ⟨⟨setting.input.trans bound, readable, fun fails => ?_, spread⟩, rfl⟩
    exact willing (Scene.mayFail_of_refuses booked.refuses fails)
  | failed text fault scene read' new ended =>
    obtain ⟨stats, scene', ended'⟩ :=
      littered.exists_rendered (Machine.Built.ofText text).wellFormed willing
    rw [ended] at ended'
    contradiction

theorem leaves_poll (live : LiveGrid α) (now : Duration) : live.Leaves (.poll now) := by
  constructor
  · simp only [happening]
    split <;> simp
  · simp only [after, poll_apply]
    split
    · exact bufferText_update _
    · rfl

/-- Polling does nothing before the deadline, and processes the text at the deadline. -/
theorem Calm.poll (calm : live.Calm source) (now : Duration) :
    if live.debouncer.isDue now then
      (live.after (.poll now)).Calm source ∧ (live.after (.poll now)).text = some source.text
    else live.after (.poll now) = live := by
  simp only [after, poll_apply]
  by_cases due : live.debouncer.isDue now = true
  · rw [if_pos due, if_pos due]
    exact Calm.update ⟨calm.bound, calm.readable, calm.willing, calm.grounded⟩
  · rw [if_neg due, if_neg due]
    rfl

/-- Polls bring the diagram up to date if one of them is late enough, and then nothing is left for
them to do. -/
theorem Calm.text_polls (calm : live.Calm source) {moments : List Duration}
    (late : live.text = some source.text ∨
      ∃ deadline, live.debouncer.deadline = some deadline ∧ ∃ now ∈ moments, deadline ≤ now) :
    (live.run (moments.map .poll)).text = some source.text := by
  induction moments generalizing live with
  | nil =>
    rcases late with done | ⟨_, -, now, listed, -⟩
    · exact done
    · exact absurd listed List.not_mem_nil
  | cons now rest ih =>
    have first := calm.poll now
    change ((live.after (.poll now)).run (rest.map .poll)).text = _
    by_cases due : live.debouncer.isDue now = true
    · rw [if_pos due] at first
      exact ih first.1 (.inl first.2)
    · rw [if_neg due] at first
      rw [first]
      refine ih calm (late.imp_right ?_)
      rintro ⟨deadline, pending, now', listed, reached⟩
      rcases List.mem_cons.mp listed with rfl | listed
      · exact absurd ((Debouncer.isDue_iff _ _).mpr ⟨deadline, pending, reached⟩) due
      · exact ⟨deadline, pending, now', listed, reached⟩

/-- Polls change nothing while no update is pending. -/
theorem run_polls_of_idle (idle : live.isPending = false) (moments : List Duration) :
    live.run (moments.map .poll) = live := by
  induction moments with
  | nil => rfl
  | cons now rest ih =>
    have early : ¬ live.debouncer.isDue now = true := fun due => by
      rw [isPending_of_isDue due] at idle
      contradiction
    change (live.after (.poll now)).run (rest.map .poll) = live
    simp only [after, poll_apply, if_neg early]
    exact ih

/-! ## §6 An edit that is dropped -/

/-- The text is edited while it cannot be read, and the one poll for it comes too early. -/
def busyBuffer : List Event :=
  [.bind { text := "", refusal := some "busy" }, .begin,
    .edit { text := "A->B", refusal := some "busy" }, .notify .zero, .poll .longest]

/-- The notification of the edit is heeded, and the poll leaves the text as it is. -/
theorem accepted_busyBuffer (live : LiveGrid α) : live.Accepted busyBuffer := by
  rw [Accepted, show busyBuffer = busyBuffer.take 4 ++ [.poll .longest] from rfl, everSince_concat]
  refine .inr ⟨leaves_poll _ _, ?_⟩
  exact ⟨busyBuffer.take 3, .notify .zero, [], rfl, rfl, by simp⟩

/-- The poll takes the deadline away, and the text is still not read. -/
theorem busyBuffer_ends :
    ∃ live : LiveGrid Float,
      LiveDiagram.new (.ofSurface (GridSurface.new .standard)) { layout := .standard } = .ok live ∧
      (live.run busyBuffer).isPending = false ∧ (live.run busyBuffer).text = none ∧
      (live.run busyBuffer).input = some { text := "A->B", refusal := some "busy" } := by
  obtain ⟨live, made⟩ : ∃ live : LiveGrid Float, LiveDiagram.new
      (.ofSurface (GridSurface.new .standard)) { layout := .standard } = .ok live := ⟨_, rfl⟩
  obtain ⟨scene, -, rfl⟩ := exists_unbound_of_new made
  exact ⟨_, made, rfl, rfl, rfl⟩

/-- After any events on a fresh surface, whatever reading and the surface refuse, an edit whose
notification was heeded is pending or processed exactly if polling has not dropped it. Then polls
bring the diagram up to date once one of them is late enough, if nothing is refused any more. If
polling has dropped it no polls ever do, and somebody else has to update the diagram. -/
theorem accepted_edits_unless_dropped {config : PictureConfig α}
    {surface : Unreliable (GridSurface α)} {settings : Config α} {events : List Event}
    (fresh : surface.inner = GridSurface.new config)
    (made : LiveDiagram.new surface settings = .ok live) (accepted : live.Accepted events)
    (bound : (live.run events).input = some source) :
    ((live.run events).isPending = true ∨ (live.run events).text = some source.text ↔
      ¬ live.Dropped events) ∧
    (¬ live.Dropped events → ∃ deadline, ∀ moments : List Duration,
      (∃ now ∈ moments, deadline ≤ now) →
      ((live.run events).eased.run (moments.map .poll)).UpToDate source.text) ∧
    (live.Dropped events → ∀ moments : List Duration,
      ((live.run events).eased.run (moments.map .poll)).text ≠ some source.text) ∧
    (stateOf (update (live.run events).eased)).UpToDate source.text := by
  have settled_iff := accepted.settled_iff
  rw [Settled, bufferText, bound, Option.map_some] at settled_iff
  have calm := ((grounded_of_new fresh made).run events).calm_eased bound
  have booked : (live.run events).eased.Booked :=
    (((booked_of_new fresh made).1.run events).1).of_sameRecord ⟨rfl, rfl, rfl, rfl, rfl⟩
  refine ⟨settled_iff, fun kept => ?_, fun dropped moments => ?_, ?_⟩
  · have booked_later (moments : List Duration) := (booked.run (moments.map .poll)).1
    rcases settled_iff.mpr kept with pending | shown
    · obtain ⟨deadline, pending⟩ := (isPending_iff _).mp pending
      refine ⟨deadline, fun moments late => (booked_later moments).upToDate ?_⟩
      exact calm.text_polls (.inr ⟨deadline, pending, late⟩)
    · refine ⟨.zero, fun moments _ => (booked_later moments).upToDate ?_⟩
      exact calm.text_polls (.inl shown)
  · have unsettled := mt settled_iff.mp (not_not.mpr dropped)
    rw [not_or, Bool.not_eq_true] at unsettled
    have idle : (live.run events).eased.isPending = false := unsettled.1
    rw [run_polls_of_idle idle]
    exact unsettled.2
  · exact (booked.run [.update]).1.upToDate calm.update.2

/-- What is said of an accepted edit, where a poll has dropped it. -/
theorem accepted_edits_unless_dropped_busy_buffer :
    ∃ live : LiveGrid Float,
      LiveDiagram.new (.ofSurface (GridSurface.new .standard)) { layout := .standard } = .ok live ∧
      ((live.run busyBuffer).isPending = true ∨ (live.run busyBuffer).text = some "A->B" ↔
        ¬ live.Dropped busyBuffer) ∧
      (stateOf (update (live.run busyBuffer).eased)).UpToDate "A->B" := by
  obtain ⟨live, made, -, -, bound⟩ := busyBuffer_ends
  obtain ⟨settled_iff, -, -, updated⟩ :=
    accepted_edits_unless_dropped rfl made (accepted_busyBuffer live) bound
  exact ⟨live, made, settled_iff, updated⟩

/-- An accepted edit may be neither pending nor processed, and then no polls will process it. -/
theorem accepted_edit_dropped_busy_buffer :
    ∃ live : LiveGrid Float,
      LiveDiagram.new (.ofSurface (GridSurface.new .standard)) { layout := .standard } = .ok live ∧
      live.Accepted busyBuffer ∧ (live.run busyBuffer).bufferText = some "A->B" ∧
      ¬ ((live.run busyBuffer).isPending = true ∨ (live.run busyBuffer).text = some "A->B") ∧
      ∀ moments : List Duration,
        ((live.run busyBuffer).eased.run (moments.map .poll)).text ≠ some "A->B" := by
  obtain ⟨live, made, idle, no_text, bound⟩ := busyBuffer_ends
  refine ⟨live, made, accepted_busyBuffer live, by rw [bufferText, bound]; rfl, ?_, ?_⟩
  · simp [idle, no_text]
  · intro moments
    have idle_eased : (live.run busyBuffer).eased.isPending = false := idle
    rw [run_polls_of_idle idle_eased, eased, no_text]
    exact (Option.some_ne_none _).symm

end LiveDiagram

end TransitionDiagram
