/-
TransitionDiagram.Proofs.Requests: which polls attempt an update.

Of all that happens to a live diagram, its deadline depends on four things only: a request is
heeded, a poll attempts an update, the diagram begins to heed requests, and it stops. The history
of a run lists them. Polling attempts an update exactly if the history has a request with no other
request, no attempt and no stop after it, and the quiet time has passed since; the clock may say
what it likes at each call. Requests are heeded exactly if the diagram has begun to and has not
stopped since.

  §1 sums and deadlines
  §2 what happens to a deadline
  §3 the last thing of a kind
  §4 the schedule, and what keeps it
  §5 histories
  §6 polls after any run
-/
import TransitionDiagram.Proofs.Following

namespace TransitionDiagram

/-! ## §1 Sums and deadlines -/

/-- A sum is exact up to the longest duration. -/
theorem Duration.nanos_add (a b : Duration) :
    (a + b).nanos = min (a.nanos + b.nanos) Duration.longest.nanos := by
  change (Duration.ofNanos (a.nanos + b.nanos)).nanos = _
  have bound : Duration.longest.nanos + 1 = Nat.pow 2 64 * nanosPerSecond := by decide
  rw [Duration.ofNanos]
  split
  · simp only
    omega
  · omega

theorem Duration.add_le_add_right {a b : Duration} (le : a ≤ b) (c : Duration) :
    a + c ≤ b + c := by
  change (a + c).nanos ≤ (b + c).nanos
  have le_nanos : a.nanos ≤ b.nanos := le
  rw [nanos_add, nanos_add]
  omega

namespace Debouncer

variable (d : Debouncer) (now : Duration)

@[simp] theorem quiet_schedule : (d.schedule now).2.quiet = d.quiet := rfl

@[simp] theorem deadline_schedule : (d.schedule now).2.deadline = some (now + d.quiet) := rfl

@[simp] theorem quiet_cancel : d.cancel.2.quiet = d.quiet := rfl

@[simp] theorem deadline_cancel : d.cancel.2.deadline = none := rfl

theorem isDue_iff : d.isDue now = true ↔ ∃ t, d.deadline = some t ∧ t ≤ now := by
  simp [isDue, Option.any_eq_true]

end Debouncer

variable {α : Type}

namespace LiveDiagram

/-! ## §2 What happens to a deadline -/

/-- What an event is to the deadline of a diagram. -/
inductive Happening where
  | requested (now : Duration)
  | attempted
  | begun
  | stopped
  | nothing
  deriving DecidableEq, Repr

/-- Whether something is a request that was heeded. -/
def Happening.isRequest : Happening → Bool
  | .requested _ => true
  | _ => false

/-- Whether polling attempts an update. -/
def attempts (live : LiveGrid α) (now : Duration) : Bool :=
  (live.debouncer.fire now).1

theorem attempts_eq_isDue (live : LiveGrid α) (now : Duration) :
    live.attempts now = live.debouncer.isDue now := by
  simp only [attempts, Debouncer.fire]
  split <;> simp_all

/-- What an event is to the deadline of this diagram. A request is heeded while the diagram is
running. -/
def happening (live : LiveGrid α) : Event → Happening
  | .notify now => if live.running then .requested now else .nothing
  | .poll now => if live.attempts now then .attempted else .nothing
  | .begin => .begun
  | .stop => .stopped
  | .bind _ | .edit _ | .update => .nothing

/-- How something that happens changes the deadline, and whether requests are heeded. -/
inductive Turns (live live' : LiveGrid α) : Happening → Prop where
  | requested (now : Duration) (heeded : live.running = true)
      (debouncer : live'.debouncer = (live.debouncer.schedule now).2)
      (running : live'.running = live.running) : Turns live live' (.requested now)
  | attempted (due : live.isPending = true) (debouncer : live'.debouncer = live.debouncer.cancel.2)
      (running : live'.running = live.running) : Turns live live' .attempted
  | begun (debouncer : live'.debouncer = live.debouncer) (running : live'.running = true) :
      Turns live live' .begun
  | stopped (debouncer : live'.debouncer = live.debouncer.cancel.2)
      (running : live'.running = false) : Turns live live' .stopped
  | nothing (debouncer : live'.debouncer = live.debouncer)
      (running : live'.running = live.running) : Turns live live' .nothing

@[simp] theorem isPending_iff (live : LiveGrid α) :
    live.isPending = true ↔ ∃ t, live.debouncer.deadline = some t :=
  Option.isSome_iff_exists

theorem isPending_of_isDue {live : LiveGrid α} {now : Duration}
    (due : live.debouncer.isDue now = true) : live.isPending = true := by
  obtain ⟨t, deadline, -⟩ := (Debouncer.isDue_iff _ _).mp due
  simp [deadline]

/-! ## §3 The last thing of a kind -/

/-- Something of one kind happened, and all that happened since is of another kind. -/
def Since (since event : Happening → Prop) (past : List Happening) : Prop :=
  ∃ before h after, past = before ++ h :: after ∧ event h ∧ ∀ h ∈ after, since h

/-- A request was heeded, which neither an attempt nor a stop nor another request has settled. -/
def Outstanding (now : Duration) : List Happening → Prop :=
  Since (fun h => h = .begun ∨ h = .nothing) (· = .requested now)

/-- The diagram has begun to heed requests, and has not stopped since. -/
def Heeding : List Happening → Prop :=
  Since (· ≠ .stopped) (· = .begun)

section

variable {since event : Happening → Prop}

theorem not_since_nil : ¬ Since since event [] := by
  simp [Since]

theorem since_concat (past : List Happening) (h : Happening) :
    Since since event (past ++ [h]) ↔ event h ∨ (since h ∧ Since since event past) := by
  constructor
  · rintro ⟨before, found, after, cut, is, all⟩
    rcases List.eq_nil_or_concat' after with rfl | ⟨after, last, rfl⟩
    · obtain ⟨-, same⟩ := List.append_inj' cut rfl
      rw [List.singleton_inj.mp same]
      exact .inl is
    · rw [← List.cons_append, ← List.append_assoc] at cut
      obtain ⟨rest, same⟩ := List.append_inj' cut rfl
      rw [List.singleton_inj.mp same]
      refine .inr ⟨all last (by simp), before, found, after, rest, is, fun h mem => ?_⟩
      exact all h (List.mem_append_left _ mem)
  · rintro (is | ⟨last, before, found, after, rfl, is, all⟩)
    · exact ⟨past, h, [], rfl, is, by simp⟩
    · refine ⟨before, found, after ++ [h], by simp, is, fun h' mem => ?_⟩
      rcases List.mem_append.mp mem with mem | mem
      · exact all h' mem
      · rw [List.mem_singleton.mp mem]
        exact last

/-- What is found is in the second part, if nothing can be found beyond the end of the first. -/
theorem Since.of_append {first second : List Happening} {h : Happening} (neither : ¬ event h)
    (ends : ¬ since h) (found : Since since event (first ++ h :: second)) :
    Since since event second := by
  induction second using List.reverseRecOn with
  | nil =>
    rcases (since_concat first h).mp found with is | ⟨passed, -⟩
    · exact absurd is neither
    · exact absurd passed ends
  | append_singleton second last ih =>
    rw [← List.cons_append, ← List.append_assoc, since_concat] at found
    rw [since_concat]
    exact found.imp_right (And.imp_right ih)

end

@[simp] theorem not_outstanding_nil (now : Duration) : ¬ Outstanding now [] :=
  not_since_nil

@[simp] theorem outstanding_concat (now : Duration) (past : List Happening) (h : Happening) :
    Outstanding now (past ++ [h]) ↔
      h = .requested now ∨ ((h = .begun ∨ h = .nothing) ∧ Outstanding now past) :=
  since_concat past h

@[simp] theorem not_heeding_nil : ¬ Heeding [] :=
  not_since_nil

@[simp] theorem heeding_concat (past : List Happening) (h : Happening) :
    Heeding (past ++ [h]) ↔ h = .begun ∨ (h ≠ .stopped ∧ Heeding past) :=
  since_concat past h

/-! ## §4 The schedule -/

/-- The deadline is that of the outstanding request, and requests are heeded exactly if the
diagram has begun to and has not stopped since. -/
structure Scheduled (pause : Duration) (past : List Happening) (live : LiveGrid α) : Prop where
  quiet : live.debouncer.quiet = pause
  deadline : ∀ d, live.debouncer.deadline = some d ↔ ∃ t, Outstanding t past ∧ t + pause = d
  running : live.running = true ↔ Heeding past
  pending : live.isPending = true → live.running = true

variable {pause : Duration} {past : List Happening} {live live' : LiveGrid α}

theorem Scheduled.turn {h : Happening} (scheduled : Scheduled pause past live)
    (turns : live.Turns live' h) : Scheduled pause (past ++ [h]) live' := by
  obtain ⟨quiet, deadline, heeds, pending⟩ := scheduled
  cases turns with
  | requested now heeded debouncer running =>
    exact ⟨by simp [debouncer, quiet], by simp [debouncer, quiet], by simpa [running] using heeds,
      fun _ => running.trans heeded⟩
  | attempted due debouncer running =>
    exact ⟨by simp [debouncer, quiet], by simp [debouncer], by simpa [running] using heeds,
      by simp [debouncer]⟩
  | begun debouncer running =>
    exact ⟨by simp [debouncer, quiet], by simpa [debouncer] using deadline, by simp [running],
      fun _ => running⟩
  | stopped debouncer running =>
    exact ⟨by simp [debouncer, quiet], by simp [debouncer], by simp [running],
      by simp [debouncer]⟩
  | nothing debouncer running =>
    exact ⟨by simp [debouncer, quiet], by simpa [debouncer] using deadline,
      by simpa [running] using heeds, by simpa [debouncer, running] using pending⟩

/-- Polling attempts an update if a request is outstanding, and the quiet time has passed. -/
theorem Scheduled.attempts_iff (scheduled : Scheduled pause past live) (now : Duration) :
    live.attempts now = true ↔ ∃ t, Outstanding t past ∧ t + pause ≤ now := by
  rw [attempts_eq_isDue, Debouncer.isDue_iff]
  constructor
  · rintro ⟨d, deadline, reached⟩
    obtain ⟨t, outstanding, rfl⟩ := (scheduled.deadline d).mp deadline
    exact ⟨t, outstanding, reached⟩
  · rintro ⟨t, outstanding, reached⟩
    exact ⟨t + pause, (scheduled.deadline _).mpr ⟨t, outstanding, rfl⟩, reached⟩

/-- An attempt settles the update that is pending, and only a request makes one pending. -/
theorem count_of_turns {h : Happening} (turns : live.Turns live' h) :
    [h].count .attempted + live'.isPending.toNat ≤
      [h].countP Happening.isRequest + live.isPending.toNat := by
  have drops : live'.debouncer = live.debouncer.cancel.2 → live'.isPending = false := by
    intro debouncer
    simp [isPending, Debouncer.isPending, debouncer]
  cases turns with
  | requested now heeded debouncer running =>
    have few : live'.isPending.toNat ≤ 1 + live.isPending.toNat :=
      Nat.le_add_right_of_le (Bool.toNat_le _)
    simpa [Happening.isRequest] using few
  | attempted due debouncer running => simp [Happening.isRequest, due, drops debouncer]
  | begun debouncer running => simp [isPending, debouncer]
  | stopped debouncer running => simp [drops debouncer]
  | nothing debouncer running => simp [isPending, debouncer]

variable [Scalar α]

/-! ## §5 Histories -/

theorem turns_of_event (live : LiveGrid α) (event : Event) :
    live.Turns (live.after event) (live.happening event) := by
  cases event with
  | bind source =>
    have same := update_setting { live with input := some source }
    exact .nothing same.debouncer same.running
  | edit source => exact .nothing rfl rfl
  | update =>
    have same := update_setting live
    exact .nothing same.debouncer same.running
  | begin => exact .begun rfl rfl
  | stop => exact .stopped rfl rfl
  | notify now =>
    by_cases heeded : live.running = true
    · have heard : live.notifyEdit now =
          (true, { live with debouncer := (live.debouncer.schedule now).2 }) := if_pos heeded
      simp only [happening, if_pos heeded, after, heard]
      exact .requested now heeded rfl rfl
    · have unheard : live.notifyEdit now = (false, live) := if_neg heeded
      simp only [happening, if_neg heeded, after, unheard]
      exact .nothing rfl rfl
  | poll now =>
    simp only [happening, after, attempts_eq_isDue, poll_apply]
    by_cases due : live.debouncer.isDue now = true
    · rw [if_pos due, if_pos due]
      have same := update_setting { live with debouncer := live.debouncer.cancel.2 }
      exact .attempted (isPending_of_isDue due) same.debouncer same.running
    · rw [if_neg due, if_neg due]
      exact .nothing rfl rfl

/-- What happens to the deadline in a run. -/
def history (live : LiveGrid α) : List Event → List Happening
  | [] => []
  | event :: rest => live.happening event :: (live.after event).history rest

theorem run_concat (live : LiveGrid α) (events : List Event) (event : Event) :
    live.run (events ++ [event]) = (live.run events).after event := by
  simp [run]

theorem history_append (live : LiveGrid α) (events events' : List Event) :
    live.history (events ++ events') =
      live.history events ++ (live.run events).history events' := by
  induction events generalizing live with
  | nil => rfl
  | cons event rest ih => simp [history, ih, run]

theorem history_concat (live : LiveGrid α) (events : List Event) (event : Event) :
    live.history (events ++ [event]) =
      live.history events ++ [(live.run events).happening event] := by
  simp [history_append, history]

/-- Where a history is cut in two, the run is cut as well. -/
theorem exists_events_of_history {live : LiveGrid α} {events : List Event}
    {first last : List Happening} (cut : live.history events = first ++ last) :
    ∃ before after, live.history before = first ∧ (live.run before).history after = last := by
  induction first generalizing live events with
  | nil => exact ⟨[], events, rfl, cut⟩
  | cons h rest ih =>
    cases events with
    | nil => simp [history] at cut
    | cons event events =>
      obtain ⟨rfl, cut'⟩ := List.cons.inj cut
      obtain ⟨before, after, rfl, rfl⟩ := ih cut'
      exact ⟨event :: before, after, rfl, rfl⟩

/-- What a history says happened did happen, after the events with the history before it. -/
theorem exists_turns_of_history {live : LiveGrid α} {events : List Event}
    {past after : List Happening} {h : Happening} (cut : live.history events = past ++ h :: after) :
    ∃ before live', live.history before = past ∧ (live.run before).Turns live' h := by
  obtain ⟨before, rest, same, cut'⟩ := exists_events_of_history cut
  cases rest with
  | nil => simp [history] at cut'
  | cons event rest =>
    obtain ⟨rfl, -⟩ := List.cons.inj cut'
    exact ⟨before, _, same, turns_of_event _ event⟩

theorem scheduled_of_new {surface : Unreliable (GridSurface α)} {settings : Config α}
    (made : LiveDiagram.new surface settings = .ok live) :
    Scheduled settings.quiet [] live := by
  obtain ⟨scene, -, rfl⟩ := exists_unbound_of_new made
  exact ⟨rfl, by simp [unbound], by simp [unbound],
    by simp [isPending, Debouncer.isPending, unbound]⟩

theorem Scheduled.run (scheduled : Scheduled pause [] live) (events : List Event) :
    Scheduled pause (live.history events) (live.run events) := by
  induction events using List.reverseRecOn with
  | nil => exact scheduled
  | append_singleton events event ih =>
    rw [history_concat, run_concat]
    exact ih.turn (turns_of_event _ event)

theorem count_run (live : LiveGrid α) (events : List Event) :
    (live.history events).count .attempted + (live.run events).isPending.toNat ≤
      (live.history events).countP Happening.isRequest + live.isPending.toNat := by
  induction events using List.reverseRecOn with
  | nil => simp [history, run]
  | append_singleton events event ih =>
    have step := count_of_turns (turns_of_event (live.run events) event)
    rw [history_concat, run_concat, List.count_append, List.countP_append]
    omega

/-! ## §6 Polls after any run -/

/-- Where a request is outstanding after a stop, the diagram has begun anew before the request. -/
theorem Scheduled.exists_begun (scheduled : Scheduled pause [] live) {events : List Event}
    {before between after : List Happening}
    (cut : live.history events = before ++ .stopped :: between ++ .attempted :: after) :
    ∃ first t middle last, between = first ++ .begun :: middle ++ .requested t :: last := by
  obtain ⟨events', live', same, turns⟩ := exists_turns_of_history cut
  have scheduled' := scheduled.run events'
  rw [same] at scheduled'
  -- something was pending at the attempt, and the request for it is not from before the stop
  obtain ⟨d, deadline⟩ : ∃ d, (live.run events').debouncer.deadline = some d := by
    cases turns with
    | attempted due => exact Option.isSome_iff_exists.mp due
  obtain ⟨t, outstanding, -⟩ := (scheduled'.deadline d).mp deadline
  obtain ⟨inner, _, last, rfl, rfl, -⟩ := Since.of_append (by simp) (by simp) outstanding
  -- at that request the diagram was heeding, and has not been since before the stop
  have cut' : live.history events =
      (before ++ .stopped :: inner) ++ .requested t :: (last ++ .attempted :: after) := by
    simpa using cut
  obtain ⟨events'', live'', same', turns'⟩ := exists_turns_of_history cut'
  have heeding : Heeding (before ++ .stopped :: inner) := by
    rw [← same', ← (scheduled.run events'').running]
    cases turns' with
    | requested now heeded => exact heeded
  obtain ⟨first, _, middle, rfl, rfl, -⟩ := Since.of_append (by simp) (by simp) heeding
  exact ⟨first, t, middle, last, rfl⟩

/-- After any events on any surface, polling attempts an update exactly if a request was heeded, no
other request, no attempt and no stop came after it, and the quiet time has passed since; else it
does nothing. Something is pending only while requests are heeded. Until the next request is
heeded, a burst of requests leads to one attempt at most, and there are no more attempts than
requests in all. After a stop there is no attempt before a begin, and then a request. -/
theorem polls_follow_requests {surface : Unreliable (GridSurface α)} {settings : Config α}
    (made : LiveDiagram.new surface settings = .ok live) (events : List Event) :
    (∀ now, ((live.run events).attempts now = true ↔
        ∃ t, Outstanding t (live.history events) ∧
          min (t.nanos + settings.quiet.nanos) Duration.longest.nanos ≤ now.nanos) ∧
      poll now (live.run events) =
        if (live.run events).attempts now then
          update { live.run events with debouncer := (live.run events).debouncer.cancel.2 }
        else .ok false (live.run events)) ∧
    ((live.run events).isPending = true → (live.run events).running = true) ∧
    (∀ before burst after, live.history events = before ++ burst ++ after →
      .attempted ∉ burst → (∀ h ∈ after, h.isRequest = false) →
      (burst ++ after).count .attempted ≤ 1) ∧
    (live.history events).count .attempted ≤
      (live.history events).countP Happening.isRequest ∧
    (∀ before between after,
      live.history events = before ++ .stopped :: between ++ .attempted :: after →
      ∃ first t middle last, between = first ++ .begun :: middle ++ .requested t :: last) := by
  have start := scheduled_of_new made
  have scheduled := start.run events
  refine ⟨fun now => ⟨?_, ?_⟩, scheduled.pending, ?_, ?_, ?_⟩
  · simp only [scheduled.attempts_iff, ← Duration.nanos_add]
    rfl
  · rw [attempts_eq_isDue, poll_apply]
  · intro before burst after cut none_in_burst none_after
    obtain ⟨events', later, -, rest⟩ := exists_events_of_history cut
    have counted := count_run (live.run events') later
    rw [rest, List.countP_eq_zero.mpr (by simpa using none_after)] at counted
    have few := Bool.toNat_le (live.run events').isPending
    rw [List.count_append, List.count_eq_zero.mpr none_in_burst]
    omega
  · have counted := count_run live events
    have idle : live.isPending = false := by
      by_contra pending
      exact not_heeding_nil (start.running.mp (start.pending (by simpa using pending)))
    rw [idle, Bool.toNat_false] at counted
    omega
  · intro before between after cut
    exact start.exists_begun cut

/-- Two requests, a stop, and a request after the next begin, by a clock that goes back. -/
theorem polls_follow_requests_back_and_forth :
    ∃ live : LiveGrid Float,
      LiveDiagram.new (.ofSurface (GridSurface.new .standard)) { layout := .standard } = .ok live ∧
      (live.run [.begin, .notify (.ofMillis 900), .notify (.ofMillis 100), .stop, .poll .longest,
        .begin, .update, .notify (.ofMillis 700), .poll (.ofMillis 999)]).attempts
        (.ofMillis 1000) = true := by
  obtain ⟨live, made⟩ : ∃ live : LiveGrid Float, LiveDiagram.new
      (.ofSurface (GridSurface.new .standard)) { layout := .standard } = .ok live := ⟨_, rfl⟩
  refine ⟨live, made, ((polls_follow_requests made _).1 _).1.mpr ⟨.ofMillis 700, ?_, by decide⟩⟩
  obtain ⟨scene, -, rfl⟩ := exists_unbound_of_new made
  exact ⟨[.begun, .requested (.ofMillis 900), .requested (.ofMillis 100), .stopped, .nothing,
    .begun, .nothing], _, [.nothing], rfl, rfl, by simp⟩

end LiveDiagram

end TransitionDiagram
