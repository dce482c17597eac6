/-
TransitionDiagram.Proofs.Watching: when a watcher has caught up with its file.

Between two looks at a file the watcher remembers a stamp. Either it shows the text that the file
had with this stamp, or an update is pending whose deadline is no later than the quiet time after
the last look. A look at a file with another stamp makes an update pending, one that comes after
the deadline leads to the text being shown, and one at a missing file changes nothing. So a file
that keeps its stamp for the quiet time is shown, whatever happened to it before, and however often
it was missing in between.

  §1 looks
  §2 updates that cannot fail
  §3 one look
  §4 what every run keeps
  §5 catching up
-/
import TransitionDiagram.Proofs.Redraws
import TransitionDiagram.Proofs.Requests
import TransitionDiagram.Watch.Watcher

namespace TransitionDiagram

open OnGrid

/-- A file that is missing, or that is there with a stamp and a text. -/
def Sighting.ofFile : Option (Stamp × String) → Sighting
  | none => .missing
  | some (stamp, text) => .present stamp (.ok text)

variable {α : Type}

namespace Watcher

/-! ## §1 Looks -/

/-- What the file is at some time: missing, or there with a stamp and a text. -/
structure Look where
  now : Duration
  file : Option (Stamp × String)

/-- Where two files have the same stamp, they have the same text. -/
def Faithful (files : List (Option (Stamp × String))) : Prop :=
  ∀ stamp text text', some (stamp, text) ∈ files → some (stamp, text') ∈ files → text = text'

/-- The same is shown, of the same text, and it was not drawn anew. -/
structure SameShown (w w' : Watcher α) : Prop where
  scene : w'.diagram.scene = w.diagram.scene
  text : w'.diagram.text = w.diagram.text
  machine : w'.diagram.machine = w.diagram.machine
  lastPass : w'.diagram.lastPass = w.diagram.lastPass
  passes : w'.diagram.passes = w.diagram.passes

/-- A text is shown, or there is a deadline, no later than some time, for an update. -/
def Awaits (w : Watcher α) (last : Duration) (text : String) : Prop :=
  w.diagram.text = some text ∨ ∃ d, w.diagram.debouncer.deadline = some d ∧ d ≤ last

theorem Awaits.mono {w : Watcher α} {text : String} {first last : Duration}
    (awaits : w.Awaits first text) (le : first ≤ last) : w.Awaits last text :=
  awaits.imp_right fun ⟨d, deadline, reached⟩ => ⟨d, deadline, Nat.le_trans reached le⟩

variable [Scalar α]

/-- The watcher after a look at the file. -/
def look (w : Watcher α) (l : Look) : Watcher α :=
  stateOf (check l.now (.ofFile l.file) w)

/-- The watcher after some looks, one after the other. -/
def run (w : Watcher α) (looks : List Look) : Watcher α :=
  looks.foldl look w

/-- The diagram is that of the text: its machine, its states and its picture. -/
structure Shows (picture : PictureConfig α) (layout : Layout α) (w : Watcher α) (text : String) :
    Prop where
  text_eq : w.diagram.text = some text
  machine : w.diagram.machine = .ofText text
  states : w.diagram.scene.nodes.ids.Perm (Machine.ofText text).states
  canvas : w.diagram.scene.surface.canvas =
    portrait picture layout w.diagram.scene.nodes.ids (Machine.ofText text).pairs

/-- The picture was drawn anew, once, for a text other than the one shown before. -/
structure Redrawn (picture : PictureConfig α) (layout : Layout α) (w w' : Watcher α)
    (text : String) : Prop where
  redraws : w'.diagram.scene.surface.redraws = w.diagram.scene.surface.redraws + 1
  before : ∃ old, w.Shows picture layout old ∧ old ≠ text
  after : w'.Shows picture layout text

/-! ## §2 Updates that cannot fail -/

/-- A live diagram of a file. -/
abbrev FileDiagram (α : Type) : Type :=
  LiveDiagram α (GridSurface α) FileView

/-- An update on a surface that refuses nothing goes through, and the text is that of the file. -/
theorem exists_updated (live : FileDiagram α) {picture : PictureConfig α} {layout : Layout α}
    {path text : String} (steady : live.scene.Steady picture layout)
    (bound : live.input = some { path, contents := .ok text }) :
    (live.text = some text ∧ LiveDiagram.update live = .ok false live) ∨
    (live.text ≠ some text ∧ ∃ stats scene, scene.Steady picture layout ∧
      Scene.render (.ofText text) live.scene = .ok stats scene ∧
      LiveDiagram.update live = .ok true (live.passed text stats scene)) := by
  have readable : LiveDiagram.readText live = .ok text live :=
    LiveDiagram.readText_ok bound rfl
  have wf : (Machine.ofText text).WellFormed := (Machine.Built.ofText text).wellFormed
  have never : ¬ live.scene.MayFail := fun ⟨_, refused⟩ => refused
  obtain ⟨stats, scene, rendered, steady', -, -⟩ := steady.exists_rendered never wf
  have ends := LiveDiagram.update_cases live
  generalize LiveDiagram.update live = outcome at ends
  cases ends with
  | unread fault failed =>
    rw [readable] at failed
    contradiction
  | skipped text' read seen =>
    rw [readable] at read
    cases read
    exact .inl ⟨seen, rfl⟩
  | passed text' stats' scene' read new ended =>
    rw [readable] at read
    cases read
    rw [rendered] at ended
    cases ended
    exact .inr ⟨new, stats, scene, steady', rendered, rfl⟩
  | failed text' fault scene' read new ended =>
    rw [readable] at read
    cases read
    rw [rendered] at ended
    contradiction

/-! ## §3 One look -/

/-- What a watcher keeps that heeds requests and whose surface refuses nothing. -/
structure Awake (picture : PictureConfig α) (config : LiveDiagram.Config α) (w : Watcher α) :
    Prop where
  steady : w.diagram.scene.Steady picture config.layout
  running : w.diagram.running = true
  quiet : w.diagram.debouncer.quiet = config.quiet
  shows : ∃ text, w.Shows picture config.layout text

variable {picture : PictureConfig α} {config : LiveDiagram.Config α} {w w' : Watcher α}
  {now : Duration} {stamp : Stamp} {text : String}

theorem Shows.of_same {layout : Layout α} (shows : w.Shows picture layout text)
    (same : w.SameShown w') : w'.Shows picture layout text := by
  obtain ⟨text_eq, machine, states, canvas⟩ := shows
  refine ⟨?_, ?_, ?_, ?_⟩
  · rw [same.text, text_eq]
  · rw [same.machine, machine]
  · rw [same.scene]; exact states
  · rw [same.scene]; exact canvas

theorem Awake.of_same (awake : w.Awake picture config) (same : w.SameShown w')
    (running : w'.diagram.running = w.diagram.running)
    (quiet : w'.diagram.debouncer.quiet = w.diagram.debouncer.quiet) :
    w'.Awake picture config := by
  obtain ⟨shown, shows⟩ := awake.shows
  refine ⟨?_, running.trans awake.running, quiet.trans awake.quiet, shown, shows.of_same same⟩
  rw [same.scene]
  exact awake.steady

/-- A pass that goes through shows its text. -/
theorem shows_passed (path : String) (stamp : Stamp) {layout : Layout α} {live : FileDiagram α}
    {stats : PassStats α} {scene : Scene α (GridSurface α)}
    (steady : live.scene.Steady picture layout)
    (ended : Scene.render (.ofText text) live.scene = .ok stats scene) :
    Shows picture layout { diagram := live.passed text stats scene, path, stamp } text := by
  have wf : (Machine.ofText text).WellFormed := (Machine.Built.ofText text).wellFormed
  obtain ⟨-, -, -, canvas⟩ := steady.rendered ended
  exact ⟨rfl, rfl, steady.rendered_perm ended wf.nodup, canvas⟩

/-- The deadline after the file was seen with a stamp: a new one if the stamp is. -/
def deadlineAt (w : Watcher α) (now : Duration) (stamp : Stamp) : Option Duration :=
  if stamp = w.stamp then w.diagram.debouncer.deadline
  else some (now + w.diagram.debouncer.quiet)

/-- The watcher once the file was seen with a stamp and a text, with some deadline. -/
def reading (w : Watcher α) (stamp : Stamp) (text : String) (deadline : Option Duration) :
    Watcher α :=
  { w with
    stamp
    diagram := { w.diagram with
      input := some { path := w.path, contents := .ok text }
      debouncer := { w.diagram.debouncer with deadline } } }

/-- A look at a file that is there, if requests are heeded: an update that is due takes the
deadline away, and else only the stamp and the deadline are noted. -/
theorem check_present (running : w.diagram.running = true) (now : Duration) (stamp : Stamp)
    (text : String) :
    check now (.present stamp (.ok text)) w =
      if (w.deadlineAt now stamp).any (· ≤ now) then
        onDiagram LiveDiagram.update (w.reading stamp text none)
      else .ok false (w.reading stamp text (w.deadlineAt now stamp)) := by
  have noted : noteStamp now stamp
      { w with diagram := { w.diagram with input := some { path := w.path, contents := .ok text } } }
        = w.reading stamp text (w.deadlineAt now stamp) := by
    unfold noteStamp deadlineAt
    by_cases known : stamp = w.stamp
    · rw [if_pos known, if_pos known, known]
      rfl
    · rw [if_neg known, if_neg known]
      simp [LiveDiagram.notifyEdit, Debouncer.schedule, reading, running]
  have opened : check now (.present stamp (.ok text)) w =
      onDiagram (LiveDiagram.poll now) (w.reading stamp text (w.deadlineAt now stamp)) := by
    rw [← noted]
    simp only [check, Action.bind_apply, Action.modify_apply]
  have isDue : (w.reading stamp text (w.deadlineAt now stamp)).diagram.debouncer.isDue now =
      (w.deadlineAt now stamp).any (· ≤ now) := rfl
  rw [opened, onDiagram, LiveDiagram.poll_apply, isDue]
  by_cases due : (w.deadlineAt now stamp).any (· ≤ now) = true
  · rw [if_pos due, if_pos due]
    rfl
  · rw [if_neg due, if_neg due]

/-- A look at a file that is there: it is drawn anew if an update is due and another text is
shown, and else what is shown stays. -/
structure Looked (picture : PictureConfig α) (config : LiveDiagram.Config α) (w w' : Watcher α)
    (now : Duration) (stamp : Stamp) (text : String) (b : Bool) : Prop where
  awake : w'.Awake picture config
  seen : w'.stamp = stamp
  redrawn : b = true → w.Redrawn picture config.layout w' text
  same : b = false → w.SameShown w'
  due : (w.deadlineAt now stamp).any (· ≤ now) = true →
    w'.diagram.text = some text ∧ w'.diagram.debouncer.deadline = none
  waits : (w.deadlineAt now stamp).any (· ≤ now) = false →
    w'.diagram.text = w.diagram.text ∧
      w'.diagram.debouncer.deadline = w.deadlineAt now stamp

theorem exists_looked (awake : w.Awake picture config) (now : Duration) (stamp : Stamp)
    (text : String) :
    ∃ b w', check now (.present stamp (.ok text)) w = .ok b w' ∧
      w.Looked picture config w' now stamp text b := by
  have same : ∀ deadline, w.SameShown (w.reading stamp text deadline) :=
    fun _ => ⟨rfl, rfl, rfl, rfl, rfl⟩
  have awake' : ∀ deadline, (w.reading stamp text deadline).Awake picture config :=
    fun deadline => awake.of_same (same deadline) rfl rfl
  rw [check_present awake.running]
  by_cases due : (w.deadlineAt now stamp).any (· ≤ now) = true
  · rw [if_pos due, onDiagram]
    have not_waits : (w.deadlineAt now stamp).any (· ≤ now) ≠ false := by simp [due]
    rcases exists_updated _ (awake' none).steady rfl with
      ⟨shown, ended⟩ | ⟨new, stats, scene, steady, rendered, ended⟩
    · rw [ended]
      exact ⟨false, _, rfl, awake' none, rfl, by simp, fun _ => same none, fun _ => ⟨shown, rfl⟩,
        fun absurd => (not_waits absurd).elim⟩
    · rw [ended]
      have shows := shows_passed w.path stamp (awake' none).steady rendered
      have counted := (Scene.render_redraws (.ofText text) w.diagram.scene).of_ok rendered
      obtain ⟨old, old_shows⟩ := awake.shows
      have differs : old ≠ text := by
        rintro rfl
        exact new old_shows.text_eq
      exact ⟨true, _, rfl, ⟨steady, awake.running, awake.quiet, text, shows⟩, rfl,
        fun _ => ⟨counted, ⟨old, old_shows, differs⟩, shows⟩, by simp, fun _ => ⟨rfl, rfl⟩,
        fun absurd => (not_waits absurd).elim⟩
  · rw [if_neg due]
    exact ⟨false, _, rfl, awake' _, rfl, by simp, fun _ => same _, fun absurd => (due absurd).elim,
      fun _ => ⟨rfl, rfl⟩⟩

/-! ## §4 What every run keeps -/

/-- What is awaited is still awaited after a look at a file with the same stamp and text. -/
theorem Looked.awaits {last : Duration} {b : Bool}
    (looked : w.Looked picture config w' now w.stamp text b) (awaits : w.Awaits last text) :
    w'.Awaits last text := by
  have known : w.deadlineAt now w.stamp = w.diagram.debouncer.deadline := if_pos rfl
  cases due : (w.deadlineAt now w.stamp).any (· ≤ now) with
  | true => exact .inl (looked.due due).1
  | false =>
    obtain ⟨same_text, same_deadline⟩ := looked.waits due
    rw [known] at same_deadline
    rwa [Awaits, same_text, same_deadline]

/-- A text with a new stamp is awaited from then on. -/
theorem Looked.awaits_new {b : Bool} (looked : w.Looked picture config w' now stamp text b)
    (quiet : w.diagram.debouncer.quiet = config.quiet) (new : stamp ≠ w.stamp) :
    w'.Awaits (now + config.quiet) text := by
  have noted : w.deadlineAt now stamp = some (now + config.quiet) := by
    rw [deadlineAt, if_neg new, quiet]
  cases due : (w.deadlineAt now stamp).any (· ≤ now) with
  | true => exact .inl (looked.due due).1
  | false =>
    exact .inr ⟨now + config.quiet, (looked.waits due).2.trans noted, Nat.le_refl _⟩

/-- What had to be shown by the time of the look is shown. -/
theorem Looked.text_of_awaits {b : Bool} {last : Duration} {text' : String}
    (looked : w.Looked picture config w' now stamp text b) (awaits : w'.Awaits last text')
    (reached : last ≤ now) : w'.diagram.text = some text' := by
  rcases awaits with shown | ⟨d, deadline, early⟩
  · exact shown
  · cases due : (w.deadlineAt now stamp).any (· ≤ now) with
    | true =>
      rw [(looked.due due).2] at deadline
      contradiction
    | false =>
      have late : ¬ d ≤ now := by
        rw [← (looked.waits due).2, deadline] at due
        simpa using due
      exact absurd (Nat.le_trans early reached) late

/-- The watcher is awake, and by the quiet time after the last look it shows the text that the file
had with its stamp. -/
structure Tracks (picture : PictureConfig α) (config : LiveDiagram.Config α)
    (first : Option (Stamp × String)) (looks : List Look) (w : Watcher α) : Prop where
  awake : w.Awake picture config
  awaits : ∀ last, (∀ l ∈ looks, l.now ≤ last) →
    ∃ text, some (w.stamp, text) ∈ first :: looks.map (·.file) ∧
      w.Awaits (last + config.quiet) text

variable {first : Option (Stamp × String)} {looks : List Look} {l : Look}

theorem look_of_missing (w : Watcher α) (missing : l.file = none) : w.look l = w := by
  rw [look, missing]
  rfl

theorem Awake.look (awake : w.Awake picture config) (seen : l.file = some (stamp, text)) :
    ∃ b, w.Looked picture config (w.look l) l.now stamp text b := by
  obtain ⟨b, w', ended, looked⟩ := exists_looked awake l.now stamp text
  refine ⟨b, ?_⟩
  rw [Watcher.look, seen, Sighting.ofFile, ended]
  exact looked

theorem run_append (w : Watcher α) (looks later : List Look) :
    w.run (looks ++ later) = (w.run looks).run later := by
  simp [run]

theorem run_concat (w : Watcher α) (looks : List Look) (l : Look) :
    w.run (looks ++ [l]) = (w.run looks).look l := by
  simp [run]

/-- What was seen so far is among what is seen after some more looks. -/
theorem mem_files_append {file : Option (Stamp × String)} (later : List Look)
    (mem : file ∈ first :: looks.map (·.file)) :
    file ∈ first :: (looks ++ later).map (·.file) := by
  rw [List.map_append, ← List.cons_append]
  exact List.mem_append_left _ mem

theorem Faithful.of_append {later : List Look}
    (faithful : Faithful (first :: (looks ++ later).map (·.file))) :
    Faithful (first :: looks.map (·.file)) := fun stamp text text' mem mem' =>
  faithful stamp text text' (mem_files_append later mem) (mem_files_append later mem')

theorem Tracks.look (tracks : w.Tracks picture config first looks)
    (faithful : Faithful (first :: (looks ++ [l]).map (·.file))) :
    (w.look l).Tracks picture config first (looks ++ [l]) := by
  cases seen : l.file with
  | none =>
    rw [look_of_missing w seen]
    refine ⟨tracks.awake, fun last all => ?_⟩
    obtain ⟨text, mem, awaits⟩ := tracks.awaits last fun l mem => all l (List.mem_append_left _ mem)
    exact ⟨text, mem_files_append _ mem, awaits⟩
  | some file =>
    obtain ⟨stamp, text⟩ := file
    have mem : some (stamp, text) ∈ first :: (looks ++ [l]).map (·.file) := by simp [seen]
    obtain ⟨b, looked⟩ := tracks.awake.look seen
    refine ⟨looked.awake, fun last all => ⟨text, by rw [looked.seen]; exact mem, ?_⟩⟩
    by_cases known : stamp = w.stamp
    · subst known
      obtain ⟨text', mem', awaits⟩ :=
        tracks.awaits last fun l mem => all l (List.mem_append_left _ mem)
      obtain rfl : text = text' := faithful _ _ _ mem (mem_files_append _ mem')
      exact looked.awaits awaits
    · have latest : l.now ≤ last := all l (by simp)
      exact (looked.awaits_new tracks.awake.quiet known).mono (Duration.add_le_add_right latest _)

theorem Tracks.run (tracks : w.Tracks picture config first [])
    (faithful : Faithful (first :: looks.map (·.file))) :
    (w.run looks).Tracks picture config first looks := by
  induction looks using List.reverseRecOn with
  | nil => exact tracks
  | append_singleton looks l ih =>
    rw [run_concat]
    exact (ih faithful.of_append).look faithful

/-! ## §5 Catching up -/

/-- What was awaited is still awaited after looks at files that are missing or are the same. -/
theorem Awake.awaits_run {last : Duration} (awake : w.Awake picture config)
    (awaits : w.Awaits last text)
    (same : ∀ l ∈ looks, l.file = none ∨ l.file = some (w.stamp, text)) :
    (w.run looks).Awaits last text := by
  induction looks generalizing w with
  | nil => exact awaits
  | cons l rest ih =>
    obtain ⟨same_now, same_later⟩ := List.forall_mem_cons.mp same
    rcases same_now with missing | seen
    · have unchanged := look_of_missing w missing
      rw [run, List.foldl_cons, unchanged]
      exact ih awake awaits same_later
    · obtain ⟨b, looked⟩ := awake.look seen
      refine ih looked.awake (looked.awaits awaits) ?_
      rw [looked.seen]
      exact same_later

/-- A watcher that has started shows the text of the file. -/
theorem tracks_of_start {path : String}
    (started : start path picture config (.ofFile first) = .ok w) :
    w.Tracks picture config first [] := by
  cases first with
  | none => contradiction
  | some file =>
    obtain ⟨stamp, text⟩ := file
    simp only [start, Sighting.ofFile, bind, Except.bind] at started
    cases made : LiveDiagram.new (GridSurface.new picture) config with
    | error fault =>
      rw [made] at started
      contradiction
    | ok live =>
      obtain ⟨scene, made_scene, rfl⟩ := LiveDiagram.exists_unbound_of_new made
      obtain ⟨steady, -⟩ := Scene.Steady.of_new (σ := GridSurface α) rfl id made_scene
      rw [made] at started
      simp only [LiveDiagram.bindInput_apply] at started
      -- nothing is shown before, so a pass is run
      rcases exists_updated { LiveDiagram.unbound scene config.quiet with
          input := some { path, contents := .ok text } } steady rfl with
        ⟨shown, -⟩ | ⟨-, stats, scene', steady', rendered, ended⟩
      · contradiction
      · rw [ended] at started
        cases started
        obtain ⟨text_eq, machine, states, canvas⟩ :=
          shows_passed path stamp steady rendered
        refine ⟨⟨steady', rfl, rfl, text, text_eq, machine, states, canvas⟩, fun last _ => ?_⟩
        exact ⟨text, by simp, .inl rfl⟩

theorem Redrawn.not_sameShown {layout : Layout α} (redrawn : w.Redrawn picture layout w' text) :
    ¬ w.SameShown w' := by
  intro same
  have counted := redrawn.redraws
  rw [same.scene] at counted
  omega

/-- A file that keeps its stamp from one look on, but for times when it is missing, is shown after
a look that comes the quiet time later. -/
theorem Tracks.shows_of_kept {before rest : List Look} {l₁ l₂ : Look}
    (tracks : w.Tracks picture config first []) (split : looks = before ++ l₁ :: rest)
    (ordered : looks.Pairwise (·.now ≤ ·.now))
    (faithful : Faithful (first :: looks.map (·.file)))
    (last : (l₁ :: rest).getLast? = some l₂) (seen₁ : l₁.file = some (stamp, text))
    (seen₂ : l₂.file ≠ none)
    (kept : ∀ l ∈ l₁ :: rest, l.file = none ∨ ∃ text', l.file = some (stamp, text'))
    (late : l₁.now + config.quiet ≤ l₂.now) : (w.run looks).Shows picture config.layout text := by
  have mem : ∀ l ∈ l₁ :: rest, l.file ∈ first :: looks.map (·.file) := by
    intro l mem
    rw [split]
    exact List.mem_cons_of_mem _ (List.mem_map_of_mem (List.mem_append_right _ mem))
  have same : ∀ l ∈ l₁ :: rest, l.file = none ∨ l.file = some (stamp, text) := by
    intro l listed
    refine (kept l listed).imp_right ?_
    rintro ⟨text', seen⟩
    have equal : text = text' :=
      faithful stamp _ _ (seen₁ ▸ mem l₁ List.mem_cons_self) (seen ▸ mem l listed)
    rw [seen, equal]
  -- the text is awaited after the first look, and after all later ones
  have first_cut : looks = before ++ [l₁] ++ rest := by simp [split]
  have awaiting : (w.run looks).Awaits (l₁.now + config.quiet) text := by
    rw [first_cut] at faithful
    have tracks₁ := tracks.run faithful.of_append
    obtain ⟨b, looked⟩ := (tracks.run faithful.of_append.of_append).awake.look seen₁
    rw [← run_concat] at looked
    have latest : ∀ l ∈ before ++ [l₁], l.now ≤ l₁.now := by
      intro l listed
      rcases List.mem_append.mp listed with earlier | this
      · rw [split, List.pairwise_append] at ordered
        exact ordered.2.2 l earlier l₁ List.mem_cons_self
      · rw [List.mem_singleton.mp this]
        exact Nat.le_refl _
    obtain ⟨text', mem', awaits⟩ := tracks₁.awaits l₁.now latest
    rw [looked.seen] at mem'
    obtain rfl : text = text' :=
      faithful stamp _ _ (first_cut ▸ seen₁ ▸ mem l₁ List.mem_cons_self) (mem_files_append rest mem')
    rw [first_cut, run_append]
    refine tracks₁.awake.awaits_run awaits fun l listed => ?_
    rw [looked.seen]
    exact same l (List.mem_cons_of_mem _ listed)
  -- the last look comes when it must be shown
  obtain ⟨between, cut⟩ := List.getLast?_eq_some_iff.mp last
  have last_cut : looks = before ++ between ++ [l₂] := by rw [split, cut, List.append_assoc]
  have seen : l₂.file = some (stamp, text) := (same l₂ (by rw [cut]; simp)).resolve_left seen₂
  rw [last_cut] at faithful
  obtain ⟨b, looked⟩ := (tracks.run faithful.of_append).awake.look seen
  rw [← run_concat, ← last_cut] at looked
  obtain ⟨shown, shows⟩ := looked.awake.shows
  have text_eq := shows.text_eq
  rw [looked.text_of_awaits awaiting late] at text_eq
  cases text_eq
  exact shows

/-- Whatever was seen before: a file that keeps its stamp for the quiet time, but for times when it
is missing, is shown once it is seen after that. A look at a missing file changes nothing, and every
other one tells that the picture was drawn anew exactly if it was, which is for another text. -/
theorem catches_up {path : String} (started : start path picture config (.ofFile first) = .ok w)
    (ordered : looks.Pairwise (·.now ≤ ·.now))
    (faithful : Faithful (first :: looks.map (·.file))) :
    (∀ before window l₁ l₂ stamp text, looks = before ++ window →
      window.head? = some l₁ → window.getLast? = some l₂ →
      l₁.file = some (stamp, text) → l₂.file ≠ none →
      (∀ l ∈ window, l.file = none ∨ ∃ text', l.file = some (stamp, text')) →
      l₁.now + config.quiet ≤ l₂.now → (w.run looks).Shows picture config.layout text) ∧
    (∀ now, check now .missing (w.run looks) = .ok false (w.run looks)) ∧
    (∀ now stamp text, ∃ b w',
      check now (.ofFile (some (stamp, text))) (w.run looks) = .ok b w' ∧
      (b = true ↔ (w.run looks).Redrawn picture config.layout w' text) ∧
      (b = false ↔ (w.run looks).SameShown w')) := by
  have tracks := tracks_of_start started
  refine ⟨?_, fun _ => rfl, fun now stamp text => ?_⟩
  · intro before window l₁ l₂ stamp text split head last seen₁ seen₂ kept late
    obtain ⟨rest, rfl⟩ := List.head?_eq_some_iff.mp head
    exact tracks.shows_of_kept split ordered faithful last seen₁ seen₂ kept late
  · obtain ⟨b, w', ended, looked⟩ := exists_looked (tracks.run faithful).awake now stamp text
    refine ⟨b, w', ended, ⟨looked.redrawn, fun redrawn => ?_⟩, looked.same, fun same => ?_⟩
    · by_contra quiet
      exact redrawn.not_sameShown (looked.same (by simpa using quiet))
    · by_contra drawn
      exact (looked.redrawn (by simpa using drawn)).not_sameShown same

/-- A file is replaced: it is missing, then there with another stamp, and missing once more. -/
theorem catches_up_replaced_file :
    let first : Stamp := { modified := some 1, length := 4 }
    let second : Stamp := { modified := some 2, length := 13 }
    let looks : List Look := [⟨.zero, none⟩, ⟨.ofMillis 500, none⟩,
      ⟨.ofMillis 1000, some (second, "A->B\nB->Carol")⟩, ⟨.ofMillis 1200, none⟩,
      ⟨.ofMillis 1300, some (second, "A->B\nB->Carol")⟩]
    ∃ w : Watcher Float,
      start "machine.txt" .standard { layout := .standard } (.ofFile (some (first, "A->B"))) =
        .ok w ∧ (w.run looks).Shows .standard .standard "A->B\nB->Carol" := by
  intro first second looks
  have starts : (start (α := Float) "machine.txt" .standard { layout := .standard }
      (.ofFile (some (first, "A->B")))).isOk = true := by decide +kernel
  cases started : start (α := Float) "machine.txt" .standard { layout := .standard }
      (.ofFile (some (first, "A->B"))) with
  | error fault =>
    rw [started] at starts
    contradiction
  | ok w =>
    have ordered : looks.Pairwise (·.now ≤ ·.now) := by decide
    have faithful : Faithful (some (first, "A->B") :: looks.map (·.file)) := by
      intro stamp text text' mem mem'
      simp only [looks, first, second, List.map_cons, List.map_nil, List.mem_cons,
        List.not_mem_nil, Option.some.injEq, Prod.mk.injEq, reduceCtorEq, or_false, false_or,
        or_self] at mem mem'
      grind
    refine ⟨w, rfl, (catches_up started ordered faithful).1 (looks.take 2) (looks.drop 2) _ _
      second _ rfl rfl rfl rfl (by simp) ?_ (by decide)⟩
    simp [looks]

end Watcher

end TransitionDiagram
