/-
TransitionDiagram.Proofs.Instructions: any calls on a surface, one after the other.

An instruction is one call on a surface with all that it is given, and a run is any list of them.
The handles in it are arbitrary: they may name nodes that are gone, or that never were, and a run
may attach a node twice or below itself.

A call that may fail looks for the nodes that it needs before it changes any, so it does all of its
work or none; only drawing leaves something behind when it fails. Handles are given in order and
none is taken back, so no two nodes of a run ever have the same one.

  §1 instructions
  §2 the outcome of each call
  §3 runs
  §4 the handles of a run
  §5 calls that fail
-/
import TransitionDiagram.Proofs.Dropping

namespace TransitionDiagram

variable {α : Type}

/-! ## §1 Instructions -/

/-- A call on a surface. -/
inductive Instruction (α : Type) where
  | root
  | size
  | createGroup
  | createNode (shape : Shape α)
  | createText (label : String) (font : Font) (color : Color)
  | measure (h : Handle)
  | addChild (parent child : Handle)
  | removeChild (parent child : Handle)
  | setPosition (h : Handle) (position : Point α)
  | setCircleTemplate (template : CircleTemplate α)
  | clear
  | update

/-- What a call answers. -/
inductive Reply (α : Type) where
  | handle (h : Handle)
  | number (x : α)
  | size (size : Size α)
  | done
  deriving DecidableEq, Repr

/-- The result or the fault with which an outcome ends. -/
def answerOf {ε σ β : Type} : EStateM.Result ε σ β → Except ε β
  | .ok b _ => .ok b
  | .error e _ => .error e

namespace Instruction

/-- The call on a surface of any kind. -/
def perform {σ : Type} [DrawingSurface α σ] : Instruction α → Action α σ (Reply α)
  | root => do return .handle (DrawingSurface.root (← get))
  | size => do return .size (DrawingSurface.size (← get))
  | createGroup => do return .handle (← modifyGet DrawingSurface.createGroup)
  | createNode shape => do return .handle (← modifyGet (DrawingSurface.createNode shape))
  | createText label font color => do
    return .handle (← DrawingSurface.createText label font color)
  | measure h => do return .number (← DrawingSurface.measure h)
  | addChild parent child => do
    DrawingSurface.addChild parent child
    return .done
  | removeChild parent child => do
    DrawingSurface.removeChild parent child
    return .done
  | setPosition h position => do
    DrawingSurface.setPosition h position
    return .done
  | setCircleTemplate template => do
    modify (DrawingSurface.setCircleTemplate template)
    return .done
  | clear => do
    modify DrawingSurface.clear
    return .done
  | update => do
    DrawingSurface.update
    return .done

/-- Whether the call makes a node. -/
def creates : Instruction α → Bool
  | createGroup | createNode _ | createText _ _ _ => true
  | _ => false

end Instruction

namespace GridSurface

variable [Scalar α]

/-- What an instruction answers. -/
def reply (s : GridSurface α) (i : Instruction α) : Except (Fault α) (Reply α) :=
  answerOf (i.perform s)

/-- The surface after an instruction, whether or not it failed. -/
def after (s : GridSurface α) (i : Instruction α) : GridSurface α :=
  stateOf (i.perform s)

/-- The surface after a run. -/
def run (s : GridSurface α) (instructions : List (Instruction α)) : GridSurface α :=
  instructions.foldl after s

/-- The call ends with a fault. -/
def Fails (s : GridSurface α) (i : Instruction α) : Prop :=
  ∃ fault s', i.perform s = .error fault s'

/-! ## §2 Outcomes -/

variable {s : GridSurface α} {h parent child : Handle} {position : Point α}

/-- A text node tells its width. -/
theorem perform_measure : (Instruction.measure h).perform s = match s.nodes.get? h with
    | none => .error (.unknownNode h) s
    | some node => match node.content with
      | .text _ width => .ok (.number width) s
      | content => .error (.notText h content) s := by
  change ((do return .number (← measure h) : Action α (GridSurface α) (Reply α)) s) = _
  simp only [measure, Action.bind_apply, find_apply]
  cases s.nodes.get? h with
  | none => rfl
  | some node => cases content : node.content <;> simp [content]

/-- The child is looked for first, and then the parent. -/
theorem perform_addChild : (Instruction.addChild parent child).perform s =
    if s.nodes.Live child then
      if s.nodes.Live parent then
        .ok .done { s with nodes := s.nodes.modify parent fun node =>
          { node with children := node.children ++ [child] } }
      else .error (.unknownNode parent) s
    else .error (.unknownNode child) s := by
  change ((do addChild parent child; return .done : Action α (GridSurface α) (Reply α)) s) = _
  simp only [addChild, Action.bind_apply, find_apply]
  cases child_there : s.nodes.get? child with
  | none => simp [NodeStore.Live, child_there]
  | some _ =>
    cases there : s.nodes.get? parent <;> simp [NodeStore.Live, child_there, there, modifyNodes]

theorem perform_removeChild : (Instruction.removeChild parent child).perform s =
    if s.nodes.Live parent then
      if child ∈ s.nodes.childrenOf parent then
        .ok .done { s with nodes := (s.nodes.modify parent fun node =>
          { node with children := node.children.erase child }).dropAll [child] }
      else .error (.unknownNode child) s
    else .error (.unknownNode parent) s := by
  change ((do removeChild parent child; return .done : Action α (GridSurface α) (Reply α)) s) = _
  rw [Action.bind_apply, removeChild_apply]
  split_ifs <;> rfl

theorem perform_setPosition : (Instruction.setPosition h position).perform s =
    if s.nodes.Live h then
      .ok .done { s with nodes := s.nodes.modify h fun node => { node with position } }
    else .error (.unknownNode h) s := by
  change ((do setPosition h position; return .done : Action α (GridSurface α) (Reply α)) s) = _
  simp only [setPosition, Action.bind_apply, find_apply]
  cases there : s.nodes.get? h <;> simp [NodeStore.Live, there, modifyNodes]

/-- Drawing changes the canvas even if it fails, and counts only if it does not. -/
theorem perform_update : Instruction.update.perform s = match s.walk.fault with
    | none => .ok .done (s.redrawn s.walk.visits)
    | some fault => .error fault { s with canvas := s.draw s.canvas.wipe s.walk.visits } := by
  change ((do update; return .done : Action α (GridSurface α) (Reply α)) s) = _
  simp only [update, Action.bind_apply, Action.get_apply, Action.set_apply]
  cases s.walk.fault <;> rfl

/-! ## §3 Runs -/

@[simp] theorem run_nil (s : GridSurface α) : s.run [] = s := rfl

@[simp] theorem run_cons (s : GridSurface α) (i : Instruction α) (rest : List (Instruction α)) :
    s.run (i :: rest) = (s.after i).run rest := rfl

theorem run_append (s : GridSurface α) (before later : List (Instruction α)) :
    s.run (before ++ later) = (s.run before).run later :=
  List.foldl_append

/-- What adding, changing and dropping nodes respects, and drawing as well, every instruction
respects. -/
theorem after_respects {R : GridSurface α → GridSurface α → Prop} (grids : LastingOnGrid R)
    (drawing : Respects update R) (s : GridSurface α) (i : Instruction α) : R s (s.after i) := by
  have done : ∀ {x : Action α (GridSurface α) Unit}, Respects x R →
      R s (stateOf ((do x; return Reply.done : Action α (GridSurface α) (Reply α)) s)) :=
    fun call => (call.bind grids.lasting fun _ => .pure grids.lasting _).stateOf s
  cases i with
  | root => exact grids.lasting.refl s
  | size => exact grids.lasting.refl s
  | createGroup => exact grids.create .group s
  | createNode shape => exact grids.create (.shape shape) s
  | createText label font color => exact grids.create (.text label (Cell.labelWidth label)) s
  | measure h => exact ((grids.measure h).bind grids.lasting fun _ => .pure grids.lasting _).stateOf s
  | addChild parent child => exact done (grids.addChild parent child)
  | removeChild parent child => exact done (grids.removeChild parent child)
  | setPosition h position => exact done (grids.setPosition h position)
  | setCircleTemplate template => exact grids.setCircleTemplate template s
  | clear => exact grids.clear s
  | update => exact done drawing

theorem run_respects {R : GridSurface α → GridSurface α → Prop} (grids : LastingOnGrid R)
    (drawing : Respects update R) (s : GridSurface α) (instructions : List (Instruction α)) :
    R s (s.run instructions) := by
  induction instructions generalizing s with
  | nil => exact grids.lasting.refl s
  | cons i rest ih => exact grids.lasting.trans (after_respects grids drawing s i) (ih (s.after i))

/-! ## §4 Handles -/

/-- What the calls of a run that make nodes answer, in order. -/
def created (s : GridSurface α) : List (Instruction α) → List (Except (Fault α) (Reply α))
  | [] => []
  | i :: rest => if i.creates then s.reply i :: (s.after i).created rest else (s.after i).created rest

/-- A call that makes a node answers the next handle. -/
theorem reply_of_creates {i : Instruction α} (creates : i.creates = true) :
    s.reply i = .ok (.handle s.nodes.next) ∧
      (s.after i).nodes.next.index = s.nodes.next.index + 1 := by
  have next_push : ∀ node, (s.nodes.push node).next.index = s.nodes.next.index + 1 := fun node => by
    simp [NodeStore.next, NodeStore.push]
  cases i with
  | createGroup => exact ⟨rfl, next_push _⟩
  | createNode shape => exact ⟨rfl, next_push _⟩
  | createText label font color => exact ⟨rfl, next_push _⟩
  | _ => contradiction

/-- The handles that a run gives rise, and all of them are new. -/
theorem exists_created (s : GridSurface α) (instructions : List (Instruction α)) :
    ∃ handles : List Handle, s.created instructions = handles.map (fun h => .ok (.handle h)) ∧
      handles.Pairwise (·.index < ·.index) ∧ ∀ h ∈ handles, s.nodes.next.index ≤ h.index := by
  induction instructions generalizing s with
  | nil => exact ⟨[], rfl, .nil, by simp⟩
  | cons i rest ih =>
    obtain ⟨handles, same, rising, later⟩ := ih (s.after i)
    by_cases creates : i.creates = true
    · obtain ⟨answer, next⟩ := reply_of_creates (s := s) creates
      refine ⟨s.nodes.next :: handles, by simp [created, creates, answer, same], ?_, ?_⟩
      · refine List.pairwise_cons.mpr ⟨fun h mem => ?_, rising⟩
        have := later h mem
        omega
      · intro h mem
        rcases List.mem_cons.mp mem with rfl | mem
        · exact Nat.le_refl _
        · have := later h mem
          omega
    · have kept : s.Later (s.after i) := after_respects lastingOnGrid_later update_respects s i
      refine ⟨handles, by simp [created, creates, same], rising, fun h mem => ?_⟩
      exact Nat.le_trans kept (later h mem)

/-- No node comes back: what was given and is gone stays so. -/
def NoneReturns (s s' : GridSurface α) : Prop :=
  ∀ h, s.nodes.Issued h → s'.nodes.Issued h ∧ (s'.nodes.Live h → s.nodes.Live h)

omit [Scalar α] in
theorem NoneReturns.of_live {s s' : GridSurface α} (next : s'.nodes.next = s.nodes.next)
    (live : ∀ h, s'.nodes.Live h → s.nodes.Live h) : NoneReturns s s' := by
  intro h issued
  refine ⟨?_, live h⟩
  rw [NodeStore.Issued, next]
  exact issued

theorem lastingOnGrid_noneReturns : LastingOnGrid (NoneReturns (α := α)) where
  lasting := by
    refine ⟨fun s h issued => ⟨issued, id⟩, fun first second h issued => ?_⟩
    obtain ⟨issued', back⟩ := first h issued
    obtain ⟨issued'', back'⟩ := second h issued'
    exact ⟨issued'', back ∘ back'⟩
  create content s h issued := by
    refine ⟨NodeStore.issued_push.mpr (.inl issued), fun live => ?_⟩
    rcases NodeStore.live_push.mp live with old | rfl
    · exact old
    · exact absurd issued (Nat.lt_irrefl _)
  modify h f s := .of_live NodeStore.next_modify fun _ => NodeStore.live_modify.mp
  dropAll _ _ := .of_live (NodeStore.next_dropAll _) fun _ live =>
    (NodeStore.live_dropAll_iff.mp live).1
  setCircleTemplate _ _ := .of_live rfl fun _ => id
  clear _ := .of_live rfl fun _ => id

theorem update_noneReturns : Respects update (NoneReturns (α := α)) := by
  intro s
  refine (Ends.get ?_).bind
  refine (Ends.set ?_).bind
  cases s.walk.fault with
  | none => exact .of_live rfl fun _ => id
  | some fault => exact .of_live rfl fun _ => id

omit [Scalar α] in
theorem issued_of_live (live : s.nodes.Live h) : s.nodes.Issued h :=
  live.index_lt

/-- A child that is removed is gone. -/
theorem not_live_after_removeChild (listed : child ∈ s.nodes.childrenOf parent) :
    ¬ (s.after (.removeChild parent child)).nodes.Live child := by
  have live := NodeStore.live_of_mem_childrenOf listed
  rw [after, perform_removeChild, if_pos live, if_pos listed]
  intro back
  exact (NodeStore.live_dropAll_iff.mp back).2 ⟨child, List.mem_singleton_self _, .refl _ _⟩

/-! ## §5 Faults -/

theorem fails_measure_iff : s.Fails (.measure h) ↔
    ¬ ∃ node label width, s.nodes.get? h = some node ∧ node.content = .text label width := by
  rw [Fails, perform_measure]
  cases there : s.nodes.get? h with
  | none => simp
  | some node => cases content : node.content <;> simp [content]

theorem fails_addChild_iff : s.Fails (.addChild parent child) ↔
    ¬ s.nodes.Live parent ∨ ¬ s.nodes.Live child := by
  rw [Fails, perform_addChild]
  split_ifs <;> simp_all

theorem fails_removeChild_iff : s.Fails (.removeChild parent child) ↔
    ¬ s.nodes.Live parent ∨ child ∉ s.nodes.childrenOf parent := by
  rw [Fails, perform_removeChild]
  split_ifs <;> simp_all

theorem fails_setPosition_iff : s.Fails (.setPosition h position) ↔ ¬ s.nodes.Live h := by
  rw [Fails, perform_setPosition]
  split_ifs <;> simp_all

/-- A call that fails has done nothing, unless it was to draw. -/
theorem eq_of_perform_error {i : Instruction α} {fault : Fault α} {s' : GridSurface α}
    (not_drawing : i ≠ .update) (failed : i.perform s = .error fault s') : s' = s := by
  cases i with
  | measure h =>
    rw [perform_measure] at failed
    split at failed
    · cases failed; rfl
    · split at failed <;> cases failed
      rfl
  | addChild parent child =>
    rw [perform_addChild] at failed
    split_ifs at failed <;> cases failed <;> rfl
  | removeChild parent child =>
    rw [perform_removeChild] at failed
    split_ifs at failed <;> cases failed <;> rfl
  | setPosition h position =>
    rw [perform_setPosition] at failed
    split_ifs at failed
    cases failed
    rfl
  | update => contradiction
  | _ => cases failed

/-- In every run, whatever its handles: the calls that make nodes succeed, and the handles they
answer differ from that of the root and from each other; a node that is gone does not come back; a
call fails exactly if a node that it needs is not there; and a call that fails leaves the surface as
it was, unless it was to draw. -/
theorem run_handles_and_faults (config : PictureConfig α) (before : List (Instruction α)) :
    let s := (new config).run before
    (∃ handles : List Handle, (new config).created before = handles.map (fun h => .ok (.handle h)) ∧
      (root :: handles).Nodup) ∧
    (∀ between later h, s.nodes.Live h → ¬ (s.run between).nodes.Live h →
      ¬ (s.run (between ++ later)).nodes.Live h) ∧
    (∀ parent child, s.Fails (.addChild parent child) ↔
      ¬ s.nodes.Live parent ∨ ¬ s.nodes.Live child) ∧
    (∀ parent child, s.Fails (.removeChild parent child) ↔
      ¬ s.nodes.Live parent ∨ child ∉ s.nodes.childrenOf parent) ∧
    (∀ h position, s.Fails (.setPosition h position) ↔ ¬ s.nodes.Live h) ∧
    (∀ h, s.Fails (.measure h) ↔
      ¬ ∃ node label width, s.nodes.get? h = some node ∧ node.content = .text label width) ∧
    ∀ (i : Instruction α) fault s', i ≠ .update → i.perform s = .error fault s' → s' = s := by
  intro s
  refine ⟨?_, ?_, fun _ _ => fails_addChild_iff, fun _ _ => fails_removeChild_iff,
    fun _ _ => fails_setPosition_iff, fun _ => fails_measure_iff,
    fun _ _ _ not_drawing failed => eq_of_perform_error not_drawing failed⟩
  · obtain ⟨handles, answers, rising, later⟩ := exists_created (new config) before
    refine ⟨handles, answers, List.nodup_cons.mpr ⟨fun mem => ?_, ?_⟩⟩
    · -- the root is the first node of all
      exact Nat.not_succ_le_zero 0 (later root mem)
    · exact rising.imp fun less same => Nat.ne_of_lt less (congrArg Handle.index same)
  · intro between later h live gone
    have first := run_respects lastingOnGrid_noneReturns update_noneReturns s between
    have next := run_respects lastingOnGrid_noneReturns update_noneReturns (s.run between) later
    rw [run_append]
    exact fun back => gone ((next h (first h (issued_of_live live)).1).2 back)

/-- A group is removed and then attached once more, under its old handle: nothing is done. -/
theorem run_handles_and_faults_removed_group :
    let before : List (Instruction Float) := [.createGroup, .addChild root ⟨1⟩]
    let gone := (new .standard).run (before ++ [.removeChild root ⟨1⟩, .createNode .circle])
    ((new .standard).run before).nodes.Live ⟨1⟩ ∧ ¬ gone.nodes.Live ⟨1⟩ ∧
      ∃ fault, (Instruction.addChild root ⟨1⟩).perform gone = .error fault gone := by
  intro before gone
  obtain ⟨-, stays_gone, -⟩ := run_handles_and_faults .standard before
  obtain ⟨-, -, fails, -, -, -, unchanged⟩ :=
    run_handles_and_faults .standard (before ++ [.removeChild root ⟨1⟩, .createNode .circle])
  have live : ((new .standard).run before).nodes.Live ⟨1⟩ := by decide
  have removed : ¬ (((new .standard).run before).run [.removeChild root ⟨1⟩]).nodes.Live ⟨1⟩ := by
    rw [run_cons, run_nil]
    exact not_live_after_removeChild (by decide)
  have dead : ¬ gone.nodes.Live ⟨1⟩ := by
    have := stays_gone [.removeChild root ⟨1⟩] [.createNode .circle] ⟨1⟩ live removed
    rwa [← run_append] at this
  obtain ⟨fault, s', failed⟩ := (fails root ⟨1⟩).mpr (.inr dead)
  obtain rfl := unchanged (.addChild root ⟨1⟩) fault s' (by simp) failed
  exact ⟨live, dead, fault, failed⟩

end GridSurface

end TransitionDiagram
