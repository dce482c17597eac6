/-
TransitionDiagram.Proofs.Clipping: a canvas is a window on one endless picture.

Whatever is drawn is a list of marks that is made without asking how large the canvas is, and a mark
beside the canvas is lost without a trace. So two canvases of different sizes on which the same was
written agree in every cell that lies on both. The same holds of two surfaces with the same style
and different sizes: their nodes and templates are equal at any time, so every call ends alike on
both, and what an update draws is the same list of marks.

  §1 two canvases
  §2 calls on a canvas
  §3 two surfaces
  §4 windows
-/
import TransitionDiagram.Proofs.Instructions
import TransitionDiagram.Proofs.Passes

namespace TransitionDiagram

namespace Canvas

variable {canvas one other : Canvas}

/-! ## §1 Two canvases -/

/-- The canvases have the same characters where they overlap. -/
structure Agrees (one other : Canvas) : Prop where
  shaped : one.Shaped
  shaped' : other.Shaped
  same : ∀ column row : Nat, one.inside column row = true → other.inside column row = true →
    one.get column row = other.get column row

theorem Shaped.wipe (shaped : canvas.Shaped) : canvas.wipe.Shaped where
  rows := by simpa [Canvas.wipe] using shaped.rows
  cells row mem := by
    obtain ⟨old, listed, rfl⟩ := Array.mem_map.mp mem
    simpa [Canvas.wipe] using shaped.cells old listed

theorem get_wipe (column row : Nat) : canvas.wipe.get column row = ' ' := by
  simp only [get, wipe, Array.getElem?_map]
  split
  · cases canvas.rows[row]? with
    | none => rfl
    | some cells => simp [Array.getElem?_replicate]; split <;> rfl
  · rfl

namespace Agrees

theorem paint (agrees : one.Agrees other) (marks : List Mark) :
    (one.paint marks).Agrees (other.paint marks) where
  shaped := agrees.shaped.paint marks
  shaped' := agrees.shaped'.paint marks
  same column row inside inside' := by
    rw [inside_paint] at inside inside'
    exact agrees.shaped.get_paint_congr agrees.shaped' inside inside'
      (.inl (agrees.same column row inside inside'))

theorem wipe (agrees : one.Agrees other) : one.wipe.Agrees other.wipe where
  shaped := agrees.shaped.wipe
  shaped' := agrees.shaped'.wipe
  same column row _ _ := by rw [get_wipe, get_wipe]

end Agrees

theorem blank_agrees (width height width' height' : Nat) :
    (blank width height).Agrees (blank width' height') where
  shaped := shaped_blank width height
  shaped' := shaped_blank width' height'
  same column row _ _ := by
    rw [← wipe_blank width height, ← wipe_blank width' height', get_wipe, get_wipe]

/-! ## §2 Calls -/

/-- A call that changes a canvas. -/
inductive Call where
  | setChar (column row : Int) (c : Char)
  | drawText (column row : Int) (text : String)
  | drawTextCentered (center row : Int) (text : String)
  | wipe
  deriving DecidableEq, Repr

/-- The canvas after a call. -/
def after (canvas : Canvas) : Call → Canvas
  | .setChar column row c => canvas.setChar column row c
  | .drawText column row text => canvas.drawText column row text
  | .drawTextCentered center row text => canvas.drawTextCentered center row text
  | .wipe => canvas.wipe

/-- The canvas after some calls. -/
def run (canvas : Canvas) (calls : List Call) : Canvas :=
  calls.foldl after canvas

/-- A call wipes the canvas, or makes marks on it that do not depend on the canvas. -/
theorem Call.paints_or_wipes (call : Call) :
    (∃ marks, ∀ canvas : Canvas, canvas.after call = canvas.paint marks) ∨
      ∀ canvas : Canvas, canvas.after call = canvas.wipe := by
  cases call with
  | setChar column row c => exact .inl ⟨[_], fun _ => rfl⟩
  | drawText column row text => exact .inl ⟨_, fun _ => rfl⟩
  | drawTextCentered center row text => exact .inl ⟨_, fun _ => rfl⟩
  | wipe => exact .inr fun _ => rfl

/-- A call leaves the grid as it is: wiped, the canvas is as if there had been no call. -/
theorem wipe_after (canvas : Canvas) (call : Call) : (canvas.after call).wipe = canvas.wipe := by
  rcases call.paints_or_wipes with ⟨marks, painted⟩ | wiped
  · rw [painted, wipe_paint]
  · rw [wiped, wipe_wipe]

theorem Agrees.after (agrees : one.Agrees other) (call : Call) :
    (one.after call).Agrees (other.after call) := by
  rcases call.paints_or_wipes with ⟨marks, painted⟩ | wiped
  · rw [painted, painted]; exact agrees.paint marks
  · rw [wiped, wiped]; exact agrees.wipe

theorem wipe_run (canvas : Canvas) (calls : List Call) : (canvas.run calls).wipe = canvas.wipe := by
  induction calls generalizing canvas with
  | nil => rfl
  | cons call rest ih => exact (ih (canvas.after call)).trans (wipe_after canvas call)

theorem Agrees.run (agrees : one.Agrees other) (calls : List Call) :
    (one.run calls).Agrees (other.run calls) := by
  induction calls generalizing one other with
  | nil => exact agrees
  | cons call rest ih => exact ih (agrees.after call)

end Canvas

/-! ## §3 Two surfaces -/

namespace GridSurface

variable {α : Type} [Scalar α] {one other : GridSurface α}

/-- The surfaces differ in size alone, and their canvases agree. -/
structure Twins (one other : GridSurface α) : Prop where
  style : one.config.style = other.config.style
  nodes : one.nodes = other.nodes
  template : one.template = other.template
  redraws : one.redraws = other.redraws
  canvas : one.canvas.Agrees other.canvas

namespace Twins

omit [Scalar α] in
theorem with_nodes (twins : one.Twins other) (nodes : NodeStore α) :
    Twins { one with nodes } { other with nodes } :=
  ⟨twins.style, rfl, twins.template, twins.redraws, twins.canvas⟩

theorem create (twins : one.Twins other) (content : Content α) :
    Twins (GridSurface.create content one).2 (GridSurface.create content other).2 := by
  simp only [GridSurface.create, twins.nodes]
  exact twins.with_nodes _

theorem draw (twins : one.Twins other) (visits : List (Visit α)) :
    (one.draw one.canvas.wipe visits).Agrees (other.draw other.canvas.wipe visits) := by
  rw [draw_eq_paint, draw_eq_paint, twins.style, twins.template]
  exact twins.canvas.wipe.paint _

theorem reply_creates (twins : one.Twins other) {i : Instruction α} (creates : i.creates = true) :
    one.reply i = other.reply i := by
  rw [(reply_of_creates creates).1, (reply_of_creates creates).1, twins.nodes]

theorem walk (twins : one.Twins other) : one.walk = other.walk := by
  rw [GridSurface.walk, GridSurface.walk, twins.nodes]

/-- Each call ends alike on both, but for the size that it may tell. -/
theorem perform (twins : one.Twins other) (i : Instruction α) :
    (i ≠ .size → one.reply i = other.reply i) ∧ (one.after i).Twins (other.after i) := by
  cases i with
  | root => exact ⟨fun _ => rfl, twins⟩
  | size => exact ⟨fun told => absurd rfl told, twins⟩
  | createGroup => exact ⟨fun _ => twins.reply_creates rfl, twins.create _⟩
  | createNode shape => exact ⟨fun _ => twins.reply_creates rfl, twins.create _⟩
  | createText label font color => exact ⟨fun _ => twins.reply_creates rfl, twins.create _⟩
  | setCircleTemplate template =>
    exact ⟨fun _ => rfl, twins.style, twins.nodes, rfl, twins.redraws, twins.canvas⟩
  | clear =>
    exact ⟨fun _ => rfl, twins.style, twins.nodes, twins.template, twins.redraws, twins.canvas.wipe⟩
  | update =>
    simp only [reply, after, perform_update, twins.walk]
    cases other.walk.fault with
    | none =>
      refine ⟨fun _ => rfl, twins.style, twins.nodes, twins.template, ?_, twins.draw _⟩
      exact congrArg (· + 1) twins.redraws
    | some fault =>
      exact ⟨fun _ => rfl, twins.style, twins.nodes, twins.template, twins.redraws, twins.draw _⟩
  | measure h =>
    simp only [reply, after, perform_measure, twins.nodes]
    cases other.nodes.get? h with
    | none => exact ⟨fun _ => rfl, twins⟩
    | some node =>
      cases content : node.content with
      | text label width => simpa [content, answerOf, stateOf] using twins
      | group => simpa [content, answerOf, stateOf] using twins
      | shape shape => simpa [content, answerOf, stateOf] using twins
  | addChild parent child =>
    simp only [reply, after, perform_addChild, twins.nodes]
    split_ifs
    · exact ⟨fun _ => rfl, twins.with_nodes _⟩
    · exact ⟨fun _ => rfl, twins⟩
    · exact ⟨fun _ => rfl, twins⟩
  | removeChild parent child =>
    simp only [reply, after, perform_removeChild, twins.nodes]
    split_ifs
    · exact ⟨fun _ => rfl, twins.with_nodes _⟩
    · exact ⟨fun _ => rfl, twins⟩
    · exact ⟨fun _ => rfl, twins⟩
  | setPosition h position =>
    simp only [reply, after, perform_setPosition, twins.nodes]
    split_ifs
    · exact ⟨fun _ => rfl, twins.with_nodes _⟩
    · exact ⟨fun _ => rfl, twins⟩

theorem run (twins : one.Twins other) (instructions : List (Instruction α)) :
    (one.run instructions).Twins (other.run instructions) := by
  induction instructions generalizing one other with
  | nil => exact twins
  | cons i rest ih => exact ih (twins.perform i).2

end Twins

/-- Two new surfaces of one style differ in size alone. -/
theorem new_twins (style : Style) (size size' : Size α) :
    (new { style, size }).Twins (new { style, size := size' }) :=
  ⟨rfl, rfl, rfl, rfl, Canvas.blank_agrees _ _ _ _⟩

/-! ## §4 Windows -/

theorem lastingOnGrid_wipe :
    LastingOnGrid fun s s' : GridSurface α => s'.canvas.wipe = s.canvas.wipe where
  lasting := .of_eq fun s : GridSurface α => s.canvas.wipe
  create _ _ := rfl
  modify _ _ _ := rfl
  dropAll _ _ := rfl
  setCircleTemplate _ _ := rfl
  clear s := Canvas.wipe_wipe s.canvas

theorem update_wipe :
    Respects update fun s s' : GridSurface α => s'.canvas.wipe = s.canvas.wipe := by
  intro s
  have drawn : (s.draw s.canvas.wipe s.walk.visits).wipe = s.canvas.wipe := by
    rw [wipe_draw, Canvas.wipe_wipe]
  refine (Ends.get ?_).bind
  refine (Ends.set ?_).bind
  cases s.walk.fault with
  | none => exact drawn
  | some fault => exact drawn

/-- Whatever is called, the grid of the canvas stays: wiped, it is as if nothing had been called. -/
theorem wipe_canvas_run (s : GridSurface α) (instructions : List (Instruction α)) :
    (s.run instructions).canvas.wipe = s.canvas.wipe :=
  run_respects lastingOnGrid_wipe update_wipe s instructions

/-- A canvas is a window on one picture. After the same calls two canvases of any sizes have the
same characters where they overlap, each has kept its grid, and every cell inside it is a cell of
the grid. After the same calls two surfaces of one style and any sizes answer every further call
alike, unless it asks for the size, and the canvases have the same characters where they overlap. -/
theorem canvases_are_windows (style : Style) (size size' : Size α) :
    (∀ width height width' height' (calls : List Canvas.Call),
      let one := (Canvas.blank width height).run calls
      let other := (Canvas.blank width' height').run calls
      one.Agrees other ∧ one.width = width ∧ one.height = height ∧
      one.rows.size = max 1 height ∧ (∀ cells ∈ one.rows, cells.size = max 1 width) ∧
      ∀ column row : Int, one.inside column row = true →
        ∃ cells, one.rows[row.toNat]? = some cells ∧ column.toNat < cells.size) ∧
    ∀ instructions : List (Instruction α),
      let one := (new { style, size }).run instructions
      let other := (new { style, size := size' }).run instructions
      (∀ i : Instruction α, i ≠ .size → one.reply i = other.reply i) ∧
      one.canvas.Agrees other.canvas ∧
      one.canvas.wipe = .blank (Cell.columns size) (Cell.rows size) := by
  constructor
  · intro width height width' height' calls one other
    have agrees : one.Agrees other :=
      (Canvas.blank_agrees width height width' height').run calls
    have grid : one.wipe = .blank width height :=
      (Canvas.wipe_run _ calls).trans (Canvas.wipe_blank width height)
    have width_eq : one.width = width := congrArg Canvas.width grid
    have height_eq : one.height = height := congrArg Canvas.height grid
    refine ⟨agrees, width_eq, height_eq, ?_, ?_, ?_⟩
    · rw [agrees.shaped.rows, height_eq]
    · intro cells mem
      rw [agrees.shaped.cells cells mem, width_eq]
    · intro column row inside
      obtain ⟨⟨left, -⟩, above, -⟩ := Canvas.inside_iff.mp inside
      apply agrees.shaped.exists_cell
      rwa [Int.toNat_of_nonneg left, Int.toNat_of_nonneg above]
  · intro instructions one other
    have twins : one.Twins other := (new_twins style size size').run instructions
    refine ⟨fun i => (twins.perform i).1, twins.canvas, ?_⟩
    exact (wipe_canvas_run _ instructions).trans (Canvas.wipe_blank _ _)

/-- Marks beside the smaller canvas are on the larger one, and the cell on both is the same. A text
is measured alike on a surface with room for it and on one without. -/
theorem canvases_are_windows_one_cell :
    let calls : List Canvas.Call :=
      [.setChar 1 0 'x', .setChar (-1) 0 'y', .setChar 0 0 'z', .setChar 0 1 'w']
    let one := (Canvas.blank 1 1).run calls
    let other := (Canvas.blank 2 2).run calls
    let texts : List (Instruction Float) :=
      [.createText "idle" .label .black, .addChild root ⟨1⟩, .update]
    one.inside 0 0 = true ∧ other.inside 0 0 = true ∧ one.get 0 0 = other.get 0 0 ∧
      one.rows = #[#['z']] ∧ other.rows = #[#['z', 'x'], #['w', ' ']] ∧
      ((new ⟨.ascii, ⟨0, 0⟩⟩).run texts).reply (.measure ⟨1⟩) =
        ((new ⟨.ascii, ⟨800, 600⟩⟩).run texts).reply (.measure ⟨1⟩) := by
  intro calls one other texts
  have inside : one.inside 0 0 = true := by decide
  have inside' : other.inside 0 0 = true := by decide
  obtain ⟨windows, alike⟩ := canvases_are_windows .ascii (⟨0, 0⟩ : Size Float) ⟨800, 600⟩
  exact ⟨inside, inside', (windows 1 1 2 2 calls).1.same 0 0 inside inside', by decide, by decide,
    (alike texts).1 (.measure ⟨1⟩) (by simp)⟩

end GridSurface

end TransitionDiagram
