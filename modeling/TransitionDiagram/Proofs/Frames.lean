/-
TransitionDiagram.Proofs.Frames: there are no stray characters in a picture.

A mark holds a blank, a character of the style, a character of a label that has a width, or the
filler behind such a character. So a canvas that was blank holds nothing else after any marks. It
keeps its shape, and its frame leaves out the fillers and the blanks at the ends; so the frame has
no more rows and columns than the canvas has. What a scene has on its canvas is the portrait of the
states it shows, so labels of earlier passes are not in the frame.

  §1 the characters of a canvas
  §2 the characters of marks
  §3 rows
  §4 the frame
  §5 characters of a text
  §6 scenes
-/
import Mathlib.Data.List.DropRight
import TransitionDiagram.Proofs.Canvases
import TransitionDiagram.Proofs.Legible
import TransitionDiagram.Proofs.Lines
import TransitionDiagram.Proofs.RoundTrip

namespace TransitionDiagram

namespace Canvas

/-! ## §1 The characters of a canvas -/

/-- All cells hold characters of some kind. -/
def Only (P : Char → Prop) (canvas : Canvas) : Prop :=
  ∀ row ∈ canvas.rows, ∀ c ∈ row, P c

variable {P : Char → Prop} {canvas : Canvas} {mark : Mark} {marks : List Mark}

theorem only_blank (blank : P ' ') (width height : Nat) : (Canvas.blank width height).Only P := by
  intro row row_mem c mem
  obtain ⟨-, rfl⟩ := Array.mem_replicate.mp row_mem
  obtain ⟨-, rfl⟩ := Array.mem_replicate.mp mem
  exact blank

theorem Only.set (only : canvas.Only P) (fits : P mark.glyph) : (canvas.set mark).Only P := by
  unfold Canvas.set
  split
  · intro row row_mem c mem
    obtain ⟨i, bound, rfl⟩ := Array.mem_iff_getElem.mp row_mem
    have there : i < canvas.rows.size := by simpa using bound
    have old : ∀ c ∈ canvas.rows[i], P c := only _ (Array.getElem_mem there)
    simp only [Array.getElem_modify] at mem
    split at mem
    · rcases Array.mem_or_eq_of_mem_setIfInBounds mem with mem | rfl
      · exact old c mem
      · exact fits
    · exact old c mem
  · exact only

theorem Only.paint (only : canvas.Only P) (fit : ∀ m ∈ marks, P m.glyph) :
    (canvas.paint marks).Only P := by
  induction marks generalizing canvas with
  | nil => exact only
  | cons mark rest ih =>
    obtain ⟨first, others⟩ := List.forall_mem_cons.mp fit
    exact ih (only.set first) others

/-- No mark reaches a canvas without cells. -/
theorem paint_of_no_cells (no_cells : canvas.width = 0 ∨ canvas.height = 0) (marks : List Mark) :
    canvas.paint marks = canvas := by
  have nowhere : ∀ mark : Mark, ¬ canvas.inside mark.column mark.row = true := by
    intro mark inside
    obtain ⟨⟨left, right⟩, above, below⟩ := inside_iff.mp inside
    omega
  induction marks with
  | nil => rfl
  | cons mark rest ih =>
    have kept : canvas.set mark = canvas := if_neg (nowhere mark)
    exact (congrArg (Canvas.paint · rest) kept).trans ih

end Canvas

namespace Mark

/-! ## §2 The characters of marks -/

/-- The characters of a style, in a list. -/
def Glyphs.all (glyphs : Glyphs) : List Char :=
  [glyphs.outline, glyphs.horizontal, glyphs.vertical, glyphs.rising, glyphs.falling]

/-- What a picture may show: a blank, a character of the style, or a character of a label that has
a width. -/
inductive Drawn (glyphs : Glyphs) (labels : List String) : Char → Prop where
  | blank : Drawn glyphs labels ' '
  | glyph {c : Char} (mem : c ∈ glyphs.all) : Drawn glyphs labels c
  | label {c : Char} {id : String} (listed : id ∈ labels) (mem : c ∈ id.toList)
    (wide : 0 < Text.charWidth c) : Drawn glyphs labels c

variable {α : Type} [Scalar α] {glyphs : Glyphs} {labels : List String} {m : Mark}

theorem glyph_of_mem_ofChar {column row : Int} {c : Char} {width : Nat}
    (mem : m ∈ ofChar column row c width) : m.glyph = wideTail ∨ (m.glyph = c ∧ 0 < width) := by
  cases width with
  | zero => contradiction
  | succ more =>
    rcases List.mem_cons.mp mem with rfl | tail
    · exact .inr ⟨rfl, Nat.succ_pos more⟩
    · obtain ⟨i, -, rfl⟩ := List.mem_map.mp tail
      exact .inl rfl

/-- A text is written with its characters that have a width, and with fillers. -/
theorem glyph_of_mem_ofText {column row : Int} {text : List Char}
    (mem : m ∈ ofText column row text) :
    m.glyph = wideTail ∨ (m.glyph ∈ text ∧ 0 < Text.charWidth m.glyph) := by
  induction text generalizing column with
  | nil => contradiction
  | cons c rest ih =>
    rcases List.mem_append.mp mem with here | later
    · rcases glyph_of_mem_ofChar here with tail | ⟨same, wide⟩
      · exact .inl tail
      · exact .inr ⟨same ▸ List.mem_cons_self, same ▸ wide⟩
    · exact (ih later).imp_right fun ⟨mem, wide⟩ => ⟨List.mem_cons_of_mem _ mem, wide⟩

theorem lineGlyph_mem (glyphs : Glyphs) (dx dy : Int) : lineGlyph glyphs dx dy ∈ glyphs.all := by
  unfold lineGlyph
  split_ifs <;> simp [Glyphs.all]

theorem glyph_of_mem_ofLine {p q : Point α} (mem : m ∈ ofLine glyphs p q) :
    m.glyph ∈ glyphs.all := by
  simp only [ofLine, ofCells] at mem
  split at mem
  · contradiction
  · obtain ⟨step, -, rfl⟩ := List.mem_map.mp mem
    exact lineGlyph_mem _ _ _

/-- A circle is drawn with blanks and with the outline of the style. -/
theorem glyph_of_mem_ofCircle {center : Point α} {radius : α}
    (mem : m ∈ ofCircle glyphs center radius) : m.glyph = ' ' ∨ m.glyph = glyphs.outline := by
  unfold ofCircle at mem
  split at mem
  · contradiction
  · rcases List.mem_append.mp mem with inside | outline
    · obtain ⟨row, -, mem⟩ := List.mem_flatMap.mp inside
      obtain ⟨column, -, made⟩ := List.mem_filterMap.mp mem
      split at made
      · cases made
        exact .inl rfl
      · contradiction
    · obtain ⟨step, -, rfl⟩ := List.mem_map.mp outline
      exact .inr rfl

/-- What is met on a walk is drawn with what a picture may show, and with fillers, if its label is
among those of the picture. -/
theorem drawn_of_mem_visit {template : CircleTemplate α} {v : Visit α}
    (listed : ∀ label width, v.content = .text label width → label ∈ labels)
    (mem : m ∈ v.marks glyphs template) : m.glyph = wideTail ∨ Drawn glyphs labels m.glyph := by
  obtain ⟨content, position⟩ := v
  cases content with
  | group => contradiction
  | shape s =>
    cases s with
    | circle =>
      rcases glyph_of_mem_ofCircle mem with blank | outline
      · exact .inr (blank ▸ .blank)
      · exact .inr (.glyph (outline ▸ List.mem_cons_self))
    | line vector stroke => exact .inr (.glyph (glyph_of_mem_ofLine mem))
  | text label width =>
    rcases glyph_of_mem_ofText mem with tail | ⟨mem, wide⟩
    · exact .inl tail
    · exact .inr (.label (listed label width rfl) mem wide)

end Mark

section

variable {α : Type} [Scalar α]

/-- The labels of a picture are those of its states. -/
theorem Portrait.label_of_mem_visits {places : List (String × Point α)}
    {pairs : List (String × String)} {v : Visit α} (mem : v ∈ visits places pairs) {label : String}
    {width : α} (text : v.content = .text label width) : label ∈ places.map Prod.fst := by
  simp only [visits, List.mem_cons, List.mem_append, List.mem_filterMap, List.mem_flatMap] at mem
  rcases mem with rfl | (rfl | line) | circle
  · contradiction
  · contradiction
  · obtain ⟨pair, -, found⟩ := line
    obtain ⟨source, -, found⟩ := Option.bind_eq_some_iff.mp found
    obtain ⟨target, -, found⟩ := Option.bind_eq_some_iff.mp found
    cases found
    contradiction
  · obtain ⟨place, listed, mem⟩ := circle
    simp only [Portrait.circle, List.mem_cons, List.not_mem_nil, or_false] at mem
    rcases mem with rfl | rfl | rfl
    · contradiction
    · contradiction
    · cases text
      exact List.mem_map_of_mem listed

theorem Portrait.drawn_of_mem_marks {config : PictureConfig α} {layout : Layout α}
    {ids : List String} {pairs : List (String × String)} {m : Mark}
    (mem : m ∈ marks config layout ids pairs) :
    m.glyph = Mark.wideTail ∨ Mark.Drawn config.style.glyphs ids m.glyph := by
  obtain ⟨v, met, mem⟩ := List.mem_flatMap.mp mem
  refine Mark.drawn_of_mem_visit (fun label width text => ?_) mem
  rw [← layout.map_fst_seats config.size.width ids]
  exact label_of_mem_visits met text

end

/-! ## §3 Rows -/

namespace Canvas

variable {canvas : Canvas} {row : Array Char} {line : List Char}

theorem initial_rowText (row : Array Char) :
    rowText row <+: row.toList.filter (· ≠ Mark.wideTail) :=
  List.rdropWhile_prefix Text.isBlank _

theorem mem_of_mem_rowText {c : Char} (mem : c ∈ rowText row) : c ∈ row ∧ c ≠ Mark.wideTail := by
  simpa using (initial_rowText row).subset mem

theorem length_rowText_le (row : Array Char) : (rowText row).length ≤ row.size :=
  (initial_rowText row).length_le.trans (List.length_filter_le _ _)

/-- The text of a row does not end with a blank. -/
theorem last_rowText {c : Char} (last : (rowText row).getLast? = some c) :
    Text.isBlank c = false := by
  obtain ⟨ne, rfl⟩ := List.mem_getLast?_eq_getLast last
  exact Bool.eq_false_iff.mpr (List.rdropWhile_last_not Text.isBlank _ ne)

theorem initial_frameLines (canvas : Canvas) :
    canvas.frameLines <+: canvas.rows.toList.map rowText :=
  List.rdropWhile_prefix List.isEmpty _

/-- Every line of a frame is the text of a row. -/
theorem exists_row_of_mem_frameLines (mem : line ∈ canvas.frameLines) :
    ∃ row ∈ canvas.rows, rowText row = line := by
  simpa using (initial_frameLines canvas).subset mem

theorem length_frameLines_le (canvas : Canvas) : canvas.frameLines.length ≤ canvas.rows.size := by
  simpa using (initial_frameLines canvas).length_le

/-- The last line of a frame is not empty. -/
theorem last_frameLines (last : canvas.frameLines.getLast? = some line) : line ≠ [] := by
  obtain ⟨ne, rfl⟩ := List.mem_getLast?_eq_getLast last
  exact fun empty => List.rdropWhile_last_not List.isEmpty _ ne (List.isEmpty_iff.mpr empty)

/-- A canvas of blanks has an empty frame. -/
theorem frameLines_blank (width height : Nat) : (blank width height).frameLines = [] := by
  refine List.rdropWhile_eq_nil_iff.mpr fun line mem => ?_
  obtain ⟨row, listed, rfl⟩ := List.mem_map.mp mem
  obtain ⟨-, blank_row⟩ := Array.mem_replicate.mp (Array.mem_toList_iff.mp listed)
  cases last : (rowText row).getLast? with
  | none => exact List.isEmpty_iff.mpr (List.getLast?_eq_none_iff.mp last)
  | some c =>
    -- the last character would be a blank of the row, which is trimmed
    have there := (mem_of_mem_rowText (List.mem_of_getLast? last)).1
    rw [blank_row] at there
    obtain ⟨-, rfl⟩ := Array.mem_replicate.mp there
    have solid := last_rowText last
    contradiction

/-! ## §4 The frame -/

/-- Cutting the frame of a canvas without line feeds gives its lines. -/
theorem Only.lines_frame (only : canvas.Only (· ≠ '\n')) :
    Text.lines canvas.frame.toList = canvas.frameLines := by
  rw [frame, String.toList_ofList]
  refine Text.lines_joinLines_of_last ?_ ?_ fun last => last_frameLines last rfl
  · intro line listed feed
    obtain ⟨row, row_mem, rfl⟩ := exists_row_of_mem_frameLines listed
    exact only row row_mem '\n' (mem_of_mem_rowText feed).1 rfl
  · -- a carriage return is a blank, so no line ends with one
    intro line listed last
    obtain ⟨row, -, rfl⟩ := exists_row_of_mem_frameLines listed
    have solid := last_rowText last
    contradiction

/-- A frame ends as its last line does, and a line feed is a blank. -/
theorem last_frame (canvas : Canvas) : canvas.frame.toList.getLast? ≠ some '\n' := by
  rw [frame, String.toList_ofList]
  intro last
  cases lines : canvas.frameLines.getLast? with
  | none =>
    rw [List.getLast?_eq_none_iff.mp lines] at last
    contradiction
  | some line =>
    rw [Text.getLast?_joinLines lines (last_frameLines lines)] at last
    obtain ⟨row, -, rfl⟩ := exists_row_of_mem_frameLines (List.mem_of_getLast? lines)
    have solid := last_rowText last
    contradiction

/-- A frame has only characters that the canvas has, but no filler. -/
theorem Only.mem_frame {P : Char → Prop} (only : canvas.Only P) {c : Char}
    (mem : c ∈ canvas.frame.toList) : c = '\n' ∨ (P c ∧ c ≠ Mark.wideTail) := by
  rw [frame, String.toList_ofList] at mem
  rcases Text.mem_of_mem_joinLines mem with feed | ⟨line, listed, mem⟩
  · exact .inl feed
  · obtain ⟨row, row_mem, rfl⟩ := exists_row_of_mem_frameLines listed
    obtain ⟨mem, no_filler⟩ := mem_of_mem_rowText mem
    exact .inr ⟨only row row_mem c mem, no_filler⟩

/-- The frame of a canvas on which marks were made is within the canvas, also if there are no
cells. -/
theorem frameLines_paint_blank (width height : Nat) (marks : List Mark) :
    ((blank width height).paint marks).frameLines.length ≤ height ∧
      ∀ line ∈ ((blank width height).paint marks).frameLines, line.length ≤ width := by
  by_cases no_cells : width = 0 ∨ height = 0
  · -- there is one row with one character, but it stays blank
    rw [paint_of_no_cells no_cells, frameLines_blank]
    simp
  · have shaped := (shaped_blank width height).paint marks
    have height_eq : ((blank width height).paint marks).height = height := height_paint
    have width_eq : ((blank width height).paint marks).width = width := width_paint
    refine ⟨?_, fun line listed => ?_⟩
    · have bound := length_frameLines_le ((blank width height).paint marks)
      rw [shaped.rows, height_eq] at bound
      omega
    · obtain ⟨row, row_mem, rfl⟩ := exists_row_of_mem_frameLines listed
      have bound := length_rowText_le row
      rw [shaped.cells row row_mem, width_eq] at bound
      omega

end Canvas

section

variable {α : Type} [Scalar α]

/-- The frame of a picture of some states shows the characters of the style and of their names and
nothing else, is within the size of the picture, and is trimmed at the ends of its lines and at its
own end. -/
structure Clean (config : PictureConfig α) (ids : List String) (frame : String) : Prop where
  drawn : ∀ c ∈ frame.toList, c = '\n' ∨ Mark.Drawn config.style.glyphs ids c
  no_filler : Mark.wideTail ∉ frame.toList
  /-- The lines are all there is: no carriage return was taken for a part of a line end. -/
  whole : Text.joinLines (Text.lines frame.toList) = frame.toList
  rows : (Text.lines frame.toList).length ≤ Cell.rows config.size
  columns : ∀ line ∈ Text.lines frame.toList, line.length ≤ Cell.columns config.size
  trimmed : ∀ line ∈ Text.lines frame.toList, ∀ c ∈ line.getLast?, Text.isBlank c = false
  ended : frame.toList.getLast? ≠ some '\n'

theorem Mark.wideTail_ne_lineFeed : wideTail ≠ '\n' := by decide

/-- A line feed is not among what a picture may show. -/
theorem Mark.Drawn.ne_lineFeed {style : Style} {ids : List String} {c : Char}
    (drawn : Drawn style.glyphs ids c) : c ≠ '\n' := by
  rintro rfl
  cases drawn with
  | glyph mem => cases style <;> simp [Glyphs.all, Style.glyphs] at mem
  | label _ _ wide =>
    have no_width : Text.charWidth '\n' = 0 := rfl
    exact absurd no_width (Nat.ne_of_gt wide)

/-- A picture that was drawn with the marks of some states is clean. -/
theorem clean_of_marks {config : PictureConfig α} {ids : List String} {marks : List Mark}
    (drawn : ∀ m ∈ marks,
      m.glyph = Mark.wideTail ∨ Mark.Drawn config.style.glyphs ids m.glyph) :
    Clean config ids ((GridSurface.new config).canvas.paint marks).frame := by
  have only : ((GridSurface.new config).canvas.paint marks).Only fun c =>
      c = Mark.wideTail ∨ Mark.Drawn config.style.glyphs ids c :=
    (Canvas.only_blank (.inr .blank) _ _).paint drawn
  have no_feeds : ((GridSurface.new config).canvas.paint marks).Only (· ≠ '\n') := by
    intro row row_mem c mem
    rcases only row row_mem c mem with rfl | drawn
    · exact Mark.wideTail_ne_lineFeed
    · exact drawn.ne_lineFeed
  have lines := no_feeds.lines_frame
  obtain ⟨rows, columns⟩ :=
    Canvas.frameLines_paint_blank (Cell.columns config.size) (Cell.rows config.size) marks
  constructor
  case drawn =>
    intro c mem
    refine (only.mem_frame mem).imp_right fun ⟨kind, no_filler⟩ => ?_
    exact kind.resolve_left no_filler
  case no_filler =>
    intro mem
    rcases only.mem_frame mem with feed | ⟨-, no_filler⟩
    · exact Mark.wideTail_ne_lineFeed feed
    · exact no_filler rfl
  case whole => rw [lines, Canvas.frame, String.toList_ofList]
  case rows => rw [lines]; exact rows
  case columns => rw [lines]; exact columns
  case trimmed =>
    rw [lines]
    intro line listed c last
    obtain ⟨row, -, rfl⟩ := Canvas.exists_row_of_mem_frameLines listed
    exact Canvas.last_rowText last
  case ended => exact Canvas.last_frame _

/-- A portrait of some states is clean. -/
theorem clean_portrait (config : PictureConfig α) (layout : Layout α) (ids : List String)
    (pairs : List (String × String)) :
    Clean config ids (portrait config layout ids pairs).frame := by
  rw [Portrait.eq_paint]
  exact clean_of_marks fun m mem => Portrait.drawn_of_mem_marks mem

theorem Clean.of_mem_iff {config : PictureConfig α} {ids ids' : List String} {frame : String}
    (clean : Clean config ids frame) (same : ∀ id, id ∈ ids ↔ id ∈ ids') :
    Clean config ids' frame where
  __ := clean
  drawn c mem := by
    refine (clean.drawn c mem).imp_right fun drawn => ?_
    cases drawn with
    | blank => exact .blank
    | glyph mem => exact .glyph mem
    | label listed mem wide => exact .label ((same _).mp listed) mem wide

end

/-! ## §5 Characters of a text -/

/-- All characters are ASCII characters. -/
def Text.Ascii (text : List Char) : Prop :=
  ∀ c ∈ text, c.toNat < 0x80

instance (text : List Char) : Decidable (Text.Ascii text) :=
  decidable_of_iff (text.all fun c => c.toNat < 0x80) (by simp [Text.Ascii])

/-- The ends of a transition have no characters but those of its line. -/
theorem Transition.mem_of_mem_endpoint {line : List Char} {t : Transition} {id : String} {c : Char}
    (read : ofLine? line = some t) (isEnd : id ∈ t.endpoints) (mem : c ∈ id.toList) :
    c ∈ line := by
  obtain ⟨r, rfl⟩ := exists_reading_of_ofLine? read
  simp only [mem_endpoints, Reading.transition] at isEnd
  rw [r.whole, behindArrow]
  rcases isEnd with rfl | rfl
  · have there := Text.mem_of_mem_trim (by simpa using mem)
    simp [there]
  · have there := Text.mem_of_mem_trim (by simpa using mem)
    simp [there]

/-- The states of a text have no characters but those of the text. -/
theorem Machine.mem_of_mem_state {text id : String} {c : Char}
    (listed : id ∈ (Machine.ofText text).states) (mem : c ∈ id.toList) : c ∈ text.toList := by
  obtain ⟨t, t_mem, isEnd⟩ := ((Machine.Built.ofText text).wellFormed.mem_states id).mp listed
  rw [transitions_ofText, transitionsOf] at t_mem
  obtain ⟨line, line_mem, read⟩ := List.mem_filterMap.mp t_mem
  exact Text.mem_of_mem_lines line_mem (Transition.mem_of_mem_endpoint read isEnd mem)

/-- With ASCII characters only, the picture of an ASCII text is one. -/
theorem Clean.ascii {α : Type} [Scalar α] {config : PictureConfig α} {text frame : String}
    (clean : Clean config (Machine.ofText text).states frame) (style : config.style = .ascii)
    (ascii : Text.Ascii text.toList) : Text.Ascii frame.toList := by
  intro c mem
  rcases clean.drawn c mem with rfl | drawn
  · decide
  · rw [style] at drawn
    cases drawn with
    | blank => decide
    | glyph mem =>
      have glyphs : Text.Ascii Style.ascii.glyphs.all := by decide
      exact glyphs c mem
    | label listed mem _ => exact ascii c (Machine.mem_of_mem_state listed mem)

/-! ## §6 Scenes -/

namespace Scene

open OnGrid

variable {α σ : Type} [Scalar α] [DrawingSurface α σ] [OnGrid α σ] {config : PictureConfig α}
  {layout : Layout α}

/-- After a pass that went through, the frame is clean. -/
theorem Steady.clean {scene scene' : Scene α σ} (steady : scene.Steady config layout)
    {machine : Machine} {stats : PassStats α} (ended : render machine scene = .ok stats scene') :
    Clean config machine.states (grid scene'.surface).frame := by
  obtain ⟨-, ids, -, canvas⟩ := steady.rendered ended
  rw [GridSurface.frame, canvas]
  refine (clean_portrait config layout _ machine.pairs).of_mem_iff fun id => ?_
  rw [ids, Machine.mem_shown]

/-- A scene on a surface that was fresh and refuses no removal has no stray characters in its
picture, whatever calls were made before, once a pass has gone through. So if the style has ASCII
characters only, the picture of an ASCII text has ASCII characters only, and a text always has a
picture. -/
theorem no_stray_characters {surface : σ} {start : Scene α σ}
    (fresh : grid surface = GridSurface.new config) (certain : ¬ mayRefuse surface .removeChild)
    (made : Scene.new surface layout = .ok start) (calls : List Call) :
    (∀ machine stats scene, render machine (start.run calls) = .ok stats scene →
      Clean config machine.states (grid scene.surface).frame) ∧
    (config.style = .ascii → ∀ text, Text.Ascii text.toList →
      (∀ stats scene, render (.ofText text) (start.run calls) = .ok stats scene →
        Text.Ascii (grid scene.surface).frame.toList) ∧
      ∃ frame, TransitionDiagram.render config text = .ok frame ∧ Text.Ascii frame.toList) := by
  obtain ⟨steady, -⟩ := Steady.of_new fresh certain made
  refine ⟨fun machine stats scene ended => (steady.run calls).clean ended,
    fun style text ascii => ⟨fun stats scene ended => ?_, ?_⟩⟩
  · exact ((steady.run calls).clean ended).ascii style ascii
  · have wf : (Machine.ofText text).WellFormed := (Machine.Built.ofText text).wellFormed
    refine ⟨_, picture_eq_portrait config .standard wf, Clean.ascii ?_ style ascii⟩
    refine (clean_portrait config .standard _ _).of_mem_iff fun id => ?_
    simp [Machine.mem_shown]

/-- Names of wide characters are shown first, and then two of ASCII characters. -/
theorem no_stray_characters_after_wide_names :
    let config : PictureConfig Float := { PictureConfig.standard with style := .ascii }
    let text := "Idle->Busy: go / start"
    ∃ (start scene : Scene Float (GridSurface Float)) (stats : PassStats Float),
      Scene.new (GridSurface.new config) .standard = .ok start ∧
      render (.ofText text) (start.run [.render (.ofText "日本->日本語")]) = .ok stats scene ∧
      Clean config (Machine.ofText text).states scene.surface.frame ∧
      Text.Ascii scene.surface.frame.toList := by
  intro config text
  have certain : ¬ mayRefuse (GridSurface.new config) .removeChild := id
  have wf : ∀ text, (Machine.ofText text).WellFormed := fun text =>
    (Machine.Built.ofText text).wellFormed
  have ascii : Text.Ascii text.toList := by decide +kernel
  have fresh : (grid (GridSurface.new config)).nodes.Holds _ 0 := new_holds config
  rcases new_cases .standard rfl fresh with ⟨start, made, isNew⟩ | ⟨-, -, refused⟩
  · obtain ⟨layer, fits⟩ := isNew.fits
    obtain ⟨k, fits⟩ :=
      run_renders_fits (List.forall_mem_singleton.mpr (wf "日本->日本語")) fits
    obtain ⟨stats, scene, ended, -⟩ := render_correct (wf text) fits
    obtain ⟨clean, pictures⟩ := no_stray_characters rfl certain made [.render (.ofText "日本->日本語")]
    exact ⟨start, scene, stats, made, ended, clean _ stats scene ended,
      (pictures rfl text ascii).1 stats scene ended⟩
  · exact refused.elim

end Scene

end TransitionDiagram
