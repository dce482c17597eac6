/-
TransitionDiagram.Proofs.LineGrammar: which lines are transitions, and of which parts.

A reading of a line cuts it into a source, an arrow, a target and perhaps a label, and says where
each part must end: the source at the first arrow behind its first character, the target at the
first colon behind its first character, the name at the first slash. Nothing is said of how the
parts are found. A line has one reading at most, and reading it gives the transition of that one.
The transition has each part without the blanks at its ends, and they are all that it loses.

`ArrowAt` tells where arrows start. Two of them never overlap, but a source may begin with an arrow,
and a run of dashes ends in one, so it is stated by places and not by what a search finds.

  §1 arrows
  §2 parts that a mark ends
  §3 readings
  §4 reading a line
-/
import Mathlib.Data.List.TakeWhile
import TransitionDiagram.Proofs.Trim
import TransitionDiagram.Transition.Line

namespace TransitionDiagram.Transition

open Text (trim)

/-! ## §1 Arrows -/

/-- The two characters between source and target. -/
def arrow : List Char := ['-', '>']

/-- An arrow starts at a place of a text. -/
def ArrowAt (text : List Char) (i : Nat) : Prop :=
  text[i]? = some '-' ∧ text[i + 1]? = some '>'

@[simp] theorem arrowAt_cons_succ {c : Char} {text : List Char} {i : Nat} :
    ArrowAt (c :: text) (i + 1) ↔ ArrowAt text i := by
  simp [ArrowAt]

@[simp] theorem not_arrowAt_nil {i : Nat} : ¬ ArrowAt [] i := by
  simp [ArrowAt]

theorem arrowAt_append_length {s r : List Char} : ArrowAt (s ++ arrow ++ r) s.length := by
  simp [ArrowAt, arrow]

/-- An arrow in a text is an arrow in every longer text, further on by what stands in front. -/
theorem ArrowAt.within {s : List Char} {i : Nat} (h : ArrowAt s i) (l r : List Char) :
    ArrowAt (l ++ s ++ r) (l.length + i) := by
  obtain ⟨dash, tip⟩ := h
  have bound : i + 1 < s.length := (List.getElem?_eq_some_iff.mp tip).1
  induction l with
  | nil =>
    simp only [ArrowAt, List.nil_append, List.length_nil, Nat.zero_add]
    rw [List.getElem?_append_left (by omega), List.getElem?_append_left bound]
    exact ⟨dash, tip⟩
  | cons c l ih => simpa [Nat.add_right_comm] using ih

/-- No arrow starts in one text and ends in the arrow behind it. -/
theorem arrowAt_append_arrow {s r : List Char} {i : Nat} (inside : i < s.length) :
    ArrowAt (s ++ arrow ++ r) i ↔ ArrowAt s i := by
  simp only [ArrowAt, arrow, List.append_assoc, List.getElem?_append_left inside]
  by_cases last : i + 1 < s.length
  · rw [List.getElem?_append_left last]
  · have edge : i + 1 = s.length := by omega
    simp [edge]

/-- What stands before the first arrow has no arrow in it. -/
theorem splitArrow_eq_some {text before after : List Char}
    (split : splitArrow text = some (before, after)) :
    text = before ++ arrow ++ after ∧ ∀ i, ¬ ArrowAt before i := by
  fun_induction splitArrow text generalizing before with
  | case1 => contradiction
  | case2 rest =>
    cases split
    simp [arrow]
  | case3 c rest apart ih =>
    obtain ⟨⟨front, back⟩, found, same⟩ := Option.map_eq_some_iff.mp split
    cases same
    obtain ⟨rfl, free⟩ := ih found
    refine ⟨rfl, fun i there => ?_⟩
    cases i with
    | succ i => exact free i (by simpa using there)
    | zero =>
      -- an arrow at the very front would have ended the search
      cases front with
      | nil => simp [ArrowAt] at there
      | cons d front =>
        obtain ⟨rfl, rfl⟩ : c = '-' ∧ d = '>' := by simpa [ArrowAt] using there
        exact apart _ rfl rfl

theorem splitArrow_append_arrow {before after : List Char} (free : ∀ i, ¬ ArrowAt before i) :
    splitArrow (before ++ arrow ++ after) = some (before, after) := by
  induction before with
  | nil => rfl
  | cons c rest ih =>
    have free_rest : ∀ i, ¬ ArrowAt rest i := fun i there => free (i + 1) (by simpa using there)
    have apart : ∀ tail, c = '-' → rest ++ arrow ++ after = '>' :: tail → False := by
      intro tail dash same
      cases rest with
      | nil => simp [arrow] at same
      | cons d rest =>
        have tip : d = '>' := by simpa using congrArg List.head? same
        exact free 0 (by simp [ArrowAt, dash, tip])
    rw [List.cons_append, List.cons_append, splitArrow.eq_3 _ _ apart, ih free_rest]
    rfl

/-- Wherever there is an arrow, there is a first one. -/
theorem exists_splitArrow (before after : List Char) :
    ∃ front back, splitArrow (before ++ arrow ++ after) = some (front, back) := by
  generalize whole : before ++ arrow ++ after = text
  fun_induction splitArrow text generalizing before with
  | case1 => simp [arrow] at whole
  | case2 rest => exact ⟨_, _, rfl⟩
  | case3 c rest apart ih =>
    cases before with
    | nil =>
      cases whole
      exact absurd rfl (apart _ rfl)
    | cons d before =>
      obtain ⟨rfl, behind⟩ := List.cons.inj whole
      obtain ⟨front, back, found⟩ := ih before behind
      exact ⟨_, _, by rw [found]; rfl⟩

/-! ## §2 Parts that a mark ends -/

/-- A mark and what stands behind it, or nothing. -/
def marked (mark : Char) : Option (List Char) → List Char
  | none => []
  | some behind => mark :: behind

section Marks

variable {mark : Char} {part part' : List Char} {behind behind' : Option (List Char)}

theorem takeWhile_append_marked (free : mark ∉ part) :
    (part ++ marked mark behind).takeWhile (· ≠ mark) = part := by
  have inside : ∀ c ∈ part, decide (c ≠ mark) = true := fun c mem => by
    simpa using ne_of_mem_of_not_mem mem free
  rw [List.takeWhile_append_of_pos inside]
  cases behind <;> simp [marked]

theorem dropWhile_append_marked (free : mark ∉ part) :
    (part ++ marked mark behind).dropWhile (· ≠ mark) = marked mark behind := by
  have inside : ∀ c ∈ part, decide (c ≠ mark) = true := fun c mem => by
    simpa using ne_of_mem_of_not_mem mem free
  rw [List.dropWhile_append_of_pos inside]
  cases behind <;> simp [marked]

/-- Every text is a part without the mark, and what the mark introduces. -/
theorem exists_marked (mark : Char) (text : List Char) :
    ∃ part behind, mark ∉ part ∧ text = part ++ marked mark behind := by
  induction text with
  | nil => exact ⟨[], none, by simp, rfl⟩
  | cons c rest ih =>
    by_cases same : c = mark
    · exact ⟨[], some rest, by simp, by simp [marked, same]⟩
    · obtain ⟨part, behind, free, rfl⟩ := ih
      exact ⟨c :: part, behind, by simp [free, Ne.symm same], rfl⟩

/-- A text is cut at a mark in one way. -/
theorem append_marked_inj (free : mark ∉ part) (free' : mark ∉ part')
    (same : part ++ marked mark behind = part' ++ marked mark behind') :
    part = part' ∧ behind = behind' := by
  have parts : part = part' := by
    have cut := congrArg (List.takeWhile (· ≠ mark)) same
    rwa [takeWhile_append_marked free, takeWhile_append_marked free'] at cut
  subst parts
  have rests := List.append_cancel_left same
  refine ⟨rfl, ?_⟩
  cases behind <;> cases behind' <;> simp_all [marked]

end Marks

/-! ## §3 Readings -/

/-- What stands behind the colon: a name, and perhaps a slash and an action. -/
structure Label where
  name : List Char
  action : Option (List Char)
  no_slash : '/' ∉ name

/-- The characters of a label. -/
def Label.text (l : Label) : List Char :=
  l.name ++ marked '/' l.action

theorem exists_label (text : List Char) : ∃ l : Label, text = l.text := by
  obtain ⟨name, action, free, rfl⟩ := exists_marked '/' text
  exact ⟨⟨name, action, free⟩, rfl⟩

theorem Label.text_injective : Function.Injective Label.text := by
  intro l l' same
  obtain ⟨names, actions⟩ := append_marked_inj l.no_slash l'.no_slash same
  cases l
  cases l'
  simp_all

/-- What stands behind the arrow of a line: a target, and perhaps a colon and a label. -/
def behindArrow (target : List Char) (label : Option Label) : List Char :=
  target ++ marked ':' (label.map Label.text)

/-- A way to cut a line into the parts of a transition. -/
@[ext] structure Reading (line : List Char) where
  source : List Char
  target : List Char
  label : Option Label
  whole : line = source ++ arrow ++ behindArrow target label
  source_ne : source ≠ []
  /-- The source ends at the first arrow that does not start the line. -/
  no_arrow : ∀ i, 1 ≤ i → i < source.length → ¬ ArrowAt line i
  target_ne : target ≠ []
  /-- The target ends at the first colon that does not start it. -/
  no_colon : ':' ∉ target.tail

/-- A part of a label without the blanks around it, absent if it has nothing else. -/
def filled (part : List Char) : Option String :=
  if trim part = [] then none else some (String.ofList (trim part))

@[simp] theorem filled_nil : filled [] = none := by
  simp [filled, trim, Text.trimEnd]

/-- The transition that a reading finds. -/
def Reading.transition {line : List Char} (r : Reading line) : Transition where
  source := String.ofList (trim r.source)
  target := String.ofList (trim r.target)
  name := r.label.bind fun l => filled l.name
  action := r.label.bind fun l => l.action.bind filled

variable {line source target rest : List Char} {label : Option Label}

/-- Whatever stands behind an arrow can be read, unless it is nothing. -/
theorem exists_behindArrow (ne : rest ≠ []) :
    ∃ target label, target ≠ [] ∧ ':' ∉ target.tail ∧ rest = behindArrow target label := by
  obtain ⟨c, others, rfl⟩ := List.exists_cons_of_ne_nil ne
  obtain ⟨tail, colon, free, rfl⟩ := exists_marked ':' others
  cases colon with
  | none => exact ⟨c :: tail, none, by simp, free, rfl⟩
  | some text =>
    obtain ⟨l, rfl⟩ := exists_label text
    exact ⟨c :: tail, some l, by simp, free, rfl⟩

/-- What stands behind an arrow is read in one way. -/
theorem behindArrow_inj {target' : List Char} {label' : Option Label} (ne : target ≠ [])
    (ne' : target' ≠ []) (free : ':' ∉ target.tail) (free' : ':' ∉ target'.tail)
    (same : behindArrow target label = behindArrow target' label') :
    target = target' ∧ label = label' := by
  obtain ⟨c, tail, rfl⟩ := List.exists_cons_of_ne_nil ne
  obtain ⟨c', tail', rfl⟩ := List.exists_cons_of_ne_nil ne'
  obtain ⟨rfl, behind⟩ := List.cons.inj same
  obtain ⟨rfl, labels⟩ := append_marked_inj free free' behind
  exact ⟨rfl, Option.map_injective Label.text_injective labels⟩

/-- A line with an arrow between two parts can be read. -/
theorem exists_reading (source_ne : source ≠ []) (rest_ne : rest ≠ []) :
    Nonempty (Reading (source ++ arrow ++ rest)) := by
  obtain ⟨c, others, rfl⟩ := List.exists_cons_of_ne_nil source_ne
  obtain ⟨before, after, found⟩ := exists_splitArrow others rest
  obtain ⟨split, free⟩ := splitArrow_eq_some found
  -- the first arrow is not behind the given one, so something stands behind it
  have after_ne : after ≠ [] := by
    rintro rfl
    have late : ArrowAt (others ++ arrow ++ rest) others.length := arrowAt_append_length
    have long := congrArg List.length split
    rw [split] at late
    have rest_pos := List.length_pos_iff.mpr rest_ne
    simp [arrow] at long
    have inside : others.length < before.length := by omega
    exact free _ ((arrowAt_append_arrow inside).mp late)
  obtain ⟨target, label, target_ne, no_colon, rfl⟩ := exists_behindArrow after_ne
  have whole : c :: others ++ arrow ++ rest = c :: before ++ arrow ++ behindArrow target label := by
    simpa using split
  refine ⟨⟨c :: before, target, label, whole, by simp, fun i positive inside there => ?_,
    target_ne, no_colon⟩⟩
  rw [whole, arrowAt_append_arrow inside] at there
  obtain ⟨j, rfl⟩ := Nat.exists_eq_add_of_le' positive
  exact free j (by simpa using there)

/-- A line has one reading at most. -/
theorem Reading.unique (p q : Reading line) : p = q := by
  -- the arrow that ends one source cannot start inside the other
  have reach : ∀ p q : Reading line, q.source.length ≤ p.source.length := by
    intro p q
    by_contra inside
    have ends : ArrowAt line p.source.length := by
      have := arrowAt_append_length (s := p.source) (r := behindArrow p.target p.label)
      rwa [← p.whole] at this
    exact q.no_arrow _ (List.length_pos_iff.mpr p.source_ne) (by omega) ends
  have lengths : p.source.length = q.source.length := Nat.le_antisymm (reach q p) (reach p q)
  obtain ⟨fronts, behind⟩ := List.append_inj (p.whole.symm.trans q.whole) (by simp [lengths])
  obtain ⟨targets, labels⟩ :=
    behindArrow_inj p.target_ne q.target_ne p.no_colon q.no_colon behind
  exact Reading.ext (List.append_cancel_right fronts) targets labels

/-! ## §4 Reading a line -/

theorem labelPart_eq_filled (part : List Char) : labelPart part = filled part := by
  unfold labelPart filled
  split <;> simp_all

/-- What stands behind the arrow is a target and perhaps a label. -/
theorem ofTarget?_behindArrow (ne : target ≠ []) (free : ':' ∉ target.tail) :
    ofTarget? source (behindArrow target label) = some {
      source := String.ofList (trim source)
      target := String.ofList (trim target)
      name := label.bind fun l => filled l.name
      action := label.bind fun l => l.action.bind filled } := by
  obtain ⟨c, tail, rfl⟩ := List.exists_cons_of_ne_nil ne
  simp only [List.tail_cons] at free
  simp only [behindArrow, List.cons_append, ofTarget?, takeWhile_append_marked free,
    dropWhile_append_marked free, nameOf, actionOf, labelPart_eq_filled]
  cases label with
  | none => rfl
  | some l =>
    have colon : (marked ':' (some l.text)).drop 1 = l.name ++ marked '/' l.action := rfl
    rw [Option.map_some, colon, takeWhile_append_marked l.no_slash,
      dropWhile_append_marked l.no_slash]
    cases there : l.action <;> simp [there, marked]

/-- The source runs to the first arrow that does not start the line. -/
theorem ofLine?_append_arrow (ne : source ≠ []) (free : ∀ i, 1 ≤ i → ¬ ArrowAt source i) :
    ofLine? (source ++ arrow ++ rest) = ofTarget? source rest := by
  obtain ⟨c, others, rfl⟩ := List.exists_cons_of_ne_nil ne
  have free_others : ∀ i, ¬ ArrowAt others i := fun i there =>
    free (i + 1) (by omega) (by simpa using there)
  simp only [List.cons_append, ofLine?, splitArrow_append_arrow free_others]

theorem Reading.source_free (r : Reading line) : ∀ i, 1 ≤ i → ¬ ArrowAt r.source i := by
  intro i positive there
  have inside : i < r.source.length := by
    have := (List.getElem?_eq_some_iff.mp there.1).1
    exact this
  refine r.no_arrow i positive inside ?_
  rw [r.whole]
  exact (arrowAt_append_arrow inside).mpr there

/-- A line that has a reading is the transition of that reading. -/
theorem ofLine?_eq_of_reading (r : Reading line) : ofLine? line = some r.transition := by
  calc ofLine? line
    _ = ofLine? (r.source ++ arrow ++ behindArrow r.target r.label) := congrArg ofLine? r.whole
    _ = ofTarget? r.source (behindArrow r.target r.label) :=
      ofLine?_append_arrow r.source_ne r.source_free
    _ = some r.transition := ofTarget?_behindArrow r.target_ne r.no_colon

/-- Only lines with an arrow between two parts are read. -/
theorem exists_arrow_of_ofLine? {t : Transition} (read : ofLine? line = some t) :
    ∃ s r, s ≠ [] ∧ r ≠ [] ∧ line = s ++ arrow ++ r := by
  cases line with
  | nil => contradiction
  | cons c others =>
    simp only [ofLine?] at read
    split at read
    · contradiction
    · rename_i before after found
      obtain ⟨rfl, -⟩ := splitArrow_eq_some found
      refine ⟨c :: before, after, by simp, ?_, rfl⟩
      rintro rfl
      contradiction

/-- A line is read if and only if it has an arrow between two parts, neither of them empty. Such a
line has exactly one reading, and what is found in it is the transition of that reading. Trimming a
part cuts blanks off both ends and nothing else, and leaves none there. -/
theorem ofLine?_grammar (line : List Char) :
    ((ofLine? line).isSome ↔ ∃ s r, s ≠ [] ∧ r ≠ [] ∧ line = s ++ arrow ++ r) ∧
    ((ofLine? line).isSome ↔ Nonempty (Reading line)) ∧ Subsingleton (Reading line) ∧
    (∀ r : Reading line, ofLine? line = some r.transition) ∧
    ∀ part, ∃ left right, Text.AllBlank left ∧ Text.AllBlank right ∧ Text.Bare (trim part) ∧
      part = left ++ trim part ++ right := by
  have arrow_of_read : (ofLine? line).isSome →
      ∃ s r, s ≠ [] ∧ r ≠ [] ∧ line = s ++ arrow ++ r := by
    intro read
    obtain ⟨t, read⟩ := Option.isSome_iff_exists.mp read
    exact exists_arrow_of_ofLine? read
  have reading_of_arrow : (∃ s r, s ≠ [] ∧ r ≠ [] ∧ line = s ++ arrow ++ r) →
      Nonempty (Reading line) := by
    rintro ⟨s, r, s_ne, r_ne, rfl⟩
    exact exists_reading s_ne r_ne
  have read_of_reading : Nonempty (Reading line) → (ofLine? line).isSome := by
    rintro ⟨r⟩
    rw [ofLine?_eq_of_reading r]; rfl
  exact ⟨⟨arrow_of_read, fun there => read_of_reading (reading_of_arrow there)⟩,
    ⟨fun read => reading_of_arrow (arrow_of_read read), read_of_reading⟩,
    ⟨Reading.unique⟩, ofLine?_eq_of_reading, Text.exists_trim⟩

/-- Dashes before an arrow, arrows behind it, and a colon right behind it are all parts. -/
example : ofLine? "-->:A->B: / x/y".toList =
    some { source := "-", target := ":A->B", action := some "x/y" } := by
  decide +kernel

end TransitionDiagram.Transition
