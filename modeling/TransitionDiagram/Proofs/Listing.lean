/-
TransitionDiagram.Proofs.Listing: a machine can be told from its JSON.

What is quoted in the JSON holds no line feed, so the lines that it was built from are found again.
A comma at the end of a line only says that another item follows, and that can be seen without it:
an item begins as no closing bracket does, and what stands between two brackets is indented, so
that the bracket that ends an array or an object is the first one that is not. So the lines without
their last commas are a prefix free code of what is listed, for strings, for members, for arrays and
objects of any length, and in the end for the machine.

Main statement: `json_inj`. Two machines with the same JSON have the same states in the same order
and the same transitions in the same order, and what is absent is not taken for what is empty.

  §1 lines without their last commas
  §2 strings, members, arrays and objects
  §3 transitions and machines
  §4 the lines of the JSON
-/
import Mathlib.Data.List.DropRight
import TransitionDiagram.Proofs.Lines
import TransitionDiagram.Proofs.Quoting
import TransitionDiagram.Report

namespace TransitionDiagram.Report

open Text (quote)

/-! ## §1 Lines without their last commas -/

/-- A line without the commas at its end. -/
def bare (line : Line) : Line :=
  line.rdropWhile (· = ',')

theorem bare_concat_comma (line : Line) : bare (line ++ [',']) = bare line :=
  List.rdropWhile_concat_pos _ _ _ (by decide)

theorem bare_concat {c : Char} (other : c ≠ ',') (line : Line) :
    bare (line ++ [c]) = line ++ [c] :=
  List.rdropWhile_concat_neg _ _ _ (by simpa using other)

theorem bare_singleton {c : Char} (other : c ≠ ',') : bare [c] = [c] :=
  bare_concat other []

/-- A quoted text ends with a quote, whatever stands in it. -/
theorem bare_quote (s : List Char) : bare (quote s) = quote s :=
  bare_concat (by decide) ('"' :: s.flatMap Text.escape)

/-- What stands before a line is kept, unless it ends with a comma itself. -/
theorem bare_append {c : Char} (other : c ≠ ',') (front line : Line) :
    bare (front ++ [c] ++ line) = front ++ [c] ++ bare line := by
  induction line using List.reverseRecOn with
  | nil => simpa [bare] using bare_concat other front
  | append_singleton line last ih =>
    rw [← List.append_assoc]
    by_cases comma : last = ','
    · rw [comma, bare_concat_comma, bare_concat_comma, ih]
    · rw [bare_concat comma, bare_concat comma, List.append_assoc]

theorem map_bare_endWithComma (lines : List Line) :
    (endWithComma lines).map bare = lines.map bare := by
  fun_induction endWithComma lines with
  | case1 => rfl
  | case2 line => simp [bare_concat_comma]
  | case3 line rest _ ih => simp [ih]

/-- Without the commas, items stand one after the other. -/
theorem map_bare_separated (items : List (List Line)) :
    (separated items).map bare = items.flatMap (·.map bare) := by
  fun_induction separated items with
  | case1 => rfl
  | case2 item => simp
  | case3 item rest _ ih => simp [map_bare_endWithComma, ih]

theorem map_bare_indent (lines : List Line) :
    (indent 2 lines).map bare = indent 2 (lines.map bare) := by
  simp only [indent, List.map_map]
  exact List.map_congr_left fun line _ => bare_append (by decide) [' '] line

theorem map_bare_memberLines (name : String) (lines : List Line) :
    (memberLines name lines).map bare = memberLines name (lines.map bare) := by
  cases lines with
  | nil => rfl
  | cons line rest =>
    have kept := bare_append (c := ' ') (by decide) (quote name.toList ++ [':']) line
    simpa [memberLines] using kept

/-! ## §2 Values told by their lines -/

variable {α β : Type} {lines : α → List Line}

/-- A value can be told from its lines without their last commas, whatever lines follow. -/
structure Told (lines : α → List Line) : Prop where
  ne : ∀ a, lines a ≠ []
  free : PrefixFree fun a => (lines a).map bare

theorem Told.comp (told : Told lines) {f : β → α} (inj : Function.Injective f) :
    Told fun b => lines (f b) where
  ne b := told.ne (f b)
  free := told.free.comp inj

theorem told_stringLines : Told stringLines where
  ne _ := List.cons_ne_nil _ _
  free := by
    intro s t begins
    simp only [stringLines, List.map_cons, List.map_nil, bare_quote,
      List.cons_prefix_cons] at begins
    exact String.toList_injective (Text.quote_prefixFree.injective begins.1)

/-- A member can be told by its name and its value: a quoted name shows where it ends. -/
theorem Told.member (told : Told lines) :
    Told fun p : String × α => memberLines p.1 (lines p.2) where
  ne p := by
    obtain ⟨line, rest, same⟩ := List.exists_cons_of_ne_nil (told.ne p.2)
    simp [memberLines, same]
  free := by
    rintro ⟨name, a⟩ ⟨name', b⟩ begins
    obtain ⟨line, rest, same⟩ := List.exists_cons_of_ne_nil (told.ne a)
    obtain ⟨line', rest', same'⟩ := List.exists_cons_of_ne_nil (told.ne b)
    simp only [map_bare_memberLines] at begins
    simp only [same, same', List.map_cons, memberLines, List.cons_prefix_cons,
      List.append_assoc] at begins
    obtain ⟨first, later⟩ := begins
    obtain ⟨names, values⟩ := Text.quote_prefixFree.append_inj first
    have equal : a = b := told.free <| by
      simpa only [same, same', List.map_cons, List.cons_prefix_cons] using
        ⟨List.append_cancel_left values, later⟩
    rw [String.toList_injective names, equal]

/-- Between brackets any number of items can be told: what is between them is indented. -/
theorem Told.bracketed (told : Told lines) (close : Char) (other : close ≠ ' ') :
    PrefixFree fun as : List α =>
      indent 2 ((separated (as.map lines)).map bare) ++ [[close]] := by
  have indented := told.free.map (List.append_right_injective [' ', ' '])
  -- A line with blanks in front is not the closing one.
  have free := indented.list [close] fun a => by
    obtain ⟨line, rest, same⟩ := List.exists_cons_of_ne_nil (told.ne a)
    refine ⟨_, _, congrArg _ (congrArg (List.map bare) same), fun closes => ?_⟩
    exact other (List.cons.inj closes).1.symm
  intro as bs begins
  refine free ?_
  simpa [map_bare_separated, indent, List.flatMap_map, List.map_flatMap] using begins

theorem Told.array (told : Told lines) : Told fun as : List α => arrayLines (as.map lines) where
  ne as := by
    cases as with
    | nil => exact List.cons_ne_nil _ _
    | cons a as => exact List.cons_ne_nil _ _
  free := by
    intro as bs begins
    -- The first line tells an array without items from one with some.
    cases as with
    | nil =>
      cases bs with
      | nil => rfl
      | cons b bs => exact absurd (List.cons_prefix_cons.mp begins).1 (by decide)
    | cons a as =>
      cases bs with
      | nil => exact absurd (List.cons_prefix_cons.mp begins).1 (by decide)
      | cons b bs =>
        refine told.bracketed ']' (by decide) ?_
        simpa [arrayLines, map_bare_indent, bare_singleton] using begins

theorem Told.object (told : Told lines) : Told fun as : List α => objectLines (as.map lines) where
  ne _ := List.cons_ne_nil _ _
  free := by
    intro as bs begins
    refine told.bracketed '\x7d' (by decide) ?_
    simpa [objectLines, map_bare_indent, bare_singleton] using begins

/-! ## §3 Transitions and machines -/

/-- The members of a transition, without those that are absent. -/
def members (t : Transition) : List (String × String) :=
  [("from", t.source), ("to", t.target)] ++ (t.name.map ("name", ·)).toList ++
    (t.action.map ("action", ·)).toList

theorem transitionLines_eq (t : Transition) :
    transitionLines t =
      objectLines ((members t).map fun p => memberLines p.1 (stringLines p.2)) := by
  obtain ⟨source, target, name, action⟩ := t
  cases name <;> cases action <;> rfl

/-- The names of the members say which of them are absent. -/
theorem members_injective : Function.Injective members := by
  rintro ⟨source, target, name, action⟩ ⟨source', target', name', action'⟩ same
  cases name <;> cases action <;> cases name' <;> cases action' <;> simp_all [members]

theorem told_transitionLines : Told transitionLines := by
  rw [funext transitionLines_eq]
  exact told_stringLines.member.object.comp members_injective

/-- A machine can be told from its lines: the states show where they end. -/
theorem machineLines_injective : Function.Injective machineLines := by
  intro m m' same
  have told_states := told_stringLines.array.member.free
  have told_transitions := told_transitionLines.array.member.free
  have framed := congrArg (List.map bare) same
  simp only [machineLines, objectLines, List.map_cons, List.map_append, map_bare_indent,
    map_bare_separated, List.flatMap_cons, List.flatMap_nil] at framed
  -- Without the frame, the lines of the states stand before those of the transitions.
  have indented := List.append_cancel_right (List.cons.inj framed).2
  have listed := List.map_injective_iff.mpr (List.append_right_injective _) indented
  obtain ⟨states, later⟩ := told_states.append_inj (a := ("states", m.states))
    (b := ("states", m'.states)) listed
  obtain ⟨transitions, -⟩ := told_transitions.append_inj (a := ("transitions", m.transitions))
    (b := ("transitions", m'.transitions)) later
  obtain ⟨-, same_states⟩ := Prod.mk.inj states
  obtain ⟨-, same_transitions⟩ := Prod.mk.inj transitions
  cases m
  cases m'
  exact congrArg₂ Machine.mk same_states same_transitions

/-! ## §4 The lines of the JSON -/

/-- No line holds a character below U+0020, so none of them can be split. -/
def Printable (lines : List Line) : Prop :=
  ∀ line ∈ lines, ∀ c ∈ line, 0x20 ≤ c.toNat

theorem printable_cons {line : Line} {rest : List Line} :
    Printable (line :: rest) ↔ (∀ c ∈ line, 0x20 ≤ c.toNat) ∧ Printable rest :=
  List.forall_mem_cons

theorem printable_append {before after : List Line} :
    Printable (before ++ after) ↔ Printable before ∧ Printable after :=
  List.forall_mem_append

theorem printable_endWithComma {lines : List Line} (printable : Printable lines) :
    Printable (endWithComma lines) := by
  fun_induction endWithComma lines with
  | case1 => exact printable
  | case2 line =>
    obtain ⟨first, none⟩ := printable_cons.mp printable
    refine printable_cons.mpr ⟨List.forall_mem_append.mpr ⟨first, ?_⟩, none⟩
    exact List.forall_mem_singleton.mpr (by decide)
  | case3 line rest _ ih =>
    obtain ⟨first, others⟩ := printable_cons.mp printable
    exact printable_cons.mpr ⟨first, ih others⟩

theorem printable_separated {items : List (List Line)}
    (printable : ∀ item ∈ items, Printable item) : Printable (separated items) := by
  fun_induction separated items with
  | case1 => exact fun _ mem => absurd mem List.not_mem_nil
  | case2 item => exact printable item List.mem_cons_self
  | case3 item rest _ ih =>
    obtain ⟨first, others⟩ := List.forall_mem_cons.mp printable
    exact printable_append.mpr ⟨printable_endWithComma first, ih others⟩

/-- Brackets, and items between them. -/
theorem printable_bracketed {items : List (List Line)} {first last : Char}
    (printable : ∀ item ∈ items, Printable item) (opens : 0x20 ≤ first.toNat)
    (closes : 0x20 ≤ last.toNat) :
    Printable ([first] :: (indent 2 (separated items) ++ [[last]])) := by
  refine printable_cons.mpr ⟨List.forall_mem_singleton.mpr opens, printable_append.mpr ⟨?_, ?_⟩⟩
  · refine List.forall_mem_map.mpr fun line mem => List.forall_mem_append.mpr ⟨?_, ?_⟩
    · exact fun c blank => (List.eq_of_mem_replicate blank) ▸ (by decide)
    · exact printable_separated printable line mem
  · exact List.forall_mem_singleton.mpr (List.forall_mem_singleton.mpr closes)

theorem printable_arrayLines {items : List (List Line)}
    (printable : ∀ item ∈ items, Printable item) : Printable (arrayLines items) := by
  cases items with
  | nil => exact List.forall_mem_singleton.mpr (by simp)
  | cons item rest => exact printable_bracketed printable (by decide) (by decide)

theorem printable_memberLines (name : String) {lines : List Line} (printable : Printable lines) :
    Printable (memberLines name lines) := by
  cases lines with
  | nil => exact printable
  | cons line rest =>
    obtain ⟨first, others⟩ := printable_cons.mp printable
    have title : ∀ c ∈ quote name.toList ++ [':', ' '], 0x20 ≤ c.toNat :=
      List.forall_mem_append.mpr ⟨fun _ => Text.le_of_mem_quote, by simp⟩
    exact printable_cons.mpr ⟨List.forall_mem_append.mpr ⟨title, first⟩, others⟩

theorem printable_stringLines (s : String) : Printable (stringLines s) :=
  List.forall_mem_singleton.mpr fun _ => Text.le_of_mem_quote

theorem printable_transitionLines (t : Transition) : Printable (transitionLines t) := by
  rw [transitionLines_eq]
  refine printable_bracketed (List.forall_mem_map.mpr fun p _ => ?_) (by decide) (by decide)
  exact printable_memberLines p.1 (printable_stringLines p.2)

theorem printable_machineLines (m : Machine) : Printable (machineLines m) := by
  have states : Printable (arrayLines (m.states.map stringLines)) :=
    printable_arrayLines (List.forall_mem_map.mpr fun s _ => printable_stringLines s)
  have transitions : Printable (arrayLines (m.transitions.map transitionLines)) :=
    printable_arrayLines (List.forall_mem_map.mpr fun t _ => printable_transitionLines t)
  refine printable_bracketed (List.forall_mem_cons.mpr ⟨?_, ?_⟩) (by decide) (by decide)
  · exact printable_memberLines "states" states
  · exact List.forall_mem_singleton.mpr (printable_memberLines "transitions" transitions)

/-- The JSON has the lines that it was built from. -/
theorem lines_json (m : Machine) : Text.lines (json m).toList = machineLines m := by
  have printable := printable_machineLines m
  rw [json, String.toList_ofList]
  refine Text.lines_joinLines_of_last (fun line mem feed => ?_) (fun line mem last => ?_) ?_
  · exact absurd (printable line mem _ feed) (by decide)
  · exact absurd (printable line mem _ (List.mem_of_getLast? last)) (by decide)
  · rw [machineLines, objectLines, ← List.cons_append, List.getLast?_concat]
    decide

/-- Two machines have the same JSON only if they are the same: state by state, transition by
transition, and what is absent in the one is absent in the other. -/
theorem json_inj {m m' : Machine} : json m = json m' ↔ m = m' := by
  refine ⟨fun same => machineLines_injective ?_, congrArg json⟩
  rw [← lines_json, ← lines_json, same]

/-- An empty name is a member, and an absent one is not. Quotes and line feeds are written with a
backslash. -/
example :
    json (Machine.ofTransitions [{ source := "a\"", target := "\n", name := some "" }]) =
      "\x7b\n  \"states\": [\n    \"a\\\"\",\n    \"\\n\"\n  ],\n  \"transitions\": [\n" ++
      "    \x7b\n      \"from\": \"a\\\"\",\n      \"to\": \"\\n\",\n      \"name\": \"\"\n" ++
      "    \x7d\n  ]\n\x7d" := by
  decide +kernel

end TransitionDiagram.Report
