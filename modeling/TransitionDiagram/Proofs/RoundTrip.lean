/-
TransitionDiagram.Proofs.RoundTrip: transitions written as lines and read again.

Not every transition can be read from a line: its parts are trimmed, the marks between them are
found as early as possible, and a label that is there is not empty. `Readable` lists what a line
can hold. Of these, almost all are read back from their own text. What fails is an end without a
name, because the mark behind it becomes part of it, and an action without a name of the transition,
because its slash follows no colon and so belongs to the target.

  §1 what can be read
  §2 the text of a transition
  §3 the text of a machine
-/
import Mathlib.Data.List.Basic
import TransitionDiagram.Proofs.LineGrammar
import TransitionDiagram.Proofs.Lines
import TransitionDiagram.Proofs.Machines
import TransitionDiagram.Proofs.Trim

namespace TransitionDiagram

open Text

namespace Transition

/-! ## §1 What can be read -/

/-- What holds of every transition that is found in a line. -/
structure Readable (t : Transition) : Prop where
  source_trimmed : trim t.source.toList = t.source.toList
  target_trimmed : trim t.target.toList = t.target.toList
  no_arrow : ∀ i, 1 ≤ i → ¬ ArrowAt t.source.toList i
  no_colon : ':' ∉ t.target.toList.tail
  name : ∀ n ∈ t.name, n ≠ "" ∧ trim n.toList = n.toList ∧ '/' ∉ n.toList
  action : ∀ a ∈ t.action, a ≠ "" ∧ trim a.toList = a.toList

theorem filled_eq_some_iff {part : List Char} {s : String} :
    filled part = some s ↔ s ≠ "" ∧ trim part = s.toList := by
  unfold filled
  constructor
  · intro h
    split at h
    · contradiction
    · rename_i some_left
      cases h
      exact ⟨by simpa using some_left, by simp⟩
  · intro ⟨ne, same⟩
    have some_left : trim part ≠ [] := by
      rw [same]; simpa using ne
    rw [if_neg some_left, same, String.ofList_toList]

/-- Blanks around a part do not change what is read. -/
theorem filled_padded {l r : List Char} {s : String} (hl : AllBlank l) (hr : AllBlank r)
    (ne : s ≠ "") (trimmed : trim s.toList = s.toList) : filled (l ++ s.toList ++ r) = some s :=
  filled_eq_some_iff.mpr ⟨ne, trim_eq_of_bare (trim_eq_self_iff.mp trimmed) hl hr⟩

theorem mem_tail_of_mem_tail_trim {c : Char} {s : List Char} (mem : c ∈ (trim s).tail) :
    c ∈ s.tail := by
  obtain ⟨l, r, -, -, -, split⟩ := exists_trim s
  cases kept : trim s with
  | nil => simp [kept] at mem
  | cons d rest =>
    rw [kept] at mem split
    cases l with
    | nil => rw [split]; simpa using .inl mem
    | cons e l => rw [split]; simp_all

theorem Reading.readable {line : List Char} (r : Reading line) : r.transition.Readable := by
  constructor
  case source_trimmed => simp [Reading.transition]
  case target_trimmed => simp [Reading.transition]
  case no_arrow =>
    intro i positive there
    obtain ⟨l, b, -, -, -, split⟩ := exists_trim r.source
    have further := (show ArrowAt (trim r.source) i by
      simpa [Reading.transition] using there).within l b
    rw [← split] at further
    exact r.source_free _ (by omega) further
  case no_colon =>
    intro mem
    exact r.no_colon (mem_tail_of_mem_tail_trim (by simpa [Reading.transition] using mem))
  case name =>
    intro n mem
    obtain ⟨l, -, found⟩ := Option.bind_eq_some_iff.mp mem
    obtain ⟨ne, same⟩ := filled_eq_some_iff.mp found
    exact ⟨ne, by rw [← same, trim_trim], fun slash => l.no_slash (mem_of_mem_trim (same ▸ slash))⟩
  case action =>
    intro a mem
    obtain ⟨l, -, found⟩ := Option.bind_eq_some_iff.mp mem
    obtain ⟨part, -, found⟩ := Option.bind_eq_some_iff.mp found
    obtain ⟨ne, same⟩ := filled_eq_some_iff.mp found
    exact ⟨ne, by rw [← same, trim_trim]⟩

theorem exists_reading_of_ofLine? {line : List Char} {t : Transition}
    (read : ofLine? line = some t) : ∃ r : Reading line, r.transition = t := by
  obtain ⟨s, r, s_ne, r_ne, rfl⟩ := exists_arrow_of_ofLine? read
  obtain ⟨reading⟩ := exists_reading s_ne r_ne
  exact ⟨reading, Option.some.inj ((ofLine?_eq_of_reading reading).symm.trans read)⟩

/-- The text of an end, or a blank if the end has no name. -/
def padded (s : List Char) : List Char :=
  if s = [] then [' '] else s

theorem padded_ne (s : List Char) : padded s ≠ [] := by
  unfold padded; split <;> simp_all

theorem trim_padded {s : List Char} (trimmed : trim s = s) : trim (padded s) = s := by
  unfold padded
  split
  · simp_all; rfl
  · exact trimmed

theorem tail_padded (s : List Char) : (padded s).tail = s.tail := by
  unfold padded; split <;> simp_all

theorem arrowAt_padded {s : List Char} {i : Nat} : ArrowAt (padded s) i ↔ ArrowAt s i := by
  unfold padded
  split
  · rename_i none
    subst none
    simp [ArrowAt, List.getElem?_cons]
  · rfl

/-- Every transition with these properties is found in some line. -/
theorem Readable.exists_line {t : Transition} (readable : t.Readable) :
    ∃ line, ofLine? line = some t := by
  let name := (t.name.map String.toList).getD []
  have no_slash : '/' ∉ name := by
    cases there : t.name with
    | none => simp [name, there]
    | some n => simpa [name, there] using (readable.name n there).2.2
  let label : Label := ⟨name, t.action.map String.toList, no_slash⟩
  refine ⟨padded t.source.toList ++ arrow ++ behindArrow (padded t.target.toList) (some label), ?_⟩
  rw [ofLine?_append_arrow (padded_ne _)
      fun i positive there => readable.no_arrow i positive (arrowAt_padded.mp there),
    ofTarget?_behindArrow (padded_ne _) (by rw [tail_padded]; exact readable.no_colon),
    trim_padded readable.source_trimmed, trim_padded readable.target_trimmed]
  have names : filled name = t.name := by
    cases there : t.name with
    | none => simp [name, there]
    | some n =>
      obtain ⟨ne, trimmed, -⟩ := readable.name n there
      simpa [name, there] using filled_padded allBlank_nil allBlank_nil ne trimmed
  have actions : (t.action.map String.toList).bind filled = t.action := by
    cases there : t.action with
    | none => rfl
    | some a =>
      obtain ⟨ne, trimmed⟩ := readable.action a there
      simpa using filled_padded allBlank_nil allBlank_nil ne trimmed
  simp [label, names, actions]

/-! ## §2 The text of a transition -/

/-- Both ends have names, and an action stands behind a name. -/
def Printable (t : Transition) : Prop :=
  t.source ≠ "" ∧ t.target ≠ "" ∧ (t.name.isSome ∨ t.action = none)

instance (t : Transition) : Decidable t.Printable :=
  inferInstanceAs (Decidable (_ ∧ _ ∧ _))

/-- The text behind the arrow. -/
def tailText (t : Transition) : List Char :=
  t.target.toList ++ (introduced ": " t.name).toList ++ (introduced " / " t.action).toList

theorem toList_toText (t : Transition) :
    t.toText.toList = t.source.toList ++ arrow ++ t.tailText := by
  simp [toText, tailText, arrow]

variable {t : Transition} {source : List Char}

/-- The target that is read begins with all that stands before a colon can end it. -/
theorem exists_target_of_ofTarget? {front rest : List Char} (ne : front ≠ [])
    (free : ':' ∉ front.tail) (read : ofTarget? source (front ++ rest) = some t) :
    ∃ more, t.target.toList = trim (front ++ more) := by
  obtain ⟨more, colon, free_more, rfl⟩ := exists_marked ':' rest
  obtain ⟨label, split⟩ : ∃ label, front ++ (more ++ marked ':' colon) =
      behindArrow (front ++ more) label := by
    cases colon with
    | none => exact ⟨none, by simp [behindArrow, marked]⟩
    | some text =>
      obtain ⟨l, rfl⟩ := exists_label text
      exact ⟨some l, by simp [behindArrow]⟩
  have free_all : ':' ∉ (front ++ more).tail := by
    rw [List.tail_append_of_ne_nil ne]
    simp [free, free_more]
  rw [split, ofTarget?_behindArrow (by simp [ne]) free_all] at read
  cases read
  exact ⟨more, by simp⟩

/-- A transition that is read from its own text has all the parts that the text needs. -/
theorem Readable.printable_of_ofLine? (readable : t.Readable)
    (read : ofLine? t.toText.toList = some t) : t.Printable := by
  rw [toList_toText] at read
  have source_ne : t.source ≠ "" := by
    intro empty
    -- the line begins with the arrow, whose dash then belongs to the source
    obtain ⟨r, same⟩ := exists_reading_of_ofLine? read
    obtain ⟨c, others, split⟩ := List.exists_cons_of_ne_nil r.source_ne
    have dash : c = '-' := by
      have heads := congrArg List.head? r.whole
      simpa [empty, split, arrow, eq_comm] using heads
    have gone : trim r.source = [] := by
      have sources : String.ofList (trim r.source) = "" := (congrArg source same).trans empty
      simpa using sources
    have dashes := count_trim (c := '-') (by decide) r.source
    rw [gone, split, dash] at dashes
    simp at dashes
  rw [ofLine?_append_arrow (by simpa using source_ne) readable.no_arrow] at read
  have labelled : t.name.isSome ∨ t.action = none := by
    cases unnamed : t.name with
    | some n => exact .inl rfl
    | none =>
      cases acts : t.action with
      | none => exact .inr rfl
      | some a =>
        -- the slash before the action is read as a part of the target
        have text : t.tailText = (t.target.toList ++ [' ', '/']) ++ ' ' :: a.toList := by
          simp [tailText, introduced, unnamed, acts]
        rw [text] at read
        have free : ':' ∉ (t.target.toList ++ [' ', '/']).tail := by
          have free := readable.no_colon
          generalize t.target.toList = target at free
          cases target <;> simp_all
        obtain ⟨more, target⟩ := exists_target_of_ofTarget? (by simp) free read
        have slashes := count_trim (c := '/') (by decide) (t.target.toList ++ [' ', '/'] ++ more)
        rw [← target] at slashes
        simp [List.count_append] at slashes
  refine ⟨source_ne, fun empty => ?_, labelled⟩
  cases named : t.name with
  | none =>
    have quiet : t.action = none := by simpa [named] using labelled
    simp [tailText, introduced, empty, named, quiet, ofTarget?] at read
  | some n =>
    -- the colon before the name is read as a part of the target
    have text : t.tailText = [':'] ++ ' ' :: (n.toList ++ (introduced " / " t.action).toList) := by
      simp [tailText, introduced, empty, named]
    rw [text] at read
    obtain ⟨more, target⟩ := exists_target_of_ofTarget? (by simp) (by simp) read
    have colons := count_trim (c := ':') (by decide) ([':'] ++ more)
    rw [← target, empty] at colons
    simp at colons

/-- A transition is read from its own text if the text behind the arrow holds its label. -/
theorem Readable.ofLine?_of_label (readable : t.Readable) (source_ne : t.source ≠ "")
    (target_ne : t.target ≠ "") (label : Option Label)
    (text : t.tailText = behindArrow t.target.toList label)
    (name : (label.bind fun l => filled l.name) = t.name)
    (action : (label.bind fun l => l.action.bind filled) = t.action) :
    ofLine? t.toText.toList = some t := by
  rw [toList_toText, ofLine?_append_arrow (by simpa using source_ne) readable.no_arrow, text,
    ofTarget?_behindArrow (by simpa using target_ne) readable.no_colon, name, action,
    readable.source_trimmed, readable.target_trimmed, String.ofList_toList, String.ofList_toList]

/-- A transition with all these parts is read from its own text. -/
theorem Readable.ofLine?_toText (readable : t.Readable) (printable : t.Printable) :
    ofLine? t.toText.toList = some t := by
  obtain ⟨source_ne, target_ne, labelled⟩ := printable
  cases named : t.name with
  | none =>
    have quiet : t.action = none := by simpa [named] using labelled
    refine readable.ofLine?_of_label source_ne target_ne none ?_ named.symm quiet.symm
    simp [tailText, introduced, behindArrow, marked, named, quiet]
  | some n =>
    obtain ⟨n_ne, n_trimmed, n_free⟩ := readable.name n named
    -- the blanks that printing puts around the name belong to it until they are trimmed
    cases acts : t.action with
    | none =>
      have name_read : filled (' ' :: n.toList) = some n := by
        simpa using filled_padded allBlank_space allBlank_nil n_ne n_trimmed
      refine readable.ofLine?_of_label source_ne target_ne
        (some ⟨' ' :: n.toList, none, by simp [n_free]⟩) ?_ ?_ acts.symm
      · simp [tailText, introduced, behindArrow, marked, named, acts, Label.text]
      · rw [named]; exact name_read
    | some a =>
      obtain ⟨a_ne, a_trimmed⟩ := readable.action a acts
      have name_read : filled (' ' :: n.toList ++ [' ']) = some n := by
        simpa using filled_padded allBlank_space allBlank_space n_ne n_trimmed
      have action_read : filled (' ' :: a.toList) = some a := by
        simpa using filled_padded allBlank_space allBlank_nil a_ne a_trimmed
      refine readable.ofLine?_of_label source_ne target_ne
        (some ⟨' ' :: n.toList ++ [' '], some (' ' :: a.toList), by simp [n_free]⟩) ?_ ?_ ?_
      · simp [tailText, introduced, behindArrow, marked, named, acts, Label.text]
      · rw [named]; exact name_read
      · rw [acts]; exact action_read

/-! ## §3 The text of a machine -/

/-- A text that ends in a bare part does not end with a carriage return. -/
theorem plain_of_bare {front part : List Char} (bare : Bare part) (ne : part ≠ []) :
    (front ++ part).getLast? ≠ some '\r' := by
  intro last
  rw [List.getLast?_append_of_ne_nil _ ne] at last
  have solid := bare.last '\r' last
  contradiction

theorem mem_introduced {mark : String} {part : Option String} {c : Char}
    (mem : c ∈ (introduced mark part).toList) : c ∈ mark.toList ∨ ∃ s ∈ part, c ∈ s.toList := by
  cases part <;> simp_all [introduced]

theorem mem_of_filled {part : List Char} {s : String} {c : Char} (found : filled part = some s)
    (mem : c ∈ s.toList) : c ∈ part :=
  mem_of_mem_trim ((filled_eq_some_iff.mp found).2 ▸ mem)

/-- The text of a transition has no characters but those of its line and of the marks. -/
theorem Reading.mem_of_mem_toText {line : List Char} (r : Reading line) {c : Char}
    (mem : c ∈ r.transition.toText.toList) : c ∈ line ∨ c ∈ [' ', '-', '>', ':', '/'] := by
  have in_line : c ∈ r.source ∨ c ∈ r.target ∨ (∃ l ∈ r.label, c ∈ l.text) → c ∈ line := by
    intro parts
    rw [r.whole, behindArrow]
    rcases parts with mem | mem | ⟨l, there, mem⟩
    · simp [mem]
    · simp [mem]
    · rw [Option.mem_def.mp there]
      simp [marked, mem]
  simp only [toList_toText, tailText, List.mem_append] at mem
  rcases mem with (mem | mem) | ((mem | mem) | mem)
  · exact .inl (in_line (.inl (mem_of_mem_trim (by simpa [transition] using mem))))
  · simp only [arrow, List.mem_cons, List.not_mem_nil, or_false] at mem
    rcases mem with rfl | rfl <;> simp
  · exact .inl (in_line (.inr (.inl (mem_of_mem_trim (by simpa [transition] using mem)))))
  · rcases mem_introduced mem with mem | ⟨n, named, mem⟩
    · simp at mem
      rcases mem with rfl | rfl <;> simp
    · obtain ⟨l, there, found⟩ := Option.bind_eq_some_iff.mp named
      exact .inl (in_line (.inr (.inr ⟨l, there, by simp [Label.text, mem_of_filled found mem]⟩)))
  · rcases mem_introduced mem with mem | ⟨a, acts, mem⟩
    · simp at mem
      rcases mem with rfl | rfl | rfl <;> simp
    · obtain ⟨l, there, found⟩ := Option.bind_eq_some_iff.mp acts
      obtain ⟨part, acts, found⟩ := Option.bind_eq_some_iff.mp found
      exact .inl (in_line (.inr (.inr ⟨l, there,
        by simp [Label.text, acts, marked, mem_of_filled found mem]⟩)))

/-- The text of a transition is a line that is found again, if it was found in a line before. -/
theorem Reading.whole_toText {line : List Char} (r : Reading line) (free : '\n' ∉ line)
    (printable : r.transition.Printable) : Whole r.transition.toText.toList := by
  have readable := r.readable
  constructor
  case ne => simp [toList_toText, arrow]
  case free =>
    intro mem
    have marks := (r.mem_of_mem_toText mem).resolve_left free
    simp at marks
  case plain =>
    generalize r.transition = t at readable printable
    rw [toList_toText, tailText]
    cases acts : t.action with
    | some a =>
      obtain ⟨a_ne, a_trimmed⟩ := readable.action a acts
      rw [introduced, String.toList_append]
      simp only [← List.append_assoc]
      exact plain_of_bare (trim_eq_self_iff.mp a_trimmed) (by simpa using a_ne)
    | none =>
      cases named : t.name with
      | some n =>
        obtain ⟨n_ne, n_trimmed, -⟩ := readable.name n named
        simp only [introduced, String.toList_append, String.toList_empty, List.append_nil,
          ← List.append_assoc]
        exact plain_of_bare (trim_eq_self_iff.mp n_trimmed) (by simpa using n_ne)
      | none =>
        simp only [introduced, String.toList_empty, List.append_nil]
        exact plain_of_bare (trim_eq_self_iff.mp readable.target_trimmed)
          (by simpa using printable.2.1)

end Transition

namespace Machine

/-- The text of a machine: a line for each transition. -/
def toText (m : Machine) : String :=
  String.ofList (joinLines (m.transitions.map fun t => t.toText.toList))

/-- A machine that was read from a text is read again from its own text, if each of its transitions
is read again from its own line. -/
theorem ofText_toText {text : String} (printable : ∀ t ∈ (ofText text).transitions, t.Printable) :
    ofText (ofText text).toText = ofText text := by
  have found : ∀ t ∈ (ofText text).transitions,
      Whole t.toText.toList ∧ Transition.ofLine? t.toText.toList = some t := by
    intro t mem
    have ready := printable t mem
    rw [transitions_ofText, transitionsOf] at mem
    obtain ⟨line, listed, read⟩ := List.mem_filterMap.mp mem
    obtain ⟨r, rfl⟩ := Transition.exists_reading_of_ofLine? read
    exact ⟨r.whole_toText (free_of_mem_lines listed) ready, r.readable.ofLine?_toText ready⟩
  have again : transitionsOf (ofText text).toText.toList = (ofText text).transitions := by
    have whole : ∀ l ∈ (ofText text).transitions.map fun t => t.toText.toList, Whole l := by
      simpa using fun t mem => (found t mem).1
    rw [transitionsOf, toText, String.toList_ofList, lines_joinLines whole, List.filterMap_map]
    calc (ofText text).transitions.filterMap (Transition.ofLine? ∘ fun t => t.toText.toList)
      _ = (ofText text).transitions.filterMap some :=
        List.filterMap_congr fun t mem => (found t mem).2
      _ = (ofText text).transitions := List.filterMap_some
  calc ofText (ofText text).toText
    _ = ofTransitions (transitionsOf (ofText text).toText.toList) := rfl
    _ = ofTransitions (transitionsOf text.toList) := by rw [again, transitions_ofText]
    _ = ofText text := rfl

end Machine

/-- Just the readable transitions are found in lines. Of these, the printable ones and no others are
found in their own text, and so is a machine all of whose transitions are printable. -/
theorem Transition.reading_undoes_writing :
    (∀ t : Transition, (∃ line, ofLine? line = some t) ↔ t.Readable) ∧
    (∀ t : Transition, t.Readable → (ofLine? t.toText.toList = some t ↔ t.Printable)) ∧
    ∀ text : String, (∀ t ∈ (Machine.ofText text).transitions, t.Printable) →
      Machine.ofText (Machine.ofText text).toText = Machine.ofText text := by
  refine ⟨fun t => ⟨?_, fun readable => readable.exists_line⟩, fun t readable => ?_,
    fun text printable => Machine.ofText_toText printable⟩
  · intro ⟨line, read⟩
    obtain ⟨r, rfl⟩ := exists_reading_of_ofLine? read
    exact r.readable
  · exact ⟨readable.printable_of_ofLine?, readable.ofLine?_toText⟩

/-- A text with a line that is none, a name with a colon, an action with slashes and an arrow in a
source; and an action without a name, which is read from a line but not from its own text. -/
theorem Transition.reading_undoes_writing_four_lines :
    let text := " A -> B : at 10:30 / x/y\nno arrow\r\n->C->:d\nA->A\r"
    let t : Transition := { source := "A", target := "B", action := some "x" }
    (∀ t ∈ (Machine.ofText text).transitions, t.Printable) ∧
      Machine.ofText (Machine.ofText text).toText = Machine.ofText text ∧
      t.Readable ∧ ofLine? t.toText.toList ≠ some t := by
  intro text t
  have printable : ∀ t ∈ (Machine.ofText text).transitions, t.Printable := by decide +kernel
  have readable : t.Readable :=
    (reading_undoes_writing.1 t).mp ⟨"A->B:/x".toList, by decide +kernel⟩
  have unprintable : ¬ t.Printable := by decide
  exact ⟨printable, reading_undoes_writing.2.2 text printable, readable,
    fun read => unprintable ((reading_undoes_writing.2.1 t readable).mp read)⟩

end TransitionDiagram
