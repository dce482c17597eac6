/-
TransitionDiagram.Proofs.Trim: what trimming takes away.

Trimming takes blanks from both ends and nothing else. So a text is what remains of it between two
runs of blanks, and what remains is the only part of the text with that property which neither
begins nor ends with a blank.

  §1 runs of blanks
  §2 what remains
-/
import Mathlib.Data.List.TakeWhile
import TransitionDiagram.Text.Blank

namespace TransitionDiagram.Text

/-! ## §1 Runs of blanks -/

/-- All characters are blank. -/
def AllBlank (s : List Char) : Prop := ∀ c ∈ s, isBlank c = true

@[simp] theorem allBlank_nil : AllBlank [] := by simp [AllBlank]

theorem allBlank_space : AllBlank [' '] := by simp [AllBlank]; decide

theorem AllBlank.reverse {s : List Char} (h : AllBlank s) : AllBlank s.reverse := by
  simpa [AllBlank] using h

theorem dropWhile_append_of_allBlank {l s : List Char} (h : AllBlank l) :
    (l ++ s).dropWhile isBlank = s.dropWhile isBlank :=
  List.dropWhile_append_of_pos h

/-- A text that does not begin with a blank loses nothing at its front. -/
theorem dropWhile_isBlank_eq_self {s : List Char} (h : ∀ c ∈ s.head?, isBlank c = false) :
    s.dropWhile isBlank = s := by
  cases s with
  | nil => rfl
  | cons c rest => simp [h c (by simp)]

theorem head?_dropWhile_isBlank {s : List Char} :
    ∀ c ∈ (s.dropWhile isBlank).head?, isBlank c = false := by
  intro c there
  have := List.head?_dropWhile_not isBlank s
  rw [Option.mem_def.mp there] at this
  simpa using this

/-- A text is a run of blanks and then what is left when they are dropped. -/
theorem exists_blanks_append (s : List Char) :
    ∃ l, AllBlank l ∧ s = l ++ s.dropWhile isBlank :=
  ⟨s.takeWhile isBlank, fun _ mem => List.mem_takeWhile_imp mem,
    List.takeWhile_append_dropWhile.symm⟩

/-! ## §2 What remains -/

/-- A text without blanks at its ends. -/
structure Bare (s : List Char) : Prop where
  head : ∀ c ∈ s.head?, isBlank c = false
  last : ∀ c ∈ s.getLast?, isBlank c = false

/-- Whatever blanks stand around a bare text, trimming gives that text. -/
theorem trim_eq_of_bare {l s r : List Char} (bare : Bare s) (hl : AllBlank l) (hr : AllBlank r) :
    trim (l ++ s ++ r) = s := by
  have behind : (s ++ r).dropWhile isBlank = s ++ r ∨ s = [] := by
    cases s with
    | nil => exact .inr rfl
    | cons c rest =>
      exact .inl (dropWhile_isBlank_eq_self fun d mem => bare.head d (by simpa using mem))
  rw [trim, trimEnd, List.append_assoc, dropWhile_append_of_allBlank hl]
  rcases behind with same | rfl
  · rw [same, List.reverse_append, dropWhile_append_of_allBlank hr.reverse,
      dropWhile_isBlank_eq_self fun d mem => bare.last d (by simpa using mem), List.reverse_reverse]
  · have gone : r.dropWhile isBlank = [] := by
      simpa using dropWhile_append_of_allBlank (s := []) hr
    simp [gone]

/-- A text is what trimming leaves of it, with blanks on both sides. -/
theorem exists_trim (s : List Char) :
    ∃ l r, AllBlank l ∧ AllBlank r ∧ Bare (trim s) ∧ s = l ++ trim s ++ r := by
  obtain ⟨l, hl, front⟩ := exists_blanks_append s
  obtain ⟨r, hr, back⟩ := exists_blanks_append (s.dropWhile isBlank).reverse
  have split : s.dropWhile isBlank = trim s ++ r.reverse := by
    have := congrArg List.reverse back
    simpa [trim, trimEnd] using this
  refine ⟨l, r.reverse, hl, hr.reverse, ⟨?_, ?_⟩, ?_⟩
  · intro c mem
    refine head?_dropWhile_isBlank (s := s) c ?_
    rw [split]
    cases h : trim s with
    | nil => simp [h] at mem
    | cons d rest => simpa [h] using mem
  · intro c mem
    refine head?_dropWhile_isBlank (s := (s.dropWhile isBlank).reverse) c ?_
    simpa [trim, trimEnd] using mem
  · rw [List.append_assoc, ← split]; exact front

theorem bare_trim (s : List Char) : Bare (trim s) := by
  obtain ⟨_, _, _, _, bare, _⟩ := exists_trim s
  exact bare

/-- Trimming changes a text unless it is bare. -/
theorem trim_eq_self_iff {s : List Char} : trim s = s ↔ Bare s := by
  constructor
  · intro same
    rw [← same]; exact bare_trim s
  · intro bare
    simpa using trim_eq_of_bare bare allBlank_nil allBlank_nil

@[simp] theorem trim_trim (s : List Char) : trim (trim s) = trim s :=
  trim_eq_self_iff.mpr (bare_trim s)

/-- A character that is not blank stands in what remains as often as before. -/
theorem count_trim {c : Char} (solid : isBlank c = false) (s : List Char) :
    (trim s).count c = s.count c := by
  obtain ⟨l, r, hl, hr, -, split⟩ := exists_trim s
  have absent : ∀ t, AllBlank t → t.count c = 0 := by
    intro t blank
    rw [List.count_eq_zero]
    intro mem
    have := blank c mem
    simp [solid] at this
  conv => rhs; rw [split]
  simp [List.count_append, absent l hl, absent r hr]

theorem mem_of_mem_trim {c : Char} {s : List Char} (mem : c ∈ trim s) : c ∈ s := by
  obtain ⟨l, r, -, -, -, split⟩ := exists_trim s
  rw [split]; simp [mem]

end TransitionDiagram.Text
