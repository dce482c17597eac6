/-
TransitionDiagram.Proofs.Lines: texts put together from lines, and the lines found in them.

Lines are joined with line feeds, and a text is cut at its line feeds. Joining is undone by cutting
if no line could be mistaken: a line must hold no line feed, must not end with a carriage return,
which would go with the line feed behind it, and must not be empty, as an empty line at the end of
a text is none.

  §1 a line and what follows it
  §2 lines that were joined
  §3 characters of lines
-/
import TransitionDiagram.Text.Lines

namespace TransitionDiagram.Text

variable {line before rest : List Char}

/-! ## §1 A line and what follows it -/

theorem endLine_reverse (plain : line.getLast? ≠ some '\r') : endLine line.reverse = line := by
  unfold endLine
  split
  · rename_i back same
    refine absurd ?_ plain
    rw [← List.reverse_reverse line, same]
    simp
  · simp

/-- A line runs to the first line feed. -/
theorem linesFrom_append_lineFeed (free : '\n' ∉ line) :
    linesFrom before (line ++ '\n' :: rest) =
      endLine (line.reverse ++ before) :: linesFrom [] rest := by
  induction line generalizing before with
  | nil => simp [linesFrom]
  | cons c line ih =>
    simp only [List.mem_cons, not_or] at free
    rw [List.cons_append, linesFrom, ih free.2]
    · simp
    · exact fun same => free.1 same.symm

/-- The text behind the last line feed is a line unless it is empty. -/
theorem linesFrom_of_free (free : '\n' ∉ line) (ne : before ≠ [] ∨ line ≠ []) :
    linesFrom before line = [before.reverse ++ line] := by
  induction line generalizing before with
  | nil =>
    cases before with
    | nil => simp at ne
    | cons c before => simp [linesFrom]
  | cons c line ih =>
    simp only [List.mem_cons, not_or] at free
    rw [linesFrom, ih free.2 (.inl (by simp))]
    · simp
    · exact fun same => free.1 same.symm

/-! ## §2 Lines that were joined -/

/-- A line that is found again as it is. -/
structure Whole (line : List Char) : Prop where
  ne : line ≠ []
  free : '\n' ∉ line
  plain : line.getLast? ≠ some '\r'

theorem lines_of_whole (whole : Whole line) : lines line = [line] :=
  linesFrom_of_free whole.free (.inr whole.ne)

/-- A line with others behind it begins the text, and a line feed follows it. -/
theorem joinLines_cons {ls : List (List Char)} (ne : ls ≠ []) (l : List Char) :
    joinLines (l :: ls) = l ++ '\n' :: joinLines ls := by
  obtain ⟨l', ls, rfl⟩ := List.exists_cons_of_ne_nil ne
  simp [joinLines, List.intercalate]

/-- The lines of a text that was put together from lines, some of which may be empty. -/
theorem lines_joinLines_of_last {ls : List (List Char)} (free : ∀ l ∈ ls, '\n' ∉ l)
    (plain : ∀ l ∈ ls, l.getLast? ≠ some '\r') (last : ls.getLast? ≠ some []) :
    lines (joinLines ls) = ls := by
  induction ls with
  | nil => rfl
  | cons l ls ih =>
    obtain ⟨free_first, free⟩ := List.forall_mem_cons.mp free
    obtain ⟨plain_first, plain⟩ := List.forall_mem_cons.mp plain
    by_cases alone : ls = []
    · subst alone
      have ne : l ≠ [] := by simpa using last
      simpa [joinLines] using lines_of_whole ⟨ne, free_first, plain_first⟩
    · rw [List.getLast?_cons_of_ne_nil alone] at last
      rw [lines, joinLines_cons alone, linesFrom_append_lineFeed free_first, List.append_nil,
        endLine_reverse plain_first]
      exact congrArg (l :: ·) (ih free plain last)

theorem lines_joinLines {ls : List (List Char)} (whole : ∀ l ∈ ls, Whole l) :
    lines (joinLines ls) = ls := by
  refine lines_joinLines_of_last (fun l mem => (whole l mem).free)
    (fun l mem => (whole l mem).plain) fun last => ?_
  exact (whole [] (List.mem_of_getLast? last)).ne rfl

/-- A text that was put together from lines ends as the last of them. -/
theorem getLast?_joinLines {ls : List (List Char)} {l : List Char} (last : ls.getLast? = some l)
    (ne : l ≠ []) : (joinLines ls).getLast? = l.getLast? := by
  induction ls with
  | nil => contradiction
  | cons first ls ih =>
    by_cases alone : ls = []
    · subst alone
      obtain rfl : first = l := by simpa using last
      simp [joinLines]
    · rw [List.getLast?_cons_of_ne_nil alone] at last
      have ended := ih last
      have more : joinLines ls ≠ [] := by
        intro none
        rw [none, eq_comm, List.getLast?_nil, List.getLast?_eq_none_iff] at ended
        exact ne ended
      rw [joinLines_cons alone, List.getLast?_append, List.getLast?_cons_of_ne_nil more, ended]
      exact Option.or_of_isSome (List.getLast?_isSome.mpr ne)

/-! ## §3 Characters of lines -/

/-- Lines put together have no characters but their own and line feeds. -/
theorem mem_of_mem_joinLines {ls : List (List Char)} {c : Char} (mem : c ∈ joinLines ls) :
    c = '\n' ∨ ∃ l ∈ ls, c ∈ l := by
  induction ls with
  | nil => contradiction
  | cons l ls ih =>
    by_cases alone : ls = []
    · subst alone
      exact .inr ⟨l, List.mem_cons_self, by simpa [joinLines] using mem⟩
    · rw [joinLines_cons alone, List.mem_append, List.mem_cons] at mem
      rcases mem with first | feed | later
      · exact .inr ⟨l, List.mem_cons_self, first⟩
      · exact .inl feed
      · exact (ih later).imp_right fun ⟨l', listed, mem⟩ => ⟨l', List.mem_cons_of_mem _ listed, mem⟩

theorem mem_of_mem_endLine {c : Char} (mem : c ∈ endLine before) : c ∈ before := by
  unfold endLine at mem
  split at mem <;> simp_all

theorem free_of_mem_linesFrom {text : List Char} (free : '\n' ∉ before)
    (mem : line ∈ linesFrom before text) : '\n' ∉ line := by
  fun_induction linesFrom before text with
  | case1 => simp at mem
  | case2 before => simp_all
  | case3 before rest ih =>
    rcases List.mem_cons.mp mem with rfl | mem
    · exact fun there => free (mem_of_mem_endLine there)
    · exact ih (by simp) mem
  | case4 before c rest other ih => exact ih (by simp_all [Ne.symm]) mem

/-- No line holds a line feed. -/
theorem free_of_mem_lines {text : List Char} (mem : line ∈ lines text) : '\n' ∉ line :=
  free_of_mem_linesFrom (by simp) mem

theorem mem_of_mem_linesFrom {text : List Char} {c : Char} (listed : line ∈ linesFrom before text)
    (mem : c ∈ line) : c ∈ before ∨ c ∈ text := by
  fun_induction linesFrom before text with
  | case1 => simp at listed
  | case2 before => simp_all
  | case3 before rest ih =>
    rcases List.mem_cons.mp listed with rfl | listed
    · exact .inl (mem_of_mem_endLine mem)
    · have later := (ih listed).resolve_left (by simp)
      exact .inr (List.mem_cons_of_mem _ later)
  | case4 before first rest other ih =>
    rcases ih listed with front | later
    · rcases List.mem_cons.mp front with rfl | front
      · exact .inr List.mem_cons_self
      · exact .inl front
    · exact .inr (List.mem_cons_of_mem _ later)

/-- A line has no characters but those of the text. -/
theorem mem_of_mem_lines {text : List Char} {c : Char} (listed : line ∈ lines text)
    (mem : c ∈ line) : c ∈ text :=
  (mem_of_mem_linesFrom listed mem).resolve_left (by simp)

end TransitionDiagram.Text
