/-
TransitionDiagram.Proofs.Labels: where the characters of a label are written.

The characters of a text are written from the left to the right, in one row. A text of printable
ASCII characters has no character that fuses with another, and each of them takes one column. So it
is as wide as it is long, and its characters stand one beside the other.

  §1 widths
  §2 marks
-/
import TransitionDiagram.Picture.Mark

namespace TransitionDiagram

namespace Text

/-! ## §1 Widths -/

/-- All characters are printable ASCII characters. -/
def Printable (text : List Char) : Prop :=
  ∀ c ∈ text, 0x20 ≤ c.toNat ∧ c.toNat < 0x7F

instance (text : List Char) : Decidable (Printable text) :=
  decidable_of_iff (text.all fun c => 0x20 ≤ c.toNat && c.toNat < 0x7F) (by simp [Printable])

theorem charWidth_of_printable {c : Char} (printable : 0x20 ≤ c.toNat ∧ c.toNat < 0x7F) :
    charWidth c = 1 := by
  obtain ⟨low, high⟩ := printable
  simp only [charWidth, if_neg (Nat.not_lt.mpr low), if_pos high]

/-- A printable character fuses with nothing if nothing ahead of it asks for that. -/
theorem extendLeft_of_printable {c : Char} (printable : 0x20 ≤ c.toNat ∧ c.toNat < 0x7F) :
    extendLeft c {} = (1, {}) := by
  obtain ⟨low, high⟩ := printable
  have in_ascii : c.toNat ≤ 0xA0 := by omega
  have no_return : c.toNat ≠ 0xD := by omega
  have alone : aloneInText c = (1, {}) := by
    simp only [aloneInText]
    rw [if_neg (by omega), if_neg (by omega), if_neg (by omega), if_pos in_ascii]
  simp [extendLeft, in_ascii, no_return, alone]

theorem widthAhead_of_printable {text : List Char} (printable : Printable text) :
    widthAhead text = ((text.length : Int), {}) := by
  induction text with
  | nil => rfl
  | cons c rest ih =>
    obtain ⟨first, others⟩ := List.forall_mem_cons.mp printable
    have step : widthAhead (c :: rest) = ((widthAhead rest).1 + (extendLeft c (widthAhead rest).2).1,
        (extendLeft c (widthAhead rest).2).2) := rfl
    rw [step, ih others, extendLeft_of_printable first]
    simp

/-- A printable text is as wide as it is long. -/
theorem width_of_printable {text : String} (printable : Printable text.toList) :
    width text = text.toList.length := by
  rw [width, widthAhead_of_printable printable]
  rfl

end Text

namespace Mark

/-! ## §2 Marks -/

/-- A text is written in its row, and not to the left of where it begins. -/
theorem mem_ofText {column row : Int} {text : List Char} {m : Mark}
    (mem : m ∈ ofText column row text) : column ≤ m.column ∧ m.row = row := by
  induction text generalizing column with
  | nil => simp [ofText] at mem
  | cons c rest ih =>
    rcases List.mem_append.mp mem with here | later
    · cases width : Text.charWidth c with
      | zero => simp [width, ofChar] at here
      | succ more =>
        rw [width, ofChar] at here
        rcases List.mem_cons.mp here with rfl | tail
        · exact ⟨Int.le_refl _, rfl⟩
        · obtain ⟨i, -, rfl⟩ := List.mem_map.mp tail
          exact ⟨by simp only; omega, rfl⟩
    · obtain ⟨right, same⟩ := ih later
      exact ⟨by omega, same⟩

/-- Each character of a printable text stands in its column, and the rest is to the right of it. -/
theorem ofText_split (column row : Int) {text : List Char} (printable : Text.Printable text)
    {k : Nat} (bound : k < text.length) :
    ∃ before after, ofText column row text =
        before ++ { column := column + k, row, glyph := text[k] } :: after ∧
      ∀ m ∈ after, column + k < m.column := by
  induction text generalizing column k with
  | nil => simp at bound
  | cons c rest ih =>
    obtain ⟨first, others⟩ := List.forall_mem_cons.mp printable
    have opened : ofText column row (c :: rest) =
        { column, row, glyph := c } :: ofText (column + 1) row rest := by
      rw [ofText, Text.charWidth_of_printable first]
      rfl
    rw [opened]
    cases k with
    | zero =>
      refine ⟨[], ofText (column + 1) row rest, by simp, fun m mem => ?_⟩
      obtain ⟨right, -⟩ := mem_ofText mem
      simp only [Int.natCast_zero]
      omega
    | succ k =>
      obtain ⟨before, after, split, right⟩ := ih (column + 1) others
        (by simpa using bound)
      refine ⟨{ column, row, glyph := c } :: before, after, ?_, fun m mem => ?_⟩
      · rw [split]
        simp [Int.add_assoc, Int.add_comm 1]
      · have beyond := right m mem
        push_cast
        omega

end Mark

end TransitionDiagram
