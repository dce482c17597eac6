/-
TransitionDiagram.Proofs.Measured: labels in the columns that they are measured with.

A label is measured as a whole and written character by character. A text may have fewer columns
than its characters have together, where neighbours fuse into one sign, and then a label that is
written around a cell has characters beside the columns that were set aside for it. It stays within
them exactly if its characters, each on its own, have no more columns than the label.

A text has fewer columns only by a few characters: joiners, skin tones and others at which `fuses`
looks. Without them reading on to the left adds at least the columns of each character, by cases on
what is known of the text ahead.

  §1 ranges
  §2 widths of characters
  §3 characters that fuse with others
  §4 widths of texts
  §5 labels
-/
import TransitionDiagram.Proofs.Footprint

namespace TransitionDiagram

namespace Text

open WidthTable (covers)

/-! ## §1 Ranges -/

namespace WidthTable

/-- Whether one range of a table has all of the given one. -/
def spans : List (Nat × Nat) → Nat → Nat → Bool
  | [], _, _ => false
  | (first, last) :: rest, low, high => first ≤ low && (high ≤ last || spans rest low high)

/-- Whether no range of a table meets the given one. -/
def misses : List (Nat × Nat) → Nat → Nat → Bool
  | [], _, _ => true
  | (first, last) :: rest, low, high => high < first || (last < low && misses rest low high)

variable {table : List (Nat × Nat)} {low high n : Nat}

theorem covers_of_spans (spanned : spans table low high = true) (above : low ≤ n)
    (below : n ≤ high) : covers table n = true := by
  induction table with
  | nil => contradiction
  | cons range rest ih =>
    obtain ⟨first, last⟩ := range
    simp only [spans, Bool.and_eq_true, Bool.or_eq_true, decide_eq_true_eq] at spanned
    obtain ⟨from_first, to_last | later⟩ := spanned
    · simp [covers, show ¬ n < first by omega, show n ≤ last by omega]
    · simp [covers, show ¬ n < first by omega, ih later]

theorem not_covers_of_misses (missed : misses table low high = true) (above : low ≤ n)
    (below : n ≤ high) : covers table n = false := by
  induction table with
  | nil => rfl
  | cons range rest ih =>
    obtain ⟨first, last⟩ := range
    simp only [misses, Bool.and_eq_true, Bool.or_eq_true, decide_eq_true_eq] at missed
    rcases missed with before | ⟨after, later⟩
    · simp [covers, show n < first by omega]
    · simp [covers, show ¬ n ≤ last by omega, ih later]

end WidthTable

open WidthTable (covers_of_spans not_covers_of_misses)

/-! ## §2 Widths of characters -/

variable {c : Char}

/-- A character of the table beyond the control characters has no column. -/
theorem charWidth_eq_zero (beyond : 0xA0 ≤ c.toNat)
    (listed : covers WidthTable.zeroWidth c.toNat = true) : charWidth c = 0 := by
  simp only [charWidth, listed]
  split_ifs <;> first | rfl | omega

/-- A character has two columns at most, unless it is a Khmer sign of three. -/
theorem charWidth_le_two (other : c.toNat ≠ 0x17D8) : charWidth c ≤ 2 := by
  simp only [charWidth]
  split_ifs <;> omega

theorem charWidth_le_one (other : c.toNat ≠ 0x17D8)
    (narrow : covers WidthTable.doubleWidth c.toNat = false) : charWidth c ≤ 1 := by
  simp only [charWidth, narrow]
  split_ifs <;> first | omega | contradiction

theorem charWidth_of_low (low : c.toNat ≤ 0xA0) : charWidth c ≤ 1 := by
  have missed : WidthTable.misses WidthTable.doubleWidth 0 0xA0 = true := by decide +kernel
  exact charWidth_le_one (by omega) (not_covers_of_misses missed (Nat.zero_le _) low)

theorem charWidth_of_flagLetter (flag : isFlagLetter c.toNat = true) : charWidth c ≤ 1 := by
  have missed : WidthTable.misses WidthTable.doubleWidth 0x1F1E6 0x1F1FF = true := by
    decide +kernel
  simp only [isFlagLetter, Bool.and_eq_true, decide_eq_true_eq] at flag
  exact charWidth_le_one (by omega) (not_covers_of_misses missed flag.1 flag.2)

theorem charWidth_of_variationBase (base : covers WidthTable.variationBase c.toNat = true) :
    charWidth c ≤ 2 := by
  refine charWidth_le_two fun khmer => ?_
  rw [khmer] at base
  exact absurd base (by decide +kernel)

theorem charWidth_of_invisibleMark (invisible : isInvisibleMark c.toNat = true) :
    charWidth c = 0 := by
  simp only [isInvisibleMark, Bool.or_eq_true, Bool.and_eq_true, decide_eq_true_eq, beq_iff_eq]
    at invisible
  have ranges : ∀ range ∈ [(0x34F, 0x34F), (0x17B4, 0x17B5), (0x180B, 0x180F), (0xFE00, 0xFE0F),
      (0xE0100, 0xE01EF)], WidthTable.spans WidthTable.zeroWidth range.1 range.2 = true := by
    decide +kernel
  obtain ⟨range, listed, low, high⟩ : ∃ range ∈ [(0x34F, 0x34F), (0x17B4, 0x17B5),
      (0x180B, 0x180F), (0xFE00, 0xFE0F), (0xE0100, 0xE01EF)],
      range.1 ≤ c.toNat ∧ c.toNat ≤ range.2 := by
    simp only [List.mem_cons, List.not_mem_nil, or_false, exists_eq_or_imp, exists_eq_left]
    omega
  exact charWidth_eq_zero (by omega) (covers_of_spans (ranges range listed) low high)

/-! ## §3 Characters that fuse with others -/

/-- Whether a text with the character may have fewer columns than its characters: a joiner, a
selector that asks for text, a skin tone, an alef, or a part of a ligature of another script. -/
def fuses (c : Char) : Bool :=
  let n := c.toNat
  n == 0x200D || n == 0xFE0E || isSkinTone n || covers WidthTable.arabicAlef n || n == 0x17D2 ||
    n == 0x2D7F || n == 0xA4FC || n == 0xA4FD

/-- What a text can begin with if none of its characters fuses with others. -/
def Opening.isLoose : Opening → Bool
  | plain | lineFeed | emoji | flagLetter | flagLetters | lamed false | khmerLetter | ya false
  | tifinagh false | orkhonI false => true
  | _ => false

/-- What is known of a text ahead if none of its characters fuses with others. -/
structure Ahead.Loose (ahead : Ahead) : Prop where
  opening : ahead.opening.isLoose = true
  selector : ahead.selector ≠ .text

/-- A step to the left adds at least the columns of the character. -/
structure Widens (c : Char) (step : Int × Ahead) : Prop where
  columns : (charWidth c : Int) ≤ step.1
  loose : step.2.Loose

/-- The characters at which `fuses` looks, one by one. -/
theorem fuses_eq_false_iff :
    fuses c = false ↔ c.toNat ≠ 0x200D ∧ c.toNat ≠ 0xFE0E ∧ isSkinTone c.toNat = false ∧
      covers WidthTable.arabicAlef c.toNat = false ∧ c.toNat ≠ 0x17D2 ∧ c.toNat ≠ 0x2D7F ∧
      c.toNat ≠ 0xA4FC ∧ c.toNat ≠ 0xA4FD := by
  simp [fuses, and_assoc]

theorem isLoose_openingOf (single : fuses c = false) : (openingOf c.toNat).isLoose = true := by
  obtain ⟨-, -, tone, alef, -, -, lisu, lisu'⟩ := fuses_eq_false_iff.mp single
  simp only [openingOf, tone, alef, lisu, lisu']
  split_ifs <;> first | rfl | contradiction

theorem widens_aloneInText (single : fuses c = false) : Widens c (aloneInText c) := by
  obtain ⟨-, no_text, -⟩ := fuses_eq_false_iff.mp single
  simp only [aloneInText, if_neg no_text]
  split_ifs with emoji feed low
  · have none : charWidth c = 0 := charWidth_of_invisibleMark (by rw [emoji]; rfl)
    exact ⟨by simp [none], rfl, by simp⟩
  · have none : charWidth c = 0 := by simp [charWidth, feed]
    exact ⟨by simp [none], rfl, by simp⟩
  · have one := charWidth_of_low low
    exact ⟨by simp only; omega, rfl, by simp⟩
  · exact ⟨Int.le_refl _, isLoose_openingOf single, by simp⟩

/-- Where a character fuses with what is ahead, it adds its own column: it is a letter of a flag. -/
theorem widens_of_fuse {opening : Opening} {step : Int × Ahead} (single : fuses c = false)
    (loose : opening.isLoose = true) (fused : fuse c.toNat opening = some step) :
    Widens c step := by
  obtain ⟨no_joiner, -, -, -, no_coeng, no_consonant_joiner, -⟩ := fuses_eq_false_iff.mp single
  have letter (flag : isFlagLetter c.toNat = true) :
      Widens c (1, { opening := .flagLetters }) :=
    ⟨by have one := charWidth_of_flagLetter flag; simp only; omega, rfl, by simp⟩
  cases opening with
  | flagLetter =>
    simp only [fuse] at fused
    split_ifs at fused with flag
    cases fused
    exact letter flag
  | flagLetters =>
    simp only [fuse, if_neg no_joiner] at fused
    split_ifs at fused with flag
    cases fused
    exact letter flag
  | lamed joined => cases joined <;> simp [fuse, Opening.isLoose] at loose fused
  | ya joined => cases joined <;> simp [fuse, Opening.isLoose] at loose fused
  | tifinagh joined =>
    cases joined <;> simp [fuse, Opening.isLoose, no_consonant_joiner] at loose fused
  | orkhonI joined => cases joined <;> simp [fuse, Opening.isLoose] at loose fused
  | _ => simp [fuse, Opening.isLoose, no_joiner, no_coeng] at loose fused

/-- The openings that are put aside before an emoji selector are loose as well. -/
theorem widens_beforeOpening {opening : Opening} (single : fuses c = false)
    (loose : opening.isLoose = true) : Widens c (beforeOpening c opening) := by
  obtain ⟨no_joiner, no_text, -⟩ := fuses_eq_false_iff.mp single
  simp only [beforeOpening, if_neg no_text]
  split_ifs with emoji kept joins passes
  · have none : charWidth c = 0 := charWidth_of_invisibleMark (by rw [emoji]; rfl)
    exact ⟨by simp [none], loose, by simp⟩
  · have none : charWidth c = 0 := charWidth_of_invisibleMark (by rw [emoji]; rfl)
    exact ⟨by simp [none], rfl, by simp⟩
  · simp [no_joiner] at joins
  · rw [Bool.and_eq_true] at passes
    exact ⟨by simp [charWidth_of_invisibleMark passes.2], loose, by simp⟩
  · cases fused : fuse c.toNat opening with
    | none => exact widens_aloneInText single
    | some step => exact widens_of_fuse single loose fused

theorem widens_extendLeft {ahead : Ahead} (single : fuses c = false) (loose : ahead.Loose) :
    Widens c (extendLeft c ahead) := by
  obtain ⟨opening, no_text⟩ := loose
  have no_joiner : ahead.opening.isJoiner = false := by
    cases start : ahead.opening <;> simp_all [Opening.isLoose, Opening.isJoiner]
  simp only [extendLeft, no_joiner, no_text, Bool.false_eq_true, and_false, false_and, if_false]
  split_ifs with base low feed
  · have two := charWidth_of_variationBase base.2
    exact ⟨by simp only; omega, rfl, by simp⟩
  · have none : charWidth c = 0 := by simp [charWidth, feed.1]
    exact ⟨by simp [none], rfl, by simp⟩
  · exact widens_aloneInText single
  · exact widens_beforeOpening single opening

/-! ## §4 Widths of texts -/

theorem widthAhead_cons (c : Char) (rest : List Char) :
    widthAhead (c :: rest) = ((widthAhead rest).1 + (extendLeft c (widthAhead rest).2).1,
      (extendLeft c (widthAhead rest).2).2) := rfl

/-- A text without characters that fuse with others has at least the columns of its characters. -/
theorem advance_le_widthAhead {text : List Char} (single : ∀ c ∈ text, fuses c = false) :
    (advance text : Int) ≤ (widthAhead text).1 ∧ (widthAhead text).2.Loose := by
  induction text with
  | nil => exact ⟨Int.le_refl _, rfl, by simp [widthAhead]⟩
  | cons c rest ih =>
    obtain ⟨first, others⟩ := List.forall_mem_cons.mp single
    obtain ⟨columns, loose⟩ := ih others
    have step := widens_extendLeft first loose
    rw [widthAhead_cons]
    refine ⟨?_, step.loose⟩
    have more := step.columns
    simp only [advance_cons]
    omega

theorem advance_le_width {text : String} (single : ∀ c ∈ text.toList, fuses c = false) :
    advance text.toList ≤ width text := by
  have columns := (advance_le_widthAhead single).1
  rw [width]
  omega

end Text

/-! ## §5 Labels -/

open Text (advance)

/-- The first of the columns that are set aside for a label around a cell. -/
def Mark.labelStart (center : Int) (label : String) : Int :=
  center - (Text.width label / 2 : Nat)

namespace Canvas

/-- A label that is written around a cell stays within the columns that it is measured with exactly
if its characters, each on its own, have no more columns. Then no other cell of any canvas changes.
It does if no character of it fuses with others. -/
theorem label_within_iff (center row : Int) (label : String) :
    ((∀ m ∈ Mark.ofCenteredText center row label,
        Mark.labelStart center label ≤ m.column ∧
          m.column < Mark.labelStart center label + Text.width label) ↔
      advance label.toList ≤ Text.width label) ∧
    (advance label.toList ≤ Text.width label → ∀ canvas : Canvas, canvas.Shaped →
      ∀ column row' : Nat, canvas.inside column row' = true →
      ¬ (row = row' ∧ Mark.labelStart center label ≤ column ∧
        column < Mark.labelStart center label + Text.width label) →
      (canvas.drawTextCentered center row label).get column row' = canvas.get column row') ∧
    ((∀ c ∈ label.toList, Text.fuses c = false) → advance label.toList ≤ Text.width label) := by
  refine ⟨⟨fun within => ?_, fun fits m mem => ?_⟩, ?_, Text.advance_le_width⟩
  · by_contra wider
    -- the last column of the characters is beyond the last column of the label
    obtain ⟨before, c, after, k, split, inside, place⟩ :=
      Text.exists_of_lt_advance (show advance label.toList - 1 < advance label.toList by omega)
    have written := (within _ (Mark.mem_ofText_iff.mpr ⟨before, c, after, k, split, inside, rfl⟩)).2
    simp only [Mark.labelStart] at written
    omega
  · obtain ⟨-, first, last⟩ := Mark.le_of_mem_ofText mem
    simp only [Mark.labelStart]
    omega
  · intro fits canvas shaped column row' inside beside
    refine shaped.get_drawText_of_beside inside fun within => beside ⟨within.1, within.2.1, ?_⟩
    simp only [Mark.labelStart]
    omega

/-- Two wide characters around a cell change no cell beside their four columns. -/
theorem label_within_iff_two_wide :
    ((blank 6 1).drawTextCentered 3 0 "日本").get 0 0 = (blank 6 1).get 0 0 ∧
      ((blank 6 1).drawTextCentered 3 0 "日本").get 5 0 = (blank 6 1).get 5 0 := by
  obtain ⟨-, beside, single⟩ := label_within_iff 3 0 "日本"
  have loose : "日本".toList.all (fun c => !Text.fuses c) = true := by decide +kernel
  have fits := single (by simpa using loose)
  have shaped := shaped_blank 6 1
  exact ⟨beside fits _ shaped 0 0 (by decide) (by decide +kernel),
    beside fits _ shaped 5 0 (by decide) (by decide +kernel)⟩

/-- Two persons that are joined have two columns as a label and four as characters. To the left of
a canvas, the second one is written on it. -/
theorem label_not_within_joined_persons :
    Text.width "👨\u200D👩" = 2 ∧ Mark.labelStart (-1) "👨\u200D👩" = -2 ∧
      { column := 0, row := 0, glyph := '👩' } ∈ Mark.ofCenteredText (-1) 0 "👨\u200D👩" ∧
      ((blank 3 1).drawTextCentered (-1) 0 "👨\u200D👩").get 0 0 = '👩' := by
  decide +kernel

end Canvas

end TransitionDiagram
