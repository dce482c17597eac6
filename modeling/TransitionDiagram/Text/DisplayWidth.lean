/-
TransitionDiagram.Text.DisplayWidth: how many columns of a terminal a text takes.

`charWidth` is the width of a character on its own: none for control characters and for marks
that sit on another character, two for East Asian wide characters and emoji, one for all others.

`width` is the width of a whole text. It differs from the sum of the character widths where
neighbours fuse into one sign: emoji joined by U+200D, an emoji with a skin tone, a character that
a variation selector turns into an emoji or back into text, lam before alef, and the ligatures of
a few scripts. The text is read from its end to its beginning, and `Ahead` is what has to be known
of the part already read: how its first characters can still fuse with the one before them.
Control characters, which have no width on their own, count one column in a text, except a line
feed and the carriage return before it.

  §1 the width of one character
  §2 what the text ahead can fuse with
  §3 one step to the left, and the width of a text
-/
import TransitionDiagram.Text.WidthTable

namespace TransitionDiagram.Text

open WidthTable (covers)

/-! ## §1 The width of one character -/

/-- Columns of a character on its own. Control characters have none. -/
def charWidth (c : Char) : Nat :=
  let n := c.toNat
  if n < 0x20 then 0
  else if n < 0x7F then 1
  else if n < 0xA0 then 0
  else if covers WidthTable.zeroWidth n then 0
  else if n = 0x17D8 then 3
  else if covers WidthTable.doubleWidth n then 2
  else 1

/-! ## §2 What the text ahead can fuse with -/

/-- How the text ahead begins, as far as the character before it can fuse with it. -/
inductive Opening where
  /-- Nothing that fuses. -/
  | plain
  /-- A line feed. -/
  | lineFeed
  /-- An emoji. -/
  | emoji
  /-- A skin tone. -/
  | skinTone
  /-- One letter of a flag, with nothing joined to it yet. -/
  | flagLetter
  /-- Several letters of flags. -/
  | flagLetters
  /-- A joiner before an emoji. -/
  | joiner
  /-- A keycap, a joiner and an emoji. -/
  | keycapJoiner
  /-- The tags at the end of a tag sequence, first digits and then letters, then a joiner and an
  emoji. -/
  | tagsJoiner (digits letters : Nat)
  /-- One letter of a flag, a joiner and an emoji. -/
  | flagLetterJoiner
  /-- Letters of flags in even number, a joiner and an emoji. -/
  | evenFlagJoiner
  /-- Letters of flags in odd number, a joiner and an emoji. -/
  | oddFlagJoiner
  /-- An Arabic alef, perhaps under marks. -/
  | alef
  /-- A Hebrew lamed; `joined` after a joiner. -/
  | lamed (joined : Bool)
  /-- A Khmer letter that can stand below another. -/
  | khmerLetter
  /-- The Buginese letter ya; `joined` after a joiner. -/
  | ya (joined : Bool)
  /-- The Buginese vowel sign i, a joiner and the letter ya. -/
  | vowelYa
  /-- A Tifinagh consonant; `joined` after a joiner. -/
  | tifinagh (joined : Bool)
  /-- The Tifinagh consonant joiner and a consonant. -/
  | tifinaghJoiner
  /-- The second part of a Lisu tone mark. -/
  | lisuTone
  /-- The Old Turkic letter i; `joined` after a joiner. -/
  | orkhonI (joined : Bool)
  deriving DecidableEq, Repr

/-- A variation selector that stands right before the opening. -/
inductive Selector where
  | none
  /-- U+FE0E asks for text. -/
  | text
  /-- U+FE0F asks for an emoji. -/
  | emoji
  deriving DecidableEq, Repr

/-- What is known of the text ahead. -/
structure Ahead where
  opening : Opening := .plain
  selector : Selector := .none
  deriving DecidableEq, Repr

namespace Opening

/-- The ligatures that a variation selector does not interrupt. -/
def isLigature : Opening → Bool
  | alef | lamed _ | khmerLetter | ya _ | vowelYa | tifinagh _ | tifinaghJoiner | lisuTone
  | orkhonI _ => true
  | _ => false

/-- The ligatures that neither a joiner nor an invisible mark interrupts. -/
def isTransparent : Opening → Bool
  | alef => false
  | opening => opening.isLigature

/-- The opening after a joiner was put before it. -/
def join : Opening → Opening
  | lamed _ => lamed true
  | ya _ => ya true
  | tifinagh _ => tifinagh true
  | orkhonI _ => orkhonI true
  | opening => opening

/-- The openings at which a joiner and an emoji begin. -/
def isJoiner : Opening → Bool
  | joiner | keycapJoiner => true
  | _ => false

end Opening

/-- Marks that are invisible and combine with the character before them. -/
def isInvisibleMark (n : Nat) : Bool :=
  n == 0x34F || (0x17B4 ≤ n && n ≤ 0x17B5) || (0x180B ≤ n && n ≤ 0x180D) || n == 0x180F ||
    (0xFE00 ≤ n && n ≤ 0xFE0F) || (0xE0100 ≤ n && n ≤ 0xE01EF)

/-- The Khmer letters that a coeng sign puts below the letter before. -/
def isKhmerLetter (n : Nat) : Bool :=
  covers [(0x1780, 0x1782), (0x1784, 0x1787), (0x1789, 0x178C), (0x178E, 0x1793), (0x1795, 0x1798),
    (0x179B, 0x179D), (0x17A0, 0x17A0), (0x17A2, 0x17A2), (0x17A7, 0x17A7), (0x17AB, 0x17AC),
    (0x17AF, 0x17AF)] n

/-- The Tifinagh consonants that form pairs. -/
def isTifinagh (n : Nat) : Bool :=
  (0x2D31 ≤ n && n ≤ 0x2D65) || n == 0x2D6F

/-- The Arabic letters of the shape lam. -/
def isLam (n : Nat) : Bool :=
  n == 0x644 || (0x6B5 ≤ n && n ≤ 0x6B8) || n == 0x76A || n == 0x8A6 || n == 0x8C7

/-- The letters of flags. -/
def isFlagLetter (n : Nat) : Bool :=
  0x1F1E6 ≤ n && n ≤ 0x1F1FF

/-- The five skin tones. -/
def isSkinTone (n : Nat) : Bool :=
  0x1F3FB ≤ n && n ≤ 0x1F3FF

/-- The tags for letters. -/
def isTagLetter (n : Nat) : Bool :=
  0xE0061 ≤ n && n ≤ 0xE007A

/-- The tags for digits. -/
def isTagDigit (n : Nat) : Bool :=
  0xE0030 ≤ n && n ≤ 0xE0039

/-- Whether a black flag before so many tags is the flag of a region: the region has a code of
three digits, with at most four letters for a part of it, or a code of two letters, with one letter
to four for a part of it. -/
def namesRegion (digits letters : Nat) : Bool :=
  if digits = 0 then 3 ≤ letters && letters ≤ 6 else digits == 3 && letters ≤ 4

/-- How a text begins whose first character is `n` and fuses with nothing after it. -/
def openingOf (n : Nat) : Opening :=
  if n ≤ 0xA0 then .plain
  else if isFlagLetter n then .flagLetter
  else if isSkinTone n then .skinTone
  else if covers WidthTable.emojiPresentation n then .emoji
  else if covers WidthTable.arabicAlef n then .alef
  else if n = 0x5DC then .lamed false
  else if isKhmerLetter n then .khmerLetter
  else if n = 0x1A10 then .ya false
  else if isTifinagh n then .tifinagh false
  else if n = 0xA4FC || n = 0xA4FD then .lisuTone
  else if n = 0x10C03 then .orkhonI false
  else .plain

/-! ## §3 One step to the left -/

/-- The columns of a character that fuses with nothing, and how the text from it on begins. -/
def aloneInText (c : Char) : Int × Ahead :=
  let n := c.toNat
  if n = 0xFE0F then (0, { selector := .emoji })
  else if n = 0xFE0E then (0, { selector := .text })
  else if n = 0xA then (0, { opening := .lineFeed })
  else if n ≤ 0xA0 then (1, {})
  else (charWidth c, { opening := openingOf n })

/-- The columns that a character adds where it fuses with the opening ahead. -/
def fuse (n : Nat) : Opening → Option (Int × Ahead)
  | .alef =>
    if isLam n then some (0, {})
    else if covers WidthTable.joinTransparent n then some (0, { opening := .alef })
    else none
  | .lamed true => if n = 0x5D0 then some (0, {}) else none
  | .khmerLetter => if n = 0x17D2 then some (-1, {}) else none
  | .ya true => if n = 0x1A17 then some (0, { opening := .vowelYa }) else none
  | .vowelYa => if n = 0x1A15 then some (0, {}) else none
  | .tifinagh joined =>
    if n = 0x2D7F then some (1, { opening := .tifinaghJoiner })
    else if joined && isTifinagh n then some (0, {})
    else none
  | .tifinaghJoiner => if isTifinagh n then some (-1, {}) else none
  | .lisuTone => if 0xA4F8 ≤ n ∧ n ≤ 0xA4FB then some (0, {}) else none
  | .orkhonI true => if n = 0x10C32 then some (0, {}) else none
  | .skinTone =>
    if covers WidthTable.modifierBase n then some (0, { opening := .emoji })
    else if n = 0x200D then some (0, { opening := .joiner })
    else none
  | .flagLetter => if isFlagLetter n then some (1, { opening := .flagLetters }) else none
  | .flagLetters =>
    if isFlagLetter n then some (1, { opening := .flagLetters })
    else if n = 0x200D then some (0, { opening := .joiner })
    else none
  | .emoji => if n = 0x200D then some (0, { opening := .joiner }) else none
  | .joiner =>
    if n = 0x20E3 then some (0, { opening := .keycapJoiner })
    else if isFlagLetter n then some (1, { opening := .flagLetterJoiner })
    else if isSkinTone n then some (0, { opening := .skinTone })
    else if n = 0xE007F then some (0, { opening := .tagsJoiner 0 0 })
    else if covers WidthTable.emojiPresentation n then some (0, { opening := .emoji })
    else none
  | .tagsJoiner digits letters =>
    if isTagLetter n ∧ digits = 0 ∧ letters < 6 then
      some (0, { opening := .tagsJoiner 0 (letters + 1) })
    else if isTagDigit n ∧ digits < 3 ∧ letters ≤ 4 then
      some (0, { opening := .tagsJoiner (digits + 1) letters })
    else if n = 0x1F3F4 ∧ namesRegion digits letters then some (0, { opening := .emoji })
    else none
  | .flagLetterJoiner => if isFlagLetter n then some (-1, { opening := .evenFlagJoiner }) else none
  | .oddFlagJoiner =>
    if isFlagLetter n then some (-1, { opening := .evenFlagJoiner })
    else if n = 0x200D then some (0, { opening := .joiner })
    else none
  | .evenFlagJoiner =>
    if isFlagLetter n then some (3, { opening := .oddFlagJoiner })
    else if n = 0x200D then some (0, { opening := .joiner })
    else none
  | _ => none

/-- The columns that a character beyond U+00A0 adds before the opening ahead. -/
def beforeOpening (c : Char) (opening : Opening) : Int × Ahead :=
  let n := c.toNat
  if n = 0xFE0F then
    (0, { opening := if opening.isLigature || opening.isJoiner then opening else .plain
          selector := .emoji })
  else if n = 0xFE0E then
    (0, { opening := if opening.isLigature then opening else .plain, selector := .text })
  else if opening.isTransparent && n == 0x200D then (0, { opening := opening.join })
  else if opening.isTransparent && isInvisibleMark n then (0, { opening := opening })
  else (fuse n opening).getD (aloneInText c)

/-- The columns that a character adds to the text ahead of it, and how the longer text begins. -/
def extendLeft (c : Char) (ahead : Ahead) : Int × Ahead :=
  let n := c.toNat
  if ahead.selector = .emoji ∧ covers WidthTable.variationBase n then
    (if ahead.opening.isJoiner then 0 else 2, { opening := .emoji })
  else if ahead.selector = .text ∧ covers WidthTable.textVariationBase n then (1, {})
  else
    let opening :=
      if ahead.selector = .emoji ∧ ahead.opening.isJoiner then .plain else ahead.opening
    if n ≤ 0xA0 then
      if n = 0xD ∧ opening = .lineFeed then (0, {}) else aloneInText c
    else beforeOpening c opening

/-- The columns of a text together with how it begins. -/
def widthAhead (s : List Char) : Int × Ahead :=
  s.foldr (fun c (columns, ahead) =>
    let (more, before) := extendLeft c ahead
    (columns + more, before)) (0, {})

/-- The columns that a text takes. -/
def width (s : String) : Nat :=
  (widthAhead s.toList).1.toNat

end TransitionDiagram.Text
