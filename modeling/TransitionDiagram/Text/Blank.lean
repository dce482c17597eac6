/-
TransitionDiagram.Text.Blank: blank characters, and text without the blanks around it.

A character is blank when Unicode gives it the property White_Space. The property holds 25
characters; it is wider than the ASCII blanks and narrower than "takes no ink": the zero-width
space U+200B and the byte-order mark U+FEFF are not blank.

  §1 `isBlank`, by cases on the code point.
  §2 `trimEnd` and `trim` on lists of characters, and `trim` on strings.
-/

namespace TransitionDiagram.Text

/-! ## §1 Blank characters -/

/-- The characters with the Unicode property White_Space. -/
def isBlank (c : Char) : Bool :=
  let n := c.toNat
  (0x9 ≤ n && n ≤ 0xD) || n == 0x20 || n == 0x85 || n == 0xA0 || n == 0x1680 ||
    (0x2000 ≤ n && n ≤ 0x200A) || n == 0x2028 || n == 0x2029 || n == 0x202F ||
    n == 0x205F || n == 0x3000

/-! ## §2 Trimming -/

/-- The characters up to the last one that is not blank. -/
def trimEnd (s : List Char) : List Char :=
  (s.reverse.dropWhile isBlank).reverse

/-- The characters from the first to the last one that is not blank. -/
def trim (s : List Char) : List Char :=
  trimEnd (s.dropWhile isBlank)

end TransitionDiagram.Text
