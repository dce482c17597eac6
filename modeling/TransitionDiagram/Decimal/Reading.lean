/-
TransitionDiagram.Decimal.Reading: numbers read from their decimal texts.

A floating-point text is an optional sign, then one of the words `inf`, `infinity` and `nan` in any
case, or digits with at most one point among or around them and an optional exponent. At least one
digit stands beside the point. A natural-number text is an optional plus sign and digits. Blanks
and separators are never allowed.

A decimal is read as the double nearest to it. Decimals far beyond the doubles are decided by
their size, so that no huge power of ten is ever formed.

  §1 digits
  §2 decimals and their values
  §3 texts of floating-point numbers
  §4 texts of natural numbers
-/

namespace TransitionDiagram.Decimal

/-! ## §1 Digits -/

/-- The number that some digits stand for. -/
def digitsValue (digits : List Char) : Nat :=
  digits.foldl (fun n d => 10 * n + (d.toNat - '0'.toNat)) 0

/-- A sign in front of a text, minus being true, and the rest of the text. -/
def takeSign : List Char → Bool × List Char
  | '-' :: rest => (true, rest)
  | '+' :: rest => (false, rest)
  | text => (false, text)

/-! ## §2 Decimals -/

/-- The value mantissa · 10^exponent with a sign. -/
structure Scientific where
  negative : Bool
  mantissa : Nat
  exponent : Int
  deriving DecidableEq, Repr

/-- The double nearest to a decimal. From 10^310 on that is infinity, and below 10^-330 zero. -/
def Scientific.toFloat (d : Scientific) : Float :=
  let magnitude := (Nat.toDigits 10 d.mantissa).length + d.exponent
  let size : Float :=
    if d.mantissa = 0 ∨ magnitude < -330 then 0.0
    else if 310 < magnitude then 1.0 / 0.0
    else if 0 ≤ d.exponent then
      Float.ofScientific (d.mantissa * Nat.pow 10 d.exponent.toNat) false 0
    else Float.ofScientific d.mantissa true (-d.exponent).toNat
  if d.negative then -size else size

/-! ## §3 Floating-point texts -/

/-- The exponent that ends a decimal, zero if nothing is left. -/
def exponentOf? : List Char → Option Int
  | [] => some 0
  | mark :: text =>
    if mark = 'e' ∨ mark = 'E' then
      let (negative, digits) := takeSign text
      if digits.isEmpty || !digits.all Char.isDigit then none
      else if negative then some (-digitsValue digits) else some (digitsValue digits)
    else none

/-- The decimal in a text without a sign. -/
def unsigned? (negative : Bool) (text : List Char) : Option Scientific :=
  let whole := text.takeWhile Char.isDigit
  let rest := text.dropWhile Char.isDigit
  let afterPoint : Option (List Char) :=
    match rest with
    | '.' :: after => some after
    | _ => none
  let fraction := (afterPoint.getD []).takeWhile Char.isDigit
  let ending := (afterPoint.map (·.dropWhile Char.isDigit)).getD rest
  if whole.isEmpty && fraction.isEmpty then none
  else
    (exponentOf? ending).map fun exponent =>
      { negative
        mantissa := digitsValue (whole ++ fraction)
        exponent := exponent - fraction.length }

/-- The floating-point number in a text. -/
def float? (text : String) : Option Float :=
  let (negative, rest) := takeSign text.toList
  let word := String.ofList (rest.map Char.toLower)
  if word = "inf" ∨ word = "infinity" then some (if negative then -(1.0 / 0.0) else 1.0 / 0.0)
  else if word = "nan" then some (0.0 / 0.0)
  else (unsigned? negative rest).map Scientific.toFloat

/-! ## §4 Natural-number texts -/

/-- The natural number in a text, if it is below the bound. -/
def natBelow? (bound : Nat) (text : String) : Option Nat :=
  let digits :=
    match text.toList with
    | '+' :: rest => rest
    | all => all
  if digits.isEmpty || !digits.all Char.isDigit then none
  else
    let n := digitsValue digits
    if n < bound then some n else none

end TransitionDiagram.Decimal
