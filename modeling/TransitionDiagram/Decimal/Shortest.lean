/-
TransitionDiagram.Decimal.Shortest: the shortest decimal text of a floating-point number.

A finite double is m · 2^q. The reals that round to it form an interval, which reaches half way to
the two neighbouring doubles and contains its ends if m is even. The text has the fewest digits of
which a decimal lies in that interval; of two such decimals it is the nearer one, and the larger
one if both are equally near. All of this is exact arithmetic on natural numbers.

How the digits are written is a matter of the format: `plain` never uses an exponent, `marked`
shows by a point or an exponent that the number is not an integer.

  §1 doubles as m · 2^q
  §2 the fewest digits
  §3 formats
-/

namespace TransitionDiagram.Decimal

/-! ## §1 Doubles -/

/-- The value mantissa · 2^exponent, without a sign. -/
structure Binary where
  mantissa : Nat
  exponent : Int
  deriving DecidableEq, Repr

/-- What the 64 bits of a double stand for. -/
inductive Double where
  | notANumber
  | infinite (negative : Bool)
  | finite (negative : Bool) (value : Binary)
  deriving DecidableEq, Repr

/-- Reads the sign, the exponent and the fraction of a double. -/
def Double.ofBits (bits : Nat) : Double :=
  let negative := bits / Nat.pow 2 63 % 2 == 1
  let exponent : Nat := bits / Nat.pow 2 52 % Nat.pow 2 11
  let fraction : Nat := bits % Nat.pow 2 52
  if exponent = 2047 then
    if fraction = 0 then .infinite negative else .notANumber
  else if exponent = 0 then
    .finite negative { mantissa := fraction, exponent := -1074 }
  else
    .finite negative { mantissa := fraction + Nat.pow 2 52, exponent := exponent - 1075 }

/-- What a double stands for. -/
def Double.ofFloat (x : Float) : Double :=
  .ofBits x.toBits.toNat

/-! ## §2 The fewest digits -/

/-- The value digits · 10^exponent, without a sign. -/
structure Digits where
  digits : Nat
  exponent : Int
  deriving DecidableEq, Repr

namespace Binary

/-- A quarter of 2^exponent: the unit in which the value and the ends of its interval are whole. -/
def quarter (b : Binary) : Int := b.exponent - 2

/-- The lower end of the interval, in quarters. Below a power of two the doubles are twice as
close, unless that power is the least one with a full mantissa. -/
def lower (b : Binary) : Nat :=
  4 * b.mantissa - if b.mantissa = Nat.pow 2 52 ∧ b.exponent ≠ -1074 then 1 else 2

/-- The upper end of the interval, in quarters. -/
def upper (b : Binary) : Nat :=
  4 * b.mantissa + 2

/-- A number of quarters and a decimal with the given exponent, brought to one unit: the factors of
the first and of the second. -/
def scales (b : Binary) (exponent : Int) : Nat × Nat :=
  (Nat.pow 2 b.quarter.toNat * Nat.pow 10 (-exponent).toNat,
    Nat.pow 10 exponent.toNat * Nat.pow 2 (-b.quarter).toNat)

/-- Whether a decimal lies in the interval of the reals that round to the value. -/
def reads (b : Binary) (d : Digits) : Bool :=
  let (forQuarters, forDigits) := b.scales d.exponent
  let x := d.digits * forDigits
  if b.mantissa % 2 = 0 then b.lower * forQuarters ≤ x && x ≤ b.upper * forQuarters
  else b.lower * forQuarters < x && x < b.upper * forQuarters

/-- The largest exponent of a power of ten that is not above the value, which is not zero. -/
def magnitude (b : Binary) : Int :=
  let (above, below) := b.scales 0
  let value := 4 * b.mantissa * above
  if below ≤ value then ((Nat.toDigits 10 (value / below)).length : Int) - 1
  else
    let length := (Nat.toDigits 10 (below / value)).length
    if below ≤ value * Nat.pow 10 (length - 1) then 1 - (length : Int) else -(length : Int)

/-- The neighbour of the value on the decimals with `count` digits that reads back as the value;
the nearer one if both do, the upper one if they are equally near. -/
def onGrid? (b : Binary) (count : Nat) : Option Digits :=
  let exponent := b.magnitude - count + 1
  let (forQuarters, forDigits) := b.scales exponent
  let value := 4 * b.mantissa * forQuarters
  let below : Digits := { digits := value / forDigits, exponent }
  let above : Digits := { digits := value / forDigits + 1, exponent }
  let upperIsNearer := forDigits ≤ 2 * (value % forDigits)
  match b.reads below, b.reads above with
  | true, true => some (if upperIsNearer then above else below)
  | true, false => some below
  | false, true => some above
  | false, false => none

/-- The decimal with the fewest digits that reads back as the value. Seventeen digits suffice for
every double. -/
def shortest (b : Binary) : Digits :=
  ((List.range 17).findSome? fun count => b.onGrid? (count + 1)).getD { digits := 0, exponent := 0 }

end Binary

/-! ## §3 Formats -/

/-- The choices that a number format makes. -/
structure Format where
  /-- Whether an integer ends in `.0`. -/
  showsPoint : Bool
  /-- The powers of ten, from the first up to but not including the second, between which numbers
  are written without an exponent; none if all of them are. -/
  positional : Option (Int × Int)

/-- No exponent ever, and no point in an integer. -/
def plain : Format where
  showsPoint := false
  positional := none

/-- A point or an exponent in every number, an exponent below 10^-4 and from 10^16 on. -/
def marked : Format where
  showsPoint := true
  positional := some (-4, 16)

/-- Digits with the decimal point after the first `point` of them; where the digits do not reach,
zeros stand. -/
def positionalText (showsPoint : Bool) (digits : List Char) (point : Int) : List Char :=
  let whole := digits.take point.toNat
  let fraction := digits.drop point.toNat
  let wholeText :=
    if whole.isEmpty then ['0'] else whole ++ List.replicate (point.toNat - digits.length) '0'
  if fraction.isEmpty then wholeText ++ if showsPoint then ['.', '0'] else []
  else wholeText ++ '.' :: (List.replicate (-point).toNat '0' ++ fraction)

/-- One digit, the other digits after a point, and the power of ten. -/
def exponentText (digits : List Char) (power : Int) : List Char :=
  let fraction := digits.drop 1
  digits.take 1 ++ (if fraction.isEmpty then [] else '.' :: fraction) ++
    'e' :: (toString power).toList

/-- The digits without the zeros at their end. Zero has no digits. -/
def Digits.significant (d : Digits) : List Char :=
  ((Nat.toDigits 10 d.digits).reverse.dropWhile (· == '0')).reverse

/-- How many digits stand before the decimal point; negative if zeros follow the point. -/
def Digits.point (d : Digits) : Int :=
  (Nat.toDigits 10 d.digits).length + d.exponent

/-- The text of a finite value without its sign. -/
def Format.unsigned (f : Format) (b : Binary) : List Char :=
  if b.mantissa = 0 then positionalText f.showsPoint [] 0
  else
    let d := b.shortest
    match f.positional with
    | none => positionalText f.showsPoint d.significant d.point
    | some (first, last) =>
      if first ≤ d.point - 1 ∧ d.point - 1 < last then
        positionalText f.showsPoint d.significant d.point
      else exponentText d.significant (d.point - 1)

/-- The text of a double. -/
def Format.ofDouble (f : Format) : Double → String
  | .notANumber => "NaN"
  | .infinite negative => (if negative then "-" else "") ++ "inf"
  | .finite negative value =>
    (if negative then "-" else "") ++ String.ofList (f.unsigned value)

/-- The text of a floating-point number. -/
def Format.text (f : Format) (x : Float) : String :=
  f.ofDouble (.ofFloat x)

end TransitionDiagram.Decimal
