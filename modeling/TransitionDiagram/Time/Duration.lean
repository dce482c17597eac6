/-
TransitionDiagram.Time.Duration: spans of time in whole nanoseconds.

A duration has less than 2^64 seconds. A sum that would have more is the longest duration. A clock
reading in milliseconds, given as a floating-point number, becomes the nearest duration, the even
one of two equally near; a reading below zero counts as zero, and so does what is not a number.
A reading that no duration comes near to is refused.

  §1 durations
  §2 sums
  §3 clock readings
  §4 texts
-/
import TransitionDiagram.Decimal.Reading
import TransitionDiagram.Fault

namespace TransitionDiagram

/-! ## §1 Durations -/

/-- Nanoseconds in a second. -/
def nanosPerSecond : Nat := 1000000000

/-- A span of time. -/
structure Duration where
  nanos : Nat
  bound : nanos < Nat.pow 2 64 * nanosPerSecond
  deriving DecidableEq, Repr

namespace Duration

/-- No time. -/
def zero : Duration where
  nanos := 0
  bound := by decide

/-- The longest duration. -/
def longest : Duration where
  nanos := Nat.pow 2 64 * nanosPerSecond - 1
  bound := by decide

/-- The duration with that many nanoseconds, the longest one if there are too many. -/
def ofNanos (n : Nat) : Duration :=
  if h : n < Nat.pow 2 64 * nanosPerSecond then { nanos := n, bound := h } else longest

/-- The duration with that many milliseconds. -/
def ofMillis (n : Nat) : Duration :=
  ofNanos (n * 1000000)

instance : LE Duration := ⟨fun a b => a.nanos ≤ b.nanos⟩

instance (a b : Duration) : Decidable (a ≤ b) :=
  inferInstanceAs (Decidable (a.nanos ≤ b.nanos))

/-! ## §2 Sums -/

/-- The sum of two durations, at most the longest one. -/
def add (a b : Duration) : Duration :=
  ofNanos (a.nanos + b.nanos)

instance : Add Duration := ⟨add⟩

/-! ## §3 Clock readings -/

/-- A quotient rounded to the nearest integer, to the even one of two equally near. -/
def roundDiv (numerator denominator : Nat) : Nat :=
  let quotient := numerator / denominator
  let rest := 2 * (numerator % denominator)
  if rest < denominator then quotient
  else if denominator < rest then quotient + 1
  else quotient + quotient % 2

/-- The nanoseconds nearest to a number of seconds that is not below zero; none if there are
2^64 seconds or more. -/
def nanosOf? : Decimal.Double → Option Nat
  | .notANumber => some 0
  | .infinite _ => none
  | .finite _ seconds =>
    let numerator := seconds.mantissa * Nat.pow 2 seconds.exponent.toNat
    let denominator := Nat.pow 2 (-seconds.exponent).toNat
    if numerator < Nat.pow 2 64 * denominator then
      some (roundDiv (numerator * nanosPerSecond) denominator)
    else none

/-- The duration of a clock reading in milliseconds. -/
def ofReading (millis : Float) : Except (Fault Float) Duration :=
  let millisFromZero := Scalar.larger millis 0.0
  match nanosOf? (.ofFloat (millisFromZero / 1000.0)) with
  | some nanos => .ok (ofNanos nanos)
  | none => .error (.invalidTimestamp millis)

/-! ## §4 Texts -/

/-- Seconds, a point, and nine digits of nanoseconds. -/
def toText (d : Duration) : String :=
  let fraction := Nat.toDigits 10 (d.nanos % nanosPerSecond)
  String.ofList (Nat.toDigits 10 (d.nanos / nanosPerSecond) ++
    '.' :: (List.replicate (9 - fraction.length) '0' ++ fraction))

/-- The duration with such a text. -/
def ofText? (text : String) : Option Duration :=
  let seconds := text.toList.takeWhile (· ≠ '.')
  let fraction := (text.toList.dropWhile (· ≠ '.')).drop 1
  if !seconds.isEmpty && fraction.length = 9 && (seconds ++ fraction).all Char.isDigit then
    some (ofNanos (Decimal.digitsValue (seconds ++ fraction)))
  else none

end Duration

end TransitionDiagram
