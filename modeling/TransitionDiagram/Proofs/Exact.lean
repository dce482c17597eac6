/-
TransitionDiagram.Proofs.Exact: pictures measured by exact numbers.

The numbers of any ordered field in which every number has an integer below it can measure a
picture: sums, products and quotients are exact, and a half is rounded away from zero. What the
sine and the cosine are is left open, but for their values, which lie between minus one and one.
So what holds over exact numbers rests on nothing else about the points of a circle.

  §1 exact numbers
  §2 rounding
  §3 the largest of some numbers
-/
import Mathlib.Algebra.Order.Round
import Mathlib.Data.Rat.Floor
import Mathlib.Tactic.Linarith
import Mathlib.Tactic.Ring
import TransitionDiagram.Scene.Layout

namespace TransitionDiagram

/-! ## §1 Exact numbers -/

/-- An angle of a full turn, and functions for the points of a circle around the origin. -/
structure Turning (K : Type) [Field K] [LinearOrder K] where
  turn : K
  cos : K → K
  sin : K → K
  abs_cos_le : ∀ angle, |cos angle| ≤ 1
  abs_sin_le : ∀ angle, |sin angle| ≤ 1

/-- Every angle leads to the rightmost point of a circle. -/
def Turning.rightmost : Turning ℚ where
  turn := 44 / 7
  cos _ := 1
  sin _ := 0
  abs_cos_le _ := by simp
  abs_sin_le _ := by simp

/-- An exact number, in pictures whose circles are drawn with the given functions. -/
@[ext] structure Exact {K : Type} [Field K] [LinearOrder K] (turning : Turning K) where
  val : K

namespace Exact

variable {K : Type} [Field K] [LinearOrder K] [FloorRing K] {turning : Turning K}

/-- The nearest integer; of two equally near ones the one farther from zero. -/
def nearest (x : K) : Int :=
  if 0 ≤ x then round x else -round (-x)

instance : Scalar (Exact turning) where
  add x y := ⟨x.val + y.val⟩
  sub x y := ⟨x.val - y.val⟩
  mul x y := ⟨x.val * y.val⟩
  div x y := ⟨x.val / y.val⟩
  ofInt n := ⟨n⟩
  atMost x y := x.val ≤ y.val
  larger x y := if x.val < y.val then y else x
  nearest x := nearest x.val
  ceilAtLeast least x := max least ⌈x.val⌉.toNat
  shorter x y length := 0 < length.val ∧ x.val * x.val + y.val * y.val < length.val * length.val
  turn := ⟨turning.turn⟩
  cos x := ⟨turning.cos x.val⟩
  sin x := ⟨turning.sin x.val⟩

@[simp] theorem val_add (x y : Exact turning) : (x + y).val = x.val + y.val := rfl

@[simp] theorem val_sub (x y : Exact turning) : (x - y).val = x.val - y.val := rfl

@[simp] theorem val_mul (x y : Exact turning) : (x * y).val = x.val * y.val := rfl

@[simp] theorem val_div (x y : Exact turning) : (x / y).val = x.val / y.val := rfl

@[simp] theorem val_ofInt (n : Int) : (Scalar.ofInt n : Exact turning).val = n := rfl

@[simp] theorem atMost_iff (x y : Exact turning) : Scalar.atMost x y = true ↔ x.val ≤ y.val :=
  decide_eq_true_iff

@[simp] theorem scalar_nearest (x : Exact turning) : Scalar.nearest x = nearest x.val := rfl

theorem abs_cos_le (x : Exact turning) : |(Scalar.cos x).val| ≤ 1 :=
  turning.abs_cos_le x.val

theorem abs_sin_le (x : Exact turning) : |(Scalar.sin x).val| ≤ 1 :=
  turning.abs_sin_le x.val

/-! ## §2 Rounding -/

section

variable [IsStrictOrderedRing K]

/-- Rounding moves a number by a half at most. -/
theorem abs_nearest_sub_le (x : K) : |(nearest x : K) - x| ≤ 1 / 2 := by
  unfold nearest
  by_cases nonneg : 0 ≤ x
  · rw [if_pos nonneg, abs_sub_comm]
    exact abs_sub_round x
  · have moved : |-x - round (-x)| ≤ 1 / 2 := abs_sub_round (-x)
    have turned : ((-round (-x) : Int) : K) - x = -x - round (-x) := by
      push_cast
      ring
    rw [if_neg nonneg, turned]
    exact moved

theorem le_nearest (x : K) : x - 1 / 2 ≤ nearest x := by
  have near := abs_le.mp (abs_nearest_sub_le x)
  linarith

theorem nearest_le (x : K) : (nearest x : K) ≤ x + 1 / 2 := by
  have near := abs_le.mp (abs_nearest_sub_le x)
  linarith

@[simp] theorem nearest_intCast (n : Int) : nearest (n : K) = n := by
  unfold nearest
  split
  · exact round_intCast n
  · rw [← Int.cast_neg, round_intCast, neg_neg]

theorem round_mono {x y : K} (le : x ≤ y) : round x ≤ round y := by
  rw [round_eq, round_eq]
  exact Int.floor_mono (by linarith)

theorem round_nonneg {x : K} (nonneg : 0 ≤ x) : 0 ≤ round x := by
  simpa using round_mono nonneg

/-- A larger number is not rounded to a smaller integer. -/
theorem nearest_mono {x y : K} (le : x ≤ y) : nearest x ≤ nearest y := by
  unfold nearest
  by_cases left : 0 ≤ x
  · rw [if_pos left, if_pos (left.trans le)]
    exact round_mono le
  · have below : 0 ≤ round (-x) := round_nonneg (by linarith)
    rw [if_neg left]
    by_cases right : 0 ≤ y
    · have above := round_nonneg right
      rw [if_pos right]
      omega
    · have turned : round (-y) ≤ round (-x) := round_mono (by linarith)
      rw [if_neg right]
      omega

/-- Numbers that are less than one apart are rounded to the same integer or to neighbours. This
fails for numbers that are one apart: minus a half is rounded down and a half is rounded up. -/
theorem nearest_le_add_one {x y : K} (close : y < x + 1) : nearest y ≤ nearest x + 1 := by
  have apart : ((nearest y : Int) : K) < ((nearest x + 2 : Int) : K) := by
    have above := nearest_le y
    have below := le_nearest x
    push_cast
    linarith
  have := Int.cast_lt.mp apart
  omega

end

/-! ## §3 The largest number -/

theorem le_larger_left (x y : Exact turning) : x.val ≤ (Scalar.larger x y).val := by
  change x.val ≤ (if x.val < y.val then y else x).val
  split
  · exact le_of_lt ‹_›
  · exact le_refl _

theorem le_larger_right (x y : Exact turning) : y.val ≤ (Scalar.larger x y).val := by
  change y.val ≤ (if x.val < y.val then y else x).val
  split
  · exact le_refl _
  · exact not_lt.mp ‹_›

theorem le_foldl_larger (x : Exact turning) (others : List (Exact turning)) :
    ∀ y ∈ x :: others, y.val ≤ (others.foldl Scalar.larger x).val := by
  induction others generalizing x with
  | nil => simp
  | cons first rest ih =>
    intro y mem
    have largest := ih (Scalar.larger x first)
    rw [List.foldl_cons]
    rcases List.mem_cons.mp mem with rfl | mem
    · exact (le_larger_left y first).trans (largest _ List.mem_cons_self)
    · rcases List.mem_cons.mp mem with rfl | mem
      · exact (le_larger_right x y).trans (largest _ List.mem_cons_self)
      · exact largest y (List.mem_cons_of_mem _ mem)

theorem foldl_larger_mem (x : Exact turning) (others : List (Exact turning)) :
    others.foldl Scalar.larger x ∈ x :: others := by
  induction others generalizing x with
  | nil => simp
  | cons first rest ih =>
    have either : Scalar.larger x first = x ∨ Scalar.larger x first = first := by
      change (if x.val < first.val then first else x) = x ∨
        (if x.val < first.val then first else x) = first
      split
      · exact .inr rfl
      · exact .inl rfl
    rw [List.foldl_cons]
    rcases List.mem_cons.mp (ih (Scalar.larger x first)) with all | later
    · rcases either with same | same <;> rw [all, same] <;> simp
    · exact List.mem_cons_of_mem _ (List.mem_cons_of_mem _ later)

end Exact

end TransitionDiagram
