import LoopKernels.Proofs.Scalar.Integers
import Mathlib.Algebra.Order.Ring.Int
import Mathlib.Data.Prod.Lex

/-!
# The order of scalars of one family

Scalars of one family that are no NaN are linearly preordered: each has a height, and one lies
below another exactly when its height does. Integers are their own heights. The height of a
double is its sign and size, then its exponent and mantissa; the two zeros have the same one.
Nothing is assumed of the comparison of doubles: it is taken from their bits.

Across families heights are not compared. A double and an integer meet as doubles, after a
rounding that no height survives.
-/

namespace LoopKernels

open Float.Model (UnpackedFloat)

/-- Heights are compared first by the first entry. -/
abbrev Height := ℤ ×ₗ ℤ ×ₗ ℤ

/-- The height of a double. A NaN has none of its own. -/
def doubleHeight : UnpackedFloat → Height
  | .infinity .positive => toLex (2, toLex (0, 0))
  | .infinity .negative => toLex (-2, toLex (0, 0))
  | .finite .positive mantissa exponent _ => toLex (1, toLex (exponent, (mantissa : ℤ)))
  | .finite .negative mantissa exponent _ => toLex (-1, toLex (-exponent, -(mantissa : ℤ)))
  | .zero _ | .notANumber => toLex (0, toLex (0, 0))

/-- Natural numbers compare as integers do. -/
theorem compare_natCast (m n : ℕ) : compare (m : ℤ) n = compare m n := by
  rw [← cmp_eq_compare, ← cmp_eq_compare, Nat.strictMono_cast.cmp_map_eq]

/-- Negation turns a comparison round. -/
theorem compare_neg (m n : ℤ) : compare (-m) (-n) = (compare m n).swap := by
  have reverses : StrictAnti fun m : ℤ => -m := fun _ _ less => Int.neg_lt_neg less
  rw [← cmp_eq_compare, ← cmp_eq_compare, reverses.cmp_map_eq, cmp_swap]

/-- Doubles compare as their heights do. Between finite doubles of one sign the exponents decide,
    then the mantissas; all other cases are decided by kind and sign. -/
theorem compare_eq_doubleHeight {x y : UnpackedFloat} (left : x.isNaN = false)
    (right : y.isNaN = false) :
    x.compare y = some (compare (doubleHeight x) (doubleHeight y)) := by
  cases x with
  | notANumber => exact absurd left (by decide)
  | infinity sign =>
    cases y with
    | notANumber => exact absurd right (by decide)
    | infinity otherSign => cases sign <;> cases otherSign <;> rfl
    | zero _ => cases sign <;> rfl
    | finite otherSign => cases sign <;> cases otherSign <;> rfl
  | zero _ =>
    cases y with
    | notANumber => exact absurd right (by decide)
    | infinity otherSign => cases otherSign <;> rfl
    | zero _ => rfl
    | finite otherSign => cases otherSign <;> rfl
  | finite sign mantissa exponent =>
    cases y with
    | notANumber => exact absurd right (by decide)
    | infinity otherSign => cases sign <;> cases otherSign <;> rfl
    | zero _ => cases sign <;> rfl
    | finite otherSign otherMantissa otherExponent =>
      cases sign <;> cases otherSign
      case positive.negative => rfl
      case negative.positive => rfl
      case positive.positive =>
        show some ((compare exponent otherExponent).then (compare mantissa otherMantissa)) =
          some ((compare exponent otherExponent).then (compare (mantissa : ℤ) otherMantissa))
        rw [compare_natCast]
      case negative.negative =>
        show some ((compare exponent otherExponent).then (compare mantissa otherMantissa)).swap =
          some ((compare (-exponent) (-otherExponent)).then
            (compare (-mantissa : ℤ) (-otherMantissa)))
        rw [compare_neg, compare_neg, compare_natCast, Ordering.swap_then]

/-- A double lies below another one exactly when its height does. -/
theorem lt_iff_doubleHeight {x y : UnpackedFloat} (left : x.isNaN = false)
    (right : y.isNaN = false) : x.lt y = true ↔ doubleHeight x < doubleHeight y := by
  show (x.compare y == some .lt) = true ↔ doubleHeight x < doubleHeight y
  rw [compare_eq_doubleHeight left right, beq_iff_eq, Option.some_inj, compare_lt_iff_lt]

/-- Doubles are equal exactly when their heights are. -/
theorem beq_iff_doubleHeight {x y : UnpackedFloat} (left : x.isNaN = false)
    (right : y.isNaN = false) : x.beq y = true ↔ doubleHeight x = doubleHeight y := by
  show (x.compare y == some .eq) = true ↔ doubleHeight x = doubleHeight y
  rw [compare_eq_doubleHeight left right, beq_iff_eq, Option.some_inj, compare_eq_iff_eq]

namespace Scalar

/-- The height of an integer. -/
def wholeHeight (n : ℤ) : Height := toLex (n, toLex (0, 0))

/-- Heights of integers compare as the integers do. -/
theorem compare_wholeHeight (m n : ℤ) : compare (wholeHeight m) (wholeHeight n) = compare m n :=
  Ordering.then_eq

/-- The place of a scalar among those of its family. -/
def height : Scalar → Height
  | float x => doubleHeight x.toModel.unpack
  | other => wholeHeight (other.integer?.getD 0)

/-- Doubles are ordered by height. -/
theorem floatOrder_eq {x y : Float} (left : x.isNaN = false) (right : y.isNaN = false) :
    floatOrder x y = some (compare (float x).height (float y).height) := by
  have less : ∀ {x y : Float}, x.isNaN = false → y.isNaN = false →
      (x < y ↔ (float x).height < (float y).height) := by
    intro x y left right
    exact decide_eq_true_iff.trans (lt_iff_doubleHeight left right)
  have same : (x == y) = true ↔ (float x).height = (float y).height :=
    beq_iff_doubleHeight left right
  rw [floatOrder]
  rcases lt_trichotomy (float x).height (float y).height with lower | equal | higher
  · rw [if_pos ((less left right).mpr lower), compare_lt_iff_lt.mpr lower]
  · have notLess : ¬ x < y := fun lower => absurd equal ((less left right).mp lower).ne
    rw [if_neg notLess, if_pos (same.mpr equal), compare_eq_iff_eq.mpr equal]
  · have notLess : ¬ x < y := fun lower => absurd ((less left right).mp lower) higher.not_gt
    have notSame : ¬ (x == y) = true := fun equal => absurd (same.mp equal) higher.ne'
    rw [if_neg notLess, if_neg notSame, if_pos ((less right left).mpr higher),
      compare_gt_iff_gt.mpr higher]

/-- Scalars of one family that are no NaN are ordered by height. -/
theorem order_eq_height {a b : Scalar} (alike : a.family = b.family) (left : a.isNaN = false)
    (right : b.isNaN = false) : a.order b = some (compare a.height b.height) := by
  cases a <;> cases b <;> simp only [family, reduceCtorEq] at alike
  case float.float x y => exact floatOrder_eq left right
  all_goals simp [order, integer?, height, compare_wholeHeight]

variable {a b : Scalar}

/-- The lesser scalar is the lower one. -/
theorem below_iff_height (alike : a.family = b.family) (left : a.isNaN = false)
    (right : b.isNaN = false) : a.below b = true ↔ a.height < b.height := by
  simp [below, order_eq_height alike left right, compare_lt_iff_lt]

/-- The greater scalar is the higher one. -/
theorem above_iff_height (alike : a.family = b.family) (left : a.isNaN = false)
    (right : b.isNaN = false) : a.above b = true ↔ b.height < a.height := by
  simp [above, order_eq_height alike left right, compare_gt_iff_gt]

end Scalar

end LoopKernels
