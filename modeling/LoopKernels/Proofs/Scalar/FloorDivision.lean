import LoopKernels.Proofs.Scalar.Bits
import Mathlib.Data.Rat.Floor

/-!
# Division of integers rounded down

Signed words are divided toward zero, and one is taken from the quotient where it is inexact
and the signs differ. That is the floor of the exact quotient. The quotient of the least word
by minus one does not fit into a word and wraps, but it is exact, so nothing is taken from it;
wherever one is taken, the divisor is at least two in size and the quotient is far from the
least word. Unsigned words need no correction.
-/

namespace LoopKernels

/-! ## The floor of a quotient -/

/-- The floor of the exact quotient; zero for a zero divisor. -/
def floorOrZero (a b : Int) : Int := if b = 0 then 0 else ⌊(a : ℚ) / b⌋

/-- Rounding down is the library's flooring division. -/
theorem floor_eq_fdiv (a b : Int) : ⌊(a : ℚ) / b⌋ = a.fdiv b := by
  -- The library has the fact for natural divisors; a sign goes to the dividend.
  rcases Int.le_total 0 b with positive | negative
  · obtain ⟨n, rfl⟩ := Int.eq_ofNat_of_zero_le positive
    rw [Int.fdiv_eq_ediv_of_nonneg a positive]
    exact Rat.floor_intCast_div_natCast a n
  · obtain ⟨n, opposite⟩ := Int.eq_ofNat_of_zero_le (Int.neg_nonneg_of_nonpos negative)
    have turned : (a : ℚ) / b = ((-a : Int) : ℚ) / ((n : Nat) : ℚ) := by
      rw [← neg_div_neg_eq, ← Int.cast_neg, ← Int.cast_neg, opposite, Int.cast_natCast]
    rw [turned, Rat.floor_intCast_div_natCast, ← Int.neg_fdiv_neg, opposite,
      Int.fdiv_eq_ediv_of_nonneg _ (Int.natCast_nonneg n)]

/-- The flooring division gives zero for a zero divisor as well. -/
theorem floorOrZero_eq_fdiv (a b : Int) : floorOrZero a b = a.fdiv b := by
  rw [floorOrZero, floor_eq_fdiv]
  by_cases zero : b = 0
  · simp [zero]
  · simp [zero]

/-- The floor is one below the truncated quotient where that is inexact and the signs differ. -/
theorem fdiv_eq_tdiv_sub (a b : Int) (nonzero : b ≠ 0) :
    a.fdiv b = if a.tmod b ≠ 0 ∧ (a < 0) ≠ (b < 0) then a.tdiv b - 1 else a.tdiv b := by
  have divides : a.tmod b = 0 ↔ b ∣ a := Int.dvd_iff_tmod_eq_zero.symm
  rw [Int.fdiv_eq_tdiv]
  by_cases whole : b ∣ a
  · simp [divides.mpr whole, whole]
  · have inexact : a.tmod b ≠ 0 := divides.not.mpr whole
    rcases Int.lt_or_gt_of_ne nonzero with negative | positive
    · have sign := Int.sign_eq_neg_one_of_neg negative
      rcases lt_or_ge a 0 with below | above
      · simp [whole, inexact, sign, negative, below, Int.not_le.mpr below, Int.not_le.mpr negative]
      · simp [whole, inexact, negative, above, Int.not_lt.mpr above, Int.not_le.mpr negative]
    · have sign := Int.sign_eq_one_of_pos positive
      have nonneg := Int.le_of_lt positive
      rcases lt_or_ge a 0 with below | above
      · simp [whole, inexact, sign, nonneg, Int.not_lt.mpr nonneg, below, Int.not_le.mpr below]
      · simp [whole, nonneg, Int.not_lt.mpr nonneg, above, Int.not_lt.mpr above]

/-! ## Words -/

namespace Rule

/-- An inexact quotient of two words is at most half the least word in size: the divisor is
    neither one nor minus one. -/
theorem natAbs_tdiv_le (x y : Int64) (nonzero : y.toInt ≠ 0)
    (inexact : x.toInt.tmod y.toInt ≠ 0) : (x.toInt.tdiv y.toInt).natAbs ≤ 2 ^ 62 := by
  have size : 2 ≤ y.toInt.natAbs := by
    by_contra small
    have unit : y.toInt = 1 ∨ y.toInt = -1 := by omega
    rcases unit with one | minus
    · exact inexact (by rw [one, Int.tmod_one])
    · exact inexact (by rw [minus, Int.tmod_neg, Int.tmod_one])
  have least := x.le_toInt
  have greatest := x.toInt_lt
  calc (x.toInt.tdiv y.toInt).natAbs
      = x.toInt.natAbs / y.toInt.natAbs := Int.natAbs_tdiv _ _
    _ ≤ x.toInt.natAbs / 2 := Nat.div_le_div_left size (by decide)
    _ ≤ 2 ^ 62 := by omega

/-- Where one is taken from a quotient, the quotient has not wrapped and the result does not. -/
theorem toInt_div_sub_one (x y : Int64) (nonzero : y ≠ 0) (inexact : x % y ≠ 0) :
    (x / y - 1).toInt = (x / y).toInt - 1 := by
  have divisor : y.toInt ≠ 0 := by simpa [← Int64.toInt_inj] using nonzero
  have remainder : x.toInt.tmod y.toInt ≠ 0 := by
    simpa [← Int64.toInt_inj, Int64.toInt_mod] using inexact
  have size := natAbs_tdiv_le x y divisor remainder
  have quotient : (x / y).toInt = x.toInt.tdiv y.toInt := by
    rw [Int64.toInt_div]
    exact Int.bmod_eq_of_le_mul_two (by omega) (by omega)
  rw [Int64.toInt_sub, quotient, Int64.toInt_one]
  exact Int.bmod_eq_of_le_mul_two (by omega) (by omega)

/-- The corrected quotient of two words is the floor, wrapped to a word. -/
theorem floorQuotient_eq (x y : Int64) :
    floorQuotient x y = Int64.ofInt (floorOrZero x.toInt y.toInt) := by
  by_cases zero : y = 0
  · simp [floorQuotient, floorOrZero, zero]
  · have divisor : y.toInt ≠ 0 := by simpa [← Int64.toInt_inj] using zero
    have condition : (x % y ≠ 0 ∧ (x < 0) ≠ (y < 0)) ↔
        (x.toInt.tmod y.toInt ≠ 0 ∧ (x.toInt < 0) ≠ (y.toInt < 0)) := by
      simp [← Int64.toInt_inj, Int64.toInt_mod, Int64.lt_iff_toInt_lt]
    rw [floorOrZero_eq_fdiv, fdiv_eq_tdiv_sub _ _ divisor]
    simp only [floorQuotient, zero, if_false, condition]
    split
    · refine ((Int64.ofInt_eq_iff_bmod_eq_toInt _ _).mpr ?_).symm
      rw [Int64.toInt_sub, Int64.toInt_div, Int64.toInt_one, Int.bmod_sub_bmod]
    · refine ((Int64.ofInt_eq_iff_bmod_eq_toInt _ _).mpr ?_).symm
      rw [Int64.toInt_div]

/-- The quotient of two unsigned words is the floor. -/
theorem unsignedQuotient_eq (x y : UInt64) :
    x / y = UInt64.ofInt (floorOrZero x.toNat y.toNat) := by
  have floor : floorOrZero x.toNat y.toNat = ((x.toNat / y.toNat : Nat) : Int) := by
    rw [floorOrZero_eq_fdiv, Int.fdiv_eq_ediv_of_nonneg _ (Int.natCast_nonneg _)]
    rfl
  have below : x.toNat / y.toNat < 2 ^ 64 := Nat.lt_of_le_of_lt (Nat.div_le_self _ _) x.toNat_lt
  refine UInt64.toNat_inj.mp ?_
  rw [floor, UInt64.toNat_div, UInt64.ofInt]
  generalize x.toNat / y.toNat = quotient at below ⊢
  have fits : ((quotient : Int) % 2 ^ 64).toNat = quotient := by omega
  rw [fits, UInt64.toNat_ofNat_of_lt' below]

/-- Division of integers is total and rounds down: the result is the cast of the floor of the
    quotient, wrapped to a word, of the operands read as words. Where one is taken from a quotient
    of signed words, the subtraction is that of the integers. -/
theorem floorDiv_is_floor (e : ElemType) (exact : e.isFloat = false) (a b : Scalar) (m n : Int)
    (left : a.integer? = some m) (right : b.integer? = some n) :
    Rule.floorDiv.apply e a b =
        (if e.isUnsigned then
          Scalar.uint (UInt64.ofInt (floorOrZero (m % 2 ^ 64) (n % 2 ^ 64)))
        else
          Scalar.int (Int64.ofInt (floorOrZero (m.bmod (2 ^ 64)) (n.bmod (2 ^ 64))))).cast e ∧
      (b.toInt64 ≠ 0 → a.toInt64 % b.toInt64 ≠ 0 → (a.toInt64 < 0) ≠ (b.toInt64 < 0) →
        (a.toInt64 / b.toInt64 - 1).toInt = (a.toInt64 / b.toInt64).toInt - 1) := by
  constructor
  · have first : a.Reads (BitVec.ofInt 64 m) := ⟨m, left, rfl⟩
    have second : b.Reads (BitVec.ofInt 64 n) := ⟨n, right, rfl⟩
    rw [Rule.floorDiv.apply_of_exact e exact a b first.isFloat_eq second.isFloat_eq]
    simp only [floorDiv, unsignedQuotient_eq, floorQuotient_eq, a.toNat_toUInt64 m left,
      b.toNat_toUInt64 n right, a.toInt_toInt64 m left, b.toInt_toInt64 n right]
    split <;> rfl
  · intro nonzero inexact _
    exact toInt_div_sub_one a.toInt64 b.toInt64 nonzero inexact

/-- The quotient that does not fit into a word: the least word by minus one, which is here the
    signed view of the greatest unsigned word. -/
theorem floorDiv_is_floor_least :
    Rule.floorDiv.apply .i64 (.int Int64.minValue) (.uint 18446744073709551615) =
        .int Int64.minValue ∧
      floorOrZero (-2 ^ 63) (-1) = 2 ^ 63 := by
  have floor : floorOrZero (-2 ^ 63) (-1) = 2 ^ 63 := by
    rw [floorOrZero_eq_fdiv]
    decide
  have result := (floorDiv_is_floor .i64 rfl (.int Int64.minValue) (.uint 18446744073709551615)
    (-2 ^ 63) 18446744073709551615 rfl rfl).1
  refine ⟨result.trans ?_, floor⟩
  have dividend : (-2 ^ 63 : Int).bmod (2 ^ 64) = -2 ^ 63 := by decide
  have divisor : (18446744073709551615 : Int).bmod (2 ^ 64) = -1 := by decide
  rw [dividend, divisor, floor]
  decide

end Rule

end LoopKernels
