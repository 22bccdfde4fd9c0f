import LoopKernels.Proofs.Scalar.Bits
import Mathlib.Algebra.Group.Int.Even
import Mathlib.Data.Int.ModEq
import Mathlib.RingTheory.Coprime.Lemmas

/-!
# Powers of integers

A power of integers is computed by repeated squaring in words of 64 bits, signed or unsigned,
and the result is cut to the width of the type. Words multiply as integers do modulo their
number, so up to the greatest exponent of 32 bits the result is the power of the integers
modulo the width of the type.

A larger exponent counts as that greatest one. The factors that are left out matter unless the
base is even, so that both powers vanish, or their product is one. An exponent whose signed view
is negative is no count at all, and the power is then one of doubles.
-/

namespace LoopKernels

namespace Scalar

/-! ## Repeated squaring -/

/-- One squaring takes care of one bit of the exponent. -/
theorem pow_eq_halved (b : Int) (n : Nat) : b ^ n = b ^ (n % 2) * (b * b) ^ (n / 2) := by
  rw [← pow_two, ← pow_mul, ← pow_add, Nat.mod_add_div]

/-- With a squaring for each bit of the exponent, the word is that of the power. -/
theorem toBitVec_wordPower (squarings : Nat) (base : UInt64) (b : Int) (n : Nat)
    (small : n < 2 ^ squarings) (word : base.toBitVec = BitVec.ofInt 64 b) :
    (wordPower squarings base n).toBitVec = BitVec.ofInt 64 (b ^ n) := by
  induction squarings generalizing base b n with
  | zero =>
    obtain rfl : n = 0 := by simpa using small
    simp [wordPower]
  | succ squarings inductionHypothesis =>
    have square : (base * base).toBitVec = BitVec.ofInt 64 (b * b) := by
      rw [UInt64.toBitVec_mul, word, BitVec.ofInt_mul]
    have rest := inductionHypothesis (base * base) (b * b) (n / 2) (by omega) square
    rw [pow_eq_halved b n, BitVec.ofInt_mul, ← rest]
    by_cases odd : n % 2 = 1
    · simp [wordPower, odd, word]
    · have even : n % 2 = 0 := by omega
      simp [wordPower, even]

/-- The exponent that counts has 32 bits. -/
theorem min_exponentLimit_lt (n : Nat) : min n exponentLimit < 2 ^ 32 := by
  have limit : exponentLimit = 2 ^ 32 - 1 := rfl
  omega

/-! ## The power of two scalars -/

variable {e : ElemType} {base exponent : Scalar} {b : Int} {n : Nat}

/-- The unsigned view of a count is the count. -/
theorem toNat_toUInt64_of_lt (integer : exponent.integer? = some (n : Int)) (small : n < 2 ^ 63) :
    exponent.toUInt64.toNat = n := by
  have view := exponent.toNat_toUInt64 n integer
  omega

/-- No scalar holds an integer above the greatest word. -/
theorem lt_of_integer? (integer : exponent.integer? = some (n : Int)) : n < 2 ^ 64 := by
  cases exponent with
  | bool p => cases p <;> simp [integer?] at integer <;> omega
  | int x =>
    have held : x.toInt = n := by simpa [integer?] using integer
    have bound := x.toInt_lt
    omega
  | uint x =>
    obtain rfl : x.toNat = n := by simpa [integer?] using integer
    exact x.toNat_lt
  | float x => simp [integer?] at integer

/-- The signed view of a count is negative from two to the 63 on. -/
theorem toInt64_neg_iff (integer : exponent.integer? = some (n : Int)) :
    exponent.toInt64 < 0 ↔ 2 ^ 63 ≤ n := by
  have bound := lt_of_integer? integer
  rw [Int64.lt_iff_toInt_lt, exponent.toInt_toInt64 n integer, Int64.toInt_zero, Int.bmod_def]
  omega

/-- Without floats and with an exponent that is a count, words are multiplied in the view of the
    element type. -/
theorem power_of_count (exact : e.isFloat = false) (baseExact : base.isFloat = false)
    (integer : exponent.integer? = some (n : Int)) (small : n < 2 ^ 63) :
    power e base exponent =
      if e.isUnsigned then (uint (wordPower 32 base.toUInt64 (min n exponentLimit))).cast e
      else (int (wordPower 32 base.toInt64.toUInt64 (min n exponentLimit)).toInt64).cast e := by
  have counts : exponent.Reads (BitVec.ofInt 64 n) := ⟨n, integer, rfl⟩
  have positive : ¬ exponent.toInt64 < 0 := (toInt64_neg_iff integer).not.mpr (by omega)
  simp [power, exact, baseExact, counts.isFloat_eq, positive, toNat_toUInt64_of_lt integer small]

/-- In either view the power wraps, with the exponent up to its limit. -/
theorem power_holds (notBool : e.family ≠ .bool) (exact : e.isFloat = false)
    (baseInteger : base.integer? = some b) (integer : exponent.integer? = some (n : Int))
    (small : n < 2 ^ 63) :
    (power e base exponent).Holds e (e.wrap (b ^ min n exponentLimit)) := by
  have reads : base.Reads (BitVec.ofInt 64 b) := ⟨b, baseInteger, rfl⟩
  have cut := setWidth_ofInt (b ^ min n exponentLimit) e.width 64 e.width_le
  rw [power_of_count exact reads.isFloat_eq integer small,
    ← e.ofBits_ofInt_eq_wrap notBool exact]
  split
  · have word := reads.setWidth_toUInt64 (Nat.le_refl 64)
    rw [BitVec.setWidth_eq] at word
    have power := reads_uint (wordPower 32 base.toUInt64 (min n exponentLimit)) e.width_le
    rw [toBitVec_wordPower 32 _ b _ (min_exponentLimit_lt n) word, cut] at power
    exact power.cast notBool exact
  · have word := reads.setWidth_toInt64 (Nat.le_refl 64)
    rw [BitVec.setWidth_eq] at word
    have power := reads_int (wordPower 32 base.toInt64.toUInt64 (min n exponentLimit)).toInt64
      e.width_le
    rw [UInt64.toBitVec_toInt64, toBitVec_wordPower 32 _ b _ (min_exponentLimit_lt n) word,
      cut] at power
    exact power.cast notBool exact

end Scalar

/-! ## Powers modulo the width of a type -/

/-- Wrapping an integer changes it by a multiple of two to the width. -/
theorem ElemType.wrap_modEq (e : ElemType) (notBool : e.family ≠ .bool) (exact : e.isFloat = false)
    (n : Int) : e.wrap n ≡ n [ZMOD 2 ^ e.width] := by
  have bits := congrArg BitVec.toNat (e.ofInt_wrap notBool exact n)
  rw [BitVec.toNat_ofInt, BitVec.toNat_ofInt] at bits
  have positive : (0 : Int) < 2 ^ e.width := Int.pow_pos (by decide)
  have left := Int.emod_nonneg (e.wrap n) (Int.ne_of_gt positive)
  have right := Int.emod_nonneg n (Int.ne_of_gt positive)
  simp only [Nat.cast_pow, Nat.cast_ofNat] at bits
  show e.wrap n % 2 ^ e.width = n % 2 ^ e.width
  omega

/-- Factors beyond a limit are without effect when the base is even, since enough factors are left
    to vanish, and when their product is one. An odd base can be cancelled, so no other case is
    left. -/
theorem pow_min_modEq_iff (b : Int) (width limit n : Nat) (enough : width ≤ limit) :
    b ^ min n limit ≡ b ^ n [ZMOD 2 ^ width] ↔
      n ≤ limit ∨ Even b ∨ b ^ (n - limit) ≡ 1 [ZMOD 2 ^ width] := by
  by_cases within : n ≤ limit
  · simp [within]
  · have split : b ^ n = b ^ limit * b ^ (n - limit) := by
      rw [← pow_add, Nat.add_sub_of_le (by omega)]
    have difference : b ^ n - b ^ limit = b ^ limit * (b ^ (n - limit) - 1) := by
      rw [split]
      ring
    rw [Nat.min_eq_right (by omega), Int.modEq_comm (a := b ^ (n - limit)), Int.modEq_iff_dvd,
      Int.modEq_iff_dvd, difference]
    simp only [within, false_or]
    by_cases even : Even b
    · have vanishes : (2 : Int) ^ width ∣ b ^ limit :=
        (pow_dvd_pow 2 enough).trans (pow_dvd_pow_of_dvd even.two_dvd limit)
      exact iff_of_true (vanishes.mul_right _) (.inl even)
    · have odd : Odd b := Int.not_even_iff_odd.mp even
      have apart : IsCoprime (2 : Int) b := by
        obtain ⟨k, rfl⟩ := odd
        exact ⟨-k, 1, by ring⟩
      have coprime : IsCoprime ((2 : Int) ^ width) (b ^ limit) := apart.pow
      simp only [even, false_or]
      exact ⟨coprime.dvd_of_dvd_mul_left, fun divides => divides.mul_left _⟩

namespace Operator

/-- The power of two integers on an integer type always has a value. It is the integer of the type
    congruent to the power itself exactly where the limit on the exponent is without effect, as
    long as the exponent is below two to the 63; from there on it is a power of doubles, cast to
    the type. -/
theorem power_exact_iff (e : ElemType) (whole : e.isInteger = true) (base exponent : Scalar)
    (b : Int) (n : Nat) (baseInteger : base.integer? = some b)
    (integer : exponent.integer? = some (n : Int)) :
    ∃ value, (prim .pow).eval [base, exponent] e = .ok value ∧
      (n < 2 ^ 63 → ∃ m, value.Holds e m ∧
        m ≡ b ^ min n Scalar.exponentLimit [ZMOD 2 ^ e.width] ∧
        (m ≡ b ^ n [ZMOD 2 ^ e.width] ↔
          n ≤ Scalar.exponentLimit ∨ Even b ∨
            b ^ (n - Scalar.exponentLimit) ≡ 1 [ZMOD 2 ^ e.width])) ∧
      (2 ^ 63 ≤ n → value = (Scalar.float (base.toFloat.pow exponent.toFloat)).cast e) := by
  obtain ⟨notBool, exact⟩ := e.family_of_isInteger whole
  refine ⟨Scalar.power e base exponent, rfl, ?_, ?_⟩
  · intro small
    have holds := Scalar.power_holds notBool exact baseInteger integer small
    have wraps := e.wrap_modEq notBool exact (b ^ min n Scalar.exponentLimit)
    have enough : e.width ≤ Scalar.exponentLimit := e.width_le.trans (by decide)
    refine ⟨_, holds, wraps, ?_⟩
    rw [← pow_min_modEq_iff b e.width _ n enough]
    exact ⟨wraps.symm.trans, wraps.trans⟩
  · intro large
    have negative := (Scalar.toInt64_neg_iff integer).mpr large
    simp [Scalar.power, negative]

/-- One factor of minus one is left out: its even power comes out negative. -/
theorem power_exact_iff_left_out :
    (prim .pow).eval [.int (-1), .int 4294967296] .i8 = .ok (.int (-1)) ∧
      ¬ (-1 : Int) ≡ (-1) ^ 4294967296 [ZMOD 2 ^ 8] := by
  obtain ⟨value, evaluated, counted, -⟩ :=
    power_exact_iff .i8 rfl (.int (-1)) (.int 4294967296) (-1) 4294967296 rfl rfl
  have minus : (prim .pow).eval [.int (-1), .int 4294967296] .i8 = .ok (.int (-1)) := by
    decide +kernel
  obtain rfl : value = .int (-1) := Except.ok.inj (evaluated.symm.trans minus)
  obtain ⟨m, holds, -, exact⟩ := counted (by decide)
  obtain rfl : -1 = m := Option.some.inj holds.integer_eq
  exact ⟨minus, exact.not.mpr (by decide)⟩

end Operator

end LoopKernels
