import LoopKernels.Operator.Eval
import LoopKernels.Tensor.Basic
import Mathlib.Algebra.Ring.Int.Defs
import Mathlib.Algebra.Ring.Nat

/-!
# Scalars as integers

An element of a truth-value or integer type is an integer in the range of the type,
held in the representation of the type's family. `wrap` brings an arbitrary integer
into the range: a truth value says whether it differs from zero, the other types
keep it modulo the width. Casting wraps, and so does every rule of arithmetic: what
the words compute is what the integers compute, wrapped once at the end.
-/

namespace LoopKernels

/-- The integer brought into the range of an element type. -/
def ElemType.wrap (e : ElemType) (n : Int) : Int :=
  match e.family with
  | .bool => if n = 0 then 0 else 1
  | .signed => n.bmod (2 ^ e.width)
  | .unsigned => n % 2 ^ e.width
  | .float => n

/-- Wrapping a second time changes nothing. -/
@[simp] theorem ElemType.wrap_wrap (e : ElemType) (n : Int) : e.wrap (e.wrap n) = e.wrap n := by
  unfold wrap
  cases e.family with
  | bool =>
    by_cases zero : n = 0
    · simp [zero]
    · simp [zero]
  | signed => exact Int.bmod_bmod
  | unsigned => exact Int.emod_emod n _
  | float => rfl

/-- Zero fits every element type. -/
@[simp] theorem ElemType.wrap_zero (e : ElemType) : e.wrap 0 = 0 := by
  cases e <;> rfl

/-- No element type is empty. -/
theorem ElemType.width_pos (e : ElemType) : 0 < e.width := by
  cases e <;> decide

/-- An integer within the bounds of a type is left as it is. -/
theorem ElemType.wrap_of_bounds (e : ElemType) (n least greatest : Int)
    (bounds : e.bounds = some (least, greatest)) (low : least ≤ n) (high : n ≤ greatest) :
    e.wrap n = n := by
  have doubled : (2 : Int) ^ e.width = 2 * 2 ^ (e.width - 1) := by
    rw [← Int.pow_succ', Nat.sub_add_cancel e.width_pos]
  unfold ElemType.bounds at bounds
  unfold wrap
  cases kind : e.family with
  | bool =>
    obtain ⟨rfl, rfl⟩ : 0 = least ∧ 1 = greatest := by simpa [kind] using bounds
    show (if n = 0 then 0 else 1) = n
    split <;> omega
  | signed =>
    obtain ⟨rfl, rfl⟩ : -2 ^ (e.width - 1) = least ∧ 2 ^ (e.width - 1) - 1 = greatest := by
      simpa [kind] using bounds
    refine Int.bmod_eq_of_le_mul_two ?_ ?_ <;> simp only [Int.natCast_pow, Int.cast_ofNat_Int] <;>
      omega
  | unsigned =>
    obtain ⟨rfl, rfl⟩ : 0 = least ∧ 2 ^ e.width - 1 = greatest := by simpa [kind] using bounds
    exact Int.emod_eq_of_lt low (by omega)
  | float => simp [kind] at bounds

/-- An integer that is left as it is lies within the bounds of the type. -/
theorem ElemType.bounds_of_wrap (e : ElemType) (n least greatest : Int)
    (bounds : e.bounds = some (least, greatest)) (inRange : e.wrap n = n) :
    least ≤ n ∧ n ≤ greatest := by
  have doubled : (2 : Int) ^ e.width = 2 * 2 ^ (e.width - 1) := by
    rw [← Int.pow_succ', Nat.sub_add_cancel e.width_pos]
  have positive : (0 : Int) < 2 ^ e.width := Int.pow_pos (by decide)
  have naturals : 0 < 2 ^ e.width := Nat.pow_pos (by decide)
  rw [← inRange]
  unfold ElemType.bounds at bounds
  unfold wrap
  cases kind : e.family with
  | bool =>
    obtain ⟨rfl, rfl⟩ : 0 = least ∧ 1 = greatest := by simpa [kind] using bounds
    show 0 ≤ (if n = 0 then 0 else 1) ∧ (if n = 0 then 0 else 1) ≤ (1 : Int)
    split <;> omega
  | signed =>
    obtain ⟨rfl, rfl⟩ : -2 ^ (e.width - 1) = least ∧ 2 ^ (e.width - 1) - 1 = greatest := by
      simpa [kind] using bounds
    have low : -(((2 ^ e.width : Nat) : Int) / 2) ≤ n.bmod (2 ^ e.width) := Int.le_bmod naturals
    have high : n.bmod (2 ^ e.width) < (((2 ^ e.width : Nat) : Int) + 1) / 2 := Int.bmod_lt naturals
    simp only [Int.natCast_pow, Int.cast_ofNat_Int] at low high
    show _ ≤ n.bmod (2 ^ e.width) ∧ n.bmod (2 ^ e.width) ≤ _
    omega
  | unsigned =>
    obtain ⟨rfl, rfl⟩ : 0 = least ∧ 2 ^ e.width - 1 = greatest := by simpa [kind] using bounds
    have low := Int.emod_nonneg n (Int.ne_of_gt positive)
    have high := Int.emod_lt_of_pos n positive
    show 0 ≤ n % 2 ^ e.width ∧ n % 2 ^ e.width ≤ _
    omega
  | float => simp [kind] at bounds

namespace Scalar

/-- The family in whose representation a scalar is held. -/
def family : Scalar → Family
  | bool _ => .bool
  | int _ => .signed
  | uint _ => .unsigned
  | float _ => .float

/-- A converted scalar is of the family of the target. -/
@[simp] theorem family_cast (s : Scalar) (e : ElemType) : (s.cast e).family = e.family := by
  cases e <;> rfl

/-- The scalar is an integer in the range of an element type, in the type's representation. -/
structure Holds (s : Scalar) (e : ElemType) (n : Int) : Prop where
  family_eq : s.family = e.family
  integer_eq : s.integer? = some n
  wrap_eq : e.wrap n = n

/-- The signed view of an integer is the integer modulo the width of a word. -/
theorem toInt_toInt64 (s : Scalar) (n : Int) (integer : s.integer? = some n) :
    s.toInt64.toInt = n.bmod (2 ^ 64) := by
  cases s with
  | bool b =>
    obtain rfl : (if b then 1 else 0) = n := by simpa [integer?] using integer
    cases b <;> rfl
  | int x =>
    obtain rfl : x.toInt = n := by simpa [integer?] using integer
    exact (Int64.toInt_bmod x).symm
  | uint x =>
    obtain rfl : (x.toNat : Int) = n := by simpa [integer?] using integer
    exact BitVec.toInt_eq_toNat_bmod x.toBitVec
  | float x => simp [integer?] at integer

/-- The unsigned view of an integer is the integer modulo the width of a word. -/
theorem toNat_toUInt64 (s : Scalar) (n : Int) (integer : s.integer? = some n) :
    (s.toUInt64.toNat : Int) = n % 2 ^ 64 := by
  cases s with
  | bool b =>
    obtain rfl : (if b then 1 else 0) = n := by simpa [integer?] using integer
    cases b <;> rfl
  | int x =>
    obtain rfl : x.toInt = n := by simpa [integer?] using integer
    have view : x.toInt = (x.toUInt64.toNat : Int).bmod (2 ^ 64) :=
      BitVec.toInt_eq_toNat_bmod x.toBitVec
    have below : x.toUInt64.toNat < 2 ^ 64 := x.toUInt64.toNat_lt
    show (x.toUInt64.toNat : Int) = x.toInt % 2 ^ 64
    rw [view]
    have cancel : (x.toUInt64.toNat : Int).bmod (2 ^ 64) % ((2 ^ 64 : Nat) : Int) =
        (x.toUInt64.toNat : Int) % ((2 ^ 64 : Nat) : Int) := Int.bmod_emod
    omega
  | uint x =>
    obtain rfl : (x.toNat : Int) = n := by simpa [integer?] using integer
    have below : x.toNat < 2 ^ 64 := x.toNat_lt
    show (x.toNat : Int) = x.toNat % 2 ^ 64
    omega
  | float x => simp [integer?] at integer

/-- An integer scalar is zero when its integer is. -/
theorem isZero_eq (s : Scalar) (n : Int) (integer : s.integer? = some n) :
    s.isZero = decide (n = 0) := by
  cases s with
  | bool b =>
    obtain rfl : (if b then 1 else 0) = n := by simpa [integer?] using integer
    cases b <;> rfl
  | int x =>
    obtain rfl : x.toInt = n := by simpa [integer?] using integer
    simp [isZero, ← Int64.toInt_inj, Bool.beq_eq_decide_eq]
  | uint x =>
    obtain rfl : (x.toNat : Int) = n := by simpa [integer?] using integer
    simp [isZero, ← UInt64.toNat_inj, Bool.beq_eq_decide_eq]
  | float x => simp [integer?] at integer

/-- A signed type keeps the signed view modulo its width. -/
theorem cast_signed (s : Scalar) (e : ElemType) (kind : e.family = .signed) :
    (s.cast e).integer? = some (s.toInt64.toInt.bmod (2 ^ e.width)) := by
  cases e <;> simp only [ElemType.family, reduceCtorEq] at kind
  all_goals simp [cast, integer?, ElemType.width]

/-- An unsigned type keeps the unsigned view modulo its width. -/
theorem cast_unsigned (s : Scalar) (e : ElemType) (kind : e.family = .unsigned) :
    (s.cast e).integer? = some ((s.toUInt64.toNat : Int) % 2 ^ e.width) := by
  cases e <;> simp only [ElemType.family, reduceCtorEq] at kind
  case u64 =>
    have below : s.toUInt64.toNat < 2 ^ 64 := s.toUInt64.toNat_lt
    simp only [cast, integer?, ElemType.width, Option.some.injEq]
    omega
  all_goals simp [cast, integer?, ElemType.width]

/-- Casting an integer wraps it into the range of the type. -/
theorem cast_holds (s : Scalar) (e : ElemType) (n : Int) (integer : s.integer? = some n)
    (exact : e.isFloat = false) : (s.cast e).Holds e (e.wrap n) := by
  refine ⟨family_cast s e, ?_, e.wrap_wrap n⟩
  have narrower : 2 ^ e.width ∣ 2 ^ 64 := Nat.pow_dvd_pow 2 (by cases e <;> decide)
  unfold ElemType.wrap
  cases kind : e.family with
  | bool =>
    obtain rfl : e = .bool := by cases e <;> simp_all [ElemType.family]
    by_cases zero : n = 0 <;> simp [cast, integer?, isZero_eq s n integer, zero]
  | signed =>
    rw [cast_signed s e kind, toInt_toInt64 s n integer, Int.bmod_bmod_of_dvd narrower]
  | unsigned =>
    rw [cast_unsigned s e kind, toNat_toUInt64 s n integer]
    have divides : (2 : Int) ^ e.width ∣ 2 ^ 64 := by exact_mod_cast narrower
    rw [Int.emod_emod_of_dvd n divides]
  | float => simp [ElemType.isFloat, kind] at exact

/-- Whatever is cast to a truth-value or integer type becomes an integer in its range. -/
theorem exists_cast_holds (s : Scalar) (e : ElemType) (exact : e.isFloat = false) :
    ∃ n, (s.cast e).Holds e n := by
  cases kind : e.family with
  | bool =>
    obtain rfl : e = .bool := by cases e <;> simp_all [ElemType.family]
    exact ⟨_, rfl, rfl, by cases s.isZero <;> rfl⟩
  | signed =>
    refine ⟨_, family_cast s e, cast_signed s e kind, ?_⟩
    simp [ElemType.wrap, kind]
  | unsigned =>
    refine ⟨_, family_cast s e, cast_unsigned s e kind, ?_⟩
    simp [ElemType.wrap, kind]
  | float => simp [ElemType.isFloat, kind] at exact

/-- Within one family, a scalar is determined by its integer. -/
theorem eq_of_integer? (s other : Scalar) (n : Int) (families : s.family = other.family)
    (first : s.integer? = some n) (second : other.integer? = some n) : s = other := by
  cases s <;> cases other <;> simp_all [family, integer?]
  case bool p q => cases p <;> cases q <;> simp_all <;> omega
  case int x y => exact Int64.toInt_inj.mp (first.trans second.symm)
  case uint x y => exact UInt64.toNat_inj.mp (by omega)

namespace Holds

variable {s other : Scalar} {e : ElemType} {m n : Int}

/-- A type holds an integer in one scalar only. -/
theorem unique (holds : s.Holds e n) (second : other.Holds e n) : s = other :=
  eq_of_integer? s other n (holds.family_eq.trans second.family_eq.symm) holds.integer_eq
    second.integer_eq

/-- No float type has integers as its elements. -/
theorem isFloat_eq (holds : s.Holds e n) : e.isFloat = false := by
  have families := holds.family_eq
  have integer := holds.integer_eq
  cases s <;> simp_all [family, integer?, ElemType.isFloat] <;> simp [← families]

/-- A held integer is no float. -/
theorem scalar_isFloat (holds : s.Holds e n) : s.isFloat = false := by
  have integer := holds.integer_eq
  cases s <;> simp_all [Scalar.isFloat, integer?]

/-- An element of a type lies within the bounds of the type. -/
theorem inBounds_eq (holds : s.Holds e n) : s.inBounds e = true := by
  cases bounds : e.bounds with
  | none => simp [Scalar.inBounds, bounds]
  | some ends =>
    have within := e.bounds_of_wrap n ends.1 ends.2 bounds holds.wrap_eq
    simp [Scalar.inBounds, bounds, holds.integer_eq, within.1, within.2]

/-- An element of a type is its own cast. -/
theorem cast_self (holds : s.Holds e n) : s.cast e = s := by
  have cast := cast_holds s e n holds.integer_eq holds.isFloat_eq
  rw [holds.wrap_eq] at cast
  exact cast.unique holds

/-- Elements of a type compare as integers. -/
theorem order_eq (left : s.Holds e m) (right : other.Holds e n) :
    s.order other = some (compare m n) := by
  simp [order, left.integer_eq, right.integer_eq]

/-- Held integers are ordered as integers. -/
theorem below_eq (left : s.Holds e m) (right : other.Holds e n) :
    s.below other = decide (m < n) := by
  rw [below, left.order_eq right]
  rcases Int.lt_trichotomy m n with less | rfl | more
  · simp [less, Int.compare_eq_lt.mpr less]
  · simp
  · simp [Int.compare_eq_gt.mpr more, Int.le_of_lt more]

/-- Held integers are ordered as integers, seen from the greater. -/
theorem above_eq (left : s.Holds e m) (right : other.Holds e n) :
    s.above other = decide (n < m) := by
  rw [above, left.order_eq right]
  rcases Int.lt_trichotomy m n with less | rfl | more
  · simp [Int.compare_eq_lt.mpr less, Int.le_of_lt less]
  · simp
  · simp [more, Int.compare_eq_gt.mpr more]

end Holds

end Scalar

/-- Without floats, the element type decides between unsigned and signed words. -/
theorem Rule.apply_of_exact (rule : Rule) (e : ElemType) (exact : e.isFloat = false) (a b : Scalar)
    (left : a.isFloat = false) (right : b.isFloat = false) :
    rule.apply e a b =
      if e.isUnsigned then (Scalar.uint (rule.unsigned a.toUInt64 b.toUInt64)).cast e
      else (Scalar.int (rule.signed a.toInt64 b.toInt64)).cast e := by
  by_cases isUnsigned : e.isUnsigned = true
  · simp [apply, Domain.ofOperands, exact, left, right, isUnsigned]
  · simp [apply, Domain.ofOperands, exact, left, right, isUnsigned]

/-- A rule whose words compute an operation on integers modulo their width computes that
    operation modulo the width of the element type.

    Truth values are computed as signed words zero and one; their result must stay within a
    word, since it is compared with zero and not cut. -/
theorem Rule.apply_holds (rule : Rule) (whole : Int → Int → Int)
    (signed : ∀ x y, (rule.signed x y).toInt = (whole x.toInt y.toInt).bmod (2 ^ 64))
    (unsigned : ∀ x y, ((rule.unsigned x y).toNat : Int) = whole x.toNat y.toNat % 2 ^ 64)
    (small : ∀ p q : Bool, (whole p.toInt q.toInt).bmod (2 ^ 64) = whole p.toInt q.toInt)
    (e : ElemType) (a b : Scalar) (m n : Int) (left : a.Holds e m) (right : b.Holds e n) :
    (rule.apply e a b).Holds e (e.wrap (whole m n)) := by
  have narrower : 2 ^ e.width ∣ 2 ^ 64 := Nat.pow_dvd_pow 2 (by cases e <;> decide)
  have exact := left.isFloat_eq
  rw [rule.apply_of_exact e exact a b left.scalar_isFloat right.scalar_isFloat]
  have leftFamily := left.family_eq
  have rightFamily := right.family_eq
  have leftInteger := left.integer_eq
  have rightInteger := right.integer_eq
  cases kind : e.family with
  | bool =>
    obtain ⟨p, rfl⟩ : ∃ p, a = .bool p := by cases a <;> simp_all [Scalar.family]
    obtain ⟨q, rfl⟩ : ∃ q, b = .bool q := by cases b <;> simp_all [Scalar.family]
    obtain rfl : p.toInt = m := by cases p <;> simpa [Scalar.integer?] using leftInteger
    obtain rfl : q.toInt = n := by cases q <;> simpa [Scalar.integer?] using rightInteger
    have word : ∀ r : Bool, (Scalar.bool r).toInt64.toInt = r.toInt := by decide
    have cast := Scalar.cast_holds
      (.int (rule.signed (Scalar.bool p).toInt64 (Scalar.bool q).toInt64)) e _ rfl exact
    rw [signed, word, word, small] at cast
    simpa [ElemType.isUnsigned, kind] using cast
  | signed =>
    obtain ⟨x, rfl⟩ : ∃ x, a = .int x := by cases a <;> simp_all [Scalar.family]
    obtain ⟨y, rfl⟩ : ∃ y, b = .int y := by cases b <;> simp_all [Scalar.family]
    obtain rfl : x.toInt = m := by simpa [Scalar.integer?] using leftInteger
    obtain rfl : y.toInt = n := by simpa [Scalar.integer?] using rightInteger
    have wrapped : e.wrap (rule.signed x y).toInt = e.wrap (whole x.toInt y.toInt) := by
      simp only [signed, ElemType.wrap, kind]
      exact Int.bmod_bmod_of_dvd narrower
    rw [← wrapped]
    have cast := Scalar.cast_holds (.int (rule.signed x y)) e _ rfl exact
    simpa [ElemType.isUnsigned, kind, Scalar.toInt64] using cast
  | unsigned =>
    obtain ⟨x, rfl⟩ : ∃ x, a = .uint x := by cases a <;> simp_all [Scalar.family]
    obtain ⟨y, rfl⟩ : ∃ y, b = .uint y := by cases b <;> simp_all [Scalar.family]
    obtain rfl : (x.toNat : Int) = m := by simpa [Scalar.integer?] using leftInteger
    obtain rfl : (y.toNat : Int) = n := by simpa [Scalar.integer?] using rightInteger
    have wrapped : e.wrap (rule.unsigned x y).toNat = e.wrap (whole x.toNat y.toNat) := by
      have divides : (2 : Int) ^ e.width ∣ 2 ^ 64 := by exact_mod_cast narrower
      simp only [unsigned, ElemType.wrap, kind]
      exact Int.emod_emod_of_dvd _ divides
    rw [← wrapped]
    have cast := Scalar.cast_holds (.uint (rule.unsigned x y)) e _ rfl exact
    simpa [ElemType.isUnsigned, kind, Scalar.toUInt64] using cast
  | float => simp [ElemType.isFloat, kind] at exact

/-- Sums wrap. -/
theorem Rule.add_holds (e : ElemType) (a b : Scalar) (m n : Int) (left : a.Holds e m)
    (right : b.Holds e n) : (Rule.add.apply e a b).Holds e (e.wrap (m + n)) :=
  Rule.add.apply_holds (· + ·) Int64.toInt_add
    (fun x y => by simp [Rule.add, UInt64.toNat_add]) (by decide) e a b m n left right

/-- Products wrap. -/
theorem Rule.mul_holds (e : ElemType) (a b : Scalar) (m n : Int) (left : a.Holds e m)
    (right : b.Holds e n) : (Rule.mul.apply e a b).Holds e (e.wrap (m * n)) :=
  Rule.mul.apply_holds (· * ·) Int64.toInt_mul
    (fun x y => by simp [Rule.mul, UInt64.toNat_mul]) (by decide) e a b m n left right

end LoopKernels
