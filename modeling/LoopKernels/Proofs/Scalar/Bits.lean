import LoopKernels.Proofs.Scalar.Integers

/-!
# Elements as words of their width

An element of a truth-value or integer type is also a word of as many bits as the type
is wide. Reading the word back gives the element. A rule is carried out on words of 64
bits, but for sums, differences, products and the bitwise rules the low bits of the result
depend on the low bits of the operands only. So the rule works on the words of the type,
whatever the families of its operands.
-/

namespace LoopKernels

/-- The element of a type that a word of its width stands for. -/
def ElemType.ofBits (e : ElemType) (bits : BitVec e.width) : Int := e.wrap bits.toInt

/-- Integers are neither truth values nor floats. -/
theorem ElemType.family_of_isInteger (e : ElemType) (whole : e.isInteger = true) :
    e.family ≠ .bool ∧ e.isFloat = false := by
  revert whole
  cases e <;> decide

/-- Wrapping to a wider power of two first changes nothing for integers. -/
theorem ElemType.wrap_bmod (e : ElemType) (notBool : e.family ≠ .bool)
    (exact : e.isFloat = false) (n : Int) (width : Nat) (wider : e.width ≤ width) :
    e.wrap (n.bmod (2 ^ width)) = e.wrap n := by
  have divides : 2 ^ e.width ∣ 2 ^ width := Nat.pow_dvd_pow 2 wider
  unfold wrap
  cases kind : e.family with
  | bool => exact absurd kind notBool
  | signed => exact Int.bmod_bmod_of_dvd divides
  | unsigned =>
    have intDivides : (2 : Int) ^ e.width ∣ ((2 ^ width : Nat) : Int) := by exact_mod_cast divides
    show n.bmod (2 ^ width) % 2 ^ e.width = n % 2 ^ e.width
    rw [← Int.emod_emod_of_dvd (n.bmod (2 ^ width)) intDivides, Int.bmod_emod,
      Int.emod_emod_of_dvd n intDivides]
  | float => simp [isFloat, kind] at exact

/-- Only the low bits of an integer decide what it wraps to. -/
theorem ElemType.wrap_eq_of_bits (e : ElemType) (notBool : e.family ≠ .bool)
    (exact : e.isFloat = false) (m n : Int)
    (bits : BitVec.ofInt e.width m = BitVec.ofInt e.width n) : e.wrap m = e.wrap n := by
  rw [← e.wrap_bmod notBool exact m e.width (Nat.le_refl _),
    ← e.wrap_bmod notBool exact n e.width (Nat.le_refl _), ← BitVec.toInt_ofInt,
    ← BitVec.toInt_ofInt, bits]

/-- Wrapping keeps the low bits of an integer. -/
theorem ElemType.ofInt_wrap (e : ElemType) (notBool : e.family ≠ .bool)
    (exact : e.isFloat = false) (n : Int) :
    BitVec.ofInt e.width (e.wrap n) = BitVec.ofInt e.width n := by
  refine BitVec.eq_of_toInt_eq ?_
  rw [BitVec.toInt_ofInt, BitVec.toInt_ofInt]
  unfold wrap
  cases kind : e.family with
  | bool => exact absurd kind notBool
  | signed => exact Int.bmod_bmod
  | unsigned =>
    have cast : (2 : Int) ^ e.width = ((2 ^ e.width : Nat) : Int) := by simp
    show (n % 2 ^ e.width).bmod (2 ^ e.width) = n.bmod (2 ^ e.width)
    rw [cast, Int.emod_bmod]
  | float => simp [isFloat, kind] at exact

/-- A summand may be wrapped before the sum is. -/
theorem ElemType.wrap_wrap_add (e : ElemType) (notBool : e.family ≠ .bool)
    (exact : e.isFloat = false) (m n : Int) : e.wrap (e.wrap m + n) = e.wrap (m + n) := by
  refine e.wrap_eq_of_bits notBool exact _ _ ?_
  rw [BitVec.ofInt_add, BitVec.ofInt_add, e.ofInt_wrap notBool exact]

/-- A factor may be wrapped before the product is. -/
theorem ElemType.wrap_wrap_mul (e : ElemType) (notBool : e.family ≠ .bool)
    (exact : e.isFloat = false) (m n : Int) : e.wrap (e.wrap m * n) = e.wrap (m * n) := by
  refine e.wrap_eq_of_bits notBool exact _ _ ?_
  rw [BitVec.ofInt_mul, BitVec.ofInt_mul, e.ofInt_wrap notBool exact]

/-- The low bits of an integer stand for the integer that it wraps to. -/
theorem ElemType.ofBits_ofInt_eq_wrap (e : ElemType) (notBool : e.family ≠ .bool)
    (exact : e.isFloat = false) (n : Int) : e.ofBits (BitVec.ofInt e.width n) = e.wrap n := by
  rw [ofBits, BitVec.toInt_ofInt, e.wrap_bmod notBool exact n e.width (Nat.le_refl _)]

/-- Integers that wrap to themselves are determined by their bits. -/
theorem ElemType.ofBits_ofInt (e : ElemType) (exact : e.isFloat = false) (n : Int)
    (inRange : e.wrap n = n) : e.ofBits (BitVec.ofInt e.width n) = n := by
  by_cases notBool : e.family = .bool
  · obtain rfl : e = .bool := by cases e <;> simp_all [family]
    by_cases zero : n = 0
    · simp [zero, ofBits, wrap, family]
    · obtain rfl : n = 1 := by simpa [wrap, family, zero, eq_comm] using inRange
      rfl
  · rw [e.ofBits_ofInt_eq_wrap notBool exact, inRange]

/-- The word of the element that a word stands for is that word. -/
theorem ElemType.ofInt_ofBits (e : ElemType) (exact : e.isFloat = false)
    (bits : BitVec e.width) : BitVec.ofInt e.width (e.ofBits bits) = bits := by
  by_cases notBool : e.family = .bool
  · obtain rfl : e = .bool := by cases e <;> simp_all [family]
    revert bits
    decide
  · rw [ofBits, e.ofInt_wrap notBool exact, BitVec.ofInt_toInt]

/-- Cutting the word of an integer gives its shorter word. -/
theorem setWidth_ofInt (n : Int) (narrow wide : Nat) (bound : narrow ≤ wide) :
    (BitVec.ofInt wide n).setWidth narrow = BitVec.ofInt narrow n := by
  refine BitVec.eq_of_toInt_eq ?_
  rw [← BitVec.signExtend_eq_setWidth_of_le _ bound, BitVec.toInt_signExtend, BitVec.toInt_ofInt,
    BitVec.toInt_ofInt, Nat.min_eq_left bound, Int.bmod_bmod_of_dvd (Nat.pow_dvd_pow 2 bound)]

/-- The shorter word of the integer that a word stands for is the cut word. -/
theorem ofInt_toInt_setWidth (narrow wide : Nat) (bits : BitVec wide) (bound : narrow ≤ wide) :
    BitVec.ofInt narrow bits.toInt = bits.setWidth narrow := by
  rw [← setWidth_ofInt bits.toInt narrow wide bound, BitVec.ofInt_toInt]

/-- Wrapping to an integer type that is at least as wide changes nothing for integers. -/
theorem ElemType.wrap_wrap_of_width (e wider : ElemType) (notBool : e.family ≠ .bool)
    (exact : e.isFloat = false) (widerNotBool : wider.family ≠ .bool)
    (widerExact : wider.isFloat = false) (bound : e.width ≤ wider.width) (n : Int) :
    e.wrap (wider.wrap n) = e.wrap n := by
  refine e.wrap_eq_of_bits notBool exact _ _ ?_
  rw [← setWidth_ofInt _ e.width wider.width bound, wider.ofInt_wrap widerNotBool widerExact,
    setWidth_ofInt _ _ _ bound]

/-! ## Words of scalars -/

/-- No element type is wider than a word. -/
theorem ElemType.width_le (e : ElemType) : e.width ≤ 64 := by
  cases e <;> decide

/-- The word holds the low bits of an integer scalar, whatever its family. -/
def Scalar.Reads {width : Nat} (s : Scalar) (bits : BitVec width) : Prop :=
  ∃ n, s.integer? = some n ∧ BitVec.ofInt width n = bits

namespace Scalar

variable {s : Scalar} {width : Nat} {bits : BitVec width} {e : ElemType}

/-- A signed word reads as its low bits. -/
theorem reads_int (word : Int64) (bound : width ≤ 64) :
    (int word).Reads (word.toBitVec.setWidth width) :=
  ⟨word.toInt, rfl, ofInt_toInt_setWidth width 64 word.toBitVec bound⟩

/-- An unsigned word reads as its low bits. -/
theorem reads_uint (word : UInt64) (bound : width ≤ 64) :
    (uint word).Reads (word.toBitVec.setWidth width) := by
  refine ⟨word.toNat, rfl, ?_⟩
  rw [← setWidth_ofInt _ width 64 bound, BitVec.ofInt_natCast]
  exact congrArg (BitVec.setWidth width) (BitVec.ofNat_toNat 64 word.toBitVec)

namespace Reads

/-- What reads as bits is no float. -/
theorem isFloat_eq (reads : s.Reads bits) : s.isFloat = false := by
  obtain ⟨n, integer, -⟩ := reads
  cases s <;> simp_all [isFloat, integer?]

/-- The signed view of an integer has its low bits. -/
theorem setWidth_toInt64 (reads : s.Reads bits) (bound : width ≤ 64) :
    s.toInt64.toBitVec.setWidth width = bits := by
  obtain ⟨n, integer, rfl⟩ := reads
  rw [← ofInt_toInt_setWidth width 64 _ bound, ← setWidth_ofInt n width 64 bound,
    ← setWidth_ofInt _ width 64 bound]
  refine congrArg (BitVec.setWidth width) (BitVec.eq_of_toInt_eq ?_)
  have view : s.toInt64.toBitVec.toInt = n.bmod (2 ^ 64) := s.toInt_toInt64 n integer
  rw [BitVec.toInt_ofInt, BitVec.toInt_ofInt, view, Int.bmod_bmod]

/-- So has the unsigned view. -/
theorem setWidth_toUInt64 (reads : s.Reads bits) (bound : width ≤ 64) :
    s.toUInt64.toBitVec.setWidth width = bits := by
  obtain ⟨n, integer, rfl⟩ := reads
  rw [← setWidth_ofInt n width 64 bound]
  refine congrArg (BitVec.setWidth width) (BitVec.eq_of_toNat_eq ?_)
  have view := s.toNat_toUInt64 n integer
  rw [BitVec.toNat_ofInt]
  exact (Int.toNat_natCast _).symm.trans (congrArg Int.toNat view)

/-- Casting to an integer type cuts the word to the width of the type. -/
theorem cast {bits : BitVec e.width} (reads : s.Reads bits) (notBool : e.family ≠ .bool)
    (exact : e.isFloat = false) : (s.cast e).Holds e (e.ofBits bits) := by
  obtain ⟨n, integer, rfl⟩ := reads
  rw [e.ofBits_ofInt_eq_wrap notBool exact]
  exact s.cast_holds e n integer exact

end Reads

/-- A truth value is held as one. -/
theorem Holds.exists_bool {n : Int} (holds : s.Holds .bool n) :
    ∃ p : Bool, s = bool p ∧ p.toInt = n := by
  have family := holds.family_eq
  have integer := holds.integer_eq
  cases s with
  | bool p =>
    refine ⟨p, rfl, ?_⟩
    cases p <;> simpa [integer?] using integer
  | _ => cases family

/-- An element of a type is read as the word that it stands for. -/
theorem Holds.reads {bits : BitVec e.width} (holds : s.Holds e (e.ofBits bits)) : s.Reads bits :=
  ⟨_, holds.integer_eq, e.ofInt_ofBits holds.isFloat_eq bits⟩

end Scalar

/-! ## Rules -/

/-- A rule computes an operation on words: it does so on words of 64 bits, under both views, and
    the low bits of a result come from the low bits of the operands. -/
structure Rule.Computes (rule : Rule)
    (operation : ∀ width, BitVec width → BitVec width → BitVec width) : Prop where
  signed : ∀ x y, (rule.signed x y).toBitVec = operation 64 x.toBitVec y.toBitVec
  unsigned : ∀ x y, (rule.unsigned x y).toBitVec = operation 64 x.toBitVec y.toBitVec
  narrow : ∀ width ≤ 64, ∀ x y,
    (operation 64 x y).setWidth width = operation width (x.setWidth width) (y.setWidth width)

namespace Rule

/-- Sums are those of the words. -/
theorem add_computes : Rule.add.Computes fun _ x y => x + y :=
  ⟨fun _ _ => Int64.toBitVec_add, fun _ _ => UInt64.toBitVec_add,
    fun _ bound x y => BitVec.setWidth_add x y bound⟩

/-- Products are those of the words. -/
theorem mul_computes : Rule.mul.Computes fun _ x y => x * y :=
  ⟨fun _ _ => Int64.toBitVec_mul, fun _ _ => UInt64.toBitVec_mul,
    fun _ bound x y => BitVec.setWidth_mul x y bound⟩

/-- Differences are those of the words. -/
theorem sub_computes : Rule.sub.Computes fun _ x y => x - y := by
  refine ⟨fun _ _ => Int64.toBitVec_sub, fun _ _ => UInt64.toBitVec_sub, ?_⟩
  intro width bound x y
  rw [BitVec.sub_eq_add_neg, BitVec.setWidth_add _ _ bound, BitVec.setWidth_neg_of_le bound,
    ← BitVec.sub_eq_add_neg]

/-- Conjunctions are those of the words. -/
theorem and_computes : Rule.and.Computes fun _ x y => x &&& y :=
  ⟨Int64.toBitVec_and, UInt64.toBitVec_and, fun _ _ _ _ => BitVec.setWidth_and⟩

/-- Disjunctions are those of the words. -/
theorem or_computes : Rule.or.Computes fun _ x y => x ||| y :=
  ⟨Int64.toBitVec_or, UInt64.toBitVec_or, fun _ _ _ _ => BitVec.setWidth_or⟩

/-- Exclusive disjunctions are those of the words. -/
theorem xor_computes : Rule.xor.Computes fun _ x y => x ^^^ y :=
  ⟨Int64.toBitVec_xor, UInt64.toBitVec_xor, fun _ _ _ _ => BitVec.setWidth_xor⟩

namespace Computes

variable {rule : Rule} {operation : ∀ width, BitVec width → BitVec width → BitVec width}
  {e : ElemType} {a b : Scalar} {x y : BitVec e.width}

/-- On an integer type, a rule gives the element of the word that the operation gives. -/
theorem apply_holds (computes : rule.Computes operation) (notBool : e.family ≠ .bool)
    (exact : e.isFloat = false) (left : a.Reads x) (right : b.Reads y) :
    (rule.apply e a b).Holds e (e.ofBits (operation e.width x y)) := by
  rw [rule.apply_of_exact e exact a b left.isFloat_eq right.isFloat_eq]
  -- The views differ in their high bits only, so either domain gives the same word.
  split
  · have reads := Scalar.reads_uint (rule.unsigned a.toUInt64 b.toUInt64) e.width_le
    rw [computes.unsigned, computes.narrow _ e.width_le, left.setWidth_toUInt64 e.width_le,
      right.setWidth_toUInt64 e.width_le] at reads
    exact reads.cast notBool exact
  · have reads := Scalar.reads_int (rule.signed a.toInt64 b.toInt64) e.width_le
    rw [computes.signed, computes.narrow _ e.width_le, left.setWidth_toInt64 e.width_le,
      right.setWidth_toInt64 e.width_le] at reads
    exact reads.cast notBool exact

end Computes

end Rule

/-- A rule that computes an operation bit by bit does so on truth values as well. These are not
    cut but compared with zero; there the four cases agree. -/
theorem Rule.bitwise_holds (rule : Rule) (op : ∀ width, BitVec width → BitVec width → BitVec width)
    (computes : rule.Computes op)
    (truth : ∀ p q : Bool,
      ElemType.bool.wrap (op 64 (BitVec.ofInt 64 p.toInt) (BitVec.ofInt 64 q.toInt)).toInt =
        ElemType.bool.ofBits (op 1 (BitVec.ofInt 1 p.toInt) (BitVec.ofInt 1 q.toInt)))
    (e : ElemType) (a b : Scalar) (m n : Int) (left : a.Holds e m) (right : b.Holds e n) :
    (rule.apply e a b).Holds e
      (e.ofBits (op e.width (BitVec.ofInt e.width m) (BitVec.ofInt e.width n))) := by
  by_cases isBool : e.family = .bool
  · obtain rfl : e = .bool := by cases e <;> simp_all [ElemType.family]
    obtain ⟨p, rfl, rfl⟩ := left.exists_bool
    obtain ⟨q, rfl, rfl⟩ := right.exists_bool
    have word : ∀ r : Bool, (Scalar.bool r).toInt64.toBitVec = BitVec.ofInt 64 r.toInt := by decide
    have signed : (rule.signed (Scalar.bool p).toInt64 (Scalar.bool q).toInt64).toInt =
        (op 64 (BitVec.ofInt 64 p.toInt) (BitVec.ofInt 64 q.toInt)).toInt := by
      rw [← word, ← word, ← computes.signed]
      rfl
    have cast := Scalar.cast_holds
      (.int (rule.signed (Scalar.bool p).toInt64 (Scalar.bool q).toInt64)) .bool _ rfl rfl
    rw [signed, truth] at cast
    exact cast
  · exact computes.apply_holds isBool left.isFloat_eq ⟨m, left.integer_eq, rfl⟩
      ⟨n, right.integer_eq, rfl⟩

/-- The conjunction of integers is that of their bits. -/
theorem Rule.and_holds (e : ElemType) (a b : Scalar) (m n : Int) (left : a.Holds e m)
    (right : b.Holds e n) : (Rule.and.apply e a b).Holds e
      (e.ofBits (BitVec.ofInt e.width m &&& BitVec.ofInt e.width n)) :=
  Rule.and.bitwise_holds _ Rule.and_computes (by decide) e a b m n left right

/-- The disjunction of integers is that of their bits. -/
theorem Rule.or_holds (e : ElemType) (a b : Scalar) (m n : Int) (left : a.Holds e m)
    (right : b.Holds e n) : (Rule.or.apply e a b).Holds e
      (e.ofBits (BitVec.ofInt e.width m ||| BitVec.ofInt e.width n)) :=
  Rule.or.bitwise_holds _ Rule.or_computes (by decide) e a b m n left right

/-- The exclusive disjunction of integers is that of their bits. -/
theorem Rule.xor_holds (e : ElemType) (a b : Scalar) (m n : Int) (left : a.Holds e m)
    (right : b.Holds e n) : (Rule.xor.apply e a b).Holds e
      (e.ofBits (BitVec.ofInt e.width m ^^^ BitVec.ofInt e.width n)) :=
  Rule.xor.bitwise_holds _ Rule.xor_computes (by decide) e a b m n left right

end LoopKernels
