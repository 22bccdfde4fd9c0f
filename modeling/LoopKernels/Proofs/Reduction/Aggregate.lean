import LoopKernels.Reduction.Update
import LoopKernels.Proofs.Scalar.Bits
import Mathlib.Algebra.BigOperators.Group.Multiset.Basic
import Mathlib.Data.Multiset.Bind
import Mathlib.Data.Multiset.Fold

/-!
# Aggregates of multisets

Seven operators reduce a collection of elements of a truth-value or integer type to one
element that depends on the collection as a multiset only: sums and products wrap,
truth values are combined by or and by and, the extremes start at the ends of the
range, and the bitwise operators work on the words of the elements. One update of an
accumulator adds one element to the multiset it stands for, so a fold gives the
aggregate of its list. An aggregate of aggregates is the aggregate of everything.
-/

namespace LoopKernels

/-- The least value of a truth-value or integer type. -/
def ElemType.least (e : ElemType) : Int := (e.bounds.map Prod.fst).getD 0

/-- The greatest value of a truth-value or integer type. -/
def ElemType.greatest (e : ElemType) : Int := (e.bounds.map Prod.snd).getD 0

/-- An element of a type lies between the extremes of the type. -/
theorem ElemType.extremes_of_wrap (e : ElemType) (exact : e.isFloat = false) (n : Int)
    (inRange : e.wrap n = n) : e.least ≤ n ∧ n ≤ e.greatest := by
  cases bounds : e.bounds with
  | none => cases e <;> simp_all [ElemType.bounds, family, isFloat]
  | some ends =>
    simpa [least, greatest, bounds] using e.bounds_of_wrap n ends.1 ends.2 bounds inRange

/-- An element of a type seeds an accumulator of the type as it is. -/
theorem Scalar.Holds.seed_self {s : Scalar} {e : ElemType} {n : Int} (holds : s.Holds e n) :
    s.seed e = s := by
  cases s with
  | float x => simpa [Scalar.isFloat] using holds.scalar_isFloat
  | _ => exact holds.cast_self

namespace Primitive

/-- The operators that reduce a multiset. -/
def aggregating : List Primitive := [add, mul, maximum, minimum, and, or, xor]

/-- The operators that fold any number of operands and have a neutral element. -/
def reducing : List Primitive := [add, mul, mulWithoutZeros, maximum, minimum, and, or, xor]

/-- The operators that reduce have an update and a neutral element. -/
theorem exists_update {p : Primitive} (supported : p ∈ reducing) :
    ∃ u neutral, Update.ofPrimitive? p = some u ∧ p.neutral = some neutral := by
  simp only [reducing, List.mem_cons, List.not_mem_nil, or_false] at supported
  rcases supported with rfl | rfl | rfl | rfl | rfl | rfl | rfl | rfl <;> exact ⟨_, _, rfl, rfl⟩

/-- Every aggregating operator is a reducing one. -/
theorem mem_reducing_of_aggregating {p : Primitive} (aggregates : p ∈ aggregating) :
    p ∈ reducing := by
  revert aggregates
  cases p <;> decide

/-- The element to which an operator reduces a multiset of elements of a type. -/
def aggregate (p : Primitive) (e : ElemType) (xs : Multiset Int) : Int :=
  match p with
  | add => if e = .bool then (if ∀ x ∈ xs, x = 0 then 0 else 1) else e.wrap xs.sum
  | mul => if e = .bool then (if 0 ∈ xs then 0 else 1) else e.wrap xs.prod
  | maximum => xs.fold max e.least
  | minimum => xs.fold min e.greatest
  | and => e.ofBits ((xs.map (BitVec.ofInt e.width)).fold (· &&& ·) (BitVec.allOnes e.width))
  | or => e.ofBits ((xs.map (BitVec.ofInt e.width)).fold (· ||| ·) 0)
  | xor => e.ofBits ((xs.map (BitVec.ofInt e.width)).fold (· ^^^ ·) 0)
  | _ => 0

/-- The aggregate of nothing. -/
theorem aggregate_zero (p : Primitive) (e : ElemType) :
    p.aggregate e 0 = match p with
      | add => 0
      | mul => if e = .bool then 1 else e.wrap 1
      | maximum => e.least
      | minimum => e.greatest
      | and => e.ofBits (BitVec.allOnes e.width)
      | or | xor => e.ofBits 0
      | _ => 0 := by
  cases p <;> simp [aggregate]

/-- The neutral element, brought into the type, is the aggregate of nothing. -/
theorem seed_holds (p : Primitive) (supported : p ∈ aggregating) (e : ElemType)
    (exact : e.isFloat = false) (x : Float) (neutral : p.neutral = some x) :
    ((Scalar.float x).seed e).Holds e (p.aggregate e 0) := by
  rw [aggregate_zero]
  simp only [aggregating, List.mem_cons, List.not_mem_nil, or_false] at supported
  rcases supported with rfl | rfl | rfl | rfl | rfl | rfl | rfl <;>
    obtain rfl := Option.some.inj neutral <;> cases e <;>
    simp only [ElemType.isFloat, ElemType.family, beq_self_eq_true, Bool.true_eq_false] at exact
  all_goals exact ⟨by decide +kernel, by decide +kernel, by decide +kernel⟩

/-- Two folds from an element that absorbs itself are joined into one. -/
theorem fold_join {α : Type} (op : α → α → α) [Std.Commutative op] [Std.Associative op]
    (start : α) (absorbs : op start start = start) (xs ys : Multiset α) :
    op (xs.fold op start) (ys.fold op start) = (xs + ys).fold op start := by
  have joined := Multiset.fold_add op start start xs ys
  rw [absorbs] at joined
  exact joined.symm

/-- An aggregate may stand for the elements it was taken of. -/
theorem aggregate_join (p : Primitive) (e : ElemType) (exact : e.isFloat = false)
    (xs ys : Multiset Int) :
    p.aggregate e (p.aggregate e xs ::ₘ ys) = p.aggregate e (xs + ys) := by
  have notBool : e ≠ .bool → e.family ≠ .bool := by cases e <;> simp [ElemType.family]
  cases p with
  | add =>
    by_cases isBool : e = .bool
    · by_cases all : ∀ x ∈ xs, x = 0 <;> simp [aggregate, isBool, all, or_imp, forall_and]
    · simp only [aggregate, isBool, if_false, Multiset.sum_cons, Multiset.sum_add]
      exact e.wrap_wrap_add (notBool isBool) exact xs.sum ys.sum
  | mul =>
    by_cases isBool : e = .bool
    · by_cases some : 0 ∈ xs <;> simp [aggregate, isBool, some]
    · simp only [aggregate, isBool, if_false, Multiset.prod_cons, Multiset.prod_add]
      exact e.wrap_wrap_mul (notBool isBool) exact xs.prod ys.prod
  | maximum =>
    simp only [aggregate, Multiset.fold_cons_left]
    exact fold_join max _ (max_self _) xs ys
  | minimum =>
    simp only [aggregate, Multiset.fold_cons_left]
    exact fold_join min _ (min_self _) xs ys
  | and =>
    simp only [aggregate, Multiset.map_cons, Multiset.map_add, Multiset.fold_cons_left,
      e.ofInt_ofBits exact]
    exact congrArg e.ofBits (fold_join _ _ BitVec.and_self _ _)
  | or =>
    simp only [aggregate, Multiset.map_cons, Multiset.map_add, Multiset.fold_cons_left,
      e.ofInt_ofBits exact]
    exact congrArg e.ofBits (fold_join _ _ BitVec.or_self _ _)
  | xor =>
    simp only [aggregate, Multiset.map_cons, Multiset.map_add, Multiset.fold_cons_left,
      e.ofInt_ofBits exact]
    exact congrArg e.ofBits (fold_join _ _ (BitVec.xor_self) _ _)
  | _ => rfl

/-- An aggregate of aggregates is the aggregate of all elements. -/
theorem aggregate_bind {α : Type} (p : Primitive) (e : ElemType) (exact : e.isFloat = false)
    (groups : Multiset α) (elements : α → Multiset Int) :
    p.aggregate e (groups.map fun group => p.aggregate e (elements group)) =
      p.aggregate e (groups.bind elements) := by
  induction groups using Multiset.induction_on with
  | empty => simp
  | cons group groups inductionHypothesis =>
    rw [Multiset.map_cons, Multiset.cons_bind, p.aggregate_join e exact]
    -- Only the aggregate of the other groups matters, and that is the induction hypothesis.
    rw [add_comm, ← p.aggregate_join e exact, inductionHypothesis, p.aggregate_join e exact,
      add_comm]

/-- The aggregate of one element is the element. -/
theorem aggregate_singleton (p : Primitive) (supported : p ∈ aggregating) (e : ElemType)
    (exact : e.isFloat = false) (n : Int) (inRange : e.wrap n = n) :
    p.aggregate e {n} = n := by
  obtain ⟨low, high⟩ := e.extremes_of_wrap exact n inRange
  have bits := e.ofBits_ofInt exact n inRange
  cases p with
  | add =>
    by_cases isBool : e = .bool
    · simpa [aggregate, isBool, ElemType.wrap, ElemType.family] using inRange
    · simp [aggregate, isBool, inRange]
  | mul =>
    by_cases isBool : e = .bool
    · simpa [aggregate, isBool, ElemType.wrap, ElemType.family, eq_comm] using inRange
    · simp [aggregate, isBool, inRange]
  | maximum => simp [aggregate, low, Multiset.fold_singleton]
  | minimum => simp [aggregate, high, Multiset.fold_singleton]
  | and => simp [aggregate, bits, Multiset.fold_singleton]
  | or => simp [aggregate, bits, Multiset.fold_singleton]
  | xor => simp [aggregate, bits, Multiset.fold_singleton]
  | _ => simp [aggregating] at supported

/-- Truth values are zero and one. -/
theorem zero_or_one (n : Int) (inRange : ElemType.bool.wrap n = n) : n = 0 ∨ n = 1 := by
  have bounds := ElemType.bool.bounds_of_wrap n 0 1 rfl inRange
  omega

/-- One update of an element by another gives the aggregate of both. -/
theorem apply_pair_holds (p : Primitive) (supported : p ∈ aggregating) (u : Update)
    (isUpdate : Update.ofPrimitive? p = some u) (e : ElemType) (a b : Scalar) (m n : Int)
    (before : Nat) (left : a.Holds e m) (right : b.Holds e n) :
    (u.apply e a b before).Holds e (p.aggregate e {m, n}) := by
  have exact := left.isFloat_eq
  obtain ⟨low, high⟩ := e.extremes_of_wrap exact n right.wrap_eq
  cases p with
  | add =>
    obtain rfl := Option.some.inj isUpdate
    have sum := Rule.add_holds e a b m n left right
    by_cases isBool : e = .bool
    · subst isBool
      rcases zero_or_one m left.wrap_eq with rfl | rfl <;>
        rcases zero_or_one n right.wrap_eq with rfl | rfl <;> exact sum
    · simpa [Update.apply, aggregate, isBool] using sum
  | mul =>
    obtain rfl := Option.some.inj isUpdate
    have product := Rule.mul_holds e a b m n left right
    by_cases isBool : e = .bool
    · subst isBool
      rcases zero_or_one m left.wrap_eq with rfl | rfl <;>
        rcases zero_or_one n right.wrap_eq with rfl | rfl <;> exact product
    · simpa [Update.apply, aggregate, isBool] using product
  | maximum =>
    obtain rfl := Option.some.inj isUpdate
    have greater : aggregate .maximum e {m, n} = max m n := by
      simp [aggregate, low, Multiset.fold_singleton]
    rw [greater]
    simp only [Update.apply, left.below_eq right, right.cast_self, decide_eq_true_eq]
    split
    next less => rwa [max_eq_right (by omega)]
    next notLess => rwa [max_eq_left (by omega)]
  | minimum =>
    obtain rfl := Option.some.inj isUpdate
    have lesser : aggregate .minimum e {m, n} = min m n := by
      simp [aggregate, high, Multiset.fold_singleton]
    rw [lesser]
    simp only [Update.apply, left.above_eq right, right.cast_self, decide_eq_true_eq]
    split
    next more => rwa [min_eq_right (by omega)]
    next notMore => rwa [min_eq_left (by omega)]
  | and =>
    obtain rfl := Option.some.inj isUpdate
    simpa [Update.apply, aggregate, Multiset.fold_singleton] using
      Rule.and_holds e a b m n left right
  | or =>
    obtain rfl := Option.some.inj isUpdate
    simpa [Update.apply, aggregate, Multiset.fold_singleton] using
      Rule.or_holds e a b m n left right
  | xor =>
    obtain rfl := Option.some.inj isUpdate
    simpa [Update.apply, aggregate, Multiset.fold_singleton] using
      Rule.xor_holds e a b m n left right
  | _ => simp [aggregating] at supported

/-- The accumulator stands for the elements met so far.

    Induction on the elements to come: one update adds the next of them. -/
theorem foldFrom_holds {α : Type} (p : Primitive) (supported : p ∈ aggregating) (u : Update)
    (isUpdate : Update.ofPrimitive? p = some u) (e : ElemType) (exact : e.isFloat = false)
    (elements : List α) (value : α → Scalar) (integer : α → Int)
    (each : ∀ x ∈ elements, (value x).Holds e (integer x)) (before : Nat) (acc : Scalar)
    (met : Multiset Int) (accumulated : acc.Holds e (p.aggregate e met)) :
    (u.foldFrom e before acc (elements.map value)).Holds e
      (p.aggregate e (met + (elements.map integer : List Int))) := by
  induction elements generalizing before acc met with
  | nil => simpa [Update.foldFrom] using accumulated
  | cons x elements inductionHypothesis =>
    rw [List.forall_mem_cons] at each
    have step :=
      p.apply_pair_holds supported u isUpdate e acc (value x) _ _ before accumulated each.1
    rw [Multiset.insert_eq_cons, p.aggregate_join e exact] at step
    have rest := inductionHypothesis each.2 (before + 1) _ (met + {integer x}) step
    rw [add_assoc, Multiset.singleton_add, Multiset.cons_coe] at rest
    exact rest

end Primitive

end LoopKernels
